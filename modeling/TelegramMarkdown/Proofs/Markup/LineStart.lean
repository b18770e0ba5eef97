import Mathlib.Algebra.Ring.Parity
import TelegramMarkdown.Proofs.Markup.Lines

/-!
Where the marks of quoted lines stand.

MarkdownV2 takes `>` for a mark only where a line starts. Whether all marks of a text are
right is seen in its tokens (`Markup.quoteMarksLead_writeAll`).
-/

namespace TelegramMarkdown.Markup

/-! ### Lines of a text -/

/-- Whether a line starts after a text, with `fresh` telling whether one starts before
it. -/
def lineStart : (fresh : Bool) → Text → Bool
  | fresh, [] => fresh
  | _, c :: cs => lineStart (c = '\n') cs

/-- How many backslashes a text ends with. -/
def slashesAtEnd (t : Text) : Nat :=
  (t.rtakeWhile (· = '\\')).length

/-- Whether every `>` of a text starts a line, unless a backslash escapes it, or it is in
code or in the URL of a link. -/
def QuoteMarksLead (t : Text) : Prop :=
  ∀ before after, t = before ++ '>' :: after → ¬ Odd (slashesAtEnd before) →
    (read true .prose before).mode = .prose → lineStart true before = true

theorem lineStart_append (fresh : Bool) (s t : Text) :
    lineStart fresh (s ++ t) = lineStart (lineStart fresh s) t := by
  induction s generalizing fresh with
  | nil => rfl
  | cons c cs ih => exact ih _

/-! ### Lines of tokens -/

/-- Whether a line starts after a token. -/
def Token.endsLine : Token → Bool
  | .char c => c = '\n'
  | _ => false

/-- Whether a line starts after some tokens. -/
def startAfter : (fresh : Bool) → List Token → Bool
  | fresh, [] => fresh
  | _, token :: rest => startAfter token.endsLine rest

/-- Whether every quote mark among tokens starts a line. -/
def QuotesLead : (fresh : Bool) → List Token → Prop
  | _, [] => True
  | fresh, token :: rest => (token = .quote → fresh = true) ∧ QuotesLead token.endsLine rest

@[simp] theorem startAfter_append (fresh : Bool) (a b : List Token) :
    startAfter fresh (a ++ b) = startAfter (startAfter fresh a) b := by
  induction a generalizing fresh with
  | nil => rfl
  | cons token rest ih => exact ih _

theorem quotesLead_append (fresh : Bool) (a b : List Token) :
    QuotesLead fresh (a ++ b) ↔ QuotesLead fresh a ∧ QuotesLead (startAfter fresh a) b := by
  induction a generalizing fresh with
  | nil => exact (iff_of_eq (true_and _)).symm
  | cons token rest ih => rw [List.cons_append, QuotesLead, ih, QuotesLead, startAfter, and_assoc]

/-- Without quote marks, nothing needs to start a line. -/
theorem quotesLead_of_notMem {tokens : List Token} (h : .quote ∉ tokens) (fresh : Bool) :
    QuotesLead fresh tokens := by
  induction tokens generalizing fresh with
  | nil => trivial
  | cons token rest ih =>
    obtain ⟨other, after⟩ := not_or.mp (mt List.mem_cons.mpr h)
    exact ⟨fun isQuote => absurd isQuote.symm other, ih after _⟩

theorem quotesLead_iff {fresh : Bool} {tokens : List Token} :
    QuotesLead fresh tokens ↔
      ∀ before after, tokens = before ++ .quote :: after → startAfter fresh before = true := by
  constructor
  · rintro lead before after rfl
    rw [quotesLead_append] at lead
    exact lead.2.1 rfl
  · intro lead
    induction tokens generalizing fresh with
    | nil => trivial
    | cons token rest ih =>
      constructor
      · rintro rfl
        exact lead [] rest rfl
      · apply ih
        rintro before after rfl
        exact lead (token :: before) after rfl

theorem endsLine_of_not_blank {token : Token} (h : token.isBlank = false) :
    token.endsLine = false := by
  cases token with
  | char c =>
    rw [Token.endsLine, decide_eq_false_iff_not]
    rintro rfl
    exact absurd h (by decide)
  | _ => rfl

theorem lineStart_write (fresh : Bool) (token : Token) :
    lineStart fresh token.write = token.endsLine := by
  cases blank : token.isBlank with
  | true =>
    cases token with
    | char c =>
      have notMarkup : ¬ Escape.IsMarkup c := by
        intro isMarkup
        exact Bool.false_ne_true ((isBlank_of_markup isMarkup).symm.trans blank)
      rw [Token.write, Escape.prose_singleton_of_not_markup notMarkup]
      rfl
    | _ => nomatch blank
  | false =>
    obtain ⟨-, t, c, written, notBlank, -⟩ := write_of_not_blank blank
    rw [written, lineStart_append, endsLine_of_not_blank blank, lineStart, lineStart,
      decide_eq_false_iff_not]
    rintro rfl
    exact absurd notBlank (by decide)

theorem lineStart_writeAll (fresh : Bool) (tokens : List Token) :
    lineStart fresh (writeAll tokens) = startAfter fresh tokens := by
  induction tokens generalizing fresh with
  | nil => rfl
  | cons token rest ih => rw [writeAll_cons, lineStart_append, lineStart_write, ih, startAfter]

/-! ### Backslashes -/

theorem slashesAtEnd_concat (t : Text) {c : Char} (h : c ≠ '\\') : slashesAtEnd (t ++ [c]) = 0 := by
  rw [slashesAtEnd, List.rtakeWhile_concat_neg _ _ _ (by simpa using h)]
  rfl

theorem slashesAtEnd_slash (t : Text) : slashesAtEnd (t ++ ['\\']) = slashesAtEnd t + 1 := by
  rw [slashesAtEnd, List.rtakeWhile_concat_pos _ _ _ (by simp), List.length_append,
    List.length_singleton, slashesAtEnd]

/-- Backslashes are written in pairs, or before another character. -/
theorem even_slashesAtEnd_writeAll (tokens : List Token) :
    Even (slashesAtEnd (writeAll tokens)) := by
  induction tokens using List.reverseRecOn with
  | nil => exact Even.zero
  | append_singleton tokens token ih =>
    rw [writeAll_append, writeAll_cons, writeAll_nil, List.append_nil]
    by_cases slash : token = .char '\\'
    · subst slash
      have pair : (Token.char '\\').write = ['\\'] ++ ['\\'] := by decide
      rw [pair, ← List.append_assoc, slashesAtEnd_slash, slashesAtEnd_slash]
      exact ih.add even_two
    · obtain ⟨t, c, written, other⟩ : ∃ t c, token.write = t ++ [c] ∧ c ≠ '\\' := by
        cases blank : token.isBlank with
        | true =>
          obtain ⟨c, written, isBlank⟩ := write_of_blank blank
          refine ⟨[], c, written, ?_⟩
          rintro rfl
          exact absurd isBlank (by decide)
        | false =>
          obtain ⟨-, t, c, written, -, shows⟩ := write_of_not_blank blank
          exact ⟨t, c, written, mt shows slash⟩
      rw [written, ← List.append_assoc, slashesAtEnd_concat _ other]
      exact Even.zero

/-! ### Places where `>` is no mark -/

section

variable (fences : Bool)

/-- A reader does not leave a context before it has ended. -/
theorem mode_read_inside (context : Context) (payload : Text) {content p : Text}
    (h : p <+: Escape.guarded context.stop content) :
    (read fences (.inside context payload) p).mode ≠ .prose := by
  induction content generalizing payload p with
  | nil =>
    obtain rfl := List.prefix_nil.mp h
    rw [read]
    exact Mode.noConfusion
  | cons c cs ih =>
    rw [Escape.guarded_cons context.stop_ne_slash] at h
    split at h
    case isTrue =>
      cases p with
      | nil =>
        rw [read]
        exact Mode.noConfusion
      | cons d p =>
        obtain ⟨rfl, after⟩ := List.cons_prefix_cons.mp h
        cases p with
        | nil =>
          rw [read]
          exact Mode.noConfusion
        | cons e p =>
          rw [read]
          exact ih _ (List.cons_prefix_cons.mp after).2
    case isFalse plain =>
      obtain ⟨notSlash, notStop⟩ := not_or.mp plain
      obtain ⟨more, closing⟩ := context.closing_eq
      cases p with
      | nil =>
        rw [read]
        exact Mode.noConfusion
      | cons d p =>
        obtain ⟨rfl, after⟩ := List.cons_prefix_cons.mp h
        have goesOn : Text.startsWith (d :: p) context.closing = false := by
          rw [closing]
          exact Text.startsWith_eq_false (fun u same => notStop (List.cons.inj same).1) more
        rw [read, goesOn, if_neg Bool.false_ne_true]
        · exact ih _ after
        · intro same
          exact absurd same notSlash
        · intro _ _ same
          exact absurd same notSlash

end

/-- What stands before a character, if that is neither in what opens a content nor in what
closes it. -/
theorem exists_prefix_of_cut {opening content closing p s : Text} {c : Char}
    (h : opening ++ (content ++ closing) = p ++ c :: s) (notOpening : c ∉ opening)
    (notClosing : c ∉ closing) : ∃ q, p = opening ++ q ∧ q <+: content := by
  obtain ⟨q, rfl, inContent⟩ | ⟨q, rfl, same⟩ := List.append_eq_append_iff.mp h
  · refine ⟨q, rfl, ?_⟩
    obtain ⟨r, -, same⟩ | ⟨r, rfl, -⟩ := List.append_eq_append_iff.mp inContent
    · rw [same] at notClosing
      exact absurd (List.mem_append_right r List.mem_cons_self) notClosing
    · exact List.prefix_append q r
  · cases q with
    | nil => exact ⟨[], by simp, List.nil_prefix⟩
    | cons d q =>
      obtain ⟨rfl, -⟩ := List.cons.inj same
      exact absurd (List.mem_append_right p List.mem_cons_self) notOpening

/-- Where `>` is written as part of a token other than a quote mark, a backslash escapes it
or a reader is in a context. -/
theorem write_cut {token : Token} (readable : token.IsReadable true) (other : token ≠ .quote)
    {p s : Text} (cut : token.write = p ++ '>' :: s) :
    p = ['\\'] ∨ (∀ u, p ≠ '_' :: '\u200B' :: u) ∧ (read true .prose p).mode ≠ .prose := by
  cases token with
  | char c =>
    left
    by_cases isMarkup : Escape.IsMarkup c
    · rw [Token.write, Escape.prose_singleton_of_markup isMarkup] at cut
      match p, cut with
      | [_], cut => rw [(List.cons.inj cut).1]
      | _ :: _ :: [], cut => simp at cut
    · rw [Token.write, Escape.prose_singleton_of_not_markup isMarkup] at cut
      match p, cut with
      | [], cut =>
        obtain ⟨rfl, -⟩ := List.cons.inj cut
        exact absurd (by decide) isMarkup
      | _ :: [], cut => simp at cut
  | mark m =>
    have isIn : '>' ∈ m.text := by
      rw [Token.write] at cut
      rw [cut]
      exact List.mem_append_right p List.mem_cons_self
    exact absurd isIn (by cases m <;> decide)
  | code content =>
    right
    rw [Token.write, List.append_assoc] at cut
    obtain ⟨q, rfl, within⟩ := exists_prefix_of_cut cut (by decide) (by decide)
    have single : Text.startsWith q ['`', '`'] = false := by
      apply Text.startsWith_eq_false
      rintro u rfl
      obtain ⟨rest, same⟩ := within
      have noBacktick : ∀ u, Escape.guarded '`' content ++ [] ≠ '`' :: u :=
        Escape.guarded_head_ne (by decide) (readable rfl) []
      rw [List.append_nil] at noBacktick
      exact noBacktick (u ++ rest) same.symm
    refine ⟨fun u => by simp [Marker.code], ?_⟩
    have opens : read true .prose (Marker.code ++ q) = read true (.inside .code []) q := by
      simp [Marker.code, read, single]
    rw [opens]
    exact mode_read_inside true .code [] within
  | pre content =>
    right
    rw [Token.write, List.append_assoc] at cut
    obtain ⟨q, rfl, within⟩ := exists_prefix_of_cut cut (by decide) (by decide)
    refine ⟨fun u => by simp [fence], ?_⟩
    have opens : read true .prose (fence ++ q) = read true (.inside .pre []) q := by
      simp [fence, read, Text.startsWith, Text.dropLead?]
    rw [opens]
    exact mode_read_inside true .pre [] within
  | openLink =>
    have isIn : '>' ∈ ['['] := by
      rw [Token.write] at cut
      rw [cut]
      exact List.mem_append_right p List.mem_cons_self
    exact absurd isIn (by decide)
  | closeLink url =>
    right
    rw [Token.write, List.append_assoc] at cut
    obtain ⟨q, rfl, within⟩ := exists_prefix_of_cut cut (by decide) (by decide)
    refine ⟨fun u => by simp, ?_⟩
    have opens : read true .prose ("](".toList ++ q) = read true (.inside .url []) q := by
      simp [read]
    rw [opens]
    exact mode_read_inside true .url [] within
  | quote => exact absurd rfl other

/-- A character of what tokens write is in what one of them writes. -/
theorem exists_of_writeAll_eq {tokens : List Token} {before after : Text} {c : Char}
    (h : writeAll tokens = before ++ c :: after) :
    ∃ first token last p s, tokens = first ++ token :: last ∧ token.write = p ++ c :: s ∧
      before = writeAll first ++ p := by
  induction tokens generalizing before with
  | nil => exact absurd h (by simp)
  | cons token rest ih =>
    have later {q : Text} (h : writeAll rest = q ++ c :: after) :
        ∃ first inner last p s, token :: rest = first ++ inner :: last ∧
          inner.write = p ++ c :: s ∧ token.write ++ q = writeAll first ++ p := by
      obtain ⟨first, inner, last, p, s, rfl, written, rfl⟩ := ih h
      exact ⟨token :: first, inner, last, p, s, rfl, written, by simp⟩
    rw [writeAll_cons] at h
    obtain ⟨q, rfl, inRest⟩ | ⟨q, written, same⟩ := List.append_eq_append_iff.mp h
    · exact later inRest
    · cases q with
      | nil =>
        rw [List.append_nil] at written
        rw [← written, ← List.append_nil token.write]
        exact later same.symm
      | cons d q =>
        obtain ⟨rfl, -⟩ := List.cons.inj same
        exact ⟨[], token, rest, before, q, rfl, written, rfl⟩

/-- Whether all marks of a text are right is seen in its tokens. -/
theorem quoteMarksLead_writeAll {tokens : List Token}
    (readable : ∀ token ∈ tokens, token.IsReadable true) :
    QuoteMarksLead (writeAll tokens) ↔ QuotesLead true tokens := by
  constructor
  · intro lead
    apply quotesLead_iff.mpr
    rintro before after rfl
    have notOdd := Nat.not_odd_iff_even.mpr (even_slashesAtEnd_writeAll before)
    have inProse : (read true .prose (writeAll before)).mode = .prose := by
      rw [read_writeAll true before (List.forall_mem_append.mp readable).1]
    rw [← lineStart_writeAll]
    exact lead (writeAll before) (writeAll after) (by simp [Token.write]) notOdd inProse
  · intro lead before after same notOdd inProse
    obtain ⟨first, token, last, p, s, rfl, written, rfl⟩ := exists_of_writeAll_eq same
    obtain ⟨firstReadable, others⟩ := List.forall_mem_append.mp readable
    by_cases isQuote : token = .quote
    · subst isQuote
      obtain rfl : p = [] := by
        cases p with
        | nil => rfl
        | cons _ p => simp [Token.write] at written
      rw [List.append_nil, lineStart_writeAll]
      exact quotesLead_iff.mp lead first last rfl
    · obtain rfl | ⟨noItalic, inContext⟩ :=
        write_cut (List.forall_mem_cons.mp others).1 isQuote written
      · rw [slashesAtEnd_slash] at notOdd
        exact absurd (even_slashesAtEnd_writeAll first).add_one notOdd
      · rw [read_writeAll_append true first firstReadable noItalic] at inProse
        exact absurd inProse inContext

end TelegramMarkdown.Markup
