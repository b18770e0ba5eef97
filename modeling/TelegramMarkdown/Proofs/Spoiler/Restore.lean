import Mathlib.Data.List.Chain
import TelegramMarkdown.Proofs.Spoiler.Offsets

/-!
Marking spoilers and putting them back.

The text with placeholders is read as a sequence of characters and placeholders
(`Spoiler.tokens`), without regard to how it came about. Writing for every placeholder
the spoiler that it is the number of gives the text back (`Spoiler.expand`), and so
does `Spoiler.restore`, on all of the marked text and on every stretch of it that cuts
no placeholder.
-/

namespace TelegramMarkdown.Spoiler

open Markdown (Span)
open Text (charSpan)

/-! ### Reading placeholders -/

/-- A character of a text, or a placeholder by the text between its first and its last
character. -/
inductive Token where
  | char (c : Char)
  | placeholder (name : Text)

/-- The tokens of a text. `name?` holds what is read of a placeholder that has not
ended yet; one that never does is no placeholder. -/
def tokensFrom : (name? : Option Text) → Text → List Token
  | none, [] => []
  | some name, [] => (placeholderOpen :: name).map .char
  | none, c :: cs =>
    if c = placeholderOpen then tokensFrom (some []) cs else .char c :: tokensFrom none cs
  | some name, c :: cs =>
    if c = placeholderClose then .placeholder name :: tokensFrom none cs
    else tokensFrom (some (name ++ [c])) cs

/-- The tokens of a text. -/
def tokens (t : Text) : List Token :=
  tokensFrom none t

/-- The names of the placeholders of a text. -/
def names (t : Text) : List Text :=
  (tokens t).filterMap fun
    | .char _ => none
    | .placeholder name => some name

/-- A token with its spoiler in place of a placeholder. -/
def Token.expanded (hidden : List Text) : Token → Text
  | char c => [c]
  | placeholder name =>
    match hidden[Nat.ofDigitChars 10 name 0]? with
    | some content => delimiter ++ content ++ delimiter
    | none => placeholderOpen :: name ++ [placeholderClose]

/-- The text with its spoilers in place of the placeholders. -/
def expand (hidden : List Text) (t : Text) : Text :=
  (tokens t).flatMap (Token.expanded hidden)

theorem tokensFrom_name {digits : Text} (h : placeholderClose ∉ digits) (name rest : Text) :
    tokensFrom (some name) (digits ++ placeholderClose :: rest) =
      .placeholder (name ++ digits) :: tokensFrom none rest := by
  induction digits generalizing name with
  | nil => simp [tokensFrom]
  | cons c cs ih =>
    obtain ⟨other, after⟩ := not_or.mp (mt List.mem_cons.mpr h)
    rw [List.cons_append, tokensFrom, if_neg (Ne.symm other), ih after]
    simp

theorem close_notMem_ofNat (n : Nat) : placeholderClose ∉ Text.ofNat n :=
  fun inDigits => Text.ne_of_mem_ofNat inDigits (by decide) rfl

theorem open_notMem_ofNat (n : Nat) : placeholderOpen ∉ Text.ofNat n :=
  fun inDigits => Text.ne_of_mem_ofNat inDigits (by decide) rfl

theorem placeholder_append (n : Nat) (rest : Text) :
    placeholder n ++ rest = placeholderOpen :: (Text.ofNat n ++ placeholderClose :: rest) := by
  simp [placeholder]

theorem tokens_name {name : Text} (h : placeholderClose ∉ name) (rest : Text) :
    tokens (placeholderOpen :: (name ++ placeholderClose :: rest)) =
      .placeholder name :: tokens rest := by
  rw [tokens, tokensFrom, if_pos rfl, tokensFrom_name h]
  rfl

theorem tokens_placeholder (n : Nat) (rest : Text) :
    tokens (placeholder n ++ rest) = .placeholder (Text.ofNat n) :: tokens rest := by
  rw [placeholder_append, tokens_name (close_notMem_ofNat n)]

theorem tokens_cons {c : Char} (h : c ≠ placeholderOpen) (rest : Text) :
    tokens (c :: rest) = .char c :: tokens rest := by
  rw [tokens, tokensFrom, if_neg h]
  rfl

/-! ### Marked text -/

/-- Whether a part outside of spoilers is no character of a placeholder. -/
def Part.IsClean : Part → Prop
  | plain c => c ≠ placeholderOpen ∧ c ≠ placeholderClose
  | hidden _ => True

theorem isClean_of_mem_parts {verbatim : List Span} {t : Text}
    (h : t.any (fun c => c = placeholderOpen || c = placeholderClose) = false) :
    ∀ part ∈ parts verbatim t, part.IsClean := by
  intro part inParts
  cases part with
  | hidden _ => trivial
  | plain c =>
    have inText : c ∈ t := by
      rw [← written_parts verbatim t, written, List.mem_flatMap]
      exact ⟨_, inParts, List.mem_singleton_self c⟩
    rw [List.any_eq_false] at h
    have other := h c inText
    simp only [Bool.or_eq_true, decide_eq_true_eq, not_or] at other
    exact other

theorem contents_append (before after : List Part) :
    contents (before ++ after) = contents before ++ contents after :=
  List.filterMap_append

/-- The placeholders in marked text are numbered in order. -/
theorem names_marked {parts : List Part} (clean : ∀ part ∈ parts, part.IsClean) (n : Nat) :
    names (marked n parts) = (List.range' n (contents parts).length).map Text.ofNat := by
  induction parts generalizing n with
  | nil => rfl
  | cons part rest ih =>
    obtain ⟨first, others⟩ := List.forall_mem_cons.mp clean
    have after := ih others
    cases part with
    | plain c =>
      rw [marked, names, tokens_cons first.1]
      exact after n
    | hidden content =>
      rw [marked, names, tokens_placeholder, contents_hidden, List.length_cons, List.range'_succ,
        List.map_cons, ← after (n + 1)]
      rfl

/-- The spoilers of parts are among all spoilers, from a number on. -/
theorem head_of_prefix_drop {hidden more : List Text} {content : Text} {n : Nat}
    (h : content :: more <+: hidden.drop n) :
    hidden[n]? = some content ∧ more <+: hidden.drop (n + 1) := by
  obtain ⟨rest, same⟩ := h
  constructor
  · have first := congrArg List.head? same
    rw [List.head?_drop] at first
    exact first.symm
  · refine ⟨rest, ?_⟩
    have tail := congrArg List.tail same
    rw [List.tail_drop] at tail
    exact tail

/-- Marked text, expanded, is the text of its parts. -/
theorem expand_marked {hidden : List Text} {parts : List Part}
    (clean : ∀ part ∈ parts, part.IsClean) {n : Nat} (among : contents parts <+: hidden.drop n) :
    expand hidden (marked n parts) = written parts := by
  induction parts generalizing n with
  | nil => rfl
  | cons part rest ih =>
    obtain ⟨first, others⟩ := List.forall_mem_cons.mp clean
    cases part with
    | plain c =>
      rw [marked, expand, tokens_cons first.1]
      exact congrArg (c :: ·) (ih others among)
    | hidden content =>
      obtain ⟨here, after⟩ := head_of_prefix_drop among
      have number : Nat.ofDigitChars 10 (Text.ofNat n) 0 = n :=
        Nat.ofDigitChars_toDigits (by decide) (by decide)
      rw [marked, expand, tokens_placeholder, List.flatMap_cons, Token.expanded, number, here]
      exact congrArg (delimiter ++ content ++ delimiter ++ ·) (ih others after)

/-! ### Stretches of marked text -/

/-- Whether a stretch of marked text cuts no placeholder, if none is cut where it
starts: as many placeholders end in it as start in it. -/
def IsWhole (stretch : Text) : Prop :=
  stretch.count placeholderOpen = stretch.count placeholderClose

/-- What marked text starts with, if it cuts no placeholder, is marked text itself. -/
theorem eq_marked_of_isWhole {all : List Part} (clean : ∀ part ∈ all, part.IsClean) {n : Nat}
    {u rest : Text} (h : marked n all = u ++ rest) (whole : IsWhole u) :
    ∃ before after, all = before ++ after ∧ u = marked n before ∧
      rest = marked (n + (contents before).length) after := by
  induction all generalizing n u with
  | nil =>
    obtain ⟨rfl, rfl⟩ := List.append_eq_nil_iff.mp h.symm
    exact ⟨[], [], rfl, rfl, rfl⟩
  | cons part parts ih =>
    obtain ⟨first, others⟩ := List.forall_mem_cons.mp clean
    cases u with
    | nil => exact ⟨[], part :: parts, rfl, rfl, h.symm⟩
    | cons d u =>
      cases part with
      | plain c =>
        obtain ⟨rfl, same⟩ := List.cons.inj h
        have wholeRest : IsWhole u := by
          rw [IsWhole, List.count_cons_of_ne first.1, List.count_cons_of_ne first.2] at whole
          exact whole
        obtain ⟨before, after, rfl, rfl, rfl⟩ := ih others same wholeRest
        exact ⟨.plain c :: before, after, rfl, rfl, rfl⟩
      | hidden content =>
        rw [marked, placeholder_append] at h
        obtain ⟨rfl, same⟩ := List.cons.inj h
        have noOpen := List.count_eq_zero_of_not_mem (open_notMem_ofNat n)
        have noClose := List.count_eq_zero_of_not_mem (close_notMem_ofNat n)
        have different : placeholderClose ≠ placeholderOpen := by decide
        rw [IsWhole, List.count_cons_self, List.count_cons_of_ne different.symm] at whole
        obtain ⟨inside, rfl, after⟩ | ⟨digits, cut, _⟩ := List.append_eq_append_iff.mp same
        · cases inside with
          | nil =>
            rw [List.append_nil, noOpen, noClose] at whole
            exact absurd whole (Nat.succ_ne_zero 0)
          | cons e inside =>
            obtain ⟨rfl, afterName⟩ := List.cons.inj after
            rw [List.count_append, List.count_append, noOpen, noClose, List.count_cons_self,
              List.count_cons_of_ne different] at whole
            have wholeRest : IsWhole inside := by
              rw [IsWhole]
              omega
            obtain ⟨before, last, rfl, rfl, rfl⟩ := ih others afterName wholeRest
            refine ⟨.hidden content :: before, last, rfl, ?_, ?_⟩
            · rw [marked, placeholder_append]
            · rw [contents_hidden, List.length_cons, Nat.add_assoc, Nat.add_comm 1]
        · -- A placeholder that has started has not ended within its number.
          rw [cut, List.count_append] at noClose
          omega

/-! ### Restoring -/

theorem number?_ofNat (n : Nat) : number? (Text.ofNat n) = some n := by
  have value : (Text.ofNat n).foldl (fun m c => 10 * m + (c.toNat - 48)) 0 = n :=
    Nat.ofDigitChars_toDigits (by decide) (by decide)
  have allDigits : (Text.ofNat n).all Char.isDigit = true := by
    rw [List.all_eq_true]
    exact fun c => Text.isDigit_of_mem_ofNat
  have noPlus : ∀ rest, Text.ofNat n ≠ '+' :: rest := by
    intro rest same
    refine Text.ne_of_mem_ofNat (n := n) (c := '+') ?_ (by decide) rfl
    rw [same]
    exact List.mem_cons_self
  have notEmpty : (Text.ofNat n).isEmpty = false := by
    rw [List.isEmpty_eq_false_iff]
    exact Nat.toDigits_ne_nil
  unfold number?
  split
  case h_1 digits same => exact absurd same (noPlus digits)
  case h_2 => simp [notEmpty, allDigits, value]

theorem resolve?_name (hidden : List Text) {name : Text} (h : placeholderClose ∉ name)
    (rest : Text) :
    resolve? hidden (name ++ placeholderClose :: rest) =
      ((number? name).bind (hidden[·]?)).map fun content => (content, name.length + 1) := by
  have upToClose : (name ++ placeholderClose :: rest).takeWhile (· ≠ placeholderClose) = name := by
    rw [List.takeWhile_append_of_pos]
    · simp
    · intro c inName
      simpa using ne_of_mem_of_not_mem inName h
  have ends : name.length ≠ (name ++ placeholderClose :: rest).length := by
    rw [List.length_append, List.length_cons]
    omega
  rw [resolve?, upToClose, if_neg ends]

theorem resolve?_placeholder (hidden : List Text) (n : Nat) (rest : Text) :
    resolve? hidden (Text.ofNat n ++ placeholderClose :: rest) =
      hidden[n]?.map fun content => (content, (Text.ofNat n).length + 1) := by
  rw [resolve?_name hidden (close_notMem_ofNat n), number?_ofNat]
  rfl

theorem restoreFrom_skip (hidden : List Text) (read p rest : Text) :
    restoreFrom hidden p.length read (p ++ rest) = restoreFrom hidden 0 read rest := by
  induction p with
  | nil => rfl
  | cons c cs ih => exact ih

/-- The inlines of parts: a spoiler for each hidden one, a literal for each run of
others. `read` holds the literal so far, newest character first. -/
def inlinesFrom : (read : Text) → List Part → List Inline
  | read, [] => literal read.reverse
  | read, .plain c :: rest => inlinesFrom (c :: read) rest
  | read, .hidden content :: rest => literal read.reverse ++ .spoiler content :: inlinesFrom [] rest

theorem restoreFrom_marked {hidden : List Text} {parts : List Part}
    (clean : ∀ part ∈ parts, part.IsClean) {n : Nat} (among : contents parts <+: hidden.drop n)
    (read : Text) : restoreFrom hidden 0 read (marked n parts) = inlinesFrom read parts := by
  induction parts generalizing n read with
  | nil => rfl
  | cons part rest ih =>
    obtain ⟨first, others⟩ := List.forall_mem_cons.mp clean
    cases part with
    | plain c =>
      rw [marked, restoreFrom, if_neg first.1, inlinesFrom]
      exact ih others among _
    | hidden content =>
      obtain ⟨here, after⟩ := head_of_prefix_drop among
      have skipped := restoreFrom_skip hidden [] (Text.ofNat n ++ [placeholderClose])
        (marked (n + 1) rest)
      rw [List.length_append, List.length_singleton, List.append_assoc, List.singleton_append]
        at skipped
      rw [marked, placeholder_append, restoreFrom, if_pos rfl, resolve?_placeholder, here,
        Option.map_some]
      dsimp only
      rw [skipped, ih others after, inlinesFrom]

/-! ### What is restored -/

/-- Restored inlines as they stand in the text. -/
def writtenOut (inlines : List Inline) : Text :=
  inlines.flatMap fun
    | .literal t => t
    | .spoiler content => delimiter ++ content ++ delimiter
    | _ => []

/-- Whether an inline is a literal. -/
def IsLiteral : Inline → Prop
  | .literal _ => True
  | _ => False

/-- Whether an inline is a literal that is not empty, or a spoiler. -/
def IsPiece : Inline → Prop
  | .literal t => t ≠ []
  | .spoiler _ => True
  | _ => False

theorem writtenOut_literal (t : Text) : writtenOut (literal t) = t := by
  cases t with
  | nil => rfl
  | cons c cs => simp [writtenOut, literal]

theorem isPiece_of_mem_literal {t : Text} {piece : Inline} (h : piece ∈ literal t) :
    IsPiece piece := by
  cases t with
  | nil => exact absurd h List.not_mem_nil
  | cons c cs =>
    obtain rfl := List.mem_singleton.mp h
    exact List.cons_ne_nil c cs

theorem writtenOut_inlinesFrom (read : Text) (parts : List Part) :
    writtenOut (inlinesFrom read parts) = read.reverse ++ written parts := by
  induction parts generalizing read with
  | nil => rw [inlinesFrom, writtenOut_literal]; simp [written]
  | cons part rest ih =>
    cases part with
    | plain c => rw [inlinesFrom, ih]; simp [written, Part.written]
    | hidden content =>
      have split : writtenOut (literal read.reverse ++ .spoiler content :: inlinesFrom [] rest) =
          writtenOut (literal read.reverse) ++ (delimiter ++ content ++ delimiter ++
            writtenOut (inlinesFrom [] rest)) := by
        simp [writtenOut]
      rw [inlinesFrom, split, writtenOut_literal, ih]
      simp [written, Part.written]

theorem isPiece_of_mem_inlinesFrom {read : Text} {parts : List Part} {piece : Inline}
    (h : piece ∈ inlinesFrom read parts) : IsPiece piece := by
  induction parts generalizing read with
  | nil => exact isPiece_of_mem_literal h
  | cons part rest ih =>
    cases part with
    | plain c => exact ih h
    | hidden content =>
      rw [inlinesFrom, List.mem_append, List.mem_cons] at h
      obtain inLiteral | rfl | inRest := h
      · exact isPiece_of_mem_literal inLiteral
      · trivial
      · exact ih inRest

/-- No two of the inlines that stand next to each other are literals. -/
def Alternate (inlines : List Inline) : Prop :=
  inlines.IsChain fun a b => ¬ (IsLiteral a ∧ IsLiteral b)

/-- Anything may stand behind an inline that is no literal. -/
theorem Alternate.cons {inline : Inline} (other : ¬ IsLiteral inline) {rest : List Inline}
    (h : Alternate rest) : Alternate (inline :: rest) := by
  apply List.IsChain.cons h
  intro next _ both
  exact other both.1

theorem alternate_literal (t : Text) : Alternate (literal t) := by
  rw [literal]
  split
  · exact List.isChain_nil
  · exact List.isChain_singleton _

theorem alternate_literal_spoiler (t content : Text) {rest : List Inline} (h : Alternate rest) :
    Alternate (literal t ++ .spoiler content :: rest) := by
  apply List.IsChain.append (alternate_literal t) (h.cons id)
  intro last _ next isNext both
  rw [List.head?_cons, Option.mem_some_iff] at isNext
  rw [← isNext] at both
  exact both.2

theorem alternate_inlinesFrom (read : Text) (parts : List Part) :
    Alternate (inlinesFrom read parts) := by
  induction parts generalizing read with
  | nil => exact alternate_literal read.reverse
  | cons part rest ih =>
    cases part with
    | plain c => exact ih (c :: read)
    | hidden content => exact alternate_literal_spoiler read.reverse content (ih [])

/-! ### Nothing is lost -/

theorem exists_of_mark?_eq_some {verbatim : List Span} {t marked : Text} {hidden : List Text}
    (h : mark? verbatim t = some (marked, hidden)) :
    (∀ part ∈ parts verbatim t, part.IsClean) ∧ marked = Spoiler.marked 0 (parts verbatim t) ∧
      hidden = contents (parts verbatim t) := by
  rw [mark?] at h
  split at h
  case isTrue => cases h
  case isFalse noPlaceholder =>
    have clean : ∀ part ∈ parts verbatim t, part.IsClean :=
      isClean_of_mem_parts ((Bool.not_eq_true _).mp noPlaceholder)
    dsimp only at h
    split at h
    case h_1 => cases h
    case h_2 => cases h; exact ⟨clean, rfl, rfl⟩

/-- A stretch of marked text that cuts no placeholder is restored to the text that it
stands for. -/
theorem restore_marked {hidden : List Text} {parts : List Part}
    (clean : ∀ part ∈ parts, part.IsClean) {n : Nat} (among : contents parts <+: hidden.drop n) :
    writtenOut (restore hidden (marked n parts)) = written parts ∧
      (∀ piece ∈ restore hidden (marked n parts), IsPiece piece) ∧
      Alternate (restore hidden (marked n parts)) := by
  rw [restore, restoreFrom_marked clean among]
  refine ⟨writtenOut_inlinesFrom [] parts, ?_, alternate_inlinesFrom [] parts⟩
  intro piece
  exact isPiece_of_mem_inlinesFrom

/-- Marking the spoilers of a text and putting them back loses nothing. The search for
them goes by the offsets of bytes, and never cuts the text outside of it or inside of
a character. The placeholders of the marked text are numbered in order, and the text
is what it expands to. Every stretch of the marked text that cuts no placeholder is
restored to literals and spoilers that are, written out, the same stretch of the text;
no literal is empty, and no two are next to each other. -/
theorem mark_restore_lossless (t : Text) :
    (∀ ranges : List Span,
      Offsets.mark? ranges t = some (mark? (ranges.map (charSpan t)) t)) ∧
    ∀ verbatim marked hidden, mark? verbatim t = some (marked, hidden) →
      names marked = (List.range hidden.length).map Text.ofNat ∧
      expand hidden marked = t ∧
      ∀ u v w, marked = u ++ v ++ w → IsWhole u → IsWhole v →
        t = expand hidden u ++ expand hidden v ++ expand hidden w ∧
        writtenOut (restore hidden v) = expand hidden v ∧
        (∀ piece ∈ restore hidden v, IsPiece piece) ∧
        Alternate (restore hidden v) := by
  refine ⟨fun ranges => Offsets.mark?_eq ranges t, ?_⟩
  intro verbatim marked hidden h
  obtain ⟨clean, rfl, rfl⟩ := exists_of_mark?_eq_some h
  have whole : expand (contents (parts verbatim t)) (Spoiler.marked 0 (parts verbatim t)) = t := by
    rw [expand_marked clean (List.prefix_refl _), written_parts]
  refine ⟨?_, whole, ?_⟩
  · rw [names_marked clean, List.range_eq_range']
  · intro u v w cut wholeU wholeV
    rw [List.append_assoc] at cut
    obtain ⟨before, after, shape, rfl, rest⟩ := eq_marked_of_isWhole clean cut wholeU
    rw [shape] at clean
    obtain ⟨cleanBefore, cleanAfter⟩ := List.forall_mem_append.mp clean
    obtain ⟨inside, last, rfl, rfl, rfl⟩ := eq_marked_of_isWhole cleanAfter rest.symm wholeV
    obtain ⟨cleanInside, cleanLast⟩ := List.forall_mem_append.mp cleanAfter
    have amongBefore : contents before <+:
        (contents before ++ (contents inside ++ contents last)).drop 0 :=
      List.prefix_append _ _
    have amongInside : contents inside <+:
        (contents before ++ (contents inside ++ contents last)).drop
          (0 + (contents before).length) := by
      rw [Nat.zero_add, List.drop_left]
      exact List.prefix_append _ _
    have amongLast : contents last <+:
        (contents before ++ (contents inside ++ contents last)).drop
          (0 + (contents before).length + (contents inside).length) := by
      rw [Nat.zero_add, ← List.length_append, ← List.append_assoc]
      exact ⟨[], by rw [List.append_nil, List.drop_left]⟩
    have total := written_parts verbatim t
    rw [shape, contents_append, contents_append, expand_marked cleanBefore amongBefore,
      expand_marked cleanInside amongInside, expand_marked cleanLast amongLast]
    refine ⟨?_, restore_marked cleanInside amongInside⟩
    rw [← total, shape]
    simp [written]

/-- A bar in front of a spoiler, one inside of it, an escaped delimiter, one that stays
open, and a stretch that starts between two placeholders. -/
theorem mark_restore_lossless_bars :
    let t : Text := ['é', '|', '|', '|', 'a', '|', '|', '\\', '|', '|', 'ß', '|', '|', ' ',
      '|', '|', 'b', ' ', '|', '|', 'c', '|', '|', '|']
    let hidden : List Text := [['|', 'a'], ['c']]
    let u : Text := 'é' :: placeholder 0 ++ ['\\', '|', '|', 'ß', '|', '|']
    let v : Text := ' ' :: '|' :: '|' :: 'b' :: ' ' :: placeholder 1
    let w : Text := ['|']
    t = expand hidden u ++ expand hidden v ++ expand hidden w ∧
      writtenOut (restore hidden v) = expand hidden v ∧
      (∀ piece ∈ restore hidden v, IsPiece piece) ∧ Alternate (restore hidden v) :=
  ((mark_restore_lossless _).2 [] _ _ (by decide)).2.2 _ _ _ rfl rfl rfl

end TelegramMarkdown.Spoiler
