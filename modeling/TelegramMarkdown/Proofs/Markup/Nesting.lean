import Mathlib.Algebra.Group.Nat.Even
import TelegramMarkdown.Proofs.Markup.Inline
import TelegramMarkdown.Proofs.Markup.Lines

/-!
How markers and links stand to each other.

The signs of a text are its markers and the ends of its links. They are well nested
(`WellNested`): what a marker opens, an equal marker closes, and links go like
brackets, each inside or outside of the others. Tokens that are well nested and
readable are `Sound`; everything that rendering does to tokens keeps them so.
-/

namespace TelegramMarkdown

open Markup

namespace Markup

/-! ### Well-nested signs -/

/-- A marker, or an end of a link. -/
inductive Sign where
  | mark (m : Mark)
  | openLink
  | closeLink
  deriving DecidableEq

/-- The sign that a token is. -/
def Token.sign? : Token → Option Sign
  | .mark m => some (.mark m)
  | .openLink => some .openLink
  | .closeLink _ => some .closeLink
  | _ => none

/-- The signs among tokens. -/
def signs (tokens : List Token) : List Sign :=
  tokens.filterMap Token.sign?

/-- Signs that belong together in pairs, one pair inside or outside of another. -/
inductive WellNested : List Sign → Prop where
  | nil : WellNested []
  | span {inner rest : List Sign} (m : Mark) : WellNested inner → WellNested rest →
      WellNested (.mark m :: inner ++ .mark m :: rest)
  | link {inner rest : List Sign} : WellNested inner → WellNested rest →
      WellNested (.openLink :: inner ++ .closeLink :: rest)

theorem WellNested.append {a b : List Sign} (ha : WellNested a) (hb : WellNested b) :
    WellNested (a ++ b) := by
  induction ha with
  | nil => exact hb
  | span m inner _ _ ih => simpa using WellNested.span m inner ih
  | link inner _ _ ih => simpa using WellNested.link inner ih

/-- A marker opens as often as it closes. -/
theorem WellNested.even_count {s : List Sign} (h : WellNested s) (m : Mark) :
    Even (s.count (.mark m)) := by
  induction h with
  | nil => simp
  | span n _ _ ihInner ihRest =>
    rw [List.count_append, List.count_cons, List.count_cons]
    split
    · obtain ⟨i, hi⟩ := ihInner
      obtain ⟨r, hr⟩ := ihRest
      exact ⟨i + r + 1, by omega⟩
    · simpa using ihInner.add ihRest
  | link _ _ ihInner ihRest => simpa using ihInner.add ihRest

@[simp] theorem signs_nil : signs [] = [] := rfl

@[simp] theorem signs_cons (token : Token) (tokens : List Token) :
    signs (token :: tokens) = token.sign?.toList ++ signs tokens := by
  cases h : token.sign? <;> simp [signs, h]

@[simp] theorem signs_append (a b : List Token) : signs (a ++ b) = signs a ++ signs b := by
  simp [signs]

@[simp] theorem signs_chars (t : Text) : signs (chars t) = [] := by
  simp [signs, chars, Token.sign?]

theorem count_mark_signs (m : Mark) (tokens : List Token) :
    (signs tokens).count (.mark m) = tokens.count (.mark m) := by
  induction tokens with
  | nil => rfl
  | cons token rest ih =>
    rw [signs_cons, List.count_append, List.count_cons, ih]
    cases token <;> simp [Token.sign?, List.count_cons, add_comm]

/-! ### Sound tokens -/

/-- Tokens that a reader with fences gets back, and whose signs are well nested. -/
structure Sound (tokens : List Token) : Prop where
  readable : ∀ token ∈ tokens, token.IsReadable true
  nested : WellNested (signs tokens)

namespace Sound

theorem chars (t : Text) : Sound (chars t) :=
  ⟨fun _ mem => chars_readable mem, by simpa using WellNested.nil⟩

theorem append {a b : List Token} (ha : Sound a) (hb : Sound b) : Sound (a ++ b) where
  readable := List.forall_mem_append.mpr ⟨ha.readable, hb.readable⟩
  nested := by simpa using ha.nested.append hb.nested

theorem pre (content : Text) : Sound [.pre content] :=
  ⟨by simp [Token.IsReadable], by simpa [Token.sign?] using WellNested.nil⟩

theorem span (m : Mark) {inner : List Token} (h : Sound inner) :
    Sound (.mark m :: inner ++ [.mark m]) where
  readable := readable_between trivial trivial h.readable
  nested := by simpa [Token.sign?] using WellNested.span m h.nested .nil

/-! ### Quoting -/

theorem signs_quoted (fresh : Bool) (token : Token) :
    signs (token.quoted fresh) = token.sign?.toList := by
  cases token with
  | char c =>
    rw [Token.quoted]
    split
    · simp [Token.sign?]
    · cases fresh <;> simp [Token.quoted.lead, Token.sign?]
  | mark _ | code _ | pre _ | openLink | closeLink _ | quote =>
    cases fresh <;> simp [Token.quoted, Token.quoted.lead, Token.sign?]

theorem quoted_readable {fresh : Bool} {token : Token} (h : token.IsReadable true) :
    ∀ other ∈ token.quoted fresh, other.IsReadable true := by
  have lead : ∀ other ∈ Token.quoted.lead fresh, other.IsReadable true := by
    cases fresh <;> simp [Token.quoted.lead, Token.IsReadable]
  cases token with
  | char c =>
    rw [Token.quoted]
    split
    · exact fun _ mem => chars_readable mem
    · exact List.forall_mem_append.mpr ⟨lead, by simp [Token.IsReadable]⟩
  | code content =>
    refine List.forall_mem_append.mpr ⟨lead, ?_⟩
    simpa [Token.IsReadable] using quotePayload_ne_nil (h rfl)
  | mark _ | pre _ | openLink | closeLink _ | quote =>
    exact List.forall_mem_append.mpr ⟨lead, by simp [Token.IsReadable]⟩

/-- A quotation has the signs of what is quoted. -/
theorem signs_quoteTokens (fresh : Bool) (tokens : List Token) :
    signs (Markup.quoteTokens fresh tokens) = signs tokens := by
  induction tokens generalizing fresh with
  | nil => simp [Markup.quoteTokens]
  | cons token rest ih =>
    rw [Markup.quoteTokens, signs_append, signs_cons, signs_quoted, ih]

theorem quoteTokens {tokens : List Token} (h : Sound tokens) (fresh : Bool) :
    Sound (quoteTokens fresh tokens) where
  nested := by simpa [signs_quoteTokens] using h.nested
  readable := by
    have readable := h.readable
    clear h
    induction tokens generalizing fresh with
    | nil => exact fun _ mem => chars_readable mem
    | cons token rest ih =>
      obtain ⟨first, others⟩ := List.forall_mem_cons.mp readable
      exact List.forall_mem_append.mpr ⟨quoted_readable first, ih _ others⟩

/-! ### Trimming -/

/-- Blanks are no signs, so taking some away leaves the signs as they are. -/
theorem signs_eq_of_blank {blanks : List Token} (h : ∀ token ∈ blanks, token.isBlank = true) :
    signs blanks = [] := by
  induction blanks with
  | nil => rfl
  | cons token rest ih =>
    obtain ⟨blank, others⟩ := List.forall_mem_cons.mp h
    cases token with
    | char c => simpa [Token.sign?] using ih others
    | mark _ | code _ | pre _ | openLink | closeLink _ | quote => nomatch blank

theorem dropBlanks {tokens : List Token} (h : Sound tokens) :
    Sound (tokens.dropWhile Token.isBlank) where
  readable token mem := h.readable token ((List.dropWhile_sublist _).subset mem)
  nested := by
    have blank : signs (tokens.takeWhile Token.isBlank) = [] :=
      signs_eq_of_blank fun token mem => List.mem_takeWhile_imp mem
    have split : signs (tokens.takeWhile Token.isBlank ++ tokens.dropWhile Token.isBlank) =
        signs tokens := by
      rw [List.takeWhile_append_dropWhile]
    rw [signs_append, blank, List.nil_append] at split
    exact split ▸ h.nested

theorem trimTokensEnd {tokens : List Token} (h : Sound tokens) : Sound (trimTokensEnd tokens) where
  readable token mem := h.readable token ((List.rdropWhile_prefix _ _).subset mem)
  nested := by
    have blank : signs (tokens.rtakeWhile Token.isBlank) = [] :=
      signs_eq_of_blank fun token mem => List.mem_rtakeWhile_imp mem
    have split : signs (tokens.rdropWhile Token.isBlank ++ tokens.rtakeWhile Token.isBlank) =
        signs tokens := by
      rw [List.rdropWhile_append_rtakeWhile]
    rw [signs_append, blank, List.append_nil] at split
    exact split ▸ h.nested

theorem trimTokens {tokens : List Token} (h : Sound tokens) : Sound (trimTokens tokens) :=
  h.dropBlanks.trimTokensEnd

end Sound

end Markup

/-! ### Inlines -/

mutual

/-- Without HTML tags, which need not come in pairs, the markers of inlines are
well nested. -/
theorem Inline.tokens_wellNested :
    ∀ inline : Inline, inline.Everywhere (fun i => ¬ i.IsHtml) →
      WellNested (signs inline.tokens)
  | .literal _, _ => by simpa [Inline.tokens] using WellNested.nil
  | .emphasis delimiter count children, h => by
    have ih := Inline.tokensAll_wellNested children h.2
    rw [Inline.tokens]
    cases Mark.ofDelimiter? delimiter count with
    | none => exact ih
    | some m => simpa [Token.sign?] using WellNested.span m ih .nil
  | .link url isImage children, h => by
    have ih := Inline.tokensAll_wellNested children h.2
    simpa [Inline.tokens, Token.sign?] using WellNested.link ih .nil
  | .codeSpan _, _ => by simpa [Inline.tokens, Token.sign?] using WellNested.nil
  | .lineBreak, _ => by simpa [Inline.tokens, Token.sign?] using WellNested.nil
  | .htmlTag _, h => absurd trivial h
  | .autolink _, _ => by simpa [Inline.tokens, Token.sign?] using WellNested.link .nil .nil
  | .spoiler _, _ => by
    simpa [Inline.tokens, Token.sign?] using WellNested.span .spoiler .nil .nil
  | .container children, h => by
    rw [Inline.tokens]
    exact Inline.tokensAll_wellNested children h.2

theorem Inline.tokensAll_wellNested :
    ∀ inlines : List Inline, Inline.AllEverywhere (fun i => ¬ i.IsHtml) inlines →
      WellNested (signs (Inline.tokensAll inlines))
  | [], _ => .nil
  | inline :: rest, h => by
    rw [Inline.tokensAll, signs_append]
    exact (Inline.tokens_wellNested inline h.1).append (Inline.tokensAll_wellNested rest h.2)

end

theorem Inline.tokensAll_sound {inlines : List Inline}
    (h : Inline.AllEverywhere (fun i => ¬ i.IsHtml ∧ i.IsNoEmptyCode) inlines) :
    Sound (Inline.tokensAll inlines) where
  readable := Inline.tokensAll_readable true inlines
    (Inline.AllEverywhere.mono (fun _ hi _ => hi.2) inlines h)
  nested := Inline.tokensAll_wellNested inlines
    (Inline.AllEverywhere.mono (fun _ hi => hi.1) inlines h)

end TelegramMarkdown
