import TelegramMarkdown.Proofs.Markup

/-!
Raw HTML as tokens of MarkdownV2: text, markers in pairs, and spans of code, which
unlike those of inlines may be empty.
-/

namespace TelegramMarkdown

open Markup

namespace Html

/-- The marker of style that an element becomes; `code` becomes a span of code. -/
def Element.mark? : Element → Option Mark
  | b => some .bold
  | i => some .italic
  | u => some .underline
  | s => some .strikethrough
  | code => none

/-- The tokens of raw HTML, by as many steps as rendering takes. -/
def tokensWithin : Nat → Text → List Token
  | 0, t => chars (stripTags t)
  | n + 1, t =>
    match firstPair? t with
    | none => chars (stripTags t)
    | some (before, e, inside, rest) =>
      let found := match e.mark? with
        | some m => .mark m :: tokensWithin n inside ++ [.mark m]
        | none => [.code (stripTags inside)]
      chars (stripTags before) ++ found ++ tokensWithin n rest

/-- The tokens of raw HTML. -/
def tokens (raw : Text) : List Token :=
  tokensWithin raw.length raw

theorem renderWithin_eq_writeAll (n : Nat) (t : Text) :
    renderWithin n t = writeAll (tokensWithin n t) := by
  induction n generalizing t with
  | zero => simp [renderWithin, tokensWithin]
  | succ n ih =>
    rw [renderWithin, tokensWithin]
    cases firstPair? t with
    | none => simp
    | some found =>
      obtain ⟨before, e, inside, rest⟩ := found
      cases e <;> simp [Element.mark?, Element.marker, ih, Token.write, Mark.text]

theorem render_eq_writeAll (raw : Text) : render raw = writeAll (tokens raw) :=
  renderWithin_eq_writeAll _ _

end Html

end TelegramMarkdown
