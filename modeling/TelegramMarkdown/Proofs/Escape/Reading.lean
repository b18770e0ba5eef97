import TelegramMarkdown.Proofs.Escape
import TelegramMarkdown.Proofs.Text

/-!
Reading escaped text.

A backslash takes the next character with it, so a reader of a text that is escaped for a
context gets the text back (`unescape_guarded`), and one that looks for the end of the
context finds the end and no character of the text (`readTo?_guarded`).
-/

namespace TelegramMarkdown.Escape

/-- A text without its escapes. -/
def unescape : Text → Text
  | [] => []
  | '\\' :: c :: t => c :: unescape t
  | c :: t => c :: unescape t

/-- What stands before the first `closing` that no backslash escapes, without its escapes,
and what stands behind that `closing`. -/
def readTo? (closing : Text) : Text → Option (Text × Text)
  | [] => none
  | '\\' :: c :: t => (readTo? closing t).map fun (content, rest) => (c :: content, rest)
  | c :: t =>
    match Text.dropLead? closing (c :: t) with
    | some rest => some ([], rest)
    | none => (readTo? closing t).map fun (content, rest) => (c :: content, rest)

theorem unescape_cons_of_ne {c : Char} (h : c ≠ '\\') (t : Text) :
    unescape (c :: t) = c :: unescape t := by
  rw [unescape]
  intro _ _ slash
  exact absurd slash h

theorem readTo?_cons_of_ne (closing : Text) {c : Char} (h : c ≠ '\\') (t : Text) :
    readTo? closing (c :: t) =
      match Text.dropLead? closing (c :: t) with
      | some rest => some ([], rest)
      | none => (readTo? closing t).map fun (content, rest) => (c :: content, rest) := by
  rw [readTo?]
  intro _ _ slash
  exact absurd slash h

variable {stop : Char} (noSlash : stop ≠ '\\')

include noSlash

/-- A text that is escaped for a context is the text again without its escapes. -/
theorem unescape_guarded (t : Text) : unescape (guarded stop t) = t := by
  induction t with
  | nil => rfl
  | cons c cs ih =>
    rw [guarded_cons noSlash]
    split
    case isTrue => exact congrArg (c :: ·) ih
    case isFalse plain =>
      rw [List.singleton_append, unescape_cons_of_ne (not_or.mp plain).1, ih]

/-- A text that is escaped for a context is read up to the first end of the context behind
it, whatever comes after. -/
theorem readTo?_guarded (more t rest : Text) :
    readTo? (stop :: more) (guarded stop t ++ (stop :: more ++ rest)) = some (t, rest) := by
  induction t with
  | nil =>
    have ends : Text.dropLead? (stop :: more) (stop :: (more ++ rest)) = some rest :=
      Text.dropLead?_append (stop :: more) rest
    rw [guarded_nil, List.nil_append, List.cons_append, readTo?_cons_of_ne _ noSlash, ends]
  | cons c cs ih =>
    rw [guarded_cons noSlash]
    split
    case isTrue =>
      rw [List.append_assoc, List.cons_append, List.singleton_append, readTo?, ih]
      rfl
    case isFalse plain =>
      obtain ⟨notSlash, notStop⟩ := not_or.mp plain
      have goesOn (u : Text) : Text.dropLead? (stop :: more) (c :: u) = none := by
        rw [Text.dropLead?, if_neg notStop]
      rw [List.append_assoc, List.singleton_append, readTo?_cons_of_ne _ notSlash, goesOn]
      dsimp only
      rw [ih]
      rfl

end TelegramMarkdown.Escape
