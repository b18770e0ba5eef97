import TelegramMarkdown.Text

/-!
Escaping for the three contexts of MarkdownV2: prose, code, and the URL of a
link. In each of them a backslash makes the next character stand for itself, so
the backslash is always escaped; the contexts differ in the other characters
that need it.
-/

namespace TelegramMarkdown.Escape

/-- The characters that are markup somewhere in prose. -/
def reserved : List Char :=
  ['_', '*', '[', ']', '(', ')', '~', '`', '>', '#', '+', '-', '=', '|', '{', '}', '.', '!']

/-- Escape prose: every reserved character and every backslash gets a backslash. -/
def prose (t : Text) : Text :=
  t.flatMap fun c => if c = '\\' ∨ c ∈ reserved then ['\\', c] else [c]

/-- Put a backslash before every `c`. -/
def guardChar (c : Char) (t : Text) : Text :=
  t.flatMap fun d => if d = c then ['\\', c] else [d]

/-- Escape code, where only the backslash and the backtick mean something. The
backslashes come first, so that those put before backticks stay single. -/
def code (t : Text) : Text :=
  guardChar '`' (guardChar '\\' t)

/-- Escape the URL of a link, which a closing parenthesis would end. -/
def linkUrl (t : Text) : Text :=
  guardChar ')' (guardChar '\\' t)

/-! ### Escaping goes character by character -/

theorem prose_append (s t : Text) : prose (s ++ t) = prose s ++ prose t := by
  simp [prose]

theorem guardChar_append (c : Char) (s t : Text) :
    guardChar c (s ++ t) = guardChar c s ++ guardChar c t := by
  simp [guardChar]

end TelegramMarkdown.Escape
