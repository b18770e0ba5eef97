import TelegramMarkdown.Markdown.Cursor

/-!
The margin of a line: what stands before its content. Indentation is measured
in columns, with tab stops every four of them, so a tab may be used up in part:
the columns left over are kept in the margin (`Margin.pending`).
-/

namespace TelegramMarkdown.Markdown

/-- A line read up to some point in its margin. -/
structure Margin where
  /-- Where reading goes on. -/
  cursor : Cursor
  /-- The position from which tab stops are counted. -/
  tabOrigin : Nat
  /-- Columns of the last tab that are not used up. -/
  pending : Nat

namespace Margin

/-- The margin of the line that starts here, with nothing read. -/
def ofLine (c : Cursor) : Margin :=
  ⟨c, c.pos, 0⟩

/-- The text that follows. -/
def rest (m : Margin) : Text :=
  m.cursor.rest

/-- Pass over characters that are not blanks. -/
def advance (m : Margin) (n : Nat) : Margin :=
  { m with cursor := m.cursor.advance n }

/-- Use up to `n` columns of spaces and tabs that follow; answers how many are
missing. -/
def takeBlanks (origin pos : Nat) : (n : Nat) → Text → Nat × Margin
  | 0, t => (0, ⟨⟨pos, t⟩, origin, 0⟩)
  | n + 1, ' ' :: t => takeBlanks origin (pos + 1) n t
  | n + 1, '\t' :: t =>
    let width := 4 - (pos - origin) % 4
    if width ≤ n + 1 then
      takeBlanks (pos + 1) (pos + 1) (n + 1 - width) t
    else
      (0, ⟨⟨pos + 1, t⟩, pos + 1, width - (n + 1)⟩)
  | n + 1, t => (n + 1, ⟨⟨pos, t⟩, origin, 0⟩)

/-- Use up to `n` columns; answers how many are missing. -/
def useColumns (m : Margin) (n : Nat) : Nat × Margin :=
  if n ≤ m.pending then
    (0, { m with pending := m.pending - n })
  else
    takeBlanks m.tabOrigin m.cursor.pos (n - m.pending) m.cursor.rest

/-- Use up to `n` columns; answers how many were there. -/
def indentUpTo (m : Margin) (n : Nat) : Nat × Margin :=
  let (missing, m) := m.useColumns n
  (n - missing, m)

/-- Use `n` columns, if there are so many. -/
def indent? (m : Margin) (n : Nat) : Option Margin :=
  match m.useColumns n with
  | (0, m) => some m
  | _ => none

/-- Use `n` columns, or as many as there are. -/
def indent (m : Margin) (n : Nat) : Margin :=
  (m.useColumns n).2

/-- Pass over all spaces and tabs. -/
def skipBlanks (m : Margin) : Margin :=
  let n := Scan.countWhile (fun c => c = ' ' || c = '\t') m.rest
  { m with cursor := m.cursor.advance n, pending := 0 }

/-- Pass over the character, if it is next. -/
def char? (m : Margin) (c : Char) : Option Margin :=
  match m.rest with
  | d :: _ => if c = d then some (m.advance 1) else none
  | [] => none

/-- Whether a carriage return, a line feed or the end of the text is next. -/
def atLineEnd (m : Margin) : Bool :=
  Scan.atLineEnd m.rest

/-- The marker of a quotation: at most three columns, `>`, and one more column
if it is there. -/
def quoteMarker? (m : Margin) : Option Margin :=
  ((m.indent 3).char? '>').map (·.indent 1)

end Margin

end TelegramMarkdown.Markdown
