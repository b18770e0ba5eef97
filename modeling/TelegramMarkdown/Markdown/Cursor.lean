import TelegramMarkdown.Text

/-!
Reading a text from a position: cursors, spans, and the scans that need to know
nothing but characters: ends of lines, blank lines, runs of one character.

A scan gets the text that follows and answers how many characters it covers, or
nothing where it does not apply.
-/

namespace TelegramMarkdown.Markdown

/-- A position in a text, together with the text from there on. -/
structure Cursor where
  pos : Nat
  rest : Text

/-- A stretch of the source: the positions from `start` up to, not including,
`stop`. -/
structure Span where
  start : Nat
  stop : Nat
  deriving DecidableEq, Repr

namespace Span

/-- Whether a position lies in the span. -/
def contains (s : Span) (pos : Nat) : Bool :=
  s.start ≤ pos && pos < s.stop

end Span

namespace Cursor

/-- The start of a text. -/
def start (t : Text) : Cursor :=
  ⟨0, t⟩

/-- The cursor `n` characters further on. -/
def advance (c : Cursor) (n : Nat) : Cursor :=
  ⟨c.pos + n, c.rest.drop n⟩

/-- The text from the cursor to a position. -/
def textTo (c : Cursor) (stop : Nat) : Text :=
  c.rest.take (stop - c.pos)

/-- The cursor in the text that ends at a position. -/
def endingAt (c : Cursor) (stop : Nat) : Cursor :=
  ⟨c.pos, c.textTo stop⟩

/-- The cursor moved on to a position, unless it is there or beyond. -/
def moveTo (c : Cursor) (pos : Nat) : Cursor :=
  c.advance (pos - c.pos)

/-- Whether the text is at its end. -/
def atEnd (c : Cursor) : Bool :=
  c.rest.isEmpty

end Cursor

namespace Scan

/-! ### Characters -/

/-- Space, tab, vertical tab and form feed: the blanks inside a line. -/
def isInlineBlank (c : Char) : Bool :=
  c = ' ' || c = '\t' || c = '\x0b' || c = '\x0c'

/-- The blanks inside a line and the characters that end one. -/
def isAsciiBlank (c : Char) : Bool :=
  isInlineBlank c || c = '\n' || c = '\r'

/-- The printable ASCII characters that are neither letters, digits nor space. -/
def isAsciiPunctuation (c : Char) : Bool :=
  let n := c.toNat
  (0x21 ≤ n && n ≤ 0x2F) || (0x3A ≤ n && n ≤ 0x40) || (0x5B ≤ n && n ≤ 0x60) ||
    (0x7B ≤ n && n ≤ 0x7E)

/-- Whether a text starts with the character. -/
def startsWithChar (c : Char) : Text → Bool
  | d :: _ => c = d
  | [] => false

/-! ### Runs -/

/-- How many characters at the start satisfy `p`. -/
def countWhile (p : Char → Bool) : Text → Nat
  | [] => 0
  | c :: cs => if p c then countWhile p cs + 1 else 0

/-- How often the character stands at the start. -/
def countRun (c : Char) (t : Text) : Nat :=
  countWhile (· = c) t

/-- How many blanks stand at the start of what is left of a line. -/
def countBlanks (t : Text) : Nat :=
  countWhile isInlineBlank t

/-! ### Lines -/

/-- The length of the end of a line, if one is here. The end of the text ends a
line with no characters. -/
def lineEnd? : Text → Option Nat
  | [] => some 0
  | '\n' :: _ => some 1
  | '\r' :: '\n' :: _ => some 2
  | '\r' :: _ => some 1
  | _ => none

/-- Whether a line ends here. -/
def atLineEnd (t : Text) : Bool :=
  (lineEnd? t).isSome

/-- The length of what is left of the line with its end, if that is blank. -/
def blankLine? (t : Text) : Option Nat :=
  let n := countBlanks t
  (lineEnd? (t.drop n)).map (n + ·)

/-- Whether the rest of the line is blank. -/
def isBlankLine (t : Text) : Bool :=
  (blankLine? t).isSome

/-- The length of the text up to and including the next line feed. -/
def toLineFeed : Text → Nat
  | [] => 0
  | c :: cs => if c = '\n' then 1 else toLineFeed cs + 1

end Scan

end TelegramMarkdown.Markdown
