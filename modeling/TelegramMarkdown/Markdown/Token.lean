import TelegramMarkdown.Markdown.Opening
import TelegramMarkdown.Unicode.Punctuation

/-!
Inline tokens: the text of a leaf block, cut line by line into plain stretches
and the marks that may turn out to be markup (`Line.read`).

What a mark means is found out only when the whole block is known; here a run of
emphasis delimiters learns from its neighbours on the line whether it may open
or close emphasis.
-/

namespace TelegramMarkdown.Markdown

/-- What a token is. -/
inductive Token.Kind where
  /-- Plain text, as it stands in the source. -/
  | text
  /-- The text that a character reference stands for. -/
  | decoded (text : Text)
  | softBreak
  /-- A hard line break, made by a backslash or by two blanks. -/
  | hardBreak (backslash : Bool)
  /-- A run of emphasis delimiters. -/
  | run (char : Char) (length : Nat) (opens closes : Bool)
  /-- A run of backticks. A backslash may guard its first one. -/
  | backticks (length : Nat) (guarded : Bool)
  /-- A `<`, which may open an autolink or raw HTML. -/
  | less
  | linkOpen
  | imageOpen
  /-- A `]`; one that ends a label that is looked up by another `]` may not look
  it up again. -/
  | linkClose (mayRefer : Bool)
  /-- A checkbox. -/
  | checkbox (checked : Bool)

/-- A token, its start, and the position after it. -/
structure Token where
  kind : Token.Kind
  start : Cursor
  stop : Nat

namespace Line

/-! ### Emphasis delimiters -/

/-- Where a delimiter run stands. -/
structure Flank where
  char : Char
  length : Nat
  /-- The character before the run on its line. -/
  before : Option Char
  /-- The character after the run. -/
  after : Option Char
  /-- Whether the line is a cell of a table, which the next pipe ends. -/
  inCell : Bool

namespace Flank

/-- Whether the run may open emphasis: text follows it, and text does not come
before it where the delimiter does not work inside words. -/
def opens (f : Flank) : Bool :=
  match f.after with
  | none => false
  | some next =>
    if Text.isBlank next then false
    else match f.before with
      | none => true
      | some prev =>
        if f.inCell && next = '|' then false
        else
          (f.char = '*' && !Unicode.isPunctuation next) || (f.char = '~' && 1 < f.length) ||
            (f.char = '~' && prev = '~' && !Unicode.isPunctuation next) ||
            Text.isBlank prev || Unicode.isPunctuation prev

/-- Whether the run may close emphasis: text comes before it, and text does not
follow it where the delimiter does not work inside words. -/
def closes (f : Flank) : Bool :=
  match f.before with
  | none => false
  | some prev =>
    if Text.isBlank prev then false
    else match f.after with
      | none => true
      | some next =>
        (f.inCell && next = '|') ||
          ((f.char = '*' || (f.char = '~' && 1 < f.length)) && !Unicode.isPunctuation prev) ||
          (f.char = '~' && prev = '~') ||
          Text.isBlank next || Unicode.isPunctuation next

end Flank

/-! ### Reading a line -/

/-- How a line is read. -/
inductive Mode where
  /-- As text. -/
  | plain
  /-- As text, unless it is the header row of a table. -/
  | maybeHeader
  /-- As the cell of a table, up to the next pipe. -/
  | cell
  deriving DecidableEq

/-- What ends a line of text. -/
inductive Ending where
  /-- The end of the line, as a token that joins it to the next line. -/
  | lineBreak (token : Token)
  /-- The line is the header of a table with that many columns. -/
  | table (columns : Nat)
  /-- The end of the text, or of a cell. -/
  | nothing

/-- What was read of a line. -/
structure State where
  /-- The tokens, newest first. -/
  tokens : List Token
  /-- The start of the text that is in no token yet. -/
  textStart : Cursor
  /-- The character before. -/
  before : Option Char
  /-- How many backslashes stand before. -/
  backslashes : Nat
  /-- How many blanks stand before. -/
  blanks : Nat
  /-- How many pipes are not escaped. -/
  pipes : Nat
  /-- The text after the last of them. -/
  afterPipe : Text

namespace State

/-- Nothing read. -/
def start (c : Cursor) : State :=
  ⟨[], c, none, 0, 0, 0, []⟩

/-- Make a token of the text up to a position. -/
def flush (s : State) (stop : Nat) : State :=
  if s.textStart.pos < stop then
    { s with tokens := ⟨.text, s.textStart, stop⟩ :: s.tokens }
  else s

/-- Make a token of the text up to a position, and let the text go on at a
cursor. -/
def resumeAt (s : State) (stop : Nat) (c : Cursor) : State :=
  { s.flush stop with textStart := c }

/-- Add a token, after the text before it. -/
def add (s : State) (kind : Token.Kind) (start : Cursor) (length : Nat) : State :=
  let s := s.flush start.pos
  { s with
    tokens := ⟨kind, start, start.pos + length⟩ :: s.tokens
    textStart := start.advance length }

/-- Pass over a character. -/
def pass (s : State) (c : Char) : State :=
  { s with
    before := some c
    backslashes := if c = '\\' then s.backslashes + 1 else 0
    blanks := if Scan.isInlineBlank c then s.blanks + 1 else 0 }

/-- The tokens of a text or cell that ends at a position, without the blanks
before it. -/
def finish (s : State) (pos : Nat) : List Token :=
  (s.flush (pos - s.blanks)).tokens

end State

/-- What reading a line depends on. -/
structure Context where
  extensions : Extensions
  containers : List Container
  mode : Mode
  /-- The line. -/
  line : Cursor

namespace Context

/-- The columns of the table whose header this line is, and the cursor after the
delimiter row, given where the next line starts. -/
def table? (k : Context) (s : State) (next : Cursor) : Option (Nat × Cursor) :=
  if k.mode = .maybeHeader && s.pipes ≠ 0 then
    (Container.matchingAll? k.containers (Margin.ofLine next)).bind fun m =>
      (Opening.delimiterRow? m.rest).bind fun (n, columns) =>
        if columns = Opening.headerColumns k.line.rest s.afterPipe s.pipes then
          some (columns, m.cursor.advance n)
        else none
  else none

/-- End a line whose end is at `c`: the tokens, the start of the next line, and
what ends it. An odd number of backslashes or two blanks make a hard break. -/
def endLine (k : Context) (s : State) (c : Cursor) : List Token × Cursor × Ending :=
  let next := c.advance ((Scan.lineEnd? c.rest).getD 0)
  if s.backslashes % 2 = 1 && !next.atEnd then
    let backslash : Cursor := ⟨c.pos - 1, '\\' :: c.rest⟩
    ((s.flush backslash.pos).tokens, next, .lineBreak ⟨.hardBreak true, backslash, next.pos⟩)
  else match k.table? s next with
    | some (columns, after) => (s.tokens, after, .table columns)
    | none =>
      let kind := if 2 ≤ s.blanks then Token.Kind.hardBreak false else .softBreak
      (s.finish c.pos, next, .lineBreak ⟨kind, c, next.pos⟩)

/-- What a backslash does to the text after it: a punctuation character is plain
text, and a run of backticks is marked as guarded. In a cell, where a pipe needs
a backslash, one that is itself escaped is a pipe. -/
def escape (k : Context) (s : State) (pos : Nat) (t : Text) : State × Nat :=
  match t with
  | [] => (s, 1)
  | d :: rest =>
    let after : Cursor := ⟨pos + 1, t⟩
    if !Scan.isAsciiPunctuation d then (s, 1)
    else if d = '`' then
      let n := Scan.countRun '`' t
      ((s.resumeAt pos after).add (.backticks n true) after n, n + 1)
    else if k.mode = .cell && d = '\\' && Scan.startsWithChar '|' rest then
      (s.resumeAt pos (after.advance 1), 3)
    else (s.resumeAt pos after, 2)

/-- Read what starts with a character other than a pipe or the end of a line:
the state, and how many characters it covers. -/
def mark (k : Context) (s : State) (pos : Nat) (c : Char) (t : Text) : State × Nat :=
  let token (kind : Token.Kind) (length : Nat) : State × Nat :=
    (s.add kind ⟨pos, c :: t⟩ length, length)
  let next (d : Char) : Bool := Scan.startsWithChar d t
  match c with
  | '\\' => k.escape s pos t
  | '`' => let n := Scan.countRun '`' t + 1; token (.backticks n false) n
  | '[' => token .linkOpen 1
  | ']' => token (.linkClose true) 1
  | '!' => if next '[' then token .imageOpen 2 else (s, 1)
  | '<' => if next '\\' then (s, 1) else token .less 1
  | '&' =>
    match Entity.reference? (c :: t) with
    | some (n, value) => token (.decoded value) n
    | none => (s, 1)
  | _ =>
    if c = '*' || c = '_' || (c = '~' && k.extensions.strikethrough) then
      let n := Scan.countRun c t + 1
      let flank : Flank := ⟨c, n, s.before, (t.drop (n - 1)).head?, k.mode = .cell⟩
      if (flank.opens || flank.closes) && (c ≠ '~' || n ≤ 2) then
        token (.run c n flank.opens flank.closes) n
      else (s, n)
    else (s, 1)

/-- Read a line from a position on. The first number counts characters that are
dealt with already. -/
def readFrom (k : Context) (s : State) (pos : Nat) :
    (skip : Nat) → Text → List Token × Cursor × Ending
  | _, [] => (s.finish pos, ⟨pos, []⟩, .nothing)
  | skip + 1, c :: t => k.readFrom (s.pass c) (pos + 1) skip t
  | 0, c :: t =>
    let ends := c = '\n' || c = '\r'
    if k.mode = .cell && (ends || (c = '|' && s.backslashes = 0)) then
      (s.finish pos, ⟨pos, c :: t⟩, .nothing)
    else if ends then k.endLine s ⟨pos, c :: t⟩
    else if c = '|' then
      let s := if s.backslashes = 0 then { s with pipes := s.pipes + 1, afterPipe := t } else s
      k.readFrom (s.pass c) (pos + 1) 0 t
    else
      let (marked, n) := k.mark s pos c t
      k.readFrom (marked.pass c) (pos + 1) (n - 1) t

end Context

/-- Read a line: its tokens, newest first, the cursor after it, and what ends
it. -/
def read (k : Context) : List Token × Cursor × Ending :=
  k.readFrom (State.start k.line) k.line.pos 0 k.line.rest

end Line

end TelegramMarkdown.Markdown
