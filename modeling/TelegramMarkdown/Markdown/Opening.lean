import TelegramMarkdown.Markdown.Container
import TelegramMarkdown.Markdown.HtmlTag
import TelegramMarkdown.Markdown.Entity

/-!
What a line opens: the marks at the start of a line, behind the prefixes of the
containers around it, that begin a block or end a paragraph.
-/

namespace TelegramMarkdown.Markdown

/-- The extensions of Markdown that are switched on. -/
structure Extensions where
  tables : Bool
  taskLists : Bool
  strikethrough : Bool
  definitionLists : Bool
  alerts : Bool

namespace Opening

/-! ### Leaf blocks -/

/-- The length of a thematic break with its line end: three or more `*`, `-` or
`_` of one kind, and blanks. -/
def rule? (t : Text) : Option Nat :=
  match t with
  | c :: _ =>
    if c = '*' || c = '-' || c = '_' then
      let line := t.takeWhile fun d => d = c || d = ' ' || d = '\t'
      if 3 ≤ line.count c then (Scan.lineEnd? (t.drop line.length)).map (line.length + ·)
      else none
    else none
  | [] => none

/-- The level of a heading that starts with `#`. -/
def heading? (t : Text) : Option Nat :=
  let level := Scan.countRun '#' t
  let spaced := match t.drop level with
    | [] => true
    | c :: _ => Scan.isAsciiBlank c
  if 1 ≤ level && level ≤ 6 && spaced then some level else none

/-- The underline of a heading: its level, and its length with its line end. -/
def underline? (t : Text) : Option (Nat × Nat) :=
  let ofChar (c : Char) (level : Nat) : Option (Nat × Nat) :=
    let n := Scan.countRun c t
    (Scan.blankLine? (t.drop n)).map fun blank => (level, n + blank)
  match t with
  | '=' :: _ => ofChar '=' 1
  | '-' :: _ => ofChar '-' 2
  | _ => none

/-- A fence that opens a block of code: its character and its length. No
backtick follows a fence of backticks on its line. -/
def fence? (t : Text) : Option (Char × Nat) :=
  match t with
  | c :: _ =>
    if c = '`' || c = '~' then
      let n := Scan.countRun c t
      let info := (t.drop n).takeWhile (· ≠ '\n')
      if n < 3 || (c = '`' && info.contains '`') then none else some (c, n)
    else none
  | [] => none

/-- The length of a fence that closes a block of code, without its line end; the
end of the text closes any. -/
def closingFence? (c : Char) (length : Nat) (t : Text) : Option Nat :=
  match t with
  | [] => some 0
  | _ =>
    let n := Scan.countRun c t
    let spaces := Scan.countRun ' ' (t.drop n)
    if length ≤ n && Scan.atLineEnd (t.drop (n + spaces)) then some (n + spaces) else none

/-! ### Lists -/

/-- The marker of a list item. -/
structure Marker where
  /-- The bullet, or the character after the number. -/
  char : Char
  /-- The number of a numbered item. -/
  number : Option Nat

/-- The indentation of what follows a marker that ends here, in columns. Up to
three blanks more belong to it; with four the content is indented code, and a
blank rest of the line adds none. -/
def contentIndent (base : Nat) (m : Margin) : Nat × Margin :=
  if Scan.isBlankLine m.rest then (base, m)
  else
    let (extra, after) := m.indentUpTo 4
    if extra < 4 then (base + extra, after) else (base, m)

/-- The marker of a list item after `outer` columns: the marker, the indentation
of the item's content, and the margin after it. -/
def listItem? (outer : Nat) (m : Margin) : Option (Marker × Nat × Margin) :=
  let finish (marker : Marker) (width : Nat) : Option (Marker × Nat × Margin) :=
    let after := m.advance width
    let spaced? := match after.indent? 1 with
      | some spaced => some spaced
      | none => if after.atLineEnd then some after else none
    spaced?.map fun spaced =>
      let (columns, content) := contentIndent (outer + width + 1) spaced
      (marker, columns, content)
  match m.rest with
  | [] => none
  | c :: t =>
    if c = '-' || c = '+' || c = '*' then
      if (rule? m.rest).isSome then none else finish ⟨c, none⟩ 1
    else
      let n := Scan.countWhile Char.isDigit (c :: t)
      match (c :: t).drop n with
      | d :: _ =>
        if 1 ≤ n && n ≤ 9 && (d = '.' || d = ')') then
          finish ⟨d, some (Entity.number 10 ((c :: t).take n))⟩ (n + 1)
        else none
      | [] => none

/-- The checkbox of a task: whether it is checked, and the margin after it. -/
def checkbox? (m : Margin) : Option (Bool × Margin) :=
  ((m.indent 3).char? '[').bind fun inside =>
    match inside.rest with
    | c :: ']' :: d :: _ =>
      let box? :=
        if Scan.isInlineBlank c then some false
        else if c = 'x' || c = 'X' then some true
        else none
      if Scan.isAsciiBlank d then box?.map fun checked => (checked, inside.advance 2) else none
    | _ => none

/-- The marker of a definition after `outer` columns: the indentation of the
definition's content, and the margin after the marker. -/
def definition? (outer : Nat) (m : Margin) : Option (Nat × Margin) :=
  (m.char? ':').map fun after => contentIndent (outer + 2) (after.indent 1)

/-- Whether a list item starts here that may interrupt a paragraph: an item that
is not empty and whose number, if it has one, is 1. -/
def interruptingItem? (t : Text) : Option (Marker × Bool) :=
  let finish (marker : Marker) (width : Nat) : Option (Marker × Bool) :=
    let after := t.drop width
    match after with
    | ' ' :: _ | '\t' :: _ => some (marker, twoBlankLines after)
    | _ => if Scan.atLineEnd after then some (marker, twoBlankLines after) else none
  match t with
  | [] => none
  | c :: _ =>
    if c = '-' || c = '+' || c = '*' then finish ⟨c, none⟩ 1
    else
      let n := Scan.countWhile Char.isDigit t
      match t.drop n with
      | d :: _ =>
        if 1 ≤ n && n ≤ 9 && (d = '.' || d = ')') then
          finish ⟨d, some (Entity.number 10 (t.take n))⟩ (n + 1)
        else none
      | [] => none
where
  /-- Whether the rest of the line and the next line are blank. -/
  twoBlankLines (t : Text) : Bool :=
    match Scan.blankLine? t with
    | some n => Scan.isBlankLine (t.drop n)
    | none => false

/-! ### Tables -/

/-- The columns of a delimiter row, by the cells that are not yet complete. -/
structure Columns where
  count : Nat
  /-- Nothing stands in the current cell yet. -/
  fresh : Bool
  /-- There is a hyphen in the current cell. -/
  ruled : Bool
  anyPipe : Bool
  anyHyphen : Bool

/-- Read a delimiter row: its length with its line end, and its columns. -/
def columns? (k : Columns) : Text → Option (Nat × Columns)
  | [] => some (0, k)
  | c :: t =>
    let next (k : Columns) := (columns? k t).map fun (n, k) => (n + 1, k)
    if c = ' ' then next k
    else if c = ':' then next { k with fresh := false }
    else if c = '-' then next { k with fresh := false, ruled := true, anyHyphen := true }
    else if c = '|' then
      if k.ruled then
        next { k with count := k.count + 1, fresh := true, ruled := false, anyPipe := true }
      else none
    else (Scan.lineEnd? (c :: t)).map fun n => (n, k)

/-- The row under the header of a table: its length with its line end, and the
number of its columns. It has a pipe and a hyphen. -/
def delimiterRow? (t : Text) : Option (Nat × Nat) :=
  let spaces := Scan.countRun ' ' t
  let body := t.drop spaces
  let leading := Scan.startsWithChar '|' body
  let lead := if leading then 1 else 0
  if 3 < spaces || body.isEmpty then none
  else
    (columns? ⟨0, true, false, leading, false⟩ (body.drop lead)).bind fun (n, k) =>
      if k.anyPipe && k.anyHyphen then
        some (spaces + lead + n, if k.fresh then k.count else k.count + 1)
      else none

/-- The number of columns of a header row with `pipes` pipes, given the text of
the row and the text after its last pipe. -/
def headerColumns (row afterLast : Text) (pipes : Nat) : Nat :=
  let leading := Scan.startsWithChar '|' (row.drop (Scan.countBlanks row))
  (pipes - if leading then 1 else 0) + if Scan.isBlankLine afterLast then 0 else 1

/-- The pipes of a line that are not escaped: how many, the text after the last
one, and the number of characters up to the next line. Nothing if the line is
the last. -/
def pipes? (count pos : Nat) (escaped : Bool) (afterLast : Text) :
    Text → Option (Nat × Text × Nat)
  | [] => none
  | c :: t =>
    if c = '\n' || c = '\r' then
      some (count, afterLast, pos + (Scan.lineEnd? (c :: t)).getD 0)
    else if c = '\\' then pipes? count (pos + 1) true afterLast t
    else if c = '|' && !escaped then pipes? (count + 1) (pos + 1) false t t
    else pipes? count (pos + 1) false afterLast t

/-! ### Interrupting a paragraph -/

/-- What a line would go on with. -/
inductive Leaf where
  | paragraph
  | table
  /-- What may stand before a paragraph: a link reference definition or the mark
  of an alert. -/
  | preamble
  deriving DecidableEq

/-- Where a line stands: the containers that are open, how many of them its
prefixes continue, and what it would go on with. -/
structure Place where
  extensions : Extensions
  containers : List Container
  continued : Nat
  leaf : Leaf

namespace Place

/-- Whether the line continues every container. -/
def allContinued (p : Place) : Bool :=
  p.continued = p.containers.length

/-- Whether a definition may start here: after a paragraph, which is its term, or
in place of an earlier definition. -/
def allowsDefinition (p : Place) : Bool :=
  p.extensions.definitionLists &&
    ((p.leaf = .paragraph && p.allContinued) ||
      (p.containers[p.continued]?).any Container.isDefinition)

end Place

/-- Whether the line ends a paragraph, tables aside. -/
def endsParagraph (p : Place) (t : Text) : Bool :=
  let item := match interruptingItem? t with
    | some (marker, empty) =>
      !p.allContinued || p.leaf = .table || (marker.number.all (· = 1) && !empty)
    | none => false
  Scan.atLineEnd t || (rule? t).isSome || (heading? t).isSome || (fence? t).isSome ||
    Scan.startsWithChar '>' t || item || (HtmlTag.interruptingBlock? t).isSome ||
    (p.allowsDefinition && Scan.startsWithChar ':' t)

/-- Whether a table starts here whose rows start with a pipe. -/
def startsPipedTable (p : Place) (c : Cursor) : Bool :=
  if p.extensions.tables && Scan.startsWithChar '|' c.rest then
    let columns? := (pipes? 0 0 false [] c.rest).bind fun (pipes, afterLast, n) =>
      (Container.matchingAll? p.containers (Margin.ofLine (c.advance n))).bind fun m =>
        (delimiterRow? m.rest).map fun (_, columns) =>
          columns = headerColumns c.rest afterLast pipes
    columns?.getD false
  else false

/-- Whether the line ends a paragraph. -/
def interrupts (p : Place) (c : Cursor) : Bool :=
  endsParagraph p c.rest || startsPipedTable p c

end Opening

end TelegramMarkdown.Markdown
