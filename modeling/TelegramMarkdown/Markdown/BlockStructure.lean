import TelegramMarkdown.Markdown.Outline

/-!
Block structure: how the lines of a document make its outline (`Outline.ofText`).

A line first continues the open containers by their prefixes, then opens new
ones by its markers; what is left of it starts or continues a leaf block. A leaf
block reads its own further lines, as far as they continue all containers, or
may go on without their prefixes when it is a paragraph.
-/

namespace TelegramMarkdown.Markdown

namespace BlockStructure

open Opening

/-- What reading a block depends on. -/
structure Context where
  extensions : Extensions
  containers : List Container
  /-- A bound on the lines of a block. -/
  bound : Nat

namespace Context

/-- Read the prefixes of a line: where it stands, and its margin after them. -/
def line (k : Context) (c : Cursor) : Place × Margin :=
  let (continued, m) := Container.matching k.containers (Margin.ofLine c)
  (⟨k.extensions, k.containers, continued, .paragraph⟩, m)

end Context

/-! ### Code and HTML -/

/-- A line of code or HTML as text, `pending` columns behind a tab. The carriage
return before the last character of the line is dropped. -/
def literalLine (pending : Nat) (line : Text) : Text :=
  let text := match line.reverse with
    | last :: '\r' :: before =>
      if last.toNat < 0x80 then (last :: before).reverse else line
    | _ => line
  List.replicate pending ' ' ++ text

/-- The rest of a line up to and including its line feed. -/
def restOfLine (c : Cursor) : Text :=
  c.rest.take (Scan.toLineFeed c.rest)

/-- Read indented code. Blank lines are kept once another line of code follows
them; answers the text, where it ends, the next line, and whether the last line
read was blank. -/
def indentedCode (k : Context) (text held : Text) (blank : Bool) (stop : Nat) :
    Nat → Margin → Text × Nat × Cursor × Bool
  | 0, m => (text, stop, m.cursor, blank)
  | n + 1, m =>
    let line := restOfLine m.cursor
    let next := m.cursor.advance line.length
    let held := held ++ literalLine m.pending line
    let (text, held, stop) :=
      if blank then (text, held, stop) else (text ++ held, [], next.pos)
    let (place, after) := k.line next
    let (missing, after) := after.useColumns 4
    if !place.allContinued || (missing ≠ 0 && !after.atLineEnd) || after.rest.isEmpty then
      (text, stop, next, blank)
    else indentedCode k text held (Scan.isBlankLine after.rest) stop n after

/-- Read fenced code from the line after its fence on; answers the text, where the
block ends, and the next line. -/
def fencedCode (k : Context) (indent : Nat) (fence : Char) (length : Nat) (text : Text) :
    Nat → Cursor → Text × Nat × Cursor
  | 0, c => (text, c.pos, c)
  | n + 1, c =>
    let (place, m) := k.line c
    if !place.allContinued then (text, c.pos, c)
    else
      let m := m.indent indent
      let (missing, closing) := m.useColumns (4 - indent)
      match if missing = 0 then none else closingFence? fence length closing.rest with
      | some width =>
        let closed := closing.cursor.advance width
        (text, closed.pos, closed.advance ((Scan.blankLine? closed.rest).getD 0))
      | none =>
        let line := restOfLine m.cursor
        fencedCode k indent fence length (text ++ literalLine m.pending line) n
          (m.cursor.advance line.length)

/-- Read a block of HTML; answers the text, where it ends, and the next line. -/
def html (k : Context) (stop : HtmlTag.BlockEnd) (text : Text) (pending : Nat) :
    Nat → Cursor → Text × Nat × Cursor
  | 0, c => (text, c.pos, c)
  | n + 1, c =>
    let line := restOfLine c
    let next := c.advance line.length
    let text := text ++ literalLine pending line
    let (place, m) := k.line next
    let ended := match stop with
      | .containing t => Text.occursIn t line
      | .blankLine => m.atLineEnd
    if !place.allContinued || ended then (text, next.pos, next)
    else if m.rest.isEmpty || (stop = .blankLine && Scan.isBlankLine m.rest) then
      (text, m.cursor.pos, next)
    else html k stop text m.pending n m.cursor

/-! ### Headings -/

/-- The length of a heading's text without the `#`s that close it and the spaces
around them. -/
def headingLength (t : Text) : Nat :=
  let trimmed := Text.dropEndWhile (fun c => c = '\n' || c = '\r' || c = ' ') t
  let unclosed := Text.dropEndWhile (· = '#') trimmed
  let unspaced := Text.dropEndWhile (· = ' ') unclosed
  if unclosed.isEmpty then 0
  else if unspaced.length < unclosed.length then unspaced.length
  else trimmed.length

/-- Cut the last token, the first of the list, at a position, if it is text. -/
def cutText (stop : Nat) : List Token → List Token
  | ⟨.text, start, _⟩ :: older => ⟨.text, start, stop⟩ :: older
  | tokens => tokens

/-- Read a heading from after its `#`s; answers its content, and the next
line. -/
def heading (k : Context) (c : Cursor) : Content × Cursor :=
  match Scan.lineEnd? c.rest with
  | some n => (⟨[], c.pos + n⟩, c.advance n)
  | none =>
    let c := c.advance (Scan.countBlanks c.rest)
    let (tokens, next, ending) := Line.read ⟨k.extensions, k.containers, .plain, c⟩
    -- A backslash at the end of a heading breaks no line and is text.
    let tokens := match ending with
      | .lineBreak ⟨.hardBreak true, start, stop⟩ => ⟨.text, start, stop⟩ :: tokens
      | _ => tokens
    let length := headingLength (c.textTo next.pos)
    (⟨(cutText (c.pos + length) tokens).reverse, next.pos⟩, next)

/-! ### Tables -/

/-- Read the cells of a row; answers them newest first, and the next line. -/
def cells (k : Context) (read : List Content) : Nat → Cursor → List Content × Cursor
  | 0, c => (read, c)
  | n + 1, c =>
    let c := c.advance (if Scan.startsWithChar '|' c.rest then 1 else 0)
    let c := c.advance (Scan.countBlanks c.rest)
    match Scan.lineEnd? c.rest with
    | some width => (read, c.advance width)
    | none =>
      let (tokens, next, _) := Line.read ⟨k.extensions, k.containers, .cell, c⟩
      cells k (⟨tokens.reverse, next.pos⟩ :: read) n next

/-- Read a row of a table: missing cells are empty, further cells are dropped.
A row without cells is none. -/
def row? (k : Context) (columns : Nat) (c : Cursor) : Option (List Content × Cursor) :=
  match cells k [] k.bound c with
  | ([], _) => none
  | (read, next) =>
    let empty : Content := ⟨[], next.pos⟩
    some ((read.reverse ++ List.replicate (columns - read.length) empty).take columns, next)

/-- Read the rows of a table after its header; answers them newest first, and the
next line. -/
def rows (k : Context) (columns : Nat) (read : List (List Content)) :
    Nat → Cursor → List (List Content) × Cursor
  | 0, c => (read, c)
  | n + 1, c =>
    let (place, m) := k.line c
    let m := m.skipBlanks
    if !place.allContinued || endsParagraph { place with leaf := .table } m.rest then (read, c)
    else
      match row? k columns m.cursor with
      | some (cells, next) => rows k columns (cells :: read) n next
      | none => (read, c)

/-! ### Paragraphs -/

/-- What the lines of a paragraph turn out to be. -/
inductive Paragraph where
  | text (content : Content) (next : Cursor)
  | heading (level : Nat) (content : Content) (next : Cursor)
  | table (header : Cursor) (columns : Nat) (body : Cursor)

/-- Read the lines of a paragraph, with the tokens before them, newest first. Only
its first line may be the header of a table. -/
def paragraph (k : Context) (mode : Line.Mode) (tokens : List Token) :
    Nat → Cursor → Paragraph
  | 0, c => .text ⟨tokens.reverse, c.pos⟩ c
  | n + 1, c =>
    let (line, next, ending) := Line.read ⟨k.extensions, k.containers, mode, c⟩
    let tokens := line ++ tokens
    match ending with
    | .table columns => .table c columns next
    | _ =>
      let (place, m) := k.line next
      let (missing, m) := m.useColumns 4
      -- A backslash at the end of the last line breaks no line and is text.
      let closed := match ending with
        | .lineBreak ⟨.hardBreak true, start, _⟩ => Token.mk .text start (start.pos + 1) :: tokens
        | _ => tokens
      let text := Paragraph.text ⟨closed.reverse, next.pos⟩ next
      match if missing ≠ 0 && place.allContinued then underline? m.rest else none with
      | some (level, width) =>
        let after := m.cursor.advance width
        .heading level ⟨closed.reverse, after.pos⟩ after
      | none =>
        let content := m.skipBlanks
        if (missing ≠ 0 && interrupts place m.cursor) || content.atLineEnd then text
        else
          let tokens := match ending with
            | .lineBreak token => token :: tokens
            | _ => tokens
          paragraph k .plain tokens n content.cursor

end BlockStructure

namespace Outline

open Opening BlockStructure

/-! ### Leaf blocks -/

/-- Append a block other than a list item or a paragraph. -/
def appendLeaf (o : Outline) (node : Node) : Outline :=
  o.finishList.append node

/-- Read a paragraph, a table or an underlined heading, with the checkbox of the
item that it starts. -/
def readParagraph (x : Extensions) (bound : Nat) (task : Option Bool) (c : Cursor)
    (o : Outline) : Outline × Cursor :=
  let afterDefinition := match o.innermost?, o.siblings with
    | some (.definitionList _), .container (.definition _) _ :: _ => true
    | _, _ => false
  let o := if afterDefinition then { o with afterBlank := false } else o.finishList
  let k : Context := ⟨x, o.containers, bound⟩
  let boxes := task.toList.map fun checked => Token.mk (.checkbox checked) c c.pos
  let mode := if x.tables then Line.Mode.maybeHeader else .plain
  match paragraph k mode boxes bound c with
  | .text content next =>
    (o.append (if afterDefinition then .possibleTerm content else .paragraph content), next)
  | .heading level content next => (o.append (.heading level content), next)
  | .table header columns body =>
    let head := match row? k columns header with
      | some (cells, _) => cells
      | none => []
    let (read, next) := rows k columns [] bound body
    (o.append (.table head read.reverse), next)

/-- Read the link reference definitions at the start of a paragraph. Answers the
outline with them, and where the paragraph goes on, or else the next line: like a
line of a paragraph, the one after a definition need not start with the prefixes
of the containers. -/
def readDefinitions (x : Extensions) : Nat → Cursor → Outline → Outline × Cursor × Bool
  | 0, c, o => (o, c, true)
  | n + 1, c, o =>
    match Definition.read? ⟨x, o.containers⟩ c with
    | none => (o, c, true)
    | some (definition, next) =>
      let o := { o with definitions := definition :: o.definitions }
      let (continued, m) := Container.matching o.containers (Margin.ofLine next)
      let (missing, m) := m.useColumns 4
      let content := m.skipBlanks
      if (missing ≠ 0 && interrupts ⟨x, o.containers, continued, .preamble⟩ m.cursor) ||
          content.atLineEnd then
        (o.finishList, next, false)
      else readDefinitions x n content.cursor o

/-- Read the leaf block that starts behind a margin. -/
def readLeaf (x : Extensions) (bound : Nat) (m : Margin) (o : Outline) : Outline × Cursor :=
  let k : Context := ⟨x, o.finishList.containers, bound⟩
  let (indent, m) := m.indentUpTo 4
  let c := m.cursor
  if indent = 4 then
    let (text, stop, next, blank) := indentedCode k [] [] false c.pos bound m
    let node := Node.code none text ⟨c.pos, stop⟩
    ({ o.appendLeaf node with afterBlank := blank }, next)
  else
    match HtmlTag.block? c.rest with
    | some stop =>
      let (text, stop, next) := html k stop [] indent bound c
      (o.appendLeaf (.html text ⟨c.pos, stop⟩), next)
    | none =>
    match rule? c.rest with
    | some n => (o.appendLeaf .rule, c.advance n)
    | none =>
    match heading? c.rest with
    | some level =>
      let (content, next) := heading k (c.advance level)
      (o.appendLeaf (.heading level content), next)
    | none =>
    match fence? c.rest with
    | some (char, length) =>
      let opening := c.advance length
      let opening := opening.advance (Scan.countBlanks opening.rest)
      let line := restOfLine opening
      let info := Entity.decode false (Text.dropEndWhile Scan.isAsciiBlank line)
      let (text, stop, next) :=
        fencedCode k indent char length [] bound (opening.advance line.length)
      (o.appendLeaf (.code (some info) text ⟨c.pos, stop⟩), next)
    | none =>
    match readDefinitions x bound c o with
    | (o, c, true) => o.readParagraph x bound none c
    | (o, next, false) => (o, next)

/-! ### Containers -/

/-- The length of the mark of an alert, with its line end: `[!NOTE]` or another of
the five kinds, alone on the rest of its line. -/
def alertMark? (t : Text) : Option Nat :=
  match t with
  | '[' :: '!' :: t =>
    let kind := t.takeWhile (· ≠ ']')
    let kinds := ["note", "tip", "important", "warning", "caution"].map String.toList
    if kinds.contains (Text.toLower kind) && kind.length < t.length then
      (Scan.blankLine? (t.drop (kind.length + 1))).map (kind.length + 3 + ·)
    else none
  | _ => none

/-- What is left of a line after its containers are opened. -/
inductive Opened where
  /-- Nothing: reading goes on at the next line. -/
  | finished (o : Outline) (next : Cursor)
  /-- A leaf block or a blank line. -/
  | leaf (o : Outline) (m : Margin)
  /-- The text of a task. -/
  | task (checked : Bool) (o : Outline) (m : Margin)

/-- After the marker of an item: a blank line begins it without content. -/
def beginItem? (o : Outline) (m : Margin) : Option Opened :=
  (Scan.blankLine? m.rest).map fun n =>
    .finished { o with itemBegun := true } (m.cursor.advance n)

/-- After the checkbox of an item: the rest of the line starts a paragraph,
whatever it looks like. -/
def beginTask (o : Outline) (checked : Bool) (m : Margin) : Opened :=
  (beginItem? (o.append (.checkbox checked)) m).getD (.task checked o m.skipBlanks)

/-- After the mark of an alert: its first line may go on without prefixes, as
that of a paragraph. -/
def beginAlert (x : Extensions) (o : Outline) (c : Cursor) : Opened :=
  let containers := o.containers
  let (continued, m) := Container.matching containers (Margin.ofLine c)
  let (missing, m) := m.useColumns 4
  if missing ≠ 0 && interrupts ⟨x, containers, continued, .preamble⟩ m.cursor then .finished o c
  else .leaf o m.skipBlanks

/-- Open the containers whose markers follow, at most as many as the first
number says. -/
def openContainers (x : Extensions) : Nat → Margin → Outline → Opened
  | 0, m, o => .leaf o m
  | n + 1, m, o =>
    let (outer, inner) := m.indentUpTo 4
    if outer = 4 then .leaf o m
    else
      match listItem? outer inner with
      | some (marker, columns, after) =>
        let o := (o.continueList marker).push (.item columns)
        match beginItem? o after, if x.taskLists then checkbox? after else none with
        | some opened, _ => opened
        | none, some (checked, content) => beginTask o checked content
        | none, none => openContainers x n after o
      | none =>
        match (if x.definitionLists then definition? outer inner else none),
          o.continueDefinitions? with
        | some (columns, after), some o =>
          let o := if o.afterBlank then { o.loosenAt 0 with afterBlank := false } else o
          let o := o.push (.definition columns)
          (beginItem? o after).getD (openContainers x n after o)
        | _, _ =>
          match inner.quoteMarker? with
          | some after =>
            let o := o.finishList.push .quote
            match if x.alerts then alertMark? after.rest else none with
            | some width => beginAlert x o (after.cursor.advance width)
            | none => openContainers x n after o
          | none => .leaf o m

/-! ### Documents -/

/-- Read the block that starts at a line, and the next line. -/
def readBlock (x : Extensions) (bound : Nat) (c : Cursor) (o : Outline) : Outline × Cursor :=
  let (continued, m) := Container.matching o.containers (Margin.ofLine c)
  let o := o.closeMany (o.frames.length - continued)
  match openContainers x (Scan.toLineFeed c.rest + 1) m o with
  | .finished o next => (o, next)
  | .task checked o m => o.readParagraph x bound (some checked) m.cursor
  | .leaf o m =>
    match Scan.blankLine? m.rest with
    | some n => (o.blankLine, m.cursor.advance n)
    | none => o.readLeaf x bound m

/-- Read blocks up to the end of the text, at most as many as the first number
says. -/
def readBlocks (x : Extensions) (bound : Nat) : Nat → Cursor → Outline → Outline
  | 0, _, o => o
  | n + 1, c, o =>
    if c.atEnd then o
    else
      let (o, next) := o.readBlock x bound c
      readBlocks x bound n next o

/-- The outline of a text. -/
def ofText (x : Extensions) (t : Text) : Outline :=
  let bound := t.length + 1
  let o := readBlocks x bound bound (Cursor.start t) empty
  o.closeMany o.frames.length

/-- What a label refers to: the first definition of it. -/
def lookup? (o : Outline) (sameLabel : Text → Text → Bool) (label : Text) : Option Text :=
  (o.definitions.reverse.find? fun d => sameLabel d.label label).map Definition.url

end Outline

end TelegramMarkdown.Markdown
