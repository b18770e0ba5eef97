import TelegramMarkdown.Markdown.Cursor

/-!
Raw HTML in Markdown: tags as they may stand in a line of text, and the ways in
which a line starts a block of HTML.

Between the parts of a tag a line may end. What the next line starts with is not
part of the tag then but of the containers around it; the scans take a function
`nextLine?` that passes over it, or answers nothing where a tag has to end on
its own line.
-/

namespace TelegramMarkdown.Markdown.HtmlTag

/-! ### Parts of a tag -/

/-- A scan inside a tag: the characters read so far, newest first, and the
cursor after them. -/
structure Progress where
  read : Text
  cursor : Cursor

namespace Progress

/-- Read `n` characters. -/
def take (p : Progress) (n : Nat) : Progress :=
  ⟨(p.cursor.rest.take n).reverse ++ p.read, p.cursor.advance n⟩

/-- The text that follows. -/
def rest (p : Progress) : Text :=
  p.cursor.rest

end Progress

/-- Passes over the prefixes of a line, if tags may go on in the next line. -/
abbrev NextLine := Cursor → Option Cursor

/-- Letters, digits and hyphens. -/
def isNameChar (c : Char) : Bool :=
  c.isAlphanum || c = '-'

/-- The characters of an attribute name after its first. -/
def isAttributeNameChar (c : Char) : Bool :=
  c.isAlphanum || c = '_' || c = '.' || c = ':' || c = '-'

/-- The characters of an attribute value without quotes. -/
def isBareValueChar (c : Char) : Bool :=
  !(c = '\t' || c = '\n' || c = '\r' || c = ' ' || c = '"' || c = '\'' || c = '=' ||
    c = '>' || c = '<' || c = '`')

/-- Read the end of a line and pass over the prefixes of the next one. -/
def crossLine? (nextLine? : NextLine) (p : Progress) : Option Progress :=
  match Scan.lineEnd? p.rest with
  | some (n + 1) =>
    let p := p.take (n + 1)
    (nextLine? p.cursor).map fun c => ⟨p.read, c⟩
  | _ => none

/-- Read blanks and ends of lines. At the end of the text there is nothing to
read. The first argument bounds the number of lines. -/
def blanks? (nextLine? : NextLine) : Nat → Progress → Option Progress
  | 0, p => some p
  | n + 1, p =>
    let p := p.take (Scan.countBlanks p.rest)
    match p.rest with
    | '\n' :: _ | '\r' :: _ => (crossLine? nextLine? p).bind (blanks? nextLine? n)
    | _ => some p

/-- Read up to and including the closing quote. -/
def quoted? (nextLine? : NextLine) (quote : Char) : Nat → Progress → Option Progress
  | 0, _ => none
  | n + 1, p =>
    match p.rest with
    | [] => none
    | '\n' :: _ | '\r' :: _ => (crossLine? nextLine? p).bind (quoted? nextLine? quote n)
    | c :: _ => if c = quote then some (p.take 1) else quoted? nextLine? quote n (p.take 1)

/-- Read the value of an attribute. -/
def value? (nextLine? : NextLine) (fuel : Nat) (p : Progress) : Option Progress :=
  match p.rest with
  | [] => none
  | c :: _ =>
    if c = '"' || c = '\'' then quoted? nextLine? c fuel (p.take 1)
    else
      match Scan.countWhile isBareValueChar p.rest with
      | 0 => none
      | n => some (p.take n)

/-- Read an attribute: a name, and perhaps `=` and a value. -/
def attribute? (nextLine? : NextLine) (fuel : Nat) (p : Progress) : Option Progress :=
  match p.rest with
  | [] => none
  | c :: cs =>
    if c.isAlpha || c = '_' || c = ':' then
      let named := p.take (1 + Scan.countWhile isAttributeNameChar cs)
      (blanks? nextLine? fuel named).bind fun spaced =>
        match spaced.rest with
        | '=' :: _ => (blanks? nextLine? fuel (spaced.take 1)).bind (value? nextLine? fuel)
        | _ => some named
    else none

/-- Read the attributes of an opening tag and the blanks around them, up to its
`/` or `>`. -/
def attributes? (nextLine? : NextLine) : Nat → Progress → Option Progress
  | 0, _ => none
  | fuel + 1, p =>
    (blanks? nextLine? fuel p).bind fun spaced =>
      match spaced.rest with
      | '/' :: _ | '>' :: _ => some spaced
      | _ =>
        if spaced.cursor.pos = p.cursor.pos then none
        else (attribute? nextLine? fuel spaced).bind (attributes? nextLine? fuel)

/-! ### Tags -/

/-- Read an opening or closing tag. -/
def tag? (nextLine? : NextLine) (c : Cursor) : Option Progress :=
  match c.rest with
  | '<' :: t =>
    let closing := Scan.startsWithChar '/' t
    let lead := if closing then 2 else 1
    let start : Progress := (Progress.mk [] c).take lead
    if !(start.rest.head?.any Char.isAlpha) then none
    else
      let named := start.take (Scan.countWhile isNameChar start.rest)
      let parts := if closing then some named else attributes? nextLine? (c.rest.length + 1) named
      parts.bind fun p =>
        let p := p.take (Scan.countBlanks p.rest)
        let p := if !closing && Scan.startsWithChar '/' p.rest then p.take 1 else p
        if Scan.startsWithChar '>' p.rest then some (p.take 1) else none
  | _ => none

/-! ### Comments, instructions, declarations, character data -/

/-- The length of the text up to and including the first `stop`. -/
def through? (stop : Text) : Text → Option Nat
  | [] => none
  | c :: cs =>
    if Text.startsWith (c :: cs) stop then some stop.length
    else (through? stop cs).map (· + 1)

/-- The length of a comment, an instruction, a declaration or a stretch of
character data. -/
def special? (t : Text) : Option Nat :=
  match t with
  | '<' :: '!' :: '-' :: '-' :: body =>
    match body with
    | '>' :: _ => some 5
    | '-' :: '>' :: _ => some 6
    | _ => (through? "-->".toList body).map (4 + ·)
  | '<' :: '?' :: body => (through? "?>".toList body).map (2 + ·)
  | '<' :: '!' :: c :: body =>
    if c.isAlpha then (through? ['>'] body).map (3 + ·)
    else match Text.dropLead? "[CDATA[".toList (c :: body) with
      | some data =>
        -- The first run of brackets has to be the last.
        let before := Scan.countWhile (· ≠ ']') data
        let brackets := Scan.countRun ']' (data.drop before)
        if brackets ≠ 0 && Scan.startsWithChar '>' (data.drop (before + brackets)) then
          some (9 + before + brackets + 1)
        else none
      | none => none
  | _ => none

/-- Raw HTML inside text: its characters, and the cursor after it. -/
def inline? (nextLine? : NextLine) (c : Cursor) : Option (Text × Cursor) :=
  match c.rest with
  | '<' :: '!' :: _ | '<' :: '?' :: _ =>
    (special? c.rest).map fun n => (c.rest.take n, c.advance n)
  | _ => (tag? nextLine? c).map fun p => (p.read.reverse, p.cursor)

/-! ### Blocks of HTML -/

/-- What ends a block of HTML. -/
inductive BlockEnd where
  /-- The line that holds this text. -/
  | containing (stop : Text)
  /-- The line before a blank one. -/
  | blankLine
  deriving DecidableEq

/-- The elements whose content is not Markdown, up to their closing tag. -/
def rawElements : List Text :=
  ["pre".toList, "style".toList, "script".toList, "textarea".toList]

/-- The elements that start a block of HTML in the middle of a paragraph too. -/
def blockElements : List Text :=
  ["address", "article", "aside", "base", "basefont", "blockquote", "body", "caption",
    "center", "col", "colgroup", "dd", "details", "dialog", "dir", "div", "dl", "dt",
    "fieldset", "figcaption", "figure", "footer", "form", "frame", "frameset", "h1", "h2",
    "h3", "h4", "h5", "h6", "head", "header", "hr", "html", "iframe", "legend", "li", "link",
    "main", "menu", "menuitem", "nav", "noframes", "ol", "optgroup", "option", "p", "param",
    "search", "section", "summary", "table", "tbody", "td", "tfoot", "th", "thead", "title",
    "tr", "track", "ul"].map String.toList

/-- The end of a block that starts with raw content, a comment, an instruction, a
declaration or character data. -/
def rawBlock? (t : Text) : Option BlockEnd :=
  match t with
  | '<' :: t =>
    let element? := rawElements.find? fun name =>
      Text.toLower (t.take name.length) = name &&
        match t.drop name.length with
        | [] => true
        | c :: _ => Scan.isAsciiBlank c || c = '>'
    match element? with
    | some name => some (.containing ("</".toList ++ name ++ ['>']))
    | none =>
      if Text.startsWith t "!--".toList then some (.containing "-->".toList)
      else match t with
        | '?' :: _ => some (.containing "?>".toList)
        | '!' :: c :: _ =>
          if Text.startsWith t "![CDATA[".toList then some (.containing "]]>".toList)
          else if c.isAlpha then some (.containing ['>'])
          else none
        | _ => none
  | _ => none

/-- Whether a tag of a block element starts here. -/
def startsBlockElement (t : Text) : Bool :=
  match t with
  | '<' :: t =>
    let t := if Scan.startsWithChar '/' t then t.drop 1 else t
    let n := Scan.countWhile Char.isAlphanum t
    blockElements.contains (Text.toLower (t.take n)) &&
      match t.drop n with
      | [] => true
      | '/' :: '>' :: _ => true
      | c :: _ => c = ' ' || c = '\t' || c = '\r' || c = '\n' || c = '>'
  | _ => false

/-- The end of a block of HTML that may start in the middle of a paragraph. -/
def interruptingBlock? (t : Text) : Option BlockEnd :=
  match rawBlock? t with
  | some stop => some stop
  | none => if startsBlockElement t then some .blankLine else none

/-- The end of a block of HTML that starts here; a line that holds a whole tag
and nothing else starts one too. -/
def block? (t : Text) : Option BlockEnd :=
  match interruptingBlock? t with
  | some stop => some stop
  | none =>
    (tag? (fun _ => none) ⟨0, t⟩).bind fun p =>
      if Scan.isBlankLine p.rest then some .blankLine else none

end TelegramMarkdown.Markdown.HtmlTag
