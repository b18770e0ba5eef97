import TelegramMarkdown.Render.Html

/-!
Blocks and documents as MarkdownV2.

MarkdownV2 has no headings, lists or tables: a heading is bold, a list is one
line per item, a table is a block of code. A quotation puts `>` before each line
of what it holds. A document is the concatenation of its blocks without the
blanks around it (`Document.render`).
-/

namespace TelegramMarkdown

/-! ### Tables and code -/

/-- The fence around code. -/
def fence : Text := "```".toList

/-- Lines of code, escaped, between fences. -/
def renderCode (info : Text) (lines : List Text) : Text :=
  fence ++ Escape.code info ++ ['\n'] ++
    lines.flatMap (fun line => Escape.code line ++ ['\n']) ++ fence ++ "\n\n".toList

/-- The plain text of a cell: that of its paragraphs. -/
def cellText (cell : List Block) : Text :=
  cell.flatMap fun
    | .paragraph inlines => Inline.plainAll inlines
    | _ => []

/-- A row of a table as a line of text. -/
def rowText (row : List (List Block)) : Text :=
  Text.join " | ".toList (row.map cellText)

/-! ### Quotations -/

/-- Put `>` before every line that is not empty, and a line feed after it. A line
ends with a carriage return or a line feed. -/
def quoteLines (t : Text) : Text :=
  let lines := Text.splitAt (fun c => c = '\r' || c = '\n') t
  (lines.filter (!·.isEmpty)).flatMap fun line => '>' :: line ++ ['\n']

/-! ### Blocks -/

/-- A rule between blocks, on a line of its own. -/
def ruleText : Text := "\n\\-\\-\\-\n\n".toList

/-- What a list item starts with: its number, or a bullet. -/
def bullet (ordered : Bool) (number : Nat) : Text :=
  if ordered then Text.ofNat number ++ "\\. ".toList else "• ".toList

/-- The checkbox of a task. -/
def checkbox (checked : Bool) : Text :=
  if checked then "\\[x\\] ".toList else "\\[ \\] ".toList

mutual

/-- A block as MarkdownV2. -/
def Block.render : Block → Text
  | .heading _ inlines => Marker.bold ++ Inline.renderAll inlines ++ Marker.bold ++ "\n\n".toList
  | .paragraph inlines => Inline.renderAll inlines ++ "\n\n".toList
  | .list ordered items => Block.renderItems ordered [] 1 items ++ ['\n']
  | .quote blocks => Block.renderQuoted blocks ++ ['\n']
  | .codeBlock info lines => renderCode (info.getD []) lines
  | .table rows => renderCode [] (rows.map rowText)
  | .rule => ruleText
  | .html raw => Html.render raw ++ "\n\n".toList
  | .container blocks => Block.renderAll blocks

/-- Blocks as MarkdownV2, one after the other. -/
def Block.renderAll : List Block → Text
  | [] => []
  | block :: rest => block.render ++ Block.renderAll rest

/-- The blocks of a quotation, each rendered and then quoted line by line. -/
def Block.renderQuoted : List Block → Text
  | [] => []
  | block :: rest => quoteLines block.render ++ Block.renderQuoted rest

/-- The items of a list, from a given number on, one line each. -/
def Block.renderItems (ordered : Bool) (indent : Text) (number : Nat) : List ListItem → Text
  | [] => []
  | item :: rest =>
    item.render ordered indent number ++ Block.renderItems ordered indent (number + 1) rest

/-- An item of a list. A task of a list without numbers is its checkbox and its
task text; any other item is its blocks. -/
def ListItem.render (ordered : Bool) (indent : Text) (number : Nat) : ListItem → Text
  | { isTask, checked, taskText, blocks } =>
    if !ordered && isTask then
      indent ++ "\\- ".toList ++ checkbox checked ++ Escape.prose taskText ++ ['\n']
    else
      indent ++ bullet ordered number ++ Block.renderInItem indent blocks ++ ['\n']

/-- The blocks of a list item. Paragraphs add no space; a nested list starts on
a line of its own and is indented by two spaces more. -/
def Block.renderInItem (indent : Text) : List Block → Text
  | [] => []
  | .paragraph inlines :: rest => Inline.renderAll inlines ++ Block.renderInItem indent rest
  | .list ordered items :: rest =>
    '\n' :: Text.trimEnd (Block.renderItems ordered (indent ++ [' ', ' ']) 1 items) ++
      Block.renderInItem indent rest
  | block :: rest => block.render ++ Block.renderInItem indent rest

end

/-- A document as MarkdownV2, without blanks around it. -/
def Document.render (document : Document) : Text :=
  Text.trim (Block.renderAll document.blocks)

/-- What the parse mode of the rendered text is called. -/
def parseMode : Text := "MarkdownV2".toList

end TelegramMarkdown
