import TelegramMarkdown.Text

/-!
The document model: a document is a list of blocks, blocks hold inlines, list
items hold blocks again. A tree need not come from a Markdown text; every tree
can be rendered.
-/

namespace TelegramMarkdown

/-- Inline content of a block. -/
inductive Inline where
  /-- Plain text. -/
  | literal (text : Text)
  /-- Emphasis, known by the delimiter run that opened it: `**`, `_`, `~~`, ... -/
  | emphasis (delimiter : Char) (count : Nat) (children : List Inline)
  /-- A link, or an image, whose label is its children. -/
  | link (url : Text) (isImage : Bool) (children : List Inline)
  /-- Code between backticks. -/
  | codeSpan (content : Text)
  /-- The end of a line inside a paragraph. -/
  | lineBreak
  /-- The name of a raw HTML tag, with a leading `/` when the tag closes. -/
  | htmlTag (tag : Text)
  /-- A URL that is its own label. -/
  | autolink (url : Text)
  /-- A hidden span; its content is kept as written. -/
  | spoiler (content : Text)
  /-- A group without markup of its own. -/
  | container (children : List Inline)

mutual

/-- A block of a document. -/
inductive Block where
  /-- A heading. -/
  | heading (level : Nat) (inlines : List Inline)
  /-- A paragraph. -/
  | paragraph (inlines : List Inline)
  /-- A list, numbered when `ordered`. -/
  | list (ordered : Bool) (items : List ListItem)
  /-- A quotation. -/
  | quote (blocks : List Block)
  /-- Code, with the info string of its fence. -/
  | codeBlock (info : Option Text) (lines : List Text)
  /-- A table: rows of cells, each cell a list of blocks. -/
  | table (rows : List (List (List Block)))
  /-- A rule between blocks. -/
  | rule
  /-- Raw HTML. -/
  | html (raw : Text)
  /-- A group without markup of its own. -/
  | container (blocks : List Block)

/-- An item of a list. A task item has a checkbox and the text right after it. -/
structure ListItem where
  isTask : Bool
  checked : Bool
  taskText : Text
  blocks : List Block

end

/-- A document is the list of its blocks. -/
structure Document where
  blocks : List Block

end TelegramMarkdown
