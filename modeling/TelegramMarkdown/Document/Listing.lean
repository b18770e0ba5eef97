import TelegramMarkdown.Document
import TelegramMarkdown.Unicode.Printable

/-!
A document as a listing of its tree, one name or value per line, indented by
depth (`Document.listing`).
-/

namespace TelegramMarkdown

/-- A value as it is listed. -/
inductive Listing where
  /-- A name, a number or a quoted text. -/
  | word (text : Text)
  /-- A name and values in parentheses. -/
  | tuple (name : Text) (arguments : List Listing)
  /-- A name and named values in braces. -/
  | record (name : Text) (fields : List (Text × Listing))
  /-- Values in brackets. -/
  | list (elements : List Listing)

namespace Listing

/-! ### Quoted text -/

/-- A character inside a literal, whose quote needs a backslash. -/
def escapeChar (quote c : Char) : Text :=
  if c = '\x00' then "\\0".toList
  else if c = '\t' then "\\t".toList
  else if c = '\r' then "\\r".toList
  else if c = '\n' then "\\n".toList
  else if c = '\\' || c = quote then ['\\', c]
  else if Unicode.isPrintable c then [c]
  else "\\u\x7b".toList ++ Nat.toDigits 16 c.toNat ++ ['\x7d']

/-- A text in double quotes. -/
def text (t : Text) : Listing :=
  .word ('"' :: t.flatMap (escapeChar '"') ++ ['"'])

/-- A character in single quotes. -/
def char (c : Char) : Listing :=
  .word ('\'' :: escapeChar '\'' c ++ ['\''])

/-- A truth value. -/
def bool (b : Bool) : Listing :=
  .word (if b then "true".toList else "false".toList)

/-- A number. -/
def nat (n : Nat) : Listing :=
  .word (Text.ofNat n)

/-- A record, with its names as strings. -/
def ofFields (name : String) (fields : List (String × Listing)) : Listing :=
  .record name.toList (fields.map fun (label, value) => (label.toList, value))

/-- A name with one value in parentheses. -/
def wrap (name : String) (value : Listing) : Listing :=
  .tuple name.toList [value]

/-! ### Printing -/

/-- Every step of depth is four spaces. -/
def deeper (indent : Text) : Text :=
  indent ++ "    ".toList

mutual

/-- A listing as text; lines after the first are indented. -/
def print (indent : Text) : Listing → Text
  | .word t => t
  | .tuple name arguments =>
    name ++ "(\n".toList ++ printAll (deeper indent) arguments ++ indent ++ [')']
  | .record name fields =>
    name ++ " \x7b\n".toList ++ printFields (deeper indent) fields ++ indent ++ ['\x7d']
  | .list [] => "[]".toList
  | .list (first :: rest) =>
    "[\n".toList ++ (deeper indent ++ print (deeper indent) first ++ ",\n".toList) ++
      printAll (deeper indent) rest ++ indent ++ [']']

/-- Listings, each on a line of its own with a comma. -/
def printAll (indent : Text) : List Listing → Text
  | [] => []
  | first :: rest => indent ++ print indent first ++ ",\n".toList ++ printAll indent rest

/-- Named listings, each on a line of its own with a comma. -/
def printFields (indent : Text) : List (Text × Listing) → Text
  | [] => []
  | (label, value) :: rest =>
    indent ++ label ++ ": ".toList ++ print indent value ++ ",\n".toList ++
      printFields indent rest

end

end Listing

/-! ### Documents -/

mutual

/-- The listing of an inline. -/
def Inline.toListing : Inline → Listing
  | .literal t => .wrap "Literal" (.text t)
  | .emphasis delimiter count children =>
    .ofFields "Emphasis"
      [("delimiter_char", .char delimiter), ("delimiter_count", .nat count),
        ("children", .list (Inline.toListings children))]
  | .link url isImage children =>
    .ofFields "Link"
      [("url", .text url), ("is_image", .bool isImage),
        ("children", .list (Inline.toListings children))]
  | .codeSpan content => .wrap "CodeSpan" (.text content)
  | .lineBreak => .word "LineBreak".toList
  | .htmlTag tag => .wrap "HtmlInline" (.text tag)
  | .autolink url => .wrap "Autolink" (.text url)
  | .spoiler content => .wrap "Spoiler" (.text content)
  | .container children => .wrap "Container" (.list (Inline.toListings children))

/-- The listings of inlines. -/
def Inline.toListings : List Inline → List Listing
  | [] => []
  | inline :: rest => inline.toListing :: Inline.toListings rest

end

mutual

/-- The listing of a block. -/
def Block.toListing : Block → Listing
  | .heading level inlines =>
    .ofFields "Heading"
      [("level", .nat level), ("inlines", .list (Inline.toListings inlines))]
  | .paragraph inlines =>
    .ofFields "Paragraph" [("inlines", .list (Inline.toListings inlines))]
  | .list ordered items =>
    .wrap "List"
      (.ofFields "List" [("ordered", .bool ordered), ("items", .list (ListItem.toListings items))])
  | .quote blocks => .ofFields "Quote" [("blocks", .list (Block.toListings blocks))]
  | .codeBlock info lines =>
    .ofFields "CodeBlock"
      [("info", match info with
          | some info => .wrap "Some" (.text info)
          | none => .word "None".toList),
        ("lines", .list (lines.map .text))]
  | .table rows => .ofFields "Table" [("rows", .list (Block.rowListings rows))]
  | .rule => .word "ThematicBreak".toList
  | .html raw => .ofFields "HtmlBlock" [("raw", .text raw)]
  | .container blocks => .ofFields "Container" [("blocks", .list (Block.toListings blocks))]

/-- The listings of blocks. -/
def Block.toListings : List Block → List Listing
  | [] => []
  | block :: rest => block.toListing :: Block.toListings rest

/-- The listings of the cells of a row. -/
def Block.cellListings : List (List Block) → List Listing
  | [] => []
  | cell :: rest => .list (Block.toListings cell) :: Block.cellListings rest

/-- The listings of the rows of a table. -/
def Block.rowListings : List (List (List Block)) → List Listing
  | [] => []
  | row :: rest => .list (Block.cellListings row) :: Block.rowListings rest

/-- The listing of a list item. -/
def ListItem.toListing : ListItem → Listing
  | { isTask, checked, taskText, blocks } =>
    .ofFields "ListItem"
      [("is_task", .bool isTask), ("task_checked", .bool checked), ("task_text", .text taskText),
        ("blocks", .list (Block.toListings blocks))]

/-- The listings of list items. -/
def ListItem.toListings : List ListItem → List Listing
  | [] => []
  | item :: rest => item.toListing :: ListItem.toListings rest

end

/-- The listing of a document. -/
def Document.listing (document : Document) : Text :=
  (Listing.ofFields "Document" [("blocks", .list (Block.toListings document.blocks))]).print []

end TelegramMarkdown
