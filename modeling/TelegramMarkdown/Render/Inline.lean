import TelegramMarkdown.Document
import TelegramMarkdown.Escape

/-!
Inlines as MarkdownV2.

Emphasis becomes a pair of equal markers; text, code and URLs are escaped for
the place they stand in (`Inline.render`). A table cell shows the text of its
inlines without any markup (`Inline.plain`).
-/

namespace TelegramMarkdown

/-! ### Markers -/

namespace Marker

/-- Bold. -/
def bold : Text := "*".toList

/-- Underline. -/
def underline : Text := "__".toList

/-- Italic. The zero-width spaces keep the underscore apart from the two
underscores of an adjacent underline marker. -/
def italic : Text := ['\u200B', '_', '\u200B']

/-- Strikethrough. -/
def strikethrough : Text := "~".toList

/-- Code. -/
def code : Text := "`".toList

/-- Spoiler. -/
def spoiler : Text := "||".toList

/-- The marker for a delimiter run of Markdown; a run that means nothing here
has none. -/
def ofDelimiter? (delimiter : Char) (count : Nat) : Option Text :=
  match delimiter, count with
  | '_', 2 => some underline
  | '*', 2 => some bold
  | '_', 1 => some italic
  | '*', 1 => some italic
  | '~', _ => some strikethrough
  | _, _ => none

/-- The HTML elements that have a marker. -/
def elements : List (Text × Text) :=
  [("b".toList, bold), ("strong".toList, bold), ("i".toList, italic), ("em".toList, italic),
    ("u".toList, underline), ("s".toList, strikethrough), ("strike".toList, strikethrough),
    ("code".toList, code)]

/-- The marker for the name of an HTML tag, in any letter case, opening or
closing. -/
def ofTag? (tag : Text) : Option Text :=
  let name := match tag with
    | '/' :: name => name
    | name => name
  elements.lookup (Text.toLower name)

end Marker

/-! ### Rendering -/

/-- The label of an image without alternative text. -/
def imageLabel : Text := "Image".toList

/-- A link with a label that is already escaped. -/
def renderLink (label url : Text) : Text :=
  '[' :: label ++ "](".toList ++ Escape.linkUrl url ++ [')']

mutual

/-- An inline as MarkdownV2. -/
def Inline.render : Inline → Text
  | .literal text => Escape.prose text
  | .emphasis delimiter count children =>
    match Marker.ofDelimiter? delimiter count with
    | some marker => marker ++ renderAll children ++ marker
    | none => renderAll children
  | .link url isImage children =>
    renderLink (renderAll children ++ if isImage && children.isEmpty then imageLabel else []) url
  | .codeSpan content => Marker.code ++ Escape.code content ++ Marker.code
  | .lineBreak => ['\n']
  | .htmlTag tag => (Marker.ofTag? tag).getD []
  | .autolink url => renderLink (Escape.prose url) url
  | .spoiler content => Marker.spoiler ++ Escape.prose content ++ Marker.spoiler
  | .container children => renderAll children

/-- Inlines as MarkdownV2, one after the other. -/
def Inline.renderAll : List Inline → Text
  | [] => []
  | inline :: rest => inline.render ++ renderAll rest

end

/-! ### Plain text -/

mutual

/-- The text of an inline without markup and without escapes. Breaks, HTML,
autolinks, spoilers and groups have none. -/
def Inline.plain : Inline → Text
  | .literal text => text
  | .emphasis _ _ children => plainAll children
  | .link _ _ children => plainAll children
  | .codeSpan content => content
  | _ => []

/-- The text of inlines without markup, one after the other. -/
def Inline.plainAll : List Inline → Text
  | [] => []
  | inline :: rest => inline.plain ++ plainAll rest

end

end TelegramMarkdown
