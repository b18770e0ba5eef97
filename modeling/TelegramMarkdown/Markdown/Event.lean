import TelegramMarkdown.Markdown.Cursor

/-!
Events: a Markdown text as a sequence of the elements that start and end in it
and of what stands between.

Elements are nested, so every `enter` has its `exit`. Events of verbatim source,
in which no prose is looked for, carry the span of the source that they cover
(`Event.verbatim?`).
-/

namespace TelegramMarkdown.Markdown

/-- What starts at an `enter`. -/
inductive Tag where
  | paragraph
  | heading (level : Nat)
  | quote
  /-- Code, with the info string of its fence if it has one. -/
  | codeBlock (info : Option Text) (span : Span)
  | htmlBlock (span : Span)
  | list (ordered : Bool)
  | item
  | definitionList
  | term
  | definition
  | table
  | tableHead
  | tableRow
  | tableCell
  /-- Emphasis, by a run of so many delimiters. -/
  | emphasis (delimiter : Char) (count : Nat)
  | link (url : Text) (span : Span)
  | image (url : Text) (span : Span)
  /-- A URL or address between angle brackets. -/
  | autolink (url : Text) (span : Span)
  deriving DecidableEq

namespace Tag

/-- Whether the element stands inside text. -/
def isInline : Tag → Bool
  | emphasis .. | link .. | image .. | autolink .. => true
  | _ => false

/-- The source of an element that holds no prose to be looked at. -/
def verbatim? : Tag → Option Span
  | codeBlock _ span | htmlBlock span | link _ span | image _ span | autolink _ span => some span
  | _ => none

end Tag

/-- One step through a document. -/
inductive Event where
  /-- An element starts. -/
  | enter (tag : Tag)
  /-- The element that started last and has not ended yet ends. -/
  | exit
  | text (text : Text)
  /-- A code span. -/
  | code (content : Text) (span : Span)
  /-- A part of a block of HTML. -/
  | html (raw : Text) (span : Span)
  /-- Raw HTML inside text. -/
  | inlineHtml (raw : Text) (span : Span)
  | softBreak
  | hardBreak
  /-- A thematic break. -/
  | rule
  /-- The checkbox of a task. -/
  | checkbox (checked : Bool)
  deriving DecidableEq

namespace Event

/-- The source of an event that holds no prose to be looked at. -/
def verbatim? : Event → Option Span
  | code _ span | html _ span | inlineHtml _ span => some span
  | enter tag => tag.verbatim?
  | _ => none

/-- The events of an element. -/
def element (tag : Tag) (inner : List Event) : List Event :=
  .enter tag :: inner ++ [.exit]

end Event

end TelegramMarkdown.Markdown
