import TelegramMarkdown.Markdown.InlineStructure
import TelegramMarkdown.Unicode.CaseFold

/-!
The events of a Markdown text (`Markdown.events`), read off its outline.
-/

namespace TelegramMarkdown.Markdown

namespace Node

/-- What making events depends on. -/
structure Context where
  extensions : Extensions
  lookup? : Text → Option Text

/-- The events of the content of a leaf block. -/
def contentEvents (k : Context) (containers : List Container) (inTable : Bool) (c : Content) :
    List Event :=
  Inlines.events ⟨k.extensions, containers, inTable, c.stop, k.lookup?⟩ c.tokens

/-- The events of a row of a table. -/
def rowEvents (k : Context) (containers : List Container) (tag : Tag) (row : List Content) :
    List Event :=
  Event.element tag (row.flatMap fun cell =>
    Event.element .tableCell (contentEvents k containers true cell))

/-- The element of a container. -/
def containerTag : Container → Tag
  | .quote => .quote
  | .list _ ordered _ => .list ordered
  | .item _ => .item
  | .definitionList _ => .definitionList
  | .definition _ => .definition

mutual

/-- The events of a block, inside containers, outermost first. In an item of a
tight list a paragraph is no element of its own. -/
def events (k : Context) (containers : List Container) (tight : Bool) : Node → List Event
  | .paragraph content | .possibleTerm content =>
    let inner := contentEvents k containers false content
    if tight then inner else Event.element .paragraph inner
  | .heading level content =>
    Event.element (.heading level) (contentEvents k containers false content)
  | .rule => [.rule]
  | .code info text span => Event.element (.codeBlock info span) [.text text]
  | .html raw span => Event.element (.htmlBlock span) [.html raw span]
  | .table header rows =>
    Event.element .table
      (rowEvents k containers .tableHead header ++
        rows.flatMap (rowEvents k containers .tableRow))
  | .checkbox checked => [.checkbox checked]
  | .term content => Event.element .term (contentEvents k containers false content)
  | .container kind children =>
    let tight := if kind.isItem then tight else kind.isTightList
    Event.element (containerTag kind) (allEvents k (containers ++ [kind]) tight children)

/-- The events of blocks, one after the other. -/
def allEvents (k : Context) (containers : List Container) (tight : Bool) :
    List Node → List Event
  | [] => []
  | node :: rest => node.events k containers tight ++ allEvents k containers tight rest

end

end Node

/-- Whether two labels refer to the same definition: they differ at most in
letter case. -/
def sameLabel (a b : Text) : Bool :=
  Unicode.foldCase a = Unicode.foldCase b

/-- The events of a text. -/
def events (x : Extensions) (t : Text) : List Event :=
  let o := Outline.ofText x t
  Node.allEvents ⟨x, o.lookup? sameLabel⟩ [] false o.blocks.reverse

/-- The spans of a text that hold no prose to be looked at. -/
def verbatimSpans (x : Extensions) (t : Text) : List Span :=
  (events x t).filterMap Event.verbatim?

end TelegramMarkdown.Markdown
