import TelegramMarkdown.BareUrl
import TelegramMarkdown.Markdown.Event
import TelegramMarkdown.Spoiler

/-!
The document that a sequence of events describes (`Document.ofEvents`).

The events are read by recursive descent: for each kind of element one function
reads from after its `enter` up to and including the matching `exit`. Inlines
that stand directly among blocks, as in the items of tight lists, are gathered
into paragraphs. Text that is complete is searched for spoilers and bare URLs.
-/

namespace TelegramMarkdown

open Markdown (Event Tag)

namespace Builder

/-- What building depends on. -/
structure Context where
  /-- Whether bare URLs become links. -/
  autolinks : Bool
  /-- The contents of the spoilers, by the numbers of their placeholders. -/
  hidden : List Text

/-- What is still to be read. -/
structure Stream where
  events : List Event
  /-- The checkbox of the innermost open item, if one was read. -/
  task : Option Bool
  /-- How many links are open. -/
  linkDepth : Nat

/-! ### Inlines -/

/-- Put an inline after others, newest first. Adjacent literals are one. -/
def push (read : List Inline) : Inline → List Inline
  | .literal t =>
    match read with
    | .literal u :: older => .literal (u ++ t) :: older
    | _ => .literal t :: read
  | inline => inline :: read

/-- Search an inline for spoilers, if there are any, and for bare URLs outside of
links. -/
def finishOne (k : Context) (linkDepth : Nat) : Inline → List Inline
  | .literal t =>
    let pieces := if k.hidden.isEmpty then [Inline.literal t] else Spoiler.restore k.hidden t
    pieces.flatMap fun
      | .literal t => if k.autolinks && linkDepth = 0 then BareUrl.linkify t else [.literal t]
      | piece => [piece]
  | inline => [inline]

/-- Inlines that are complete, from those read, newest first. -/
def finish (k : Context) (s : Stream) (read : List Inline) : List Inline :=
  read.reverse.flatMap (finishOne k s.linkDepth)

/-- The paragraph of the inlines read, if there are any. -/
def flush (k : Context) (s : Stream) (read : List Inline) : List Block :=
  if read.isEmpty then [] else [.paragraph (finish k s read)]

/-- The name of a raw HTML tag, after a `/` if the tag closes. -/
def tagName (raw : Text) : Text :=
  let name (t : Text) : Text := t.takeWhile Char.isAlphanum
  match (Text.trim raw).dropWhile (· = '<') with
  | '/' :: t => '/' :: name t
  | t => name t

/-- An event that is no element: the inlines read with it, newest first, and the
checkbox that it tells of. -/
def readEvent (e : Event) (read : List Inline) (s : Stream) : List Inline × Stream :=
  match e with
  | .text t => (push read (.literal t), s)
  | .code content _ => (push read (.codeSpan content), s)
  | .softBreak | .hardBreak => (push read .lineBreak, s)
  | .inlineHtml raw _ | .html raw _ => (push read (.htmlTag (tagName raw)), s)
  | .checkbox checked => (read, { s with task := some checked })
  | .enter _ | .exit | .rule => (read, s)

/-- The text of an element that holds nothing but text, and the events after
it. -/
def rawText : List Event → Text × List Event
  | [] => ([], [])
  | .exit :: rest => ([], rest)
  | .text t :: rest | .html t _ :: rest =>
    let (more, rest) := rawText rest
    (t ++ more, rest)
  | _ :: rest => rawText rest

mutual

/-- The inlines up to the end of the element, with those read before, newest
first. -/
def inlines (k : Context) : Nat → List Inline → Stream → List Inline × Stream
  | 0, read, s => (finish k s read, s)
  | n + 1, read, s =>
    match s.events with
    | [] => (finish k s read, s)
    | e :: rest =>
      let s := { s with events := rest }
      match e with
      | .exit => (finish k s read, s)
      | .enter tag =>
        let (inline, s) := inlineElement k n tag s
        inlines k n (push read inline) s
      | e =>
        let (read, s) := readEvent e read s
        inlines k n read s

/-- An element among inlines. The label of an autolink repeats its URL, which
alone is kept. -/
def inlineElement (k : Context) : Nat → Tag → Stream → Inline × Stream
  | 0, _, s => (.container [], s)
  | n + 1, tag, s =>
    match tag with
    | .emphasis c count =>
      let (children, s) := inlines k n [] s
      (.emphasis c count children, s)
    | .link url _ =>
      let (children, s) := label k n s
      (.link url false children, s)
    | .image url _ =>
      let (children, s) := label k n s
      (.link url true children, s)
    | .autolink url _ =>
      let (_, s) := label k n s
      (.autolink url, s)
    | _ =>
      let (children, s) := inlines k n [] s
      (.container children, s)

/-- The inlines of a link, in which no URL becomes a link. -/
def label (k : Context) : Nat → Stream → List Inline × Stream
  | 0, s => ([], s)
  | n + 1, s =>
    let (children, after) := inlines k n [] { s with linkDepth := s.linkDepth + 1 }
    (children, { after with linkDepth := after.linkDepth - 1 })

end

/-! ### Blocks -/

/-- The text right after the checkbox of a task: the literal that its first
paragraph starts with. -/
def taskText : List Block → Text
  | .paragraph (.literal t :: _) :: _ => Text.trimStart t
  | _ => []

/-- The cells up to the end of a row. -/
def cells (k : Context) : Nat → Stream → List (List Block) × Stream
  | 0, s => ([], s)
  | n + 1, s =>
    match s.events with
    | [] => ([], s)
    | e :: rest =>
      let s := { s with events := rest }
      match e with
      | .exit => ([], s)
      | .enter .tableCell =>
        let (content, s) := inlines k n [] s
        let (more, s) := cells k n s
        ([.paragraph content] :: more, s)
      | _ => cells k n s

/-- The rows up to the end of a table, those of its header and of its body
alike. -/
def rows (k : Context) : Nat → Stream → List (List (List Block)) × Stream
  | 0, s => ([], s)
  | n + 1, s =>
    match s.events with
    | [] => ([], s)
    | e :: rest =>
      let s := { s with events := rest }
      match e with
      | .exit => ([], s)
      | .enter .tableHead | .enter .tableRow =>
        let (row, s) := cells k n s
        let (more, s) := rows k n s
        (row :: more, s)
      | _ => rows k n s

mutual

/-- The blocks up to the end of the element, after the inlines read before, newest
first. -/
def blocks (k : Context) : Nat → List Inline → Stream → List Block × Stream
  | 0, read, s => (flush k s read, s)
  | n + 1, read, s =>
    match s.events with
    | [] => (flush k s read, s)
    | e :: rest =>
      let s := { s with events := rest }
      match e with
      | .exit => (flush k s read, s)
      | .rule =>
        let (more, after) := blocks k n [] s
        (flush k s read ++ .rule :: more, after)
      | .enter tag =>
        if tag.isInline then
          let (inline, s) := inlineElement k n tag s
          blocks k n (push read inline) s
        else
          let (block, after) := blockElement k n tag s
          let (more, after) := blocks k n [] after
          (flush k s read ++ block :: more, after)
      | e =>
        let (read, s) := readEvent e read s
        blocks k n read s

/-- An element among blocks. An alert is a quotation, and a term is a
paragraph. -/
def blockElement (k : Context) : Nat → Tag → Stream → Block × Stream
  | 0, _, s => (.container [], s)
  | n + 1, tag, s =>
    match tag with
    | .paragraph | .term =>
      let (content, s) := inlines k n [] s
      (.paragraph content, s)
    | .heading level =>
      let (content, s) := inlines k n [] s
      (.heading level content, s)
    | .quote =>
      let (children, s) := blocks k n [] s
      (.quote children, s)
    | .codeBlock info _ =>
      let (text, rest) := rawText s.events
      (.codeBlock (info.filter (!·.isEmpty)) (Text.lines text), { s with events := rest })
    | .htmlBlock _ =>
      let (raw, rest) := rawText s.events
      (.html (Text.dropEndWhile (fun c => c = '\r' || c = '\n') raw), { s with events := rest })
    | .list ordered =>
      let (children, s) := items k n s
      (.list ordered children, s)
    | .table =>
      let (content, s) := rows k n s
      (.table content, s)
    | _ =>
      let (children, s) := blocks k n [] s
      (.container children, s)

/-- The items up to the end of a list. -/
def items (k : Context) : Nat → Stream → List ListItem × Stream
  | 0, s => ([], s)
  | n + 1, s =>
    match s.events with
    | [] => ([], s)
    | e :: rest =>
      let s := { s with events := rest }
      match e with
      | .exit => ([], s)
      | .enter .item =>
        let (first, s) := item k n s
        let (more, s) := items k n s
        (first :: more, s)
      | _ => items k n s

/-- The blocks of an item, which is a task if a checkbox is read among them. The
checkbox of the item around it is kept apart. -/
def item (k : Context) : Nat → Stream → ListItem × Stream
  | 0, s => (⟨false, false, [], []⟩, s)
  | n + 1, s =>
    let (children, after) := blocks k n [] { s with task := none }
    let item : ListItem := match after.task with
      | some checked => ⟨true, checked, taskText children, children⟩
      | none => ⟨false, false, [], children⟩
    (item, { after with task := s.task })

end

end Builder

/-- The document that events describe, with the spoilers that placeholders stand
for. -/
def Document.ofEvents (autolinks : Bool) (hidden : List Text) (events : List Event) : Document :=
  let fuel := 3 * events.length + 3
  ⟨(Builder.blocks ⟨autolinks, hidden⟩ fuel [] ⟨events, none, 0⟩).1⟩

end TelegramMarkdown
