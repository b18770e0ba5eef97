import TelegramMarkdown.Document.OfEvents

/-!
Events as a forest, and the document of a forest by structural recursion.

Balanced events are the events of a forest of elements (`EventTree.eventsAll`). `Builder`
reads such events in a row and keeps what it has to know in its state; here the same
document is put together from the forest itself, each tree contributing its inlines,
its block, its items, rows or cells where it stands (`Fold`).
-/

namespace TelegramMarkdown

namespace Markdown

/-! ### Forests -/

/-- An element with what it holds, or an event that is no element. -/
inductive EventTree where
  | leaf (event : Event)
  | node (tag : Tag) (children : List EventTree)

namespace EventTree

mutual

/-- The events of a tree. -/
def events : EventTree → List Event
  | leaf event => [event]
  | node tag children => Event.element tag (eventsAll children)

/-- The events of a forest. -/
def eventsAll : List EventTree → List Event
  | [] => []
  | tree :: rest => tree.events ++ eventsAll rest

end

/-- An item of a list. -/
def IsItem : EventTree → Prop
  | node .item _ => True
  | _ => False

/-- A row of a table, in its header or its body. -/
def IsRow : EventTree → Prop
  | node .tableHead _ | node .tableRow _ => True
  | _ => False

/-- A cell of a table. -/
def IsCell : EventTree → Prop
  | node .tableCell _ => True
  | _ => False

/-- A piece of the text of a block of code or HTML. -/
def IsRaw : EventTree → Prop
  | leaf (.text _) | leaf (.html _ _) => True
  | _ => False

end EventTree

/-- Whether an event is neither the start nor the end of an element. -/
def Event.IsPlain : Event → Prop
  | enter _ | exit => False
  | _ => True

/-- Whether an element may hold a tree. Lists hold items only, tables hold rows, rows
hold cells, and blocks of code and HTML hold text. -/
def Tag.Holds : Tag → EventTree → Prop
  | list _, tree => tree.IsItem
  | table, tree => tree.IsRow
  | tableHead, tree | tableRow, tree => tree.IsCell
  | codeBlock _ _, tree | htmlBlock _, tree => tree.IsRaw
  | _, _ => True

mutual

/-- Whether the elements of a tree hold what they may. -/
def EventTree.IsShaped : EventTree → Prop
  | .leaf event => event.IsPlain
  | .node tag children => (∀ tree ∈ children, tag.Holds tree) ∧ EventTree.AllShaped children

/-- Whether the elements of a forest hold what they may. -/
def EventTree.AllShaped : List EventTree → Prop
  | [] => True
  | tree :: rest => tree.IsShaped ∧ EventTree.AllShaped rest

end

end Markdown

open Markdown (Event Tag EventTree)

namespace Builder.Fold

/-! ### Inlines of a forest -/

/-- Inlines with adjacent literals made one. -/
def joined : List Inline → List Inline
  | [] => []
  | .literal t :: rest =>
    match joined rest with
    | .literal u :: more => .literal (t ++ u) :: more
    | more => .literal t :: more
  | inline :: rest => inline :: joined rest

/-- A run of inlines that is complete: literals are joined, then searched for
spoilers and, outside of links, for bare URLs. -/
def complete (k : Context) (depth : Nat) (run : List Inline) : List Inline :=
  (joined run).flatMap (finishOne k depth)

/-- The inlines of an event that is no element. -/
def leaf : Event → List Inline
  | .text t => [.literal t]
  | .code content _ => [.codeSpan content]
  | .softBreak | .hardBreak => [.lineBreak]
  | .inlineHtml raw _ | .html raw _ => [.htmlTag (tagName raw)]
  | _ => []

section

variable (k : Context)

mutual

/-- What a tree adds to the inlines around it, `depth` links deep. -/
def inlineOf (depth : Nat) : EventTree → List Inline
  | .leaf event => leaf event
  | .node tag children =>
    match tag with
    | .emphasis c count => [.emphasis c count (complete k depth (inlineAll depth children))]
    | .link url _ => [.link url false (complete k (depth + 1) (inlineAll (depth + 1) children))]
    | .image url _ => [.link url true (complete k (depth + 1) (inlineAll (depth + 1) children))]
    | .autolink url _ => [.autolink url]
    | _ => [.container (complete k depth (inlineAll depth children))]

/-- What trees add to the inlines around them. -/
def inlineAll (depth : Nat) : List EventTree → List Inline
  | [] => []
  | tree :: rest => inlineOf depth tree ++ inlineAll depth rest

end

/-- The inlines of an element with the given children. -/
def inlines (depth : Nat) (children : List EventTree) : List Inline :=
  complete k depth (inlineAll k depth children)

/-! ### Checkboxes -/

mutual

/-- The checkboxes in a tree, those of the items of its lists left out. Inside text
there are no lists, whatever the tags. -/
def boxes (inText : Bool) : EventTree → List Bool
  | .leaf (.checkbox checked) => [checked]
  | .leaf _ => []
  | .node tag children =>
    match tag with
    | .list _ => if inText then boxesAll true children else []
    | .quote | .item | .definitionList | .definition | .tableHead | .tableRow | .tableCell =>
      boxesAll inText children
    | _ => boxesAll true children

/-- The checkboxes in trees. -/
def boxesAll (inText : Bool) : List EventTree → List Bool
  | [] => []
  | tree :: rest => boxes inText tree ++ boxesAll inText rest

end

/-- The checkbox of an item: the last one in it. -/
def itemOf (found : List Bool) (blocks : List Block) : ListItem :=
  match found.getLast? with
  | some checked => ⟨true, checked, taskText blocks, blocks⟩
  | none => ⟨false, false, [], blocks⟩

/-! ### Blocks of a forest -/

/-- What a tree adds to the blocks around it. -/
inductive Part where
  | text (inlines : List Inline)
  | block (block : Block)

/-- The paragraph of a run of inlines, if there are any. -/
def paragraph (depth : Nat) (run : List Inline) : List Block :=
  if run.isEmpty then [] else [.paragraph (complete k depth run)]

/-- Parts as blocks: every run of text between blocks becomes a paragraph in its
place. `run` holds the text since the last block. -/
def assemble (depth : Nat) : (run : List Inline) → List Part → List Block
  | run, [] => paragraph k depth run
  | run, .text more :: rest => assemble depth (run ++ more) rest
  | run, .block block :: rest => paragraph k depth run ++ block :: assemble depth [] rest

/-- The cells of a row. -/
def cells (depth : Nat) : List EventTree → List (List Block)
  | [] => []
  | .node _ children :: rest => [.paragraph (inlines k depth children)] :: cells depth rest
  | .leaf _ :: rest => cells depth rest

/-- The rows of a table. -/
def rows (depth : Nat) : List EventTree → List (List (List Block))
  | [] => []
  | .node _ children :: rest => cells k depth children :: rows depth rest
  | .leaf _ :: rest => rows depth rest

/-- The text of a block of code or HTML. -/
def raw : List EventTree → Text
  | [] => []
  | .leaf (.text t) :: rest => t ++ raw rest
  | .leaf (.html t _) :: rest => t ++ raw rest
  | _ :: rest => raw rest

mutual

/-- What a tree adds to the blocks around it, `depth` links deep. -/
def partOf (depth : Nat) : EventTree → Part
  | .leaf .rule => .block .rule
  | .leaf event => .text (leaf event)
  | .node tag children =>
    match tag with
    | .emphasis .. | .link .. | .image .. | .autolink .. =>
      .text (inlineOf k depth (.node tag children))
    | .paragraph | .term => .block (.paragraph (inlines k depth children))
    | .heading level => .block (.heading level (inlines k depth children))
    | .quote => .block (.quote (assemble k depth [] (partAll depth children)))
    | .codeBlock info _ =>
      .block (.codeBlock (info.filter (!·.isEmpty)) (Text.lines (raw children)))
    | .htmlBlock _ =>
      .block (.html (Text.dropEndWhile (fun c => c = '\r' || c = '\n') (raw children)))
    | .list ordered => .block (.list ordered (items depth children))
    | .table => .block (.table (rows k depth children))
    | _ => .block (.container (assemble k depth [] (partAll depth children)))

/-- What trees add to the blocks around them. -/
def partAll (depth : Nat) : List EventTree → List Part
  | [] => []
  | tree :: rest => partOf depth tree :: partAll depth rest

/-- The items of a list. -/
def items (depth : Nat) : List EventTree → List ListItem
  | [] => []
  | .node _ children :: rest =>
    itemOf (boxesAll false children) (assemble k depth [] (partAll depth children)) ::
      items depth rest
  | .leaf _ :: rest => items depth rest

end

/-- The blocks of an element with the given children. -/
def blocks (depth : Nat) (children : List EventTree) : List Block :=
  assemble k depth [] (partAll k depth children)

end

end Builder.Fold

end TelegramMarkdown
