import TelegramMarkdown.Markdown.Definition
import TelegramMarkdown.Markdown.Token

/-!
The outline of a document: its block structure, with the inline content of the
leaf blocks still in tokens, and the blocks that are open while it is read.
-/

namespace TelegramMarkdown.Markdown

/-- The inline content of a leaf block: its tokens, and the position where the
block ends. -/
structure Content where
  tokens : List Token
  stop : Nat

/-- A block of an outline. -/
inductive Node where
  | paragraph (content : Content)
  | heading (level : Nat) (content : Content)
  | rule
  /-- Code, with the info string of its fence if it has one. -/
  | code (info : Option Text) (text : Text) (span : Span)
  | html (text : Text) (span : Span)
  /-- A table: the cells of its header, and those of its other rows. -/
  | table (header : List Content) (rows : List (List Content))
  /-- The checkbox of an item that holds nothing else on its first line. -/
  | checkbox (checked : Bool)
  /-- What a definition defines. -/
  | term (content : Content)
  /-- A paragraph after a definition, and the term of the next one if that
  follows. -/
  | possibleTerm (content : Content)
  | container (kind : Container) (children : List Node)

/-- A container that is open, and its blocks so far, newest first. -/
structure Frame where
  kind : Container
  children : List Node

namespace Frame

/-- Whether a node is a term or a definition. -/
def isEntry : Node → Bool
  | .term _ => true
  | .container kind _ => kind.isDefinition
  | _ => false

/-- The nodes that a closed container leaves behind, newest first. A list of
definitions ends with its last definition; what follows stands after it. -/
def close (f : Frame) : List Node :=
  match f.kind with
  | .definitionList _ =>
    let children := f.children.reverse
    let entries := children.takeWhile isEntry
    let others := (children.dropWhile isEntry).map fun
      | .possibleTerm content => .paragraph content
      | node => node
    others.reverse ++ [.container f.kind entries]
  | _ => [.container f.kind f.children.reverse]

end Frame

/-- A document that is read up to the start of some line. -/
structure Outline where
  /-- The open containers, innermost first. -/
  frames : List Frame
  /-- The blocks outside of them, newest first. -/
  blocks : List Node
  /-- The last line was a list item without content so far. -/
  itemBegun : Bool
  /-- The last line was blank. -/
  afterBlank : Bool
  /-- The link reference definitions, newest first. -/
  definitions : List Definition

namespace Outline

/-- Nothing read. -/
def empty : Outline :=
  ⟨[], [], false, false, []⟩

/-- The open containers, outermost first. -/
def containers (o : Outline) : List Container :=
  o.frames.reverse.map Frame.kind

/-- The innermost open container. -/
def innermost? (o : Outline) : Option Container :=
  o.frames.head?.map Frame.kind

/-- The blocks of the innermost open container, newest first. -/
def siblings (o : Outline) : List Node :=
  match o.frames with
  | f :: _ => f.children
  | [] => o.blocks

/-- Replace the blocks of the innermost open container. -/
def setSiblings (o : Outline) (nodes : List Node) : Outline :=
  match o.frames with
  | f :: rest => { o with frames := { f with children := nodes } :: rest }
  | [] => { o with blocks := nodes }

/-- Append a block to the innermost open container. -/
def append (o : Outline) (node : Node) : Outline :=
  o.setSiblings (node :: o.siblings)

/-- Open a container. -/
def push (o : Outline) (kind : Container) : Outline :=
  { o with frames := ⟨kind, []⟩ :: o.frames }

/-- Close the innermost open container. -/
def close (o : Outline) : Outline :=
  match o.frames with
  | [] => o
  | f :: rest =>
    let outer := { o with frames := rest }
    let ended := match f.kind with
      | .definitionList _ => true
      | kind => kind.isTightList
    let outer := outer.setSiblings (f.close ++ outer.siblings)
    { outer with itemBegun := outer.itemBegun && !ended }

/-- Close the innermost `n` open containers. -/
def closeMany : Nat → Outline → Outline
  | 0, o => o
  | n + 1, o => closeMany n o.close

/-- Make the `n`-th innermost open container loose, if it is a list. -/
def loosenAt (o : Outline) (n : Nat) : Outline :=
  { o with frames := o.frames.modify n fun f => { f with kind := f.kind.loosen } }

/-- An item that begins with more than one blank line is empty: close it. -/
def finishEmptyItem (o : Outline) : Outline :=
  let o := if o.itemBegun && o.afterBlank && o.innermost?.any Container.isItem then o.close else o
  { o with itemBegun := false }

/-- Before a block that is not an item: close the list that ended on the line
before. A blank line before a block inside an item makes the list loose. -/
def finishList (o : Outline) : Outline :=
  let o := o.finishEmptyItem
  let o := if o.innermost?.any Container.isList then o.close else o
  if o.afterBlank then { o.loosenAt 1 with afterBlank := false } else o

/-- Before a list item: go on with the open list if its markers are the same, or
else start a list. -/
def continueList (o : Outline) (marker : Opening.Marker) : Outline :=
  let o := o.finishEmptyItem
  let start (o : Outline) : Outline :=
    { o.push (.list marker.char marker.number.isSome true) with afterBlank := false }
  match o.innermost? with
  | some (.list char _ _) =>
    if char = marker.char then
      if o.afterBlank then { o.loosenAt 0 with afterBlank := false } else o
    else start o.finishList
  | some _ => start o.finishList
  | none => start o

/-- Before a definition: the outline in which the list of definitions is open, if
what comes before is a term or a definition. -/
def continueDefinitions? (o : Outline) : Option Outline :=
  match o.siblings with
  | .paragraph content :: older =>
    let o := (o.setSiblings older).push (.definitionList true)
    some (o.append (.term content))
  | .possibleTerm content :: older => some (o.setSiblings (.term content :: older))
  | .container (.definition _) _ :: _ => some o
  | _ => none

/-- A blank line. An item that begins with one has no indentation any more by
which a line could continue it. -/
def blankLine (o : Outline) : Outline :=
  match o.frames with
  | [] => { o with afterBlank := true }
  | f :: rest =>
    match f.kind with
    | .quote => o
    | .item _ =>
      if o.itemBegun then { o with frames := { f with kind := .item 0 } :: rest, afterBlank := true }
      else { o with afterBlank := true }
    | .definition _ =>
      if o.itemBegun then
        { o with frames := { f with kind := .definition 0 } :: rest, afterBlank := true }
      else { o with afterBlank := true }
    | _ => { o with afterBlank := true }

end Outline

end TelegramMarkdown.Markdown
