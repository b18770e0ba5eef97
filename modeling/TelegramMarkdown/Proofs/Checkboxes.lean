import Mathlib.Data.List.Forall2
import TelegramMarkdown.Proofs.Builder

/-!
The checkbox of a list item is the last one that stands in it and in no item within it.

The builder keeps one checkbox at a time, and puts it by while it reads a nested item. What
belongs to an item is told here by where things stand (`Site`): lists are lists among blocks
only, and what stands directly in them are the items. Every item of a document is then that of
one element, in order, with the checkbox of its own (`Document.items_own_checkbox`).
-/

namespace TelegramMarkdown

open Builder (Context)

namespace Markdown

/-! ### Where things stand -/

/-- Where a tree stands. -/
inductive Site where
  /-- Among the blocks of a document, of a quotation, of an item, ... -/
  | blocks
  /-- Directly in a list among blocks. -/
  | list
  /-- In text, of a paragraph, a link, a table, ... -/
  | text
  deriving DecidableEq

/-- Where the children of an element stand. Text holds nothing but text. -/
def Tag.inside : Site → Tag → Site
  | .text, _ => .text
  | _, list _ => .list
  | _, quote | _, item | _, definitionList | _, definition => .blocks
  | _, tableHead | _, tableRow | _, tableCell => .blocks
  | _, _ => .text

namespace EventTree

mutual

/-- The items of lists in a tree, by their children, each before those in it. -/
def listItems (site : Site) : EventTree → List (List EventTree)
  | leaf _ => []
  | node tag children =>
    (if site = .list then [children] else []) ++ allListItems (tag.inside site) children

/-- The items of lists in trees. -/
def allListItems (site : Site) : List EventTree → List (List EventTree)
  | [] => []
  | tree :: rest => tree.listItems site ++ allListItems site rest

end

mutual

/-- The checkboxes in a tree that stand in no item of a list in it. -/
def ownBoxes (site : Site) : EventTree → List Bool
  | leaf (.checkbox checked) => [checked]
  | leaf _ => []
  | node tag children =>
    if site = .list then [] else allOwnBoxes (tag.inside site) children

/-- The checkboxes in trees that stand in no item of a list in them. -/
def allOwnBoxes (site : Site) : List EventTree → List Bool
  | [] => []
  | tree :: rest => tree.ownBoxes site ++ allOwnBoxes site rest

end

mutual

/-- In text there are no lists. -/
theorem listItems_text : ∀ tree : EventTree, tree.listItems .text = []
  | leaf _ => rfl
  | node _ children => allListItems_text children

theorem allListItems_text : ∀ forest : List EventTree, allListItems .text forest = []
  | [] => rfl
  | tree :: rest => by rw [allListItems, listItems_text tree, allListItems_text rest]; rfl

end

/-- The checkboxes in a list are all in its items. -/
theorem allOwnBoxes_list : ∀ {entries : List EventTree}, (∀ tree ∈ entries, tree.IsItem) →
    allOwnBoxes .list entries = []
  | [], _ => rfl
  | leaf _ :: _, only => (only _ List.mem_cons_self).elim
  | node _ _ :: _, only => by
    rw [allOwnBoxes, ownBoxes, if_pos rfl, List.nil_append]
    exact allOwnBoxes_list (List.forall_mem_cons.mp only).2

/-! ### Items that stand in lists only -/

mutual

/-- Every item in a tree, by its children, wherever it stands. -/
def items : EventTree → List (List EventTree)
  | leaf _ => []
  | node tag children => (if tag = .item then [children] else []) ++ allItems children

/-- Every item in trees. -/
def allItems : List EventTree → List (List EventTree)
  | [] => []
  | tree :: rest => tree.items ++ allItems rest

end

mutual

/-- The checkboxes in a tree that stand in no item in it. -/
def boxesOutsideItems : EventTree → List Bool
  | leaf (.checkbox checked) => [checked]
  | leaf _ => []
  | node tag children => if tag = .item then [] else allBoxesOutsideItems children

/-- The checkboxes in trees that stand in no item in them. -/
def allBoxesOutsideItems : List EventTree → List Bool
  | [] => []
  | tree :: rest => tree.boxesOutsideItems ++ allBoxesOutsideItems rest

end

mutual

/-- Whether the items in a tree are what stands directly in its lists. -/
def ItemsInLists (site : Site) : EventTree → Prop
  | leaf _ => True
  | node tag children =>
    (tag = .item ↔ site = .list) ∧ AllItemsInLists (tag.inside site) children

/-- Whether the items in trees are what stands directly in their lists. -/
def AllItemsInLists (site : Site) : List EventTree → Prop
  | [] => True
  | tree :: rest => tree.ItemsInLists site ∧ AllItemsInLists site rest

end

mutual

theorem listItems_eq_items {site : Site} : ∀ {tree : EventTree}, tree.ItemsInLists site →
    tree.listItems site = tree.items ∧ tree.ownBoxes site = tree.boxesOutsideItems
  | leaf event, _ => ⟨rfl, by cases event <;> rfl⟩
  | node tag children, inLists => by
    obtain ⟨items, boxes⟩ := allListItems_eq_items inLists.2
    rw [listItems, EventTree.items, ownBoxes, boxesOutsideItems, items, boxes]
    simp only [inLists.1, and_self]

theorem allListItems_eq_items {site : Site} : ∀ {forest : List EventTree},
    AllItemsInLists site forest →
    allListItems site forest = allItems forest ∧
      allOwnBoxes site forest = allBoxesOutsideItems forest
  | [], _ => ⟨rfl, rfl⟩
  | tree :: rest, inLists => by
    obtain ⟨items, boxes⟩ := listItems_eq_items inLists.1
    obtain ⟨moreItems, moreBoxes⟩ := allListItems_eq_items inLists.2
    rw [allListItems, allItems, allOwnBoxes, allBoxesOutsideItems, items, boxes, moreItems,
      moreBoxes]
    exact ⟨rfl, rfl⟩

end

mutual

theorem inLists_of_mem_listItems {site : Site} : ∀ {tree : EventTree}, tree.ItemsInLists site →
    ∀ children ∈ tree.listItems site, AllItemsInLists .blocks children
  | leaf _, _ => List.forall_mem_nil _
  | node tag children, inLists => by
    have inside := inLists_of_mem_allListItems inLists.2
    rw [listItems]
    split
    case isTrue isEntry =>
      obtain rfl := inLists.1.mpr isEntry
      have itself := inLists.2
      rw [isEntry] at itself
      exact List.forall_mem_cons.mpr ⟨itself, inside⟩
    case isFalse => exact inside

theorem inLists_of_mem_allListItems {site : Site} : ∀ {forest : List EventTree},
    AllItemsInLists site forest →
    ∀ children ∈ allListItems site forest, AllItemsInLists .blocks children
  | [], _ => List.forall_mem_nil _
  | _ :: _, inLists =>
    List.forall_mem_append.mpr
      ⟨inLists_of_mem_listItems inLists.1, inLists_of_mem_allListItems inLists.2⟩

end

end EventTree

end Markdown

/-! ### Items of a document -/

mutual

/-- The items of the lists in a block, each before those in it. -/
def Block.items : Block → List ListItem
  | .list _ items => Block.entries items
  | .quote blocks => Block.allItems blocks
  | .table rows => Block.rowsItems rows
  | .container blocks => Block.allItems blocks
  | _ => []

/-- The items of the lists in blocks. -/
def Block.allItems : List Block → List ListItem
  | [] => []
  | block :: rest => block.items ++ Block.allItems rest

/-- The items of a list with those of the lists in them. -/
def Block.entries : List ListItem → List ListItem
  | [] => []
  | item :: rest => item :: item.items ++ Block.entries rest

/-- The items of the lists in an item. -/
def ListItem.items : ListItem → List ListItem
  | { isTask := _, checked := _, taskText := _, blocks } => Block.allItems blocks

/-- The items of the lists in the rows of a table. -/
def Block.rowsItems : List (List (List Block)) → List ListItem
  | [] => []
  | row :: rest => Block.cellsItems row ++ Block.rowsItems rest

/-- The items of the lists in the cells of a row. -/
def Block.cellsItems : List (List Block) → List ListItem
  | [] => []
  | cell :: rest => Block.allItems cell ++ Block.cellsItems rest

end

/-- The items of the lists in a document. -/
def Document.items (document : Document) : List ListItem :=
  Block.allItems document.blocks

theorem Block.allItems_append (before after : List Block) :
    Block.allItems (before ++ after) = Block.allItems before ++ Block.allItems after := by
  induction before with
  | nil => rfl
  | cons block rest ih => rw [List.cons_append, allItems, ih, allItems, List.append_assoc]

/-- Whether an item is that of an element with such children, in which the checkboxes `own`
are its own: it holds their blocks, and is a task if it has a checkbox, checked or not like
the last one. -/
structure ListItem.IsOf (k : Context) (own : List Bool) (children : List Markdown.EventTree)
    (item : ListItem) : Prop where
  blocks : item.blocks = Builder.Fold.blocks k 0 children
  isTask : item.isTask = true ↔ own ≠ []
  checked : ∀ checked ∈ own.getLast?, item.checked = checked

namespace Builder.Fold

open Markdown (Event EventTree Site Tag)
open Markdown.EventTree (AllShaped allListItems allOwnBoxes)

theorem items_itemOf (found : List Bool) (blocks : List Block) :
    (itemOf found blocks).items = Block.allItems blocks := by
  rw [itemOf]
  split <;> rfl

/-- What the builder counts as the checkboxes of an element are those of its own. -/
theorem isOf_itemOf (k : Context) (found : List Bool) (children : List EventTree) :
    (itemOf found (blocks k 0 children)).IsOf k found children := by
  cases last : found.getLast? with
  | none =>
    have none : found = [] := List.getLast?_eq_none_iff.mp last
    rw [itemOf, last]
    exact ⟨rfl, by simp [none], by simp [last]⟩
  | some checked =>
    have some : found ≠ [] := by
      rintro rfl
      cases last
    rw [itemOf, last]
    exact ⟨rfl, by simp [some], by simp [last]⟩

mutual

theorem boxes_eq_ownBoxes : ∀ {tree : EventTree}, tree.IsShaped →
    boxes true tree = tree.ownBoxes .text ∧ boxes false tree = tree.ownBoxes .blocks
  | .leaf event, _ => by cases event <;> exact ⟨rfl, rfl⟩
  | .node tag children, shaped => by
    obtain ⟨inText, outside⟩ := boxesAll_eq_allOwnBoxes shaped.2
    refine ⟨(boxes_node_inText tag children).trans inText, ?_⟩
    cases tag with
    | list _ => exact (EventTree.allOwnBoxes_list shaped.1).symm
    | quote | item | definitionList | definition | tableHead | tableRow | tableCell =>
      exact outside
    | _ => exact inText

theorem boxesAll_eq_allOwnBoxes : ∀ {forest : List EventTree}, AllShaped forest →
    boxesAll true forest = allOwnBoxes .text forest ∧
      boxesAll false forest = allOwnBoxes .blocks forest
  | [], _ => ⟨rfl, rfl⟩
  | tree :: rest, shaped => by
    obtain ⟨inText, outside⟩ := boxes_eq_ownBoxes shaped.1
    obtain ⟨moreInText, moreOutside⟩ := boxesAll_eq_allOwnBoxes shaped.2
    rw [boxesAll, boxesAll, allOwnBoxes, allOwnBoxes, inText, outside, moreInText, moreOutside]
    exact ⟨rfl, rfl⟩

end

/-- The items of the lists in a part. -/
def Part.items : Part → List ListItem
  | .text _ => []
  | .block inner => inner.items

theorem items_assemble (k : Context) (depth : Nat) (run : List Inline) (parts : List Part) :
    Block.allItems (assemble k depth run parts) = parts.flatMap Part.items := by
  have noItems (run : List Inline) : Block.allItems (paragraph k depth run) = [] := by
    rw [paragraph]
    split <;> rfl
  induction parts generalizing run with
  | nil => exact noItems run
  | cons part rest ih =>
    cases part with
    | text more => rw [assemble, ih, List.flatMap_cons]; rfl
    | block inner =>
      rw [assemble, Block.allItems_append, noItems, Block.allItems, ih, List.flatMap_cons]
      rfl

theorem items_cells (k : Context) (depth : Nat) : ∀ forest : List EventTree,
    Block.cellsItems (cells k depth forest) = []
  | [] => rfl
  | .leaf _ :: rest => items_cells k depth rest
  | .node _ _ :: rest => items_cells k depth rest

theorem items_rows (k : Context) (depth : Nat) : ∀ forest : List EventTree,
    Block.rowsItems (rows k depth forest) = []
  | [] => rfl
  | .leaf _ :: rest => items_rows k depth rest
  | .node _ children :: rest => by
    rw [rows, Block.rowsItems, items_cells k depth children, items_rows k depth rest]
    rfl

section

variable (k : Context)

mutual

theorem items_partOf : ∀ {tree : EventTree}, tree.IsShaped →
    List.Forall₂ (fun item children => item.IsOf k (allOwnBoxes .blocks children) children)
      (partOf k 0 tree).items (tree.listItems .blocks)
  | .leaf event, _ => by cases event <;> exact .nil
  | .node tag children, shaped => by
    have inText : EventTree.allListItems .text children = [] :=
      EventTree.allListItems_text children
    have inside := items_partAll shaped.2
    rw [← items_assemble k 0 []] at inside
    cases tag with
    | list ordered => exact items_items shaped.2 shaped.1
    | quote | item | definitionList | definition | tableHead | tableRow | tableCell => exact inside
    | table =>
      have none : Block.rowsItems (rows k 0 children) = [] := items_rows k 0 children
      simp [partOf, Part.items, Block.items, none, EventTree.listItems, Tag.inside, inText]
    | _ => simp [partOf, Part.items, Block.items, EventTree.listItems, Tag.inside, inText]

theorem items_partAll : ∀ {forest : List EventTree}, AllShaped forest →
    List.Forall₂ (fun item children => item.IsOf k (allOwnBoxes .blocks children) children)
      ((partAll k 0 forest).flatMap Part.items) (allListItems .blocks forest)
  | [], _ => .nil
  | tree :: rest, shaped => by
    rw [partAll, List.flatMap_cons, allListItems]
    exact List.rel_append (items_partOf shaped.1) (items_partAll shaped.2)

theorem items_items : ∀ {entries : List EventTree}, AllShaped entries →
    (∀ tree ∈ entries, tree.IsItem) →
    List.Forall₂ (fun item children => item.IsOf k (allOwnBoxes .blocks children) children)
      (Block.entries (items k 0 entries)) (allListItems .list entries)
  | [], _, _ => .nil
  | .leaf _ :: _, _, only => (only _ List.mem_cons_self).elim
  | .node tag children :: rest, shaped, only => by
    obtain ⟨first, more⟩ := List.forall_mem_cons.mp only
    obtain rfl : tag = .item := by
      cases tag with
      | item => rfl
      | _ => exact first.elim
    have inside := items_partAll shaped.1.2
    rw [← items_assemble k 0 []] at inside
    have others := items_items shaped.2 more
    rw [← items_itemOf (allOwnBoxes .blocks children)] at inside
    rw [items, (boxesAll_eq_allOwnBoxes shaped.1.2).2]
    exact .cons (isOf_itemOf k _ children) (List.rel_append inside others)

end

end

end Builder.Fold

/-! ### Items and their checkboxes -/

open Markdown.EventTree (AllShaped AllItemsInLists eventsAll allListItems allOwnBoxes allItems
  allBoxesOutsideItems allListItems_eq_items inLists_of_mem_allListItems)

/-- The checkbox of an item is its own. For any nesting of elements, the items of the document
are, in order, those of the lists among blocks, and each of them is a task exactly if a
checkbox stands in it and in no item within it, with the state of the last such checkbox.
Where items stand nowhere else than in these lists, this says of every item there is. -/
theorem Document.items_own_checkbox {forest : List Markdown.EventTree} (shaped : AllShaped forest)
    (autolinks : Bool) (hidden : List Text) :
    let document := Document.ofEvents autolinks hidden (eventsAll forest)
    List.Forall₂ (fun item children =>
        item.IsOf ⟨autolinks, hidden⟩ (allOwnBoxes .blocks children) children)
      document.items (allListItems .blocks forest) ∧
    (AllItemsInLists .blocks forest →
      List.Forall₂ (fun item children =>
          item.IsOf ⟨autolinks, hidden⟩ (allBoxesOutsideItems children) children)
        document.items (allItems forest)) := by
  intro document
  have built : document = ⟨Builder.Fold.blocks ⟨autolinks, hidden⟩ 0 forest⟩ :=
    Builder.ofEvents_eq_fold ⟨autolinks, hidden⟩ shaped
  have listed : List.Forall₂ (fun item children =>
        item.IsOf ⟨autolinks, hidden⟩ (allOwnBoxes .blocks children) children)
      document.items (allListItems .blocks forest) := by
    rw [built, Document.items, Builder.Fold.blocks, Builder.Fold.items_assemble]
    exact Builder.Fold.items_partAll _ shaped
  refine ⟨listed, fun inLists => ?_⟩
  have same : (allListItems .blocks forest).map (fun children =>
        (allOwnBoxes .blocks children, children)) =
      (allItems forest).map (fun children => (allBoxesOutsideItems children, children)) := by
    rw [← (allListItems_eq_items inLists).1]
    apply List.map_congr_left
    intro children isItem
    rw [(allListItems_eq_items (inLists_of_mem_allListItems inLists children isItem)).2]
  -- Both say of an item that it is of a pair of boxes and children, in equal lists of pairs.
  let IsOfPair (item : ListItem) (p : List Bool × List Markdown.EventTree) : Prop :=
    item.IsOf ⟨autolinks, hidden⟩ p.1 p.2
  have paired := (List.forall₂_map_right_iff (R := IsOfPair)
    (f := fun children => (allOwnBoxes .blocks children, children))).mpr listed
  rw [same] at paired
  exact List.forall₂_map_right_iff.mp paired

/-- A task with a checkbox before and one after the list in it, whose items are another task
and, in a quotation, an item that is none. -/
theorem Document.items_own_checkbox_around_list :
    let forest : List Markdown.EventTree := [.node (.list false) [.node .item
      [.leaf (.checkbox true), .leaf (.text ['a']),
        .node (.list true) [.node .item [.node .paragraph [.leaf (.checkbox true)]],
          .node .item [.node .quote [.leaf (.text ['b'])]]],
        .node (.emphasis '*' 1) [.leaf (.checkbox false)]]]]
    List.Forall₂ (fun item children =>
        item.IsOf ⟨true, []⟩ (allBoxesOutsideItems children) children)
      (Document.ofEvents true [] (eventsAll forest)).items (allItems forest) ∧
    (allItems forest).map allBoxesOutsideItems = [[true, false], [true], []] :=
  ⟨(Document.items_own_checkbox (by simp [AllShaped, Markdown.EventTree.IsShaped,
      Markdown.Event.IsPlain, Markdown.Tag.Holds, Markdown.EventTree.IsItem]) true []).2
    (by simp [AllItemsInLists, Markdown.EventTree.ItemsInLists, Markdown.Tag.inside]),
    by decide⟩

end TelegramMarkdown
