import TelegramMarkdown.Proofs.Forest

/-!
The builder reads an element as the forest it is.

Every function of the builder, put at the start of the children of its element, reads
up to and including the `exit` that ends the element, leaves what follows untouched,
and answers what structural recursion over the children gives (`Builder.inlines_eq`,
`Builder.blocks_eq`, ...). The steps that the functions are allowed are counted by the
events of the element alone, so what follows may be as long as it likes.
-/

namespace TelegramMarkdown.Builder

open Markdown (Event Tag EventTree)
open Markdown.EventTree (eventsAll AllShaped)
open Fold

/-! ### Gathering inlines -/

/-- The inlines of a run as the builder keeps them: joined, newest first. -/
def gather (run : List Inline) : List Inline :=
  run.foldl push []

theorem gather_concat (run : List Inline) (inline : Inline) :
    gather (run ++ [inline]) = push (gather run) inline := by
  simp [gather]

/-- Joining may start with the first two literals. -/
theorem joined_literal_literal (t u : Text) (run : List Inline) :
    joined (.literal t :: .literal u :: run) = joined (.literal (t ++ u) :: run) := by
  rw [joined, joined, joined]
  cases joined run with
  | nil => rfl
  | cons first rest => cases first <;> simp

theorem foldl_push_eq_joined (newest : Inline) (older run : List Inline) :
    (run.foldl push (newest :: older)).reverse = older.reverse ++ joined (newest :: run) := by
  induction run generalizing newest older with
  | nil => cases newest <;> simp [joined]
  | cons inline run ih =>
    rw [List.foldl_cons]
    cases inline with
    | literal u =>
      cases newest with
      | literal t =>
        rw [joined_literal_literal]
        exact ih (.literal (t ++ u)) older
      | _ => simp [push, ih, joined]
    | _ => cases newest <;> simp [push, ih, joined]

theorem reverse_gather (run : List Inline) : (gather run).reverse = joined run := by
  cases run with
  | nil => rfl
  | cons inline run =>
    have first : push [] inline = [inline] := by cases inline <;> rfl
    rw [gather, List.foldl_cons, first, foldl_push_eq_joined]
    rfl

theorem finish_gather (k : Context) (s : Stream) (run : List Inline) :
    finish k s (gather run) = complete k s.linkDepth run := by
  rw [finish, reverse_gather, complete]

theorem gather_isEmpty (run : List Inline) : (gather run).isEmpty = run.isEmpty := by
  rw [← List.isEmpty_reverse, reverse_gather]
  cases run with
  | nil => rfl
  | cons inline run =>
    cases inline with
    | literal t =>
      rw [joined]
      split <;> rfl
    | _ => rfl

theorem flush_gather (k : Context) (s : Stream) (run : List Inline) :
    flush k s (gather run) = paragraph k s.linkDepth run := by
  rw [flush, paragraph, finish_gather, gather_isEmpty]

/-! ### Checkboxes -/

/-- The checkbox that is known after some more have been read. -/
def taskAfter (task : Option Bool) (found : List Bool) : Option Bool :=
  found.getLast?.or task

@[simp] theorem taskAfter_nil (task : Option Bool) : taskAfter task [] = task := rfl

theorem taskAfter_append (task : Option Bool) (a b : List Bool) :
    taskAfter task (a ++ b) = taskAfter (taskAfter task a) b := by
  simp [taskAfter, List.getLast?_append, Option.or_assoc]

/-! ### Text -/

section

variable (k : Context)

/-- An event that is no element is read as its inlines and its checkbox. -/
theorem readEvent_gather {event : Event} (plain : event.IsPlain) (run : List Inline)
    (s : Stream) :
    readEvent event (gather run) s =
      (gather (run ++ leaf event),
        { s with task := taskAfter s.task (boxes true (.leaf event)) }) := by
  cases event with
  | enter _ => exact plain.elim
  | exit => exact plain.elim
  | rule => simp [readEvent, leaf, boxes]
  | checkbox checked => simp [readEvent, leaf, boxes, taskAfter]
  | text t => simp [readEvent, leaf, boxes, gather_concat]
  | code content span => simp [readEvent, leaf, boxes, gather_concat]
  | html raw span => simp [readEvent, leaf, boxes, gather_concat]
  | inlineHtml raw span => simp [readEvent, leaf, boxes, gather_concat]
  | softBreak => simp [readEvent, leaf, boxes, gather_concat]
  | hardBreak => simp [readEvent, leaf, boxes, gather_concat]

/-- How inlines are read: the statement about `inlines`, for the children of one
element. -/
def ReadsInlines (forest : List EventTree) : Prop :=
  ∀ (n : Nat) (run : List Inline) (rest : List Event) (task : Option Bool) (depth : Nat),
    3 * (eventsAll forest).length + 1 ≤ n →
    inlines k n (gather run) ⟨eventsAll forest ++ .exit :: rest, task, depth⟩ =
      (complete k depth (run ++ inlineAll k depth forest),
        ⟨rest, taskAfter task (boxesAll true forest), depth⟩)

/-- If the children of an element are read right, so is the element. -/
theorem inlineElement_eq {children : List EventTree} (ih : ReadsInlines k children) (tag : Tag)
    {n : Nat} (rest : List Event) (task : Option Bool) (depth : Nat)
    (enough : 3 * (eventsAll children).length + 3 ≤ n) :
    ∃ element, inlineElement k n tag ⟨eventsAll children ++ .exit :: rest, task, depth⟩ =
        (element, ⟨rest, taskAfter task (boxesAll true children), depth⟩) ∧
      inlineOf k depth (.node tag children) = [element] := by
  obtain ⟨m, rfl⟩ : ∃ m, n = m + 2 := ⟨n - 2, by omega⟩
  have inside : inlines k (m + 1) [] ⟨eventsAll children ++ .exit :: rest, task, depth⟩ =
      (complete k depth (inlineAll k depth children),
        ⟨rest, taskAfter task (boxesAll true children), depth⟩) :=
    ih (m + 1) [] rest task depth (by omega)
  have inLink : label k (m + 1) ⟨eventsAll children ++ .exit :: rest, task, depth⟩ =
      (complete k (depth + 1) (inlineAll k (depth + 1) children),
        ⟨rest, taskAfter task (boxesAll true children), depth⟩) := by
    have deeper : inlines k m [] ⟨eventsAll children ++ .exit :: rest, task, depth + 1⟩ =
        (complete k (depth + 1) (inlineAll k (depth + 1) children),
          ⟨rest, taskAfter task (boxesAll true children), depth + 1⟩) :=
      ih m [] rest task (depth + 1) (by omega)
    simp [label, deeper]
  cases tag with
  | emphasis c count => exact ⟨_, by simp only [inlineElement, inside], rfl⟩
  | link url span => exact ⟨_, by simp only [inlineElement, inLink], rfl⟩
  | image url span => exact ⟨_, by simp only [inlineElement, inLink], rfl⟩
  | autolink url span => exact ⟨_, by simp only [inlineElement, inLink], rfl⟩
  | _ => exact ⟨_, by simp only [inlineElement, inside], rfl⟩

/-! The events of a forest, from its first tree on. -/

theorem eventsAll_leaf (event : Event) (others : List EventTree) (tail : List Event) :
    eventsAll (.leaf event :: others) ++ tail = event :: (eventsAll others ++ tail) := by
  simp [eventsAll, EventTree.events]

theorem eventsAll_node (tag : Tag) (children others : List EventTree) (tail : List Event) :
    eventsAll (.node tag children :: others) ++ tail =
      .enter tag :: (eventsAll children ++ .exit :: (eventsAll others ++ tail)) := by
  simp [eventsAll, EventTree.events, Event.element]

theorem length_eventsAll_leaf (event : Event) (others : List EventTree) :
    (eventsAll (.leaf event :: others)).length = (eventsAll others).length + 1 := by
  simp [eventsAll, EventTree.events, Nat.add_comm]

theorem length_eventsAll_node (tag : Tag) (children others : List EventTree) :
    (eventsAll (.node tag children :: others)).length =
      (eventsAll children).length + (eventsAll others).length + 2 := by
  simp only [eventsAll, EventTree.events, Event.element, List.length_append, List.length_cons,
    List.length_nil]
  omega

theorem boxes_node_inText (tag : Tag) (children : List EventTree) :
    boxes true (.node tag children) = boxesAll true children := by
  cases tag <;> rfl

theorem inlines_plain {event : Event} (plain : event.IsPlain) (n : Nat) (read : List Inline)
    (events : List Event) (task : Option Bool) (depth : Nat) :
    inlines k (n + 1) read ⟨event :: events, task, depth⟩ =
      let (read, s) := readEvent event read ⟨events, task, depth⟩
      inlines k n read s := by
  cases event with
  | enter _ | exit => exact plain.elim
  | _ => rfl

theorem inlines_eq : ∀ {forest : List EventTree}, AllShaped forest → ReadsInlines k forest
  | [], _ => by
    intro n run rest task depth enough
    obtain ⟨m, rfl⟩ : ∃ m, n = m + 1 := ⟨n - 1, by omega⟩
    simp [inlines, eventsAll, inlineAll, boxesAll, finish_gather]
  | .leaf event :: others, shaped => by
    intro n run rest task depth enough
    have ih := inlines_eq shaped.2
    rw [length_eventsAll_leaf] at enough
    obtain ⟨m, rfl⟩ : ∃ m, n = m + 1 := ⟨n - 1, by omega⟩
    rw [eventsAll_leaf, inlines_plain k shaped.1, readEvent_gather shaped.1]
    dsimp only
    rw [ih m _ rest _ depth (by omega), inlineAll, boxesAll, taskAfter_append, inlineOf,
      List.append_assoc]
  | .node tag children :: others, shaped => by
    intro n run rest task depth enough
    have inner := inlines_eq shaped.1.2
    have ih := inlines_eq shaped.2
    rw [length_eventsAll_node] at enough
    obtain ⟨m, rfl⟩ : ∃ m, n = m + 1 := ⟨n - 1, by omega⟩
    obtain ⟨element, read, same⟩ := inlineElement_eq k inner tag
      (eventsAll others ++ .exit :: rest) task depth (n := m) (by omega)
    rw [eventsAll_node, inlines]
    dsimp only
    rw [read]
    dsimp only
    rw [← gather_concat, ih m _ rest _ depth (by omega), inlineAll, same, boxesAll,
      taskAfter_append, boxes_node_inText, List.append_assoc]

/-- The inlines of an element are those of its children. -/
theorem inlines_eq_fold {forest : List EventTree} (shaped : AllShaped forest) {n : Nat}
    (rest : List Event) (task : Option Bool) (depth : Nat)
    (enough : 3 * (eventsAll forest).length + 1 ≤ n) :
    inlines k n [] ⟨eventsAll forest ++ .exit :: rest, task, depth⟩ =
      (Fold.inlines k depth forest, ⟨rest, taskAfter task (boxesAll true forest), depth⟩) :=
  inlines_eq k shaped n [] rest task depth enough

/-! ### Code, HTML and tables -/

theorem rawText_eq : ∀ {forest : List EventTree}, (∀ tree ∈ forest, tree.IsRaw) →
    ∀ rest : List Event, rawText (eventsAll forest ++ .exit :: rest) = (raw forest, rest)
  | [], _, rest => rfl
  | .leaf event :: others, pieces, rest => by
    obtain ⟨first, more⟩ := List.forall_mem_cons.mp pieces
    have ih := rawText_eq more rest
    rw [eventsAll_leaf]
    cases event with
    | text t => simp [rawText, raw, ih]
    | html t span => simp [rawText, raw, ih]
    | _ => exact first.elim
  | .node _ _ :: _, pieces, _ => (pieces _ List.mem_cons_self).elim

theorem cells_eq : ∀ {forest : List EventTree}, AllShaped forest →
    (∀ tree ∈ forest, tree.IsCell) →
    ∀ (n : Nat) (rest : List Event) (task : Option Bool) (depth : Nat),
      3 * (eventsAll forest).length + 1 ≤ n →
      cells k n ⟨eventsAll forest ++ .exit :: rest, task, depth⟩ =
        (Fold.cells k depth forest, ⟨rest, taskAfter task (boxesAll true forest), depth⟩)
  | [], _, _, n, rest, task, depth, enough => by
    obtain ⟨m, rfl⟩ : ∃ m, n = m + 1 := ⟨n - 1, by omega⟩
    rfl
  | .leaf _ :: _, _, only, _, _, _, _, _ => (only _ List.mem_cons_self).elim
  | .node tag children :: others, shaped, only, n, rest, task, depth, enough => by
    obtain ⟨first, more⟩ := List.forall_mem_cons.mp only
    obtain rfl : tag = .tableCell := by
      cases tag with
      | tableCell => rfl
      | _ => exact first.elim
    rw [length_eventsAll_node] at enough
    obtain ⟨m, rfl⟩ : ∃ m, n = m + 1 := ⟨n - 1, by omega⟩
    have content := inlines_eq_fold k shaped.1.2 (n := m)
      (eventsAll others ++ .exit :: rest) task depth (by omega)
    have ih := cells_eq shaped.2 more m rest (taskAfter task (boxesAll true children)) depth
      (by omega)
    rw [eventsAll_node, cells]
    simp only [content, ih, Fold.cells, boxesAll, boxes_node_inText, taskAfter_append]

theorem rows_eq : ∀ {forest : List EventTree}, AllShaped forest →
    (∀ tree ∈ forest, tree.IsRow) →
    ∀ (n : Nat) (rest : List Event) (task : Option Bool) (depth : Nat),
      3 * (eventsAll forest).length + 1 ≤ n →
      rows k n ⟨eventsAll forest ++ .exit :: rest, task, depth⟩ =
        (Fold.rows k depth forest, ⟨rest, taskAfter task (boxesAll true forest), depth⟩)
  | [], _, _, n, rest, task, depth, enough => by
    obtain ⟨m, rfl⟩ : ∃ m, n = m + 1 := ⟨n - 1, by omega⟩
    rfl
  | .leaf _ :: _, _, only, _, _, _, _, _ => (only _ List.mem_cons_self).elim
  | .node tag children :: others, shaped, only, n, rest, task, depth, enough => by
    obtain ⟨first, more⟩ := List.forall_mem_cons.mp only
    rw [length_eventsAll_node] at enough
    obtain ⟨m, rfl⟩ : ∃ m, n = m + 1 := ⟨n - 1, by omega⟩
    have areCells : ∀ tree ∈ children, tree.IsCell := by
      cases tag with
      | tableHead | tableRow => exact shaped.1.1
      | _ => exact first.elim
    have row := cells_eq k shaped.1.2 areCells m (eventsAll others ++ .exit :: rest) task depth
      (by omega)
    have ih := rows_eq shaped.2 more m rest (taskAfter task (boxesAll true children)) depth
      (by omega)
    cases tag with
    | tableHead | tableRow =>
      rw [eventsAll_node, rows]
      simp only [row, ih, Fold.rows, boxesAll, boxes_node_inText, taskAfter_append]
    | _ => exact first.elim

/-! ### Blocks -/

/-- What is left where the children of an element end, or where the events end. -/
inductive Ends : (tail rest : List Event) → Prop where
  | exit (rest : List Event) : Ends (.exit :: rest) rest
  | nothing : Ends [] []

/-- How blocks are read: the statement about `blocks`, for the children of one
element or all of the events. -/
def ReadsBlocks (forest : List EventTree) : Prop :=
  ∀ (n : Nat) (run : List Inline) (tail rest : List Event) (task : Option Bool) (depth : Nat),
    Ends tail rest → 3 * (eventsAll forest).length + 1 ≤ n →
    blocks k n (gather run) ⟨eventsAll forest ++ tail, task, depth⟩ =
      (assemble k depth run (partAll k depth forest),
        ⟨rest, taskAfter task (boxesAll false forest), depth⟩)

/-- How items are read. The checkboxes in them are none of the state around them. -/
def ReadsItems (forest : List EventTree) : Prop :=
  (∀ tree ∈ forest, tree.IsItem) →
  ∀ (n : Nat) (rest : List Event) (task : Option Bool) (depth : Nat),
    3 * (eventsAll forest).length + 1 ≤ n →
    items k n ⟨eventsAll forest ++ .exit :: rest, task, depth⟩ =
      (Fold.items k depth forest, ⟨rest, task, depth⟩)

/-- If the children of an item are read right, so is the item. -/
theorem item_eq {children : List EventTree} (ih : ReadsBlocks k children) {n : Nat}
    (rest : List Event) (task : Option Bool) (depth : Nat)
    (enough : 3 * (eventsAll children).length + 2 ≤ n) :
    item k n ⟨eventsAll children ++ .exit :: rest, task, depth⟩ =
      (itemOf (boxesAll false children) (Fold.blocks k depth children), ⟨rest, task, depth⟩) := by
  obtain ⟨m, rfl⟩ : ∃ m, n = m + 1 := ⟨n - 1, by omega⟩
  have inside : blocks k m [] ⟨eventsAll children ++ .exit :: rest, none, depth⟩ =
      (Fold.blocks k depth children,
        ⟨rest, taskAfter none (boxesAll false children), depth⟩) :=
    ih m [] _ rest none depth (.exit rest) (by omega)
  cases last : (boxesAll false children).getLast? with
  | none => simp only [item, inside, itemOf, taskAfter, last, Option.none_or]
  | some checked => simp only [item, inside, itemOf, taskAfter, last, Option.some_or]

theorem boxesAll_of_raw : ∀ {forest : List EventTree}, (∀ tree ∈ forest, tree.IsRaw) →
    boxesAll true forest = []
  | [], _ => rfl
  | .leaf event :: others, pieces => by
    obtain ⟨first, more⟩ := List.forall_mem_cons.mp pieces
    rw [boxesAll, boxesAll_of_raw more]
    cases event with
    | text _ | html _ _ => rfl
    | _ => exact first.elim
  | .node _ _ :: _, pieces => (pieces _ List.mem_cons_self).elim

/-- If the children of an element among blocks are read right, so is the element. -/
theorem blockElement_eq {tag : Tag} {children : List EventTree}
    (shaped : (EventTree.node tag children).IsShaped) (isBlock : tag.isInline = false)
    (ihBlocks : ReadsBlocks k children) (ihItems : ReadsItems k children) {n : Nat}
    (rest : List Event) (task : Option Bool) (depth : Nat)
    (enough : 3 * (eventsAll children).length + 3 ≤ n) :
    ∃ block, blockElement k n tag ⟨eventsAll children ++ .exit :: rest, task, depth⟩ =
        (block, ⟨rest, taskAfter task (boxes false (.node tag children)), depth⟩) ∧
      partOf k depth (.node tag children) = .block block := by
  obtain ⟨m, rfl⟩ : ∃ m, n = m + 1 := ⟨n - 1, by omega⟩
  have text := inlines_eq_fold k shaped.2 (n := m) rest task depth (by omega)
  have inside : blocks k m [] ⟨eventsAll children ++ .exit :: rest, task, depth⟩ =
      (Fold.blocks k depth children,
        ⟨rest, taskAfter task (boxesAll false children), depth⟩) :=
    ihBlocks m [] _ rest task depth (.exit rest) (by omega)
  cases tag with
  | emphasis _ _ | link _ _ | image _ _ | autolink _ _ => nomatch isBlock
  | paragraph | term | heading _ => exact ⟨_, by simp only [blockElement, text]; rfl, rfl⟩
  | codeBlock info span =>
    have piece := rawText_eq shaped.1 rest
    have noBoxes := boxesAll_of_raw shaped.1
    exact ⟨_, by simp only [blockElement, piece, boxes, noBoxes]; rfl, rfl⟩
  | htmlBlock span =>
    have piece := rawText_eq shaped.1 rest
    have noBoxes := boxesAll_of_raw shaped.1
    exact ⟨_, by simp only [blockElement, piece, boxes, noBoxes]; rfl, rfl⟩
  | list ordered =>
    have content := ihItems shaped.1 m rest task depth (by omega)
    exact ⟨_, by simp only [blockElement, content]; rfl, rfl⟩
  | table =>
    have content := rows_eq k shaped.2 shaped.1 m rest task depth (by omega)
    exact ⟨_, by simp only [blockElement, content]; rfl, rfl⟩
  | _ => exact ⟨_, by simp only [blockElement, inside]; rfl, rfl⟩

theorem blocks_plain {event : Event} (plain : event.IsPlain) (noRule : event ≠ .rule) (n : Nat)
    (read : List Inline) (events : List Event) (task : Option Bool) (depth : Nat) :
    blocks k (n + 1) read ⟨event :: events, task, depth⟩ =
      let (read, s) := readEvent event read ⟨events, task, depth⟩
      blocks k n read s := by
  cases event with
  | enter _ | exit => exact plain.elim
  | rule => exact absurd rfl noRule
  | _ => rfl

theorem partOf_leaf {event : Event} (noRule : event ≠ .rule) (depth : Nat) :
    partOf k depth (.leaf event) = .text (leaf event) := by
  cases event with
  | rule => exact absurd rfl noRule
  | _ => rfl

theorem partOf_inline {tag : Tag} (isInline : tag.isInline = true) (depth : Nat)
    (children : List EventTree) :
    partOf k depth (.node tag children) = .text (inlineOf k depth (.node tag children)) ∧
      boxes false (.node tag children) = boxesAll true children := by
  cases tag with
  | emphasis _ _ | link _ _ | image _ _ | autolink _ _ => exact ⟨rfl, rfl⟩
  | _ => nomatch isInline

theorem boxes_leaf (inText : Bool) (event : Event) :
    boxes inText (.leaf event) = boxes true (.leaf event) := by
  cases event <;> rfl

mutual

theorem blocks_eq : ∀ {forest : List EventTree}, AllShaped forest → ReadsBlocks k forest
  | [], _ => by
    intro n run tail rest task depth ends enough
    obtain ⟨m, rfl⟩ : ∃ m, n = m + 1 := ⟨n - 1, by omega⟩
    cases ends <;> simp [blocks, eventsAll, partAll, assemble, boxesAll, flush_gather]
  | .leaf event :: others, shaped => by
    intro n run tail rest task depth ends enough
    have ih := blocks_eq shaped.2
    rw [length_eventsAll_leaf] at enough
    obtain ⟨m, rfl⟩ : ∃ m, n = m + 1 := ⟨n - 1, by omega⟩
    rw [eventsAll_leaf, partAll, boxesAll, boxes_leaf, taskAfter_append]
    by_cases isRule : event = .rule
    · subst isRule
      have after : blocks k m [] ⟨eventsAll others ++ tail, task, depth⟩ =
          (assemble k depth [] (partAll k depth others),
            ⟨rest, taskAfter task (boxesAll false others), depth⟩) :=
        ih m [] tail rest task depth ends (by omega)
      simp only [blocks, after, flush_gather]
      rfl
    · rw [blocks_plain k shaped.1 isRule, readEvent_gather shaped.1]
      dsimp only
      rw [ih m _ tail rest _ depth ends (by omega), partOf_leaf k isRule, assemble]
  | .node tag children :: others, shaped => by
    intro n run tail rest task depth ends enough
    have ih := blocks_eq shaped.2
    rw [length_eventsAll_node] at enough
    obtain ⟨m, rfl⟩ : ∃ m, n = m + 1 := ⟨n - 1, by omega⟩
    rw [eventsAll_node, partAll, boxesAll, taskAfter_append, blocks]
    cases isInline : tag.isInline with
    | true =>
      obtain ⟨element, read, same⟩ := inlineElement_eq k (inlines_eq k shaped.1.2) tag
        (eventsAll others ++ tail) task depth (n := m) (by omega)
      obtain ⟨samePart, sameBoxes⟩ := partOf_inline k isInline depth children
      simp only [isInline, if_true, read]
      rw [← gather_concat, ih m _ tail rest _ depth ends (by omega), samePart, sameBoxes, same,
        assemble]
    | false =>
      obtain ⟨block, read, same⟩ := blockElement_eq k shaped.1 isInline (blocks_eq shaped.1.2)
        (items_eq shaped.1.2) (eventsAll others ++ tail) task depth (n := m) (by omega)
      have after : blocks k m [] ⟨eventsAll others ++ tail,
            taskAfter task (boxes false (.node tag children)), depth⟩ =
          (assemble k depth [] (partAll k depth others),
            ⟨rest, taskAfter (taskAfter task (boxes false (.node tag children)))
              (boxesAll false others), depth⟩) :=
        ih m [] tail rest _ depth ends (by omega)
      simp only [isInline, Bool.false_eq_true, if_false, read, after, flush_gather]
      rw [same, assemble]

theorem items_eq : ∀ {forest : List EventTree}, AllShaped forest → ReadsItems k forest
  | [], _ => by
    intro _ n rest task depth enough
    obtain ⟨m, rfl⟩ : ∃ m, n = m + 1 := ⟨n - 1, by omega⟩
    rfl
  | .leaf _ :: _, _ => fun only => (only _ List.mem_cons_self).elim
  | .node tag children :: others, shaped => by
    intro only n rest task depth enough
    obtain ⟨first, more⟩ := List.forall_mem_cons.mp only
    obtain rfl : tag = .item := by
      cases tag with
      | item => rfl
      | _ => exact first.elim
    rw [length_eventsAll_node] at enough
    obtain ⟨m, rfl⟩ : ∃ m, n = m + 1 := ⟨n - 1, by omega⟩
    have content := item_eq k (blocks_eq shaped.1.2) (n := m)
      (eventsAll others ++ .exit :: rest) task depth (by omega)
    have ih := items_eq shaped.2 more m rest task depth (by omega)
    rw [eventsAll_node, items]
    simp only [content, ih]
    rfl

end

/-! ### Reading is folding -/

/-- The document of the events of a forest is the fold over the forest. -/
theorem ofEvents_eq_fold {forest : List EventTree} (shaped : AllShaped forest) :
    Document.ofEvents k.autolinks k.hidden (eventsAll forest) = ⟨Fold.blocks k 0 forest⟩ := by
  have read := blocks_eq k shaped (3 * (eventsAll forest).length + 3) [] [] [] none 0 .nothing
    (by omega)
  rw [List.append_nil] at read
  exact congrArg (fun read => (⟨read.1⟩ : Document)) read

/-- The builder is the fold over the forest that the events are those of. Put at the
first event of the children of an element, with anything after its `exit`, every
function answers what the fold answers, takes the events up to that `exit` and no
more, and leaves the count of open links as it was; an item also leaves the checkbox
as it was. All of the events together are read to their end. -/
theorem descent_eq_fold {forest : List EventTree} (shaped : AllShaped forest)
    (rest : List Event) (task : Option Bool) (depth : Nat) {n : Nat}
    (enough : 3 * (eventsAll forest).length + 3 ≤ n) :
    let s : Stream := ⟨eventsAll forest ++ .exit :: rest, task, depth⟩
    blocks k n [] s = (Fold.blocks k depth forest,
      ⟨rest, taskAfter task (boxesAll false forest), depth⟩) ∧
    item k n s = (itemOf (boxesAll false forest) (Fold.blocks k depth forest),
      ⟨rest, task, depth⟩) ∧
    ((∀ tree ∈ forest, tree.IsItem) →
      items k n s = (Fold.items k depth forest, ⟨rest, task, depth⟩)) ∧
    inlines k n [] s = (Fold.inlines k depth forest,
      ⟨rest, taskAfter task (boxesAll true forest), depth⟩) ∧
    ((∀ tree ∈ forest, tree.IsRow) →
      rows k n s = (Fold.rows k depth forest,
        ⟨rest, taskAfter task (boxesAll true forest), depth⟩)) ∧
    ((∀ tree ∈ forest, tree.IsCell) →
      cells k n s = (Fold.cells k depth forest,
        ⟨rest, taskAfter task (boxesAll true forest), depth⟩)) ∧
    ((∀ tree ∈ forest, tree.IsRaw) → rawText s.events = (raw forest, rest)) ∧
    blocks k n [] ⟨eventsAll forest, task, depth⟩ = (Fold.blocks k depth forest,
      ⟨[], taskAfter task (boxesAll false forest), depth⟩) ∧
    Document.ofEvents k.autolinks k.hidden (eventsAll forest) =
      ⟨Fold.blocks k 0 forest⟩ := by
  intro s
  have readsBlocks := blocks_eq k shaped
  have toEnd : ∀ (m : Nat) (task : Option Bool) (depth : Nat),
      3 * (eventsAll forest).length + 3 ≤ m →
      blocks k m [] ⟨eventsAll forest, task, depth⟩ = (Fold.blocks k depth forest,
        ⟨[], taskAfter task (boxesAll false forest), depth⟩) := by
    intro m task depth enough
    have read := readsBlocks m [] [] [] task depth .nothing (by omega)
    rw [List.append_nil] at read
    exact read
  refine ⟨?blocks, ?item, ?items, ?inlines, ?rows, ?cells, ?raw, ?toEnd, ?document⟩
  case blocks => exact readsBlocks n [] _ rest task depth (.exit rest) (by omega)
  case item => exact item_eq k readsBlocks rest task depth (by omega)
  case items => exact fun only => items_eq k shaped only n rest task depth (by omega)
  case inlines => exact inlines_eq_fold k shaped rest task depth (by omega)
  case rows => exact fun only => rows_eq k shaped only n rest task depth (by omega)
  case cells => exact fun only => cells_eq k shaped only n rest task depth (by omega)
  case raw => exact fun only => rawText_eq only rest
  case toEnd => exact toEnd n task depth enough
  case document => rw [Document.ofEvents, toEnd _ none 0 (Nat.le_refl _)]

/-- A tight task with a list of another task in it and text after that list, read as
the children of an item that more events follow. -/
theorem descent_eq_fold_nested_tasks :
    item ⟨false, []⟩ 60
        ⟨eventsAll [.leaf (.checkbox true), .leaf (.text [' ', 'a']), .leaf (.text ['b']),
          .node (.list false) [.node .item [.leaf (.checkbox false), .leaf (.text ['c'])]],
          .node (.emphasis '*' 1) [.leaf (.text ['d'])], .leaf .softBreak] ++
            .exit :: [.exit, .text ['e']], none, 2⟩ =
      (⟨true, true, ['a', 'b'],
        [.paragraph [.literal [' ', 'a', 'b']],
          .list false [⟨true, false, ['c'], [.paragraph [.literal ['c']]]⟩],
          .paragraph [.emphasis '*' 1 [.literal ['d']], .lineBreak]]⟩,
        ⟨[.exit, .text ['e']], none, 2⟩) :=
  (descent_eq_fold ⟨false, []⟩ (n := 60) (by
    simp [AllShaped, EventTree.IsShaped, Event.IsPlain, Tag.Holds, EventTree.IsItem])
    [.exit, .text ['e']] none 2 (by decide)).2.1

end

end TelegramMarkdown.Builder
