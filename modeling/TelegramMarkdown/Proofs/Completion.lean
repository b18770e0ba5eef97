import TelegramMarkdown.Proofs.Builder
import TelegramMarkdown.Proofs.Builder.Readers

/-!
Completing a tree that is built already.

The builder completes text as it goes: it looks for spoilers and bare URLs in a run of
inlines as soon as it has read the run. Nothing that it reads afterwards depends on what
it found. So a document is the one that is built without looking for anything, with its
text completed later (`Document.ofEvents_eq_completed`).
-/

namespace TelegramMarkdown

open Builder (Context finishOne)

/-! ### Completing a tree -/

section

variable (k : Context)

mutual

/-- An inline with complete children, `depth` links deep. -/
def Inline.filled (depth : Nat) : Inline → Inline
  | .emphasis delimiter count children =>
    .emphasis delimiter count (Inline.allCompleted depth children)
  | .link url isImage children => .link url isImage (Inline.allCompleted (depth + 1) children)
  | .container children => .container (Inline.allCompleted depth children)
  | inline => inline

/-- Inlines, complete with all that they hold. -/
def Inline.allCompleted (depth : Nat) : List Inline → List Inline
  | [] => []
  | inline :: rest => finishOne k depth (inline.filled depth) ++ Inline.allCompleted depth rest

end

mutual

/-- A block, complete with all that it holds. -/
def Block.completed : Block → Block
  | .heading level inlines => .heading level (Inline.allCompleted k 0 inlines)
  | .paragraph inlines => .paragraph (Inline.allCompleted k 0 inlines)
  | .list ordered items => .list ordered (Block.itemsCompleted items)
  | .quote blocks => .quote (Block.allCompleted blocks)
  | .table rows => .table (Block.rowsCompleted rows)
  | .container blocks => .container (Block.allCompleted blocks)
  | block => block

/-- The same for blocks. -/
def Block.allCompleted : List Block → List Block
  | [] => []
  | block :: rest => block.completed :: Block.allCompleted rest

/-- The same for the items of a list. -/
def Block.itemsCompleted : List ListItem → List ListItem
  | [] => []
  | item :: rest => item.completed :: Block.itemsCompleted rest

/-- The same for an item of a list. What it shows after its checkbox is taken from its
blocks again. -/
def ListItem.completed : ListItem → ListItem
  | { isTask, checked, taskText := _, blocks } =>
    let blocks := Block.allCompleted blocks
    ⟨isTask, checked, if isTask then Builder.taskText blocks else [], blocks⟩

/-- The same for the rows of a table. -/
def Block.rowsCompleted : List (List (List Block)) → List (List (List Block))
  | [] => []
  | row :: rest => Block.cellsCompleted row :: Block.rowsCompleted rest

/-- The same for the cells of a row. -/
def Block.cellsCompleted : List (List Block) → List (List Block)
  | [] => []
  | cell :: rest => Block.allCompleted cell :: Block.cellsCompleted rest

end

/-- A document, complete with all that it holds. -/
def Document.completed (document : Document) : Document :=
  ⟨Block.allCompleted k document.blocks⟩

theorem Inline.allCompleted_eq_flatMap (depth : Nat) (inlines : List Inline) :
    Inline.allCompleted k depth inlines =
      (inlines.map (Inline.filled k depth)).flatMap (finishOne k depth) := by
  induction inlines with
  | nil => rfl
  | cons inline rest ih => rw [allCompleted, ih, List.map_cons, List.flatMap_cons]

theorem Block.allCompleted_append (before after : List Block) :
    Block.allCompleted k (before ++ after) =
      Block.allCompleted k before ++ Block.allCompleted k after := by
  induction before with
  | nil => rfl
  | cons block rest ih => rw [List.cons_append, allCompleted, ih, allCompleted, List.cons_append]

end

namespace Builder

open Markdown (Event Tag)

/-- The context in which text is complete as it is. -/
def Context.bare : Context := ⟨false, []⟩

theorem finish_bare (s : Stream) (read : List Inline) : finish .bare s read = read.reverse := by
  have same : finishOne .bare s.linkDepth = fun inline => [inline] := by
    funext inline
    cases inline <;> rfl
  rw [finish, same, List.flatMap_singleton']

/-! ### Links are left as they were entered -/

section

variable (k : Context)

mutual

theorem linkDepth_inlines : ∀ (n : Nat) (read : List Inline) (s : Stream),
    (inlines k n read s).2.linkDepth = s.linkDepth
  | 0, _, _ => rfl
  | n + 1, read, ⟨[], task, depth⟩ => rfl
  | n + 1, read, ⟨e :: rest, task, depth⟩ => by
    cases e with
    | exit => rfl
    | enter tag =>
      exact (linkDepth_inlines n _ _).trans (linkDepth_inlineElement n tag ⟨rest, task, depth⟩)
    | _ => exact linkDepth_inlines n _ _

theorem linkDepth_inlineElement : ∀ (n : Nat) (tag : Tag) (s : Stream),
    (inlineElement k n tag s).2.linkDepth = s.linkDepth
  | 0, _, _ => rfl
  | n + 1, tag, s => by
    cases tag with
    | link _ _ | image _ _ | autolink _ _ => exact linkDepth_label n s
    | _ => exact linkDepth_inlines n [] s

theorem linkDepth_label : ∀ (n : Nat) (s : Stream), (label k n s).2.linkDepth = s.linkDepth
  | 0, _ => rfl
  | n + 1, s => by
    have inside := linkDepth_inlines n [] { s with linkDepth := s.linkDepth + 1 }
    rw [label]
    dsimp only
    rw [inside, Nat.add_sub_cancel]

end

theorem linkDepth_cells (n : Nat) (s : Stream) : (cells k n s).2.linkDepth = s.linkDepth :=
  (cells_keepsOnly k).holds (P := fun s read => read.2.linkDepth = s.linkDepth) (fun _ => rfl) id
    (fun n s _ more => more.trans (linkDepth_inlines k n [] s)) n s

theorem linkDepth_rows (n : Nat) (s : Stream) : (rows k n s).2.linkDepth = s.linkDepth :=
  (rows_keepsOnly k).holds (P := fun s read => read.2.linkDepth = s.linkDepth) (fun _ => rfl) id
    (fun n s _ more => more.trans (linkDepth_cells k n s)) n s

mutual

theorem linkDepth_blocks : ∀ (n : Nat) (read : List Inline) (s : Stream),
    (blocks k n read s).2.linkDepth = s.linkDepth
  | 0, _, _ => rfl
  | n + 1, read, ⟨[], task, depth⟩ => rfl
  | n + 1, read, ⟨e :: rest, task, depth⟩ => by
    cases e with
    | exit => rfl
    | rule => exact linkDepth_blocks n [] _
    | enter tag =>
      unfold blocks
      dsimp only
      split
      · exact (linkDepth_blocks n _ _).trans (linkDepth_inlineElement k n tag _)
      · exact (linkDepth_blocks n [] _).trans (linkDepth_blockElement n tag _)
    | _ => exact linkDepth_blocks n _ _

theorem linkDepth_blockElement : ∀ (n : Nat) (tag : Tag) (s : Stream),
    (blockElement k n tag s).2.linkDepth = s.linkDepth
  | 0, _, _ => rfl
  | n + 1, tag, s => by
    cases tag with
    | paragraph | term | heading _ => exact linkDepth_inlines k n [] s
    | codeBlock _ _ | htmlBlock _ => rfl
    | list _ => exact linkDepth_items n s
    | table => exact linkDepth_rows k n s
    | _ => exact linkDepth_blocks n [] s

theorem linkDepth_items : ∀ (n : Nat) (s : Stream), (items k n s).2.linkDepth = s.linkDepth
  | 0, _ => rfl
  | n + 1, s =>
    (items_keepsOnly k).step (P := fun s read => read.2.linkDepth = s.linkDepth) (fun _ => rfl) id
      (fun s _ more => more.trans (linkDepth_item n s)) (linkDepth_items n) s

theorem linkDepth_item : ∀ (n : Nat) (s : Stream), (item k n s).2.linkDepth = s.linkDepth
  | 0, _ => rfl
  | n + 1, s => linkDepth_blocks n [] { s with task := none }

end

/-! ### Inlines -/

/-- Completing what an inline holds leaves literals as they are, so it makes no
difference whether it is done before inlines are joined or after. -/
theorem push_map_filled (depth : Nat) (read : List Inline) (inline : Inline) :
    push (read.map (Inline.filled k depth)) (inline.filled k depth) =
      (push read inline).map (Inline.filled k depth) := by
  cases inline with
  | literal t =>
    cases read with
    | nil => rfl
    | cons first older => cases first <;> rfl
  | _ => rfl

theorem finish_map_filled (s : Stream) (read : List Inline) :
    finish k s (read.map (Inline.filled k s.linkDepth)) =
      Inline.allCompleted k s.linkDepth (finish .bare s read) := by
  rw [finish_bare, Inline.allCompleted_eq_flatMap, finish, List.map_reverse]

theorem readEvent_map_filled (depth : Nat) (e : Event) (read : List Inline) (s : Stream) :
    readEvent e (read.map (Inline.filled k depth)) s =
      ((readEvent e read s).1.map (Inline.filled k depth), (readEvent e read s).2) := by
  cases e with
  | text t => exact congrArg (·, s) (push_map_filled k depth read (.literal t))
  | code content _ => exact congrArg (·, s) (push_map_filled k depth read (.codeSpan content))
  | softBreak | hardBreak => exact congrArg (·, s) (push_map_filled k depth read .lineBreak)
  | html raw _ | inlineHtml raw _ =>
    exact congrArg (·, s) (push_map_filled k depth read (.htmlTag (tagName raw)))
  | _ => rfl

-- By induction on the steps that are allowed. Which events a step takes does not depend on
-- what is found in text, so both contexts go through the same streams. Literals are read
-- unchanged until the element ends; only what is inside of the other inlines differs.

mutual

theorem inlines_completed : ∀ (n : Nat) (read : List Inline) (s : Stream),
    inlines k n (read.map (Inline.filled k s.linkDepth)) s =
      (Inline.allCompleted k s.linkDepth (inlines .bare n read s).1, (inlines .bare n read s).2)
  | 0, read, s => congrArg (·, s) (finish_map_filled k s read)
  | n + 1, read, ⟨[], task, depth⟩ =>
    congrArg (·, (⟨[], task, depth⟩ : Stream)) (finish_map_filled k ⟨[], task, depth⟩ read)
  | n + 1, read, ⟨e :: rest, task, depth⟩ => by
    cases e with
    | exit =>
      exact congrArg (·, (⟨rest, task, depth⟩ : Stream))
        (finish_map_filled k ⟨rest, task, depth⟩ read)
    | enter tag =>
      have element := inlineElement_completed n tag ⟨rest, task, depth⟩
      have same := linkDepth_inlineElement .bare n tag ⟨rest, task, depth⟩
      have more := inlines_completed n (push read (inlineElement .bare n tag ⟨rest, task, depth⟩).1)
        (inlineElement .bare n tag ⟨rest, task, depth⟩).2
      rw [same] at more
      simp only [inlines, element, push_map_filled]
      exact more
    | _ =>
      rw [inlines_plain k, inlines_plain .bare, readEvent_map_filled]
      · exact inlines_completed n _ ⟨rest, _, depth⟩
      all_goals trivial

theorem inlineElement_completed : ∀ (n : Nat) (tag : Tag) (s : Stream),
    inlineElement k n tag s =
      ((inlineElement .bare n tag s).1.filled k s.linkDepth, (inlineElement .bare n tag s).2)
  | 0, _, _ => rfl
  | n + 1, tag, s => by
    have children : inlines k n [] s = _ := inlines_completed n [] s
    have inLink := label_completed n s
    cases tag with
    | link _ _ | image _ _ | autolink _ _ => simp only [inlineElement, inLink, Inline.filled]
    | _ => simp only [inlineElement, children, Inline.filled]

theorem label_completed : ∀ (n : Nat) (s : Stream),
    label k n s =
      (Inline.allCompleted k (s.linkDepth + 1) (label .bare n s).1, (label .bare n s).2)
  | 0, _ => rfl
  | n + 1, s => by
    have inside : inlines k n [] { s with linkDepth := s.linkDepth + 1 } = _ :=
      inlines_completed n [] { s with linkDepth := s.linkDepth + 1 }
    simp only [label, inside]

end

/-! ### Blocks -/

theorem flush_map_filled {s : Stream} (outside : s.linkDepth = 0) (read : List Inline) :
    flush k s (read.map (Inline.filled k 0)) = Block.allCompleted k (flush .bare s read) := by
  have complete := finish_map_filled k s read
  rw [outside] at complete
  cases read with
  | nil => rfl
  | cons inline older =>
    exact congrArg (fun inlines => [Block.paragraph inlines]) complete

theorem inlines_completed_outside (n : Nat) {s : Stream} (outside : s.linkDepth = 0) :
    inlines k n [] s =
      (Inline.allCompleted k 0 (inlines .bare n [] s).1, (inlines .bare n [] s).2) := by
  have children : inlines k n [] s = _ := inlines_completed k n [] s
  rw [outside] at children
  exact children

theorem cells_completed : ∀ (n : Nat) (s : Stream), s.linkDepth = 0 →
    cells k n s = (Block.cellsCompleted k (cells .bare n s).1, (cells .bare n s).2)
  | 0, _, _ => rfl
  | n + 1, ⟨[], task, depth⟩, _ => rfl
  | n + 1, ⟨e :: rest, task, depth⟩, outside => by
    obtain rfl : depth = 0 := outside
    unfold cells
    dsimp only
    split
    · rfl
    · have content := inlines_completed_outside k n (s := ⟨rest, task, 0⟩) rfl
      have after := linkDepth_inlines .bare n [] ⟨rest, task, 0⟩
      have more := cells_completed n _ after
      simp only [content, more]
      rfl
    · exact cells_completed n _ rfl

theorem rows_completed : ∀ (n : Nat) (s : Stream), s.linkDepth = 0 →
    rows k n s = (Block.rowsCompleted k (rows .bare n s).1, (rows .bare n s).2)
  | 0, _, _ => rfl
  | n + 1, ⟨[], task, depth⟩, _ => rfl
  | n + 1, ⟨e :: rest, task, depth⟩, outside => by
    obtain rfl : depth = 0 := outside
    have row := cells_completed k n ⟨rest, task, 0⟩ rfl
    have more := rows_completed n _ (linkDepth_cells .bare n ⟨rest, task, 0⟩)
    unfold rows
    dsimp only
    split
    · rfl
    · simp only [row, more]
      rfl
    · simp only [row, more]
      rfl
    · exact rows_completed n _ rfl

-- Blocks are never inside of links, so that all paragraphs are completed at depth 0.

mutual

theorem blocks_completed : ∀ (n : Nat) (read : List Inline) (s : Stream), s.linkDepth = 0 →
    blocks k n (read.map (Inline.filled k 0)) s =
      (Block.allCompleted k (blocks .bare n read s).1, (blocks .bare n read s).2)
  | 0, read, s, outside => congrArg (·, s) (flush_map_filled k outside read)
  | n + 1, read, ⟨[], task, depth⟩, outside =>
    congrArg (·, (⟨[], task, depth⟩ : Stream)) (flush_map_filled k outside read)
  | n + 1, read, ⟨e :: rest, task, depth⟩, outside => by
    obtain rfl : depth = 0 := outside
    have flushed := flush_map_filled k (s := ⟨rest, task, 0⟩) rfl read
    by_cases isRule : e = .rule
    · subst isRule
      have more : blocks k n [] ⟨rest, task, 0⟩ = _ := blocks_completed n [] ⟨rest, task, 0⟩ rfl
      simp only [blocks, flushed, more, Block.allCompleted_append, Block.allCompleted,
        Block.completed]
    cases e with
    | exit => exact congrArg (·, (⟨rest, task, 0⟩ : Stream)) flushed
    | enter tag =>
      unfold blocks
      dsimp only
      split
      · have element := inlineElement_completed k n tag ⟨rest, task, 0⟩
        have after := linkDepth_inlineElement .bare n tag ⟨rest, task, 0⟩
        simp only [element, push_map_filled]
        exact blocks_completed n _ _ after
      · have element := blockElement_completed n tag ⟨rest, task, 0⟩ rfl
        have after := linkDepth_blockElement .bare n tag ⟨rest, task, 0⟩
        have more : blocks k n [] _ = _ := blocks_completed n [] _ after
        simp only [flushed, element, more, Block.allCompleted_append, Block.allCompleted]
    | _ =>
      rw [blocks_plain k, blocks_plain .bare, readEvent_map_filled]
      · exact blocks_completed n _ ⟨rest, _, 0⟩ rfl
      all_goals trivial

theorem blockElement_completed : ∀ (n : Nat) (tag : Tag) (s : Stream), s.linkDepth = 0 →
    blockElement k n tag s =
      ((blockElement .bare n tag s).1.completed k, (blockElement .bare n tag s).2)
  | 0, _, _, _ => rfl
  | n + 1, tag, s, outside => by
    have text := inlines_completed_outside k n outside
    have children : blocks k n [] s = _ := blocks_completed n [] s outside
    have entries := items_completed n s outside
    have content := rows_completed k n s outside
    cases tag with
    | paragraph | term | heading _ => simp only [blockElement, text, Block.completed]
    | codeBlock _ _ | htmlBlock _ => rfl
    | list _ => simp only [blockElement, entries, Block.completed]
    | table => simp only [blockElement, content, Block.completed]
    | _ => simp only [blockElement, children, Block.completed]

theorem items_completed : ∀ (n : Nat) (s : Stream), s.linkDepth = 0 →
    items k n s = (Block.itemsCompleted k (items .bare n s).1, (items .bare n s).2)
  | 0, _, _ => rfl
  | n + 1, ⟨[], task, depth⟩, _ => rfl
  | n + 1, ⟨e :: rest, task, depth⟩, outside => by
    obtain rfl : depth = 0 := outside
    unfold items
    dsimp only
    split
    · rfl
    · have first := item_completed n ⟨rest, task, 0⟩ rfl
      have more := items_completed n _ (linkDepth_item .bare n ⟨rest, task, 0⟩)
      simp only [first, more, Block.itemsCompleted]
    · exact items_completed n _ rfl

theorem item_completed : ∀ (n : Nat) (s : Stream), s.linkDepth = 0 →
    item k n s = ((item .bare n s).1.completed k, (item .bare n s).2)
  | 0, _, _ => rfl
  | n + 1, s, outside => by
    have children : blocks k n [] { s with task := none } = _ :=
      blocks_completed n [] { s with task := none } outside
    cases found : (blocks .bare n [] { s with task := none }).2.task with
    | none => simp only [item, children, found]; rfl
    | some checked => simp only [item, children, found]; rfl

end

end

end Builder

/-- The document of some events is the one in which text is left as it is, completed. -/
theorem Document.ofEvents_eq_completed (autolinks : Bool) (hidden : List Text)
    (events : List Markdown.Event) :
    Document.ofEvents autolinks hidden events =
      (Document.ofEvents false [] events).completed ⟨autolinks, hidden⟩ := by
  have all : Builder.blocks ⟨autolinks, hidden⟩ (3 * events.length + 3) [] ⟨events, none, 0⟩ = _ :=
    Builder.blocks_completed ⟨autolinks, hidden⟩ (3 * events.length + 3) [] ⟨events, none, 0⟩ rfl
  rw [Document.ofEvents, all]
  rfl

end TelegramMarkdown
