import TelegramMarkdown.Proofs.Builder.Invariant
import TelegramMarkdown.Proofs.Completion

/-!
The texts that stand in a document, in order, each with what it is there
(`Document.passages`).

Completing a document replaces the passages of its literals by others and leaves the rest
as they are. What this does to all passages together follows from what it does to one
literal (`Document.passages_completed`).
-/

namespace TelegramMarkdown

open Builder (Context finishOne)

/-- A text that stands in a document. -/
inductive Passage where
  | literal (t : Text)
  /-- The content of a spoiler. -/
  | spoiler (t : Text)
  /-- What an item of a list shows after its checkbox. -/
  | task (t : Text)
  /-- A URL, code, the name of a tag, or raw HTML: text that is searched for nothing. -/
  | verbatim (t : Text)
  deriving DecidableEq

namespace Passage

/-- The text of a passage. -/
def text : Passage → Text
  | literal t | spoiler t | task t | verbatim t => t

/-- The contents of the spoilers among passages. -/
def spoilers (passages : List Passage) : List Text :=
  passages.filterMap fun
    | spoiler t => some t
    | _ => none

/-- The literals among passages. -/
def literals (passages : List Passage) : List Text :=
  passages.filterMap fun
    | literal t => some t
    | _ => none

@[simp] theorem spoilers_append (before after : List Passage) :
    spoilers (before ++ after) = spoilers before ++ spoilers after :=
  List.filterMap_append

theorem spoilers_flatMap_eq_nil {α : Type} {f : α → List Passage} {parts : List α}
    (clear : ∀ part ∈ parts, spoilers (f part) = []) : spoilers (parts.flatMap f) = [] := by
  rw [spoilers, List.filterMap_flatMap, List.flatMap_eq_nil_iff]
  exact clear

/-- Whether `p` holds of all characters of passages. -/
def Throughout (p : Char → Prop) (passages : List Passage) : Prop :=
  ∀ passage ∈ passages, ∀ c ∈ passage.text, p c

instance {p : Char → Prop} [DecidablePred p] (passages : List Passage) :
    Decidable (Throughout p passages) :=
  @List.decidableBAll Passage (fun passage => ∀ c ∈ passage.text, p c)
    (fun passage => List.decidableBAll p passage.text) passages

theorem throughout_append {p : Char → Prop} {before after : List Passage} :
    Throughout p (before ++ after) ↔ Throughout p before ∧ Throughout p after :=
  List.forall_mem_append

theorem throughout_cons {p : Char → Prop} {passage : Passage} {rest : List Passage} :
    Throughout p (passage :: rest) ↔ (∀ c ∈ passage.text, p c) ∧ Throughout p rest :=
  List.forall_mem_cons

end Passage

/-! ### Passages of a tree -/

mutual

/-- The passages of an inline. -/
def Inline.passages : Inline → List Passage
  | .literal t => [.literal t]
  | .emphasis _ _ children => Inline.allPassages children
  | .link url _ children => .verbatim url :: Inline.allPassages children
  | .codeSpan content => [.verbatim content]
  | .lineBreak => []
  | .htmlTag tag => [.verbatim tag]
  | .autolink url => [.verbatim url]
  | .spoiler content => [.spoiler content]
  | .container children => Inline.allPassages children

/-- The passages of inlines. -/
def Inline.allPassages : List Inline → List Passage
  | [] => []
  | inline :: rest => inline.passages ++ Inline.allPassages rest

end

mutual

/-- The passages of a block. -/
def Block.passages : Block → List Passage
  | .heading _ inlines => Inline.allPassages inlines
  | .paragraph inlines => Inline.allPassages inlines
  | .list _ items => Block.itemsPassages items
  | .quote blocks => Block.allPassages blocks
  | .codeBlock info lines => (info.toList ++ lines).map .verbatim
  | .table rows => Block.rowsPassages rows
  | .rule => []
  | .html raw => [.verbatim raw]
  | .container blocks => Block.allPassages blocks

/-- The passages of blocks. -/
def Block.allPassages : List Block → List Passage
  | [] => []
  | block :: rest => block.passages ++ Block.allPassages rest

/-- The passages of the items of a list. -/
def Block.itemsPassages : List ListItem → List Passage
  | [] => []
  | item :: rest => item.passages ++ Block.itemsPassages rest

/-- The passages of an item of a list. -/
def ListItem.passages : ListItem → List Passage
  | { isTask := _, checked := _, taskText, blocks } => .task taskText :: Block.allPassages blocks

/-- The passages of the rows of a table. -/
def Block.rowsPassages : List (List (List Block)) → List Passage
  | [] => []
  | row :: rest => Block.cellsPassages row ++ Block.rowsPassages rest

/-- The passages of the cells of a row. -/
def Block.cellsPassages : List (List Block) → List Passage
  | [] => []
  | cell :: rest => Block.allPassages cell ++ Block.cellsPassages rest

end

/-- The passages of a document. -/
def Document.passages (document : Document) : List Passage :=
  Block.allPassages document.blocks

/-- The contents of the spoilers of a document. -/
def Document.spoilers (document : Document) : List Text :=
  Passage.spoilers document.passages

theorem Inline.allPassages_eq_flatMap (inlines : List Inline) :
    Inline.allPassages inlines = inlines.flatMap Inline.passages := by
  induction inlines with
  | nil => rfl
  | cons inline rest ih => rw [allPassages, ih, List.flatMap_cons]

@[simp] theorem Inline.allPassages_append (before after : List Inline) :
    Inline.allPassages (before ++ after) =
      Inline.allPassages before ++ Inline.allPassages after := by
  simp [allPassages_eq_flatMap]

theorem Block.allPassages_eq_flatMap (blocks : List Block) :
    Block.allPassages blocks = blocks.flatMap Block.passages := by
  induction blocks with
  | nil => rfl
  | cons block rest ih => rw [allPassages, ih, List.flatMap_cons]

theorem Block.itemsPassages_eq_flatMap (items : List ListItem) :
    Block.itemsPassages items = items.flatMap ListItem.passages := by
  induction items with
  | nil => rfl
  | cons item rest ih => rw [itemsPassages, ih, List.flatMap_cons]

theorem Block.cellsPassages_eq_flatMap (cells : List (List Block)) :
    Block.cellsPassages cells = cells.flatMap Block.allPassages := by
  induction cells with
  | nil => rfl
  | cons cell rest ih => rw [cellsPassages, ih, List.flatMap_cons]

theorem Block.rowsPassages_eq_flatMap (rows : List (List (List Block))) :
    Block.rowsPassages rows = rows.flatMap Block.cellsPassages := by
  induction rows with
  | nil => rfl
  | cons row rest ih => rw [rowsPassages, ih, List.flatMap_cons]

/-! ### Passages of a completed tree -/

section

variable (k : Context)

/-- A relation between the passages of a completed tree and those of the tree. It holds of
nothing, goes along the order of the document, and holds of the passages that stay as they
are and of those that literals are completed to. What an item shows after its checkbox
depends on its blocks. -/
structure Completes (R : List Passage → List Passage → Prop) : Prop where
  nil : R [] []
  append : ∀ {a b c d}, R a b → R c d → R (a ++ c) (b ++ d)
  verbatim : ∀ t, R [.verbatim t] [.verbatim t]
  spoiler : ∀ t, R [.spoiler t] [.spoiler t]
  literal : ∀ depth t, R (Inline.allPassages (finishOne k depth (.literal t))) [.literal t]
  item : ∀ item : ListItem,
    R (Block.allPassages (item.completed k).blocks) (Block.allPassages item.blocks) →
      R (item.completed k).passages item.passages

variable {k} {R : List Passage → List Passage → Prop} (h : Completes k R)

include h

theorem Completes.verbatims (texts : List Text) :
    R (texts.map .verbatim) (texts.map .verbatim) := by
  induction texts with
  | nil => exact h.nil
  | cons t rest ih => exact h.append (h.verbatim t) ih

mutual

theorem Inline.passages_finishOne_filled (depth : Nat) :
    ∀ inline : Inline,
      R (Inline.allPassages (finishOne k depth (inline.filled k depth))) inline.passages
  | .literal t => h.literal depth t
  | .emphasis delimiter count children => by
    have inside := Inline.passages_allCompleted depth children
    simpa [finishOne, filled, allPassages, passages] using inside
  | .link url isImage children => by
    have inside := Inline.passages_allCompleted (depth + 1) children
    simpa [finishOne, filled, allPassages, passages] using h.append (h.verbatim url) inside
  | .container children => by
    have inside := Inline.passages_allCompleted depth children
    simpa [finishOne, filled, allPassages, passages] using inside
  | .codeSpan content => h.verbatim content
  | .lineBreak => h.nil
  | .htmlTag tag => h.verbatim tag
  | .autolink url => h.verbatim url
  | .spoiler content => h.spoiler content

theorem Inline.passages_allCompleted (depth : Nat) :
    ∀ inlines : List Inline,
      R (Inline.allPassages (Inline.allCompleted k depth inlines)) (Inline.allPassages inlines)
  | [] => h.nil
  | inline :: rest => by
    rw [allCompleted, allPassages_append]
    exact h.append (Inline.passages_finishOne_filled depth inline)
      (Inline.passages_allCompleted depth rest)

end

mutual

theorem Block.passages_completed :
    ∀ block : Block, R (block.completed k).passages block.passages
  | .heading _ inlines => Inline.passages_allCompleted h 0 inlines
  | .paragraph inlines => Inline.passages_allCompleted h 0 inlines
  | .list _ items => Block.passages_itemsCompleted items
  | .quote blocks => Block.passages_allCompleted blocks
  | .codeBlock info lines => h.verbatims (info.toList ++ lines)
  | .table rows => Block.passages_rowsCompleted rows
  | .rule => h.nil
  | .html raw => h.verbatim raw
  | .container blocks => Block.passages_allCompleted blocks

theorem Block.passages_allCompleted :
    ∀ blocks : List Block,
      R (Block.allPassages (Block.allCompleted k blocks)) (Block.allPassages blocks)
  | [] => h.nil
  | block :: rest =>
    h.append (Block.passages_completed block) (Block.passages_allCompleted rest)

theorem Block.passages_itemsCompleted :
    ∀ items : List ListItem,
      R (Block.itemsPassages (Block.itemsCompleted k items)) (Block.itemsPassages items)
  | [] => h.nil
  | item :: rest =>
    h.append (ListItem.passages_completed item) (Block.passages_itemsCompleted rest)

theorem ListItem.passages_completed :
    ∀ item : ListItem, R (item.completed k).passages item.passages
  | { isTask, checked, taskText, blocks } =>
    h.item ⟨isTask, checked, taskText, blocks⟩ (Block.passages_allCompleted blocks)

theorem Block.passages_rowsCompleted :
    ∀ rows : List (List (List Block)),
      R (Block.rowsPassages (Block.rowsCompleted k rows)) (Block.rowsPassages rows)
  | [] => h.nil
  | row :: rest => h.append (Block.passages_cellsCompleted row) (Block.passages_rowsCompleted rest)

theorem Block.passages_cellsCompleted :
    ∀ cells : List (List Block),
      R (Block.cellsPassages (Block.cellsCompleted k cells)) (Block.cellsPassages cells)
  | [] => h.nil
  | cell :: rest =>
    h.append (Block.passages_allCompleted cell) (Block.passages_cellsCompleted rest)

end

/-- What holds of literals one by one holds of a whole document. -/
theorem Document.passages_completed (document : Document) :
    R (document.completed k).passages document.passages :=
  Block.passages_allCompleted h document.blocks

end

/-! ### A tree before it is completed -/

namespace Builder

open Passage (spoilers)

theorem spoilers_push (read : List Inline) (inline : Inline) :
    spoilers (Inline.allPassages (push read inline)) =
      spoilers inline.passages ++ spoilers (Inline.allPassages read) := by
  cases inline with
  | literal t =>
    cases read with
    | nil => rfl
    | cons first older => cases first <;> rfl
  | _ => exact Passage.spoilers_append _ _

theorem spoilers_finish {read : List Inline} (clear : spoilers (Inline.allPassages read) = [])
    (s : Stream) : spoilers (Inline.allPassages (finish .bare s read)) = [] := by
  simp only [Inline.allPassages_eq_flatMap, spoilers, List.filterMap_flatMap,
    List.flatMap_eq_nil_iff, finish_bare, List.mem_reverse] at clear ⊢
  exact clear

theorem spoilers_allPassages {blocks : List Block}
    (clear : ∀ b ∈ blocks, spoilers b.passages = []) :
    spoilers (Block.allPassages blocks) = [] := by
  rw [Block.allPassages_eq_flatMap]
  exact Passage.spoilers_flatMap_eq_nil clear

/-- As long as nothing is completed, no step of the builder makes a spoiler. -/
def withoutSpoilers : Invariant .bare where
  Reading read := spoilers (Inline.allPassages read) = []
  Run run := spoilers (Inline.allPassages run) = []
  OfInline inline := spoilers inline.passages = []
  OfBlock block := spoilers block.passages = []
  nothing := rfl
  push read inline := by rw [spoilers_push, inline, read, List.append_nil]
  finish clear s := spoilers_finish clear s
  literal _ := rfl
  codeSpan _ := rfl
  lineBreak := rfl
  htmlTag _ := rfl
  emphasis _ _ _ clear := clear
  link _ _ _ clear := clear
  autolink _ := rfl
  group clear := clear
  paragraph clear := clear
  heading _ _ clear := clear
  rule := rfl
  codeBlock info text := by simp [Block.passages, spoilers, List.filterMap_map]
  html _ := rfl
  quote := spoilers_allPassages
  container := spoilers_allPassages
  list ordered items clear := by
    rw [Block.passages, Block.itemsPassages_eq_flatMap]
    apply Passage.spoilers_flatMap_eq_nil
    rintro ⟨_, _, _, blocks⟩ isIn
    exact spoilers_allPassages (clear _ isIn).2
  table clear := by
    rw [Block.passages, Block.rowsPassages_eq_flatMap]
    apply Passage.spoilers_flatMap_eq_nil
    intro row isRow
    rw [Block.cellsPassages_eq_flatMap]
    apply Passage.spoilers_flatMap_eq_nil
    intro cell isCell
    obtain ⟨content, clearContent, rfl⟩ := clear row isRow cell isCell
    exact spoilers_allPassages (List.forall_mem_singleton.mpr clearContent)

end Builder

/-- Before it is completed a document holds no spoilers. -/
theorem Document.spoilers_ofEvents_bare (events : List Markdown.Event) :
    (Document.ofEvents false [] events).spoilers = [] :=
  Builder.spoilers_allPassages (Builder.withoutSpoilers.document events)

end TelegramMarkdown
