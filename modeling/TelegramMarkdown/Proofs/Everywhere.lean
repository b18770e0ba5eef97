import TelegramMarkdown.Document

/-!
Properties that hold at every node of a tree: of an inline with all that it holds
(`Inline.Everywhere`), and of a document with its blocks, list items, table cells
and inlines (`Document.Everywhere`).
-/

namespace TelegramMarkdown

/-! ### Inlines -/

section

variable (p : Inline → Prop)

mutual

/-- `p` holds of an inline and of all inlines in it. -/
def Inline.Everywhere : Inline → Prop
  | .emphasis delimiter count children =>
    p (.emphasis delimiter count children) ∧ Inline.AllEverywhere children
  | .link url isImage children => p (.link url isImage children) ∧ Inline.AllEverywhere children
  | .container children => p (.container children) ∧ Inline.AllEverywhere children
  | inline => p inline

/-- `p` holds of inlines and of all inlines in them. -/
def Inline.AllEverywhere : List Inline → Prop
  | [] => True
  | inline :: rest => inline.Everywhere ∧ Inline.AllEverywhere rest

end

end

mutual

theorem Inline.Everywhere.mono {p q : Inline → Prop} (sub : ∀ i, p i → q i) :
    ∀ inline : Inline, inline.Everywhere p → inline.Everywhere q
  | .emphasis _ _ children, h => ⟨sub _ h.1, Inline.AllEverywhere.mono sub children h.2⟩
  | .link _ _ children, h => ⟨sub _ h.1, Inline.AllEverywhere.mono sub children h.2⟩
  | .container children, h => ⟨sub _ h.1, Inline.AllEverywhere.mono sub children h.2⟩
  | .literal _, h => sub _ h
  | .codeSpan _, h => sub _ h
  | .lineBreak, h => sub _ h
  | .htmlTag _, h => sub _ h
  | .autolink _, h => sub _ h
  | .spoiler _, h => sub _ h

theorem Inline.AllEverywhere.mono {p q : Inline → Prop} (sub : ∀ i, p i → q i) :
    ∀ inlines : List Inline, Inline.AllEverywhere p inlines → Inline.AllEverywhere q inlines
  | [], _ => trivial
  | inline :: rest, h =>
    ⟨Inline.Everywhere.mono sub inline h.1, Inline.AllEverywhere.mono sub rest h.2⟩

end

theorem Inline.allEverywhere_iff {p : Inline → Prop} {inlines : List Inline} :
    Inline.AllEverywhere p inlines ↔ ∀ inline ∈ inlines, inline.Everywhere p := by
  induction inlines with
  | nil => exact iff_of_true trivial (List.forall_mem_nil _)
  | cons inline rest ih => rw [AllEverywhere, ih, List.forall_mem_cons]

/-! ### Blocks -/

section

variable (p : Inline → Prop) (q : Block → Prop)

mutual

/-- `q` holds of a block and of all blocks in it, and `p` of all inlines in it. -/
def Block.Everywhere : Block → Prop
  | .heading level inlines => q (.heading level inlines) ∧ Inline.AllEverywhere p inlines
  | .paragraph inlines => q (.paragraph inlines) ∧ Inline.AllEverywhere p inlines
  | .list ordered items => q (.list ordered items) ∧ Block.ItemsEverywhere items
  | .quote blocks => q (.quote blocks) ∧ Block.AllEverywhere blocks
  | .table rows => q (.table rows) ∧ Block.RowsEverywhere rows
  | .container blocks => q (.container blocks) ∧ Block.AllEverywhere blocks
  | .codeBlock info lines => q (.codeBlock info lines)
  | .rule => q .rule
  | .html raw => q (.html raw)

/-- The same for blocks. -/
def Block.AllEverywhere : List Block → Prop
  | [] => True
  | block :: rest => block.Everywhere ∧ Block.AllEverywhere rest

/-- The same for the items of a list. -/
def Block.ItemsEverywhere : List ListItem → Prop
  | [] => True
  | item :: rest => item.Everywhere ∧ Block.ItemsEverywhere rest

/-- The same for an item of a list. -/
def ListItem.Everywhere : ListItem → Prop
  | { isTask := _, checked := _, taskText := _, blocks } => Block.AllEverywhere blocks

/-- The same for the rows of a table. -/
def Block.RowsEverywhere : List (List (List Block)) → Prop
  | [] => True
  | row :: rest => Block.CellsEverywhere row ∧ Block.RowsEverywhere rest

/-- The same for the cells of a row. -/
def Block.CellsEverywhere : List (List Block) → Prop
  | [] => True
  | cell :: rest => Block.AllEverywhere cell ∧ Block.CellsEverywhere rest

end

/-- `q` holds of all blocks of a document, and `p` of all its inlines. -/
def Document.Everywhere (document : Document) : Prop :=
  Block.AllEverywhere p q document.blocks

end

section

variable {p p' : Inline → Prop} {q q' : Block → Prop}

mutual

theorem Block.Everywhere.mono (sub : ∀ i, p i → p' i) (sub' : ∀ b, q b → q' b) :
    ∀ block : Block, block.Everywhere p q → block.Everywhere p' q'
  | .heading _ inlines, h => ⟨sub' _ h.1, Inline.AllEverywhere.mono sub inlines h.2⟩
  | .paragraph inlines, h => ⟨sub' _ h.1, Inline.AllEverywhere.mono sub inlines h.2⟩
  | .list _ items, h => ⟨sub' _ h.1, Block.ItemsEverywhere.mono sub sub' items h.2⟩
  | .quote blocks, h => ⟨sub' _ h.1, Block.AllEverywhere.mono sub sub' blocks h.2⟩
  | .table rows, h => ⟨sub' _ h.1, Block.RowsEverywhere.mono sub sub' rows h.2⟩
  | .container blocks, h => ⟨sub' _ h.1, Block.AllEverywhere.mono sub sub' blocks h.2⟩
  | .codeBlock _ _, h => sub' _ h
  | .rule, h => sub' _ h
  | .html _, h => sub' _ h

theorem Block.AllEverywhere.mono (sub : ∀ i, p i → p' i) (sub' : ∀ b, q b → q' b) :
    ∀ blocks : List Block, Block.AllEverywhere p q blocks → Block.AllEverywhere p' q' blocks
  | [], _ => trivial
  | block :: rest, h =>
    ⟨Block.Everywhere.mono sub sub' block h.1, Block.AllEverywhere.mono sub sub' rest h.2⟩

theorem Block.ItemsEverywhere.mono (sub : ∀ i, p i → p' i) (sub' : ∀ b, q b → q' b) :
    ∀ items : List ListItem, Block.ItemsEverywhere p q items → Block.ItemsEverywhere p' q' items
  | [], _ => trivial
  | item :: rest, h =>
    ⟨ListItem.Everywhere.mono sub sub' item h.1, Block.ItemsEverywhere.mono sub sub' rest h.2⟩

theorem ListItem.Everywhere.mono (sub : ∀ i, p i → p' i) (sub' : ∀ b, q b → q' b) :
    ∀ item : ListItem, item.Everywhere p q → item.Everywhere p' q'
  | { isTask := _, checked := _, taskText := _, blocks }, h =>
    Block.AllEverywhere.mono sub sub' blocks h

theorem Block.RowsEverywhere.mono (sub : ∀ i, p i → p' i) (sub' : ∀ b, q b → q' b) :
    ∀ rows : List (List (List Block)),
      Block.RowsEverywhere p q rows → Block.RowsEverywhere p' q' rows
  | [], _ => trivial
  | row :: rest, h =>
    ⟨Block.CellsEverywhere.mono sub sub' row h.1, Block.RowsEverywhere.mono sub sub' rest h.2⟩

theorem Block.CellsEverywhere.mono (sub : ∀ i, p i → p' i) (sub' : ∀ b, q b → q' b) :
    ∀ cells : List (List Block), Block.CellsEverywhere p q cells → Block.CellsEverywhere p' q' cells
  | [], _ => trivial
  | cell :: rest, h =>
    ⟨Block.AllEverywhere.mono sub sub' cell h.1, Block.CellsEverywhere.mono sub sub' rest h.2⟩

end

end

section

variable {p : Inline → Prop} {q : Block → Prop}

theorem Block.allEverywhere_iff {blocks : List Block} :
    Block.AllEverywhere p q blocks ↔ ∀ block ∈ blocks, block.Everywhere p q := by
  induction blocks with
  | nil => exact iff_of_true trivial (List.forall_mem_nil _)
  | cons block rest ih => rw [AllEverywhere, ih, List.forall_mem_cons]

theorem ListItem.everywhere_iff {item : ListItem} :
    item.Everywhere p q ↔ ∀ block ∈ item.blocks, block.Everywhere p q := by
  cases item
  exact Block.allEverywhere_iff

theorem Block.itemsEverywhere_iff {items : List ListItem} :
    Block.ItemsEverywhere p q items ↔
      ∀ item ∈ items, ∀ block ∈ item.blocks, block.Everywhere p q := by
  induction items with
  | nil => exact iff_of_true trivial (List.forall_mem_nil _)
  | cons item rest ih =>
    rw [ItemsEverywhere, ih, List.forall_mem_cons, ListItem.everywhere_iff]

theorem Block.cellsEverywhere_iff {cells : List (List Block)} :
    Block.CellsEverywhere p q cells ↔ ∀ cell ∈ cells, Block.AllEverywhere p q cell := by
  induction cells with
  | nil => exact iff_of_true trivial (List.forall_mem_nil _)
  | cons cell rest ih => rw [CellsEverywhere, ih, List.forall_mem_cons]

theorem Block.rowsEverywhere_iff {rows : List (List (List Block))} :
    Block.RowsEverywhere p q rows ↔
      ∀ row ∈ rows, ∀ cell ∈ row, Block.AllEverywhere p q cell := by
  induction rows with
  | nil => exact iff_of_true trivial (List.forall_mem_nil _)
  | cons row rest ih => rw [RowsEverywhere, ih, List.forall_mem_cons, cellsEverywhere_iff]

end

/-! ### Raw HTML -/

/-- A raw HTML tag inside text. -/
def Inline.IsHtml : Inline → Prop
  | .htmlTag _ => True
  | _ => False

/-- A block of raw HTML. -/
def Block.IsHtml : Block → Prop
  | .html _ => True
  | _ => False

end TelegramMarkdown
