import TelegramMarkdown.Proofs.Markup.Lines

/-!
Quotations and groups of blocks.

A quotation quotes each of its blocks for itself. That is the same as quoting them together
(`Block.renderQuoted_eq_quoteLines`), because no block leaves a line open at its end
(`Block.isEnded_render`). For the same reason a group of blocks may be put in place of its
blocks and the other way round wherever blocks are only written one after the other, in
quotations too (`Block.Place.renderAll_fill_congr`).
-/

namespace TelegramMarkdown

/-! ### Ended lines -/

namespace Text

/-- Whether no line is left open at the end of a text. -/
def IsEnded (t : Text) : Prop :=
  t = [] ∨ t.getLast? = some '\n'

theorem isEnded_append {u : Text} (h : u.getLast? = some '\n') (t : Text) : IsEnded (t ++ u) := by
  right
  rw [List.getLast?_append, h]
  rfl

theorem IsEnded.append {s t : Text} (hs : IsEnded s) (ht : IsEnded t) : IsEnded (s ++ t) := by
  obtain rfl | ends := ht
  · rwa [List.append_nil]
  · exact isEnded_append ends s

end Text

open Text (IsEnded isEnded_append)

mutual

/-- A block writes nothing or ends its last line. -/
theorem Block.isEnded_render : ∀ block : Block, IsEnded block.render
  | .heading _ _ | .paragraph _ | .list _ _ | .quote _ | .codeBlock _ _ | .table _ | .html _ => by
    rw [Block.render]
    exact isEnded_append rfl _
  | .rule => .inr rfl
  | .container blocks => by
    rw [Block.render]
    exact Block.isEnded_renderAll blocks

theorem Block.isEnded_renderAll : ∀ blocks : List Block, IsEnded (Block.renderAll blocks)
  | [] => .inl rfl
  | block :: rest => (Block.isEnded_render block).append (Block.isEnded_renderAll rest)

end

theorem Block.renderAll_append (before after : List Block) :
    Block.renderAll (before ++ after) = Block.renderAll before ++ Block.renderAll after := by
  induction before with
  | nil => rfl
  | cons block rest ih => rw [List.cons_append, renderAll, ih, renderAll, List.append_assoc]

/-! ### Quoting block by block -/

namespace Markup

theorem freshAfter_of_isEnded {t : Text} (h : IsEnded t) : freshAfter true t = true := by
  obtain rfl | ends := h
  · rfl
  · obtain ⟨init, rfl⟩ := List.getLast?_eq_some_iff.mp ends
    rw [freshAfter_append]
    rfl

/-- Where a line ends, a text may be cut before it is quoted. -/
theorem quoteLines_append {s : Text} (h : IsEnded s) (t : Text) :
    quoteLines (s ++ t) = quoteLines s ++ quoteLines t := by
  have fresh := freshAfter_of_isEnded h
  simp only [quoteLines_eq_quotePart, quotePart_append, freshAfter_append, fresh]
  simp [quoteEnd]

end Markup

open Markup (isLineEnd)

/-- The blocks of a quotation may be quoted together. -/
theorem Block.renderQuoted_eq_quoteLines (blocks : List Block) :
    Block.renderQuoted blocks = quoteLines (Block.renderAll blocks) := by
  induction blocks with
  | nil => rfl
  | cons block rest ih =>
    rw [renderQuoted, renderAll, Markup.quoteLines_append (isEnded_render block), ih]

/-- The lines of a text that a quotation marks. -/
def quotedLines (t : Text) : List Text :=
  (Text.splitAt isLineEnd t).filter (!·.isEmpty)

theorem not_isLineEnd_of_mem_quotedLines {t line : Text} (h : line ∈ quotedLines t) :
    ∀ c ∈ line, isLineEnd c = false :=
  Text.not_of_mem_splitAt (List.mem_of_mem_filter h)

/-- A quotation is one marked line for every line of what is quoted, and an empty line. -/
theorem Block.render_quote (blocks : List Block) :
    (Block.quote blocks).render =
      ((quotedLines (Block.renderAll blocks)).map ('>' :: ·) ++ [[]]).flatMap (· ++ ['\n']) := by
  rw [render, renderQuoted_eq_quoteLines, List.flatMap_append, List.flatMap_map]
  rfl

/-- None of the lines of a quotation holds the end of a line. -/
theorem not_isLineEnd_quote {t line : Text}
    (h : line ∈ (quotedLines t).map ('>' :: ·) ++ [[]]) : ∀ c ∈ line, isLineEnd c = false := by
  obtain marked | empty := List.mem_append.mp h
  · obtain ⟨quoted, isQuoted, rfl⟩ := List.mem_map.mp marked
    exact List.forall_mem_cons.mpr ⟨rfl, not_isLineEnd_of_mem_quotedLines isQuoted⟩
  · rw [List.mem_singleton.mp empty]
    exact List.forall_mem_nil _

theorem Block.carriage_return_notMem_quote (blocks : List Block) :
    '\r' ∉ (Block.quote blocks).render := by
  rw [render_quote]
  intro returns
  obtain ⟨line, isLine, isIn⟩ := List.mem_flatMap.mp returns
  obtain inside | atEnd := List.mem_append.mp isIn
  · exact absurd (not_isLineEnd_quote isLine _ inside) (by decide)
  · exact absurd atEnd (by decide)

theorem Block.lines_quote (blocks : List Block) :
    Text.lines (Block.quote blocks).render =
      (quotedLines (Block.renderAll blocks)).map ('>' :: ·) ++ [[]] := by
  rw [render_quote]
  apply Text.lines_flatMap
  · intro line isLine isIn
    exact absurd (not_isLineEnd_quote isLine _ isIn) (by decide)
  · intro line isLine isLast
    exact absurd (not_isLineEnd_quote isLine _ (List.mem_of_getLast? isLast)) (by decide)

/-! ### Groups of blocks -/

/-- A place for blocks in a document, which is in no item of a list and in no cell of a
table: between other blocks, or such a place in a quotation or in a group. -/
inductive Block.Place where
  | between (before after : List Block)
  | inQuote (before : List Block) (inner : Block.Place) (after : List Block)
  | inContainer (before : List Block) (inner : Block.Place) (after : List Block)

/-- Put blocks in a place. -/
def Block.Place.fill : Block.Place → List Block → List Block
  | between before after, blocks => before ++ blocks ++ after
  | inQuote before inner after, blocks => before ++ .quote (inner.fill blocks) :: after
  | inContainer before inner after, blocks => before ++ .container (inner.fill blocks) :: after

/-- What is written in a place depends only on what the blocks in it write together. -/
theorem Block.Place.renderAll_fill_congr (place : Block.Place) {blocks blocks' : List Block}
    (h : Block.renderAll blocks = Block.renderAll blocks') :
    Block.renderAll (place.fill blocks) = Block.renderAll (place.fill blocks') := by
  induction place with
  | between before after => simp only [fill, Block.renderAll_append, h]
  | inQuote before inner after ih =>
    simp only [fill, Block.renderAll_append, Block.renderAll, Block.render,
      Block.renderQuoted_eq_quoteLines, ih]
  | inContainer before inner after ih =>
    simp only [fill, Block.renderAll_append, Block.renderAll, Block.render, ih]

/-- A group leaves no trace. -/
theorem Block.Place.render_fill_container (place : Block.Place) (blocks : List Block) :
    Document.render ⟨place.fill [.container blocks]⟩ = Document.render ⟨place.fill blocks⟩ := by
  have same : Block.renderAll [.container blocks] = Block.renderAll blocks := by
    rw [Block.renderAll, Block.render, Block.renderAll, List.append_nil]
  rw [Document.render, Document.render, place.renderAll_fill_congr same]

/-! ### Quotations and groups -/

/-- Quotations distribute over their blocks, and groups of blocks leave no trace. Every block
writes nothing or ends its last line. So a quotation writes the lines of its blocks that are
not empty, each with one `>` before it and a line feed after it, and one line feed at the
end: it holds no carriage return, and only its last line is empty. And wherever a group
stands in a document outside of list items and table cells, its blocks in its place are
rendered to the same text. -/
theorem quotes_distribute :
    (∀ block : Block, IsEnded block.render) ∧
    (∀ blocks : List Block,
      let quoted := (Text.splitAt isLineEnd (Block.renderAll blocks)).filter (!·.isEmpty)
      let written := (Block.quote blocks).render
      written = quoted.flatMap (fun line => '>' :: line ++ ['\n']) ++ ['\n'] ∧
        '\r' ∉ written ∧ Text.lines written = quoted.map ('>' :: ·) ++ [[]]) ∧
    ∀ (place : Block.Place) (blocks : List Block),
      Document.render ⟨place.fill [.container blocks]⟩ = Document.render ⟨place.fill blocks⟩ := by
  refine ⟨Block.isEnded_render, ?_, Block.Place.render_fill_container⟩
  intro blocks quoted written
  have together : (Block.quote blocks).render = quoteLines (Block.renderAll blocks) ++ ['\n'] := by
    rw [Block.render, Block.renderQuoted_eq_quoteLines]
  exact ⟨together, Block.carriage_return_notMem_quote blocks, Block.lines_quote blocks⟩

end TelegramMarkdown
