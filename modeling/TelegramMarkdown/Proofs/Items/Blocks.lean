import Mathlib.Data.List.Chain
import TelegramMarkdown.Proofs.Quotation

/-!
Which blocks of a list item are kept apart by the end of a line.

A paragraph of an item has no line feed behind it, and neither has a nested list; only a list
and a rule have one before them. Whether two neighbours share a line can be said of the first
and of the second alone (`Block.closesLine`, `Block.opensLine`), and the blocks of all items
are kept apart exactly if no pair of neighbours leaves it to the other
(`Block.blocksApart_iff`).
-/

namespace TelegramMarkdown

/-! ### Blanks between two texts -/

namespace Text

/-- Whether a text has a character that is not blank. -/
def Shows (t : Text) : Prop :=
  ∃ c ∈ t, isBlank c = false

theorem not_shows {t : Text} (blank : t.all isBlank = true) : ¬ t.Shows := by
  rintro ⟨c, isIn, notBlank⟩
  rw [List.all_eq_true.mp blank c isIn] at notBlank
  exact absurd notBlank (by decide)

/-- The blanks between the last character of a text that is not blank and the first of the
text behind it. -/
def blanksBetween (s t : Text) : Text :=
  s.rtakeWhile isBlank ++ t.takeWhile isBlank

/-- What follows behind something that is shown does not matter for the blanks before it. -/
theorem takeWhile_isBlank_append {s : Text} (h : s.Shows) (t : Text) :
    (s ++ t).takeWhile isBlank = s.takeWhile isBlank := by
  rw [List.takeWhile_append, if_neg]
  intro sameLength
  have blank := (List.takeWhile_prefix isBlank).eq_of_length sameLength
  exact not_shows (List.all_eq_true.mpr (List.takeWhile_eq_self_iff.mp blank)) h

theorem Shows.of_append {s t : Text} (h : (s ++ t).Shows) (blank : t.all isBlank = true) :
    s.Shows := by
  obtain ⟨c, isIn, notBlank⟩ := h
  obtain isFirst | isSecond := List.mem_append.mp isIn
  · exact ⟨c, isFirst, notBlank⟩
  · exact absurd ⟨c, isSecond, notBlank⟩ (not_shows blank)

/-- A text that ends its last line has a line feed among the blanks at its end. -/
theorem IsEnded.mem_rtakeWhile {t : Text} (h : IsEnded t) (shows : t.Shows) :
    '\n' ∈ t.rtakeWhile isBlank := by
  obtain rfl | ends := h
  · exact absurd shows (not_shows rfl)
  · obtain ⟨init, rfl⟩ := List.getLast?_eq_some_iff.mp ends
    rw [List.rtakeWhile_concat_pos _ _ _ (by decide)]
    exact List.mem_append_right _ List.mem_cons_self

/-- Behind what is left by trimming no line ends. -/
theorem line_feed_notMem_rtakeWhile {c : Char} {t : Text} (shows : Shows (c :: trimEnd t))
    (blank : isBlank c = true) : '\n' ∉ (c :: trimEnd t).rtakeWhile isBlank := by
  have ne : trimEnd t ≠ [] := by
    intro isNil
    rw [isNil] at shows
    exact not_shows (by rw [List.all_cons, blank, List.all_nil, Bool.and_self]) shows
  have last := not_of_mem_getLast?_dropEndWhile isBlank t _ (List.getLast_mem_getLast? ne)
  have none : (c :: trimEnd t).rtakeWhile isBlank = [] := by
    apply List.rtakeWhile_eq_nil_iff.mpr
    intro _
    rw [List.getLast_cons ne]
    exact Bool.eq_false_iff.mp last
  rw [none]
  exact List.not_mem_nil

end Text

/-! ### Blocks of an item -/

/-- What a block of a list item is rendered as. -/
def Block.inItem (indent : Text) (block : Block) : Text :=
  Block.renderInItem indent [block]

theorem Block.inItem_paragraph (indent : Text) (inlines : List Inline) :
    (Block.paragraph inlines).inItem indent = Inline.renderAll inlines := by
  rw [inItem, renderInItem, renderInItem, List.append_nil]

theorem Block.inItem_list (indent : Text) (ordered : Bool) (items : List ListItem) :
    (Block.list ordered items).inItem indent =
      '\n' :: Text.trimEnd (Block.renderItems ordered (indent ++ [' ', ' ']) 1 items) := by
  rw [inItem, renderInItem, renderInItem, List.append_nil]

/-- A block that an item renders as it is rendered elsewhere. -/
def Block.IsSelfContained : Block → Prop
  | .paragraph _ | .list _ _ => False
  | _ => True

theorem Block.IsSelfContained.inItem_eq {block : Block} (h : block.IsSelfContained)
    (indent : Text) : block.inItem indent = block.render := by
  cases block with
  | paragraph _ | list _ _ => exact h.elim
  | _ => simp only [inItem, renderInItem, List.append_nil]

theorem Block.renderInItem_cons (indent : Text) (block : Block) (rest : List Block) :
    Block.renderInItem indent (block :: rest) =
      block.inItem indent ++ Block.renderInItem indent rest := by
  cases block <;> simp [inItem, renderInItem]

theorem Block.renderInItem_append (indent : Text) (before after : List Block) :
    Block.renderInItem indent (before ++ after) =
      Block.renderInItem indent before ++ Block.renderInItem indent after := by
  induction before with
  | nil => rfl
  | cons block rest ih =>
    rw [List.cons_append, renderInItem_cons, ih, ← List.append_assoc, ← renderInItem_cons]

theorem Block.renderItems_append (ordered : Bool) (indent : Text) (number : Nat)
    (before after : List ListItem) :
    Block.renderItems ordered indent number (before ++ after) =
      Block.renderItems ordered indent number before ++
        Block.renderItems ordered indent (number + before.length) after := by
  induction before generalizing number with
  | nil => rfl
  | cons item rest ih =>
    rw [List.cons_append, renderItems, renderItems, ih, List.append_assoc, List.length_cons,
      Nat.add_right_comm, Nat.add_assoc]

/-- What a list has written before a block: the items before, and in its own item the bullet
and the blocks before. -/
def Block.writtenBefore (ordered : Bool) (indent : Text) (before : List ListItem)
    (earlier : List Block) : Text :=
  Block.renderItems ordered indent 1 before ++ indent ++ bullet ordered (1 + before.length) ++
    Block.renderInItem indent earlier

/-- Whether the text of a list keeps the blocks of its items apart. Between two neighbours
that both show something stands the end of a line. -/
def Block.BlocksApart (ordered : Bool) (indent : Text) (items : List ListItem) : Prop :=
  ∀ before item after earlier a b later, items = before ++ item :: after →
    (ordered || !item.isTask) = true → item.blocks = earlier ++ a :: b :: later →
    Block.writtenBefore ordered indent before earlier ++ a.inItem indent ++ b.inItem indent <+:
        Block.renderItems ordered indent 1 items ∧
      ((a.inItem indent).Shows → (b.inItem indent).Shows →
        '\n' ∈ Text.blanksBetween (a.inItem indent) (b.inItem indent))

/-- Whether the line of a block of an item is ended behind what it shows. -/
def Block.closesLine : Block → Prop
  | .paragraph inlines => '\n' ∈ (Inline.renderAll inlines).rtakeWhile Text.isBlank
  | .list _ _ => False
  | _ => True

/-- Whether a line is ended before what a block of an item shows. -/
def Block.opensLine : Block → Prop
  | .list _ _ | .rule => True
  | .heading _ _ | .quote _ | .codeBlock _ _ | .table _ => False
  | .paragraph inlines => '\n' ∈ (Inline.renderAll inlines).takeWhile Text.isBlank
  | .html raw => '\n' ∈ (Html.render raw).takeWhile Text.isBlank
  | .container blocks => '\n' ∈ (Block.renderAll blocks).takeWhile Text.isBlank

theorem Block.closesLine_iff {indent : Text} {block : Block} (shows : (block.inItem indent).Shows) :
    '\n' ∈ (block.inItem indent).rtakeWhile Text.isBlank ↔ block.closesLine := by
  have alone (h : block.IsSelfContained) :
      '\n' ∈ (block.inItem indent).rtakeWhile Text.isBlank := by
    rw [h.inItem_eq] at shows ⊢
    exact (Block.isEnded_render block).mem_rtakeWhile shows
  cases block with
  | paragraph inlines => rw [inItem_paragraph, closesLine]
  | list ordered items =>
    rw [inItem_list] at shows ⊢
    exact iff_of_false (Text.line_feed_notMem_rtakeWhile shows rfl) id
  | _ => exact iff_of_true (alone trivial) trivial

theorem Block.opensLine_iff {indent : Text} {block : Block} (shows : (block.inItem indent).Shows) :
    '\n' ∈ (block.inItem indent).takeWhile Text.isBlank ↔ block.opensLine := by
  have alone (h : block.IsSelfContained) := h.inItem_eq indent
  cases block with
  | paragraph inlines => rw [inItem_paragraph, opensLine]
  | list ordered items => exact iff_of_true List.mem_cons_self trivial
  | rule => exact iff_of_true List.mem_cons_self trivial
  | heading level inlines => exact iff_of_false List.not_mem_nil id
  | codeBlock info lines => exact iff_of_false List.not_mem_nil id
  | table rows => exact iff_of_false List.not_mem_nil id
  | quote blocks =>
    -- A quotation of nothing shows nothing; any other starts with `>`.
    rw [alone trivial, render_quote] at shows ⊢
    cases quoted : quotedLines (Block.renderAll blocks) with
    | nil =>
      rw [quoted] at shows
      exact absurd shows (Text.not_shows rfl)
    | cons line rest => exact iff_of_false List.not_mem_nil id
  | html raw =>
    -- The line feeds at its end are not before what it shows.
    rw [alone trivial, render] at shows ⊢
    rw [Text.takeWhile_isBlank_append (shows.of_append rfl), opensLine]
  | container blocks => rw [alone trivial, render, opensLine]

theorem Block.mem_blanksBetween_iff {indent : Text} {a b : Block} (ha : (a.inItem indent).Shows)
    (hb : (b.inItem indent).Shows) :
    '\n' ∈ Text.blanksBetween (a.inItem indent) (b.inItem indent) ↔
      a.closesLine ∨ b.opensLine := by
  rw [Text.blanksBetween, List.mem_append, closesLine_iff ha, opensLine_iff hb]

/-- Neighbours of an item are written one right behind the other. -/
theorem Block.writtenBefore_isPrefix {ordered : Bool} {item : ListItem}
    (withBlocks : (ordered || !item.isTask) = true) {earlier later : List Block} {a b : Block}
    (neighbours : item.blocks = earlier ++ a :: b :: later) (indent : Text)
    (before after : List ListItem) :
    Block.writtenBefore ordered indent before earlier ++ a.inItem indent ++ b.inItem indent <+:
      Block.renderItems ordered indent 1 (before ++ item :: after) := by
  obtain ⟨isTask, checked, taskText, blocks⟩ := item
  have noTask : ¬ (!ordered && isTask) = true := by
    rw [Bool.not_eq_true, Bool.and_eq_false_iff, Bool.not_eq_false']
    simpa using withBlocks
  have inside : Block.renderInItem indent blocks =
      Block.renderInItem indent earlier ++ (a.inItem indent ++ (b.inItem indent ++
        Block.renderInItem indent later)) := by
    rw [← renderInItem_cons, ← renderInItem_cons, ← renderInItem_append, ← neighbours]
  rw [renderItems_append, renderItems, ListItem.render, if_neg noTask, inside, writtenBefore]
  refine ⟨Block.renderInItem indent later ++ ['\n'] ++
    Block.renderItems ordered indent (1 + before.length + 1) after, ?_⟩
  simp only [List.append_assoc]

/-! ### Lists -/

/-- A list keeps the blocks of its items apart exactly if of every two neighbours that both
show something, the first closes its line or the second opens one. The first does so unless
it is a nested list or a paragraph without a line feed at its end, and the second only if it
is a nested list, a rule, or starts with a line feed. -/
theorem Block.blocksApart_iff (ordered : Bool) (indent : Text) (items : List ListItem) :
    Block.BlocksApart ordered indent items ↔
      ∀ item ∈ items, (ordered || !item.isTask) = true →
        item.blocks.IsChain fun a b => (a.inItem indent).Shows → (b.inItem indent).Shows →
          a.closesLine ∨ b.opensLine := by
  constructor
  · intro apart item isItem withBlocks
    obtain ⟨before, after, split⟩ := List.append_of_mem isItem
    apply List.isChain_iff_forall_rel_of_append_cons_cons.mpr
    intro a b earlier later neighbours ha hb
    rw [← mem_blanksBetween_iff ha hb]
    exact (apart before item after earlier a b later split withBlocks neighbours).2 ha hb
  · rintro chain before item after earlier a b later rfl withBlocks neighbours
    refine ⟨writtenBefore_isPrefix withBlocks neighbours indent before after, ?_⟩
    intro ha hb
    rw [mem_blanksBetween_iff ha hb]
    have inChain := chain item (List.mem_append_right _ List.mem_cons_self) withBlocks
    exact List.isChain_iff_forall_rel_of_append_cons_cons.mp inChain neighbours ha hb

/-- A paragraph behind a nested list runs into the line of the item nested there, and the next
paragraph into the same word. -/
theorem Block.paragraphs_run_together :
    let paragraph (c : Char) : Block := .paragraph [.literal [c]]
    let item : ListItem := ⟨false, false, [],
      [paragraph 'a', .list false [⟨false, false, [], [paragraph 'b']⟩], paragraph 'c',
        paragraph 'd']⟩
    Block.renderItems false [] 1 [item] = "• a\n  • bcd\n".toList ∧
      ¬ Block.BlocksApart false [] [item] := by
  intro paragraph item
  refine ⟨by decide, ?_⟩
  intro apart
  have shows (c : Char) (notBlank : Text.isBlank c = false) : Text.Shows [c] :=
    ⟨c, List.mem_singleton_self c, notBlank⟩
  have neighbours : item.blocks =
      [paragraph 'a', .list false [⟨false, false, [], [paragraph 'b']⟩]] ++
        paragraph 'c' :: paragraph 'd' :: [] := rfl
  have between := (apart [] item [] _ _ _ [] rfl rfl neighbours).2 (shows 'c' rfl) (shows 'd' rfl)
  exact absurd between (by decide)

end TelegramMarkdown
