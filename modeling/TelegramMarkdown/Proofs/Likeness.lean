import TelegramMarkdown.Proofs.Items.Blocks

/-!
What a rendered text does not show.

Two documents are alike (`Block.AllAlike`) if they differ only in what rendering does not look
at: the level of headings, what a task holds besides its text, what is known of items that are
no tasks, how emphasis was written where it makes no difference, and of the cells of tables
all but the text in their paragraphs. Documents that are alike are rendered to the same text
(`Document.render_eq_of_alike`).
-/

namespace TelegramMarkdown

/-! ### Inlines -/

mutual

/-- Inlines that differ only in how emphasis in them was written: one `*` or one `_`, or any
number of `~`. -/
inductive Inline.Alike : Inline → Inline → Prop
  | same (inline : Inline) : Alike inline inline
  | emphasis {children children' : List Inline} (delimiter : Char) (count : Nat) :
      Inline.AllAlike children children' →
        Alike (.emphasis delimiter count children) (.emphasis delimiter count children')
  | italic {children children' : List Inline} {delimiter delimiter' : Char} :
      delimiter ∈ ['*', '_'] → delimiter' ∈ ['*', '_'] → Inline.AllAlike children children' →
        Alike (.emphasis delimiter 1 children) (.emphasis delimiter' 1 children')
  | strikethrough {children children' : List Inline} (count count' : Nat) :
      Inline.AllAlike children children' →
        Alike (.emphasis '~' count children) (.emphasis '~' count' children')
  | link {children children' : List Inline} (url : Text) (isImage : Bool) :
      Inline.AllAlike children children' →
        Alike (.link url isImage children) (.link url isImage children')
  | container {children children' : List Inline} :
      Inline.AllAlike children children' → Alike (.container children) (.container children')

/-- The same for inlines, one by one. -/
inductive Inline.AllAlike : List Inline → List Inline → Prop
  | nil : AllAlike [] []
  | cons {inline inline' : Inline} {rest rest' : List Inline} :
      inline.Alike inline' → AllAlike rest rest' → AllAlike (inline :: rest) (inline' :: rest')

end

theorem Inline.AllAlike.isEmpty_eq {inlines inlines' : List Inline}
    (h : Inline.AllAlike inlines inlines') : inlines.isEmpty = inlines'.isEmpty := by
  cases h with
  | nil => rfl
  | cons => rfl

theorem Marker.ofDelimiter?_one {delimiter : Char} (h : delimiter ∈ ['*', '_']) :
    Marker.ofDelimiter? delimiter 1 = some Marker.italic := by
  obtain rfl | rfl : delimiter = '*' ∨ delimiter = '_' := by simpa using h
  · rfl
  · rfl

theorem Marker.ofDelimiter?_tilde (count : Nat) :
    Marker.ofDelimiter? '~' count = some Marker.strikethrough := by
  simp [ofDelimiter?]

mutual

theorem Inline.Alike.render_eq : ∀ {inline inline' : Inline},
    inline.Alike inline' → inline.render = inline'.render
  | _, _, .same _ => rfl
  | _, _, .emphasis _ _ h => by rw [Inline.render, Inline.render, h.renderAll_eq]
  | _, _, .italic isItalic isItalic' h => by
    rw [Inline.render, Inline.render, Marker.ofDelimiter?_one isItalic,
      Marker.ofDelimiter?_one isItalic', h.renderAll_eq]
  | _, _, .strikethrough _ _ h => by
    rw [Inline.render, Inline.render, Marker.ofDelimiter?_tilde, Marker.ofDelimiter?_tilde,
      h.renderAll_eq]
  | _, _, .link _ _ h => by
    rw [Inline.render, Inline.render, h.renderAll_eq, h.isEmpty_eq]
  | _, _, .container h => by rw [Inline.render, Inline.render, h.renderAll_eq]

theorem Inline.AllAlike.renderAll_eq : ∀ {inlines inlines' : List Inline},
    Inline.AllAlike inlines inlines' → Inline.renderAll inlines = Inline.renderAll inlines'
  | _, _, .nil => rfl
  | _, _, .cons first rest => by
    rw [Inline.renderAll, Inline.renderAll, first.render_eq, rest.renderAll_eq]

end

/-! ### Cells of tables -/

/-- Inlines of which a cell of a table shows nothing. -/
def Inline.IsHiddenInCell : Inline → Prop
  | .lineBreak | .htmlTag _ | .autolink _ | .spoiler _ | .container _ => True
  | _ => False

/-- Inlines of a cell that differ only in emphasis, in where links lead and whether they are
images, and in inlines of which a cell shows nothing. -/
inductive Inline.AllAlikeInCell : List Inline → List Inline → Prop
  | nil : AllAlikeInCell [] []
  | cons {rest rest' : List Inline} (inline : Inline) :
      AllAlikeInCell rest rest' → AllAlikeInCell (inline :: rest) (inline :: rest')
  | emphasis {children children' rest rest' : List Inline} (delimiter delimiter' : Char)
      (count count' : Nat) : AllAlikeInCell children children' → AllAlikeInCell rest rest' →
        AllAlikeInCell (.emphasis delimiter count children :: rest)
          (.emphasis delimiter' count' children' :: rest')
  | link {children children' rest rest' : List Inline} (url url' : Text)
      (isImage isImage' : Bool) : AllAlikeInCell children children' → AllAlikeInCell rest rest' →
        AllAlikeInCell (.link url isImage children :: rest) (.link url' isImage' children' :: rest')
  | hidden {inline : Inline} {rest inlines : List Inline} :
      inline.IsHiddenInCell → AllAlikeInCell rest inlines → AllAlikeInCell (inline :: rest) inlines
  | hidden' {inline : Inline} {rest inlines : List Inline} :
      inline.IsHiddenInCell → AllAlikeInCell inlines rest → AllAlikeInCell inlines (inline :: rest)

/-- A block of which a cell of a table shows something. -/
def Block.IsParagraph : Block → Prop
  | .paragraph _ => True
  | _ => False

/-- Cells that differ only in their paragraphs as described, and in blocks of other kinds. -/
inductive Block.AllAlikeInCell : List Block → List Block → Prop
  | nil : AllAlikeInCell [] []
  | paragraph {inlines inlines' : List Inline} {rest rest' : List Block} :
      Inline.AllAlikeInCell inlines inlines' → AllAlikeInCell rest rest' →
        AllAlikeInCell (.paragraph inlines :: rest) (.paragraph inlines' :: rest')
  | hidden {block : Block} {rest blocks : List Block} :
      ¬ block.IsParagraph → AllAlikeInCell rest blocks → AllAlikeInCell (block :: rest) blocks
  | hidden' {block : Block} {rest blocks : List Block} :
      ¬ block.IsParagraph → AllAlikeInCell blocks rest → AllAlikeInCell blocks (block :: rest)

theorem Inline.IsHiddenInCell.plain_eq_nil {inline : Inline} (h : inline.IsHiddenInCell) :
    inline.plain = [] := by
  cases inline with
  | literal _ | emphasis _ _ _ | link _ _ _ | codeSpan _ => exact h.elim
  | lineBreak | htmlTag _ | autolink _ | spoiler _ | container _ => rfl

theorem Inline.AllAlikeInCell.plainAll_eq {inlines inlines' : List Inline}
    (h : Inline.AllAlikeInCell inlines inlines') :
    Inline.plainAll inlines = Inline.plainAll inlines' := by
  induction h with
  | nil => rfl
  | cons inline _ ih => rw [plainAll, ih, plainAll]
  | emphasis _ _ _ _ _ _ inside ih => rw [plainAll, plainAll, plain, plain, inside, ih]
  | link _ _ _ _ _ _ inside ih => rw [plainAll, plainAll, plain, plain, inside, ih]
  | hidden isHidden _ ih => rw [plainAll, isHidden.plain_eq_nil, List.nil_append, ih]
  | hidden' isHidden _ ih => rw [ih, plainAll, isHidden.plain_eq_nil, List.nil_append]

theorem cellText_paragraph (inlines : List Inline) (rest : List Block) :
    cellText (.paragraph inlines :: rest) = Inline.plainAll inlines ++ cellText rest := by
  rw [cellText, List.flatMap_cons, ← cellText]

theorem cellText_cons_of_not_isParagraph {block : Block} (h : ¬ block.IsParagraph)
    (rest : List Block) : cellText (block :: rest) = cellText rest := by
  cases block with
  | paragraph _ => exact absurd trivial h
  | _ => rfl

theorem Block.AllAlikeInCell.cellText_eq {cell cell' : List Block}
    (h : Block.AllAlikeInCell cell cell') : cellText cell = cellText cell' := by
  induction h with
  | nil => rfl
  | paragraph inside _ ih => rw [cellText_paragraph, inside.plainAll_eq, ih, cellText_paragraph]
  | hidden isHidden _ ih => rw [cellText_cons_of_not_isParagraph isHidden, ih]
  | hidden' isHidden _ ih => rw [ih, cellText_cons_of_not_isParagraph isHidden]

theorem rowText_eq_of_alike {row row' : List (List Block)}
    (h : List.Forall₂ Block.AllAlikeInCell row row') : rowText row = rowText row' := by
  have cells : row.map cellText = row'.map cellText := by
    induction h with
    | nil => rfl
    | cons cell _ ih => rw [List.map_cons, List.map_cons, cell.cellText_eq, ih]
  rw [rowText, rowText, cells]

theorem map_rowText_eq_of_alike {rows rows' : List (List (List Block))}
    (h : List.Forall₂ (List.Forall₂ Block.AllAlikeInCell) rows rows') :
    rows.map rowText = rows'.map rowText := by
  induction h with
  | nil => rfl
  | cons row _ ih => rw [List.map_cons, List.map_cons, rowText_eq_of_alike row, ih]

/-! ### Blocks -/

mutual

/-- Blocks that differ only in what is not shown of them. -/
inductive Block.Alike : Block → Block → Prop
  | same (block : Block) : Block.Alike block block
  | heading {inlines inlines' : List Inline} (level level' : Nat) :
      Inline.AllAlike inlines inlines' →
        Block.Alike (.heading level inlines) (.heading level' inlines')
  | paragraph {inlines inlines' : List Inline} :
      Inline.AllAlike inlines inlines' → Block.Alike (.paragraph inlines) (.paragraph inlines')
  | list {items items' : List ListItem} (ordered : Bool) :
      Block.ItemsAlike ordered items items' →
        Block.Alike (.list ordered items) (.list ordered items')
  | quote {blocks blocks' : List Block} :
      Block.AllAlike blocks blocks' → Block.Alike (.quote blocks) (.quote blocks')
  | table {rows rows' : List (List (List Block))} :
      List.Forall₂ (List.Forall₂ Block.AllAlikeInCell) rows rows' →
        Block.Alike (.table rows) (.table rows')
  | container {blocks blocks' : List Block} :
      Block.AllAlike blocks blocks' → Block.Alike (.container blocks) (.container blocks')

/-- The same for blocks, one by one. -/
inductive Block.AllAlike : List Block → List Block → Prop
  | nil : Block.AllAlike [] []
  | cons {block block' : Block} {rest rest' : List Block} :
      block.Alike block' → Block.AllAlike rest rest' →
        Block.AllAlike (block :: rest) (block' :: rest')

/-- The same for the items of a list, one by one. -/
inductive Block.ItemsAlike : (ordered : Bool) → List ListItem → List ListItem → Prop
  | nil (ordered : Bool) : Block.ItemsAlike ordered [] []
  | cons {ordered : Bool} {item item' : ListItem} {rest rest' : List ListItem} :
      ListItem.Alike ordered item item' → Block.ItemsAlike ordered rest rest' →
        Block.ItemsAlike ordered (item :: rest) (item' :: rest')

/-- The same for items. Of a task its blocks are not shown, and of other items not what
belongs to a task; in a list with numbers no item is shown as a task. -/
inductive ListItem.Alike : (ordered : Bool) → ListItem → ListItem → Prop
  | task (checked : Bool) (taskText : Text) (blocks blocks' : List Block) :
      ListItem.Alike false ⟨true, checked, taskText, blocks⟩ ⟨true, checked, taskText, blocks'⟩
  | bullet {blocks blocks' : List Block} (checked checked' : Bool) (taskText taskText' : Text) :
      Block.AllAlike blocks blocks' →
        ListItem.Alike false ⟨false, checked, taskText, blocks⟩
          ⟨false, checked', taskText', blocks'⟩
  | number {blocks blocks' : List Block} (isTask isTask' checked checked' : Bool)
      (taskText taskText' : Text) : Block.AllAlike blocks blocks' →
        ListItem.Alike true ⟨isTask, checked, taskText, blocks⟩
          ⟨isTask', checked', taskText', blocks'⟩

end

/-- Blocks that an item renders as they are rendered elsewhere. -/
theorem Block.renders_of_isSelfContained {block block' : Block} (h : block.IsSelfContained)
    (h' : block'.IsSelfContained) (same : block.render = block'.render) :
    block.render = block'.render ∧ ∀ indent, block.inItem indent = block'.inItem indent :=
  ⟨same, fun indent => by rw [h.inItem_eq, h'.inItem_eq, same]⟩

-- By recursion on the derivation. Blocks are rendered in two ways, for themselves and in an
-- item, and each comes up inside of the other: both are carried at once.
mutual

theorem Block.Alike.renders : ∀ {block block' : Block}, block.Alike block' →
    block.render = block'.render ∧ ∀ indent, block.inItem indent = block'.inItem indent
  | _, _, .same _ => ⟨rfl, fun _ => rfl⟩
  | _, _, .heading _ _ h =>
    Block.renders_of_isSelfContained trivial trivial
      (by rw [Block.render, Block.render, h.renderAll_eq])
  | _, _, .paragraph h =>
    ⟨by rw [Block.render, Block.render, h.renderAll_eq],
      fun _ => by rw [Block.inItem_paragraph, Block.inItem_paragraph, h.renderAll_eq]⟩
  | _, _, .list _ h =>
    ⟨by rw [Block.render, Block.render, h.renderItems_eq],
      fun _ => by rw [Block.inItem_list, Block.inItem_list, h.renderItems_eq]⟩
  | _, _, .quote h =>
    Block.renders_of_isSelfContained trivial trivial (by
      rw [Block.render, Block.render, Block.renderQuoted_eq_quoteLines,
        Block.renderQuoted_eq_quoteLines, h.renderAll_eq])
  | _, _, .table h =>
    Block.renders_of_isSelfContained trivial trivial
      (by rw [Block.render, Block.render, map_rowText_eq_of_alike h])
  | _, _, .container h =>
    Block.renders_of_isSelfContained trivial trivial
      (by rw [Block.render, Block.render, h.renderAll_eq])

theorem Block.AllAlike.renderAll_eq : ∀ {blocks blocks' : List Block},
    Block.AllAlike blocks blocks' → Block.renderAll blocks = Block.renderAll blocks'
  | _, _, .nil => rfl
  | _, _, .cons first rest => by
    rw [Block.renderAll, Block.renderAll, first.renders.1, rest.renderAll_eq]

theorem Block.AllAlike.renderInItem_eq (indent : Text) : ∀ {blocks blocks' : List Block},
    Block.AllAlike blocks blocks' →
      Block.renderInItem indent blocks = Block.renderInItem indent blocks'
  | _, _, .nil => rfl
  | _, _, .cons first rest => by
    rw [Block.renderInItem_cons, Block.renderInItem_cons, first.renders.2 indent,
      rest.renderInItem_eq]

theorem Block.ItemsAlike.renderItems_eq (indent : Text) (number : Nat) :
    ∀ {ordered : Bool} {items items' : List ListItem}, Block.ItemsAlike ordered items items' →
      Block.renderItems ordered indent number items =
        Block.renderItems ordered indent number items'
  | _, _, _, .nil _ => rfl
  | _, _, _, .cons first rest => by
    rw [Block.renderItems, Block.renderItems, first.render_eq, rest.renderItems_eq]

theorem ListItem.Alike.render_eq (indent : Text) (number : Nat) :
    ∀ {ordered : Bool} {item item' : ListItem}, ListItem.Alike ordered item item' →
      item.render ordered indent number = item'.render ordered indent number
  | _, _, _, .task _ _ _ _ => rfl
  | _, _, _, .bullet _ _ _ _ h => by
    rw [ListItem.render, ListItem.render, h.renderInItem_eq]
    rfl
  | _, _, _, .number _ _ _ _ _ _ h => by
    rw [ListItem.render, ListItem.render, h.renderInItem_eq]
    rfl

end

/-! ### Documents -/

/-- Documents that are alike are rendered to the same text. -/
theorem Document.render_eq_of_alike {document document' : Document}
    (h : Block.AllAlike document.blocks document'.blocks) : document.render = document'.render := by
  rw [Document.render, Document.render, h.renderAll_eq]

/-- Two quotations with a heading, a list in an item and a table in a container that differ in
every way that is not shown. -/
theorem Document.render_eq_of_alike_quotations :
    let quotation (level : Nat) (italic : Char) (tildes : Nat) (isTask checked : Bool)
        (taskText : Text) (hidden : List Block) (cell : List Inline) : List Block := [
      .quote [
        .heading level [.emphasis italic 1 [.link ['u'] true [.emphasis '~' tildes []]]],
        .list true [⟨isTask, checked, taskText, [
          .paragraph [.literal ['a']],
          .list false [⟨true, true, ['b'], hidden⟩, ⟨false, checked, taskText, []⟩]]⟩],
        .container [.table [[.paragraph cell :: hidden]]]]]
    let blocks := quotation 1 '*' 1 false false [] [.rule]
      [.emphasis '*' 2 [.link ['v'] true [.literal ['c']], .spoiler ['d']], .codeSpan ['e']]
    let blocks' := quotation 6 '_' 2 true true ['x'] [.quote [], .html ['y']]
      [.lineBreak, .emphasis '_' 3 [.link ['w'] false [.literal ['c']]], .container [.lineBreak],
        .codeSpan ['e'], .autolink ['v']]
    Block.AllAlike blocks blocks' ∧ Document.render ⟨blocks⟩ = Document.render ⟨blocks'⟩ := by
  intro quotation blocks blocks'
  have heading : Inline.AllAlike
      [.emphasis '*' 1 [.link ['u'] true [.emphasis '~' 1 []]]]
      [.emphasis '_' 1 [.link ['u'] true [.emphasis '~' 2 []]]] :=
    .cons (.italic (by decide) (by decide) (.cons (.link _ _ (.cons (.strikethrough _ _ .nil) .nil))
      .nil)) .nil
  have items : Block.ItemsAlike false
      [⟨true, true, ['b'], [.rule]⟩, ⟨false, false, [], []⟩]
      [⟨true, true, ['b'], [.quote [], .html ['y']]⟩, ⟨false, true, ['x'], []⟩] :=
    .cons (.task _ _ _ _) (.cons (.bullet _ _ _ _ .nil) (.nil _))
  have inlines : Inline.AllAlikeInCell
      [.emphasis '*' 2 [.link ['v'] true [.literal ['c']], .spoiler ['d']], .codeSpan ['e']]
      [.lineBreak, .emphasis '_' 3 [.link ['w'] false [.literal ['c']]], .container [.lineBreak],
        .codeSpan ['e'], .autolink ['v']] :=
    .hidden' trivial <| .emphasis _ _ _ _
      (.link _ _ _ _ (.cons _ .nil) <| .hidden trivial .nil)
      (.hidden' trivial <| .cons _ <| .hidden' trivial .nil)
  have cell : Block.AllAlikeInCell [.rule] [.quote [], .html ['y']] :=
    .hidden not_false <| .hidden' not_false <| .hidden' not_false .nil
  have alike : Block.AllAlike blocks blocks' :=
    .cons (.quote <|
      .cons (.heading _ _ heading) <|
      .cons (.list _ <| .cons (.number _ _ _ _ _ _ <|
        .cons (.same _) <| .cons (.list _ items) .nil) (.nil _)) <|
      .cons (.container <|
        .cons (.table <| .cons (.cons (.paragraph inlines cell) .nil) .nil) .nil) .nil) .nil
  exact ⟨alike, Document.render_eq_of_alike alike⟩

end TelegramMarkdown
