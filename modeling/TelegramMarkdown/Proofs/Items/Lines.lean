import TelegramMarkdown.Proofs.Text
import TelegramMarkdown.Render.Block

/-!
Lists that show one line for every item.

`Block.placedItems` goes through a list and the lists nested in it and notes where each item
stands; a task of a list without numbers hides what is nested in it. If every item has text
of one line, and besides it only nested lists, then the list is rendered as the lines of
these items (`Block.lines_renderItems`).
-/

namespace TelegramMarkdown

/-! ### Items of one line -/

/-- A text that takes up a line and no more: it shows something, is on one line, and has no
blank at its end. -/
structure Text.IsOneLine (t : Text) : Prop where
  notEmpty : t ≠ []
  noLineFeed : '\n' ∉ t
  noBlankAtEnd : ∀ c ∈ t.getLast?, isBlank c = false

theorem Text.isOneLine_iff {t : Text} :
    t.IsOneLine ↔ t ≠ [] ∧ '\n' ∉ t ∧ t.getLast?.all (!isBlank ·) = true := by
  have tight : t.getLast?.all (!isBlank ·) = true ↔ ∀ c ∈ t.getLast?, isBlank c = false := by
    cases t.getLast? with
    | none => simp
    | some c => simp
  rw [tight]
  exact ⟨fun h => ⟨h.notEmpty, h.noLineFeed, h.noBlankAtEnd⟩, fun h => ⟨h.1, h.2.1, h.2.2⟩⟩

instance (t : Text) : Decidable t.IsOneLine :=
  decidable_of_iff _ Text.isOneLine_iff.symm

mutual

/-- Whether every item that a list shows has text of one line. -/
def Block.ItemsOneLine (ordered : Bool) : List ListItem → Prop
  | [] => True
  | item :: rest => item.OneLine ordered ∧ Block.ItemsOneLine ordered rest

/-- The same for an item of a list: its task text, or its paragraph, before which nothing
and behind which only nested lists of such items stand. -/
def ListItem.OneLine (ordered : Bool) : ListItem → Prop
  | { isTask, checked := _, taskText, blocks } =>
    if !ordered && isTask then Text.IsOneLine (Escape.prose taskText)
    else Block.ParagraphThenLists blocks

/-- The same for the blocks of an item. -/
def Block.ParagraphThenLists : List Block → Prop
  | .paragraph inlines :: nested =>
    Text.IsOneLine (Inline.renderAll inlines) ∧ Block.NestedLists nested
  | _ => False

/-- The same for the lists nested in an item, none of which is empty. -/
def Block.NestedLists : List Block → Prop
  | [] => True
  | .list ordered items :: rest =>
    items ≠ [] ∧ Block.ItemsOneLine ordered items ∧ Block.NestedLists rest
  | _ => False

end

/-! ### Items and their lines -/

/-- An item with its place: how many lists its own is nested in, whether its list has
numbers, and its number there. -/
structure PlacedItem where
  depth : Nat
  ordered : Bool
  number : Nat
  item : ListItem

mutual

/-- The items that a list shows, from a given number on: each before those nested in it. -/
def Block.placedItems (depth : Nat) (ordered : Bool) (number : Nat) :
    List ListItem → List PlacedItem
  | [] => []
  | item :: rest =>
    ⟨depth, ordered, number, item⟩ ::
      (item.nestedItems depth ordered ++ Block.placedItems depth ordered (number + 1) rest)

/-- The items that the lists nested in an item show. -/
def ListItem.nestedItems (depth : Nat) (ordered : Bool) : ListItem → List PlacedItem
  | { isTask, checked := _, taskText := _, blocks } =>
    if !ordered && isTask then [] else Block.nestedItems depth blocks

/-- The items that the lists among blocks show. -/
def Block.nestedItems (depth : Nat) : List Block → List PlacedItem
  | [] => []
  | .list ordered items :: rest =>
    Block.placedItems (depth + 1) ordered 1 items ++ Block.nestedItems depth rest
  | _ :: rest => Block.nestedItems depth rest

end

namespace PlacedItem

/-- What the line of an item starts with: a number, a checkbox or a bullet. -/
def marker (p : PlacedItem) : Text :=
  if p.ordered then Text.ofNat p.number ++ "\\. ".toList
  else if p.item.isTask then
    if p.item.checked then "\\- \\[x\\] ".toList else "\\- \\[ \\] ".toList
  else "• ".toList

/-- The text of an item: that of a task, or its first paragraph. -/
def text (p : PlacedItem) : Text :=
  if !p.ordered && p.item.isTask then Escape.prose p.item.taskText
  else match p.item.blocks with
    | .paragraph inlines :: _ => Inline.renderAll inlines
    | _ => []

/-- The line of an item, indented by two spaces for every list that its own is nested in. -/
def line (indent : Text) (p : PlacedItem) : Text :=
  indent ++ List.replicate (2 * p.depth) ' ' ++ p.marker ++ p.text

end PlacedItem

/-- The lines of items, each with a line feed behind it. -/
def writeLines (indent : Text) (items : List PlacedItem) : Text :=
  (items.map (·.line indent)).flatMap (· ++ ['\n'])

theorem writeLines_cons (indent : Text) (p : PlacedItem) (items : List PlacedItem) :
    writeLines indent (p :: items) = p.line indent ++ '\n' :: writeLines indent items := by
  simp [writeLines]

theorem writeLines_append (indent : Text) (items others : List PlacedItem) :
    writeLines indent (items ++ others) = writeLines indent items ++ writeLines indent others := by
  simp [writeLines]

/-! ### Every line shows something -/

theorem ListItem.isOneLine_text {ordered : Bool} {item : ListItem} (h : item.OneLine ordered)
    (depth number : Nat) : (PlacedItem.mk depth ordered number item).text.IsOneLine := by
  obtain ⟨isTask, checked, taskText, blocks⟩ := item
  rw [ListItem.OneLine] at h
  rw [PlacedItem.text]
  split at h
  case isTrue task =>
    rw [if_pos task]
    exact h
  case isFalse noTask =>
    rw [if_neg noTask]
    match blocks, h with
    | .paragraph inlines :: _, h => exact h.1

mutual

theorem Block.isOneLine_of_mem_placedItems (depth : Nat) (ordered : Bool) (number : Nat) :
    ∀ items : List ListItem, Block.ItemsOneLine ordered items →
      ∀ p ∈ Block.placedItems depth ordered number items, p.text.IsOneLine
  | [], _ => List.forall_mem_nil _
  | item :: rest, h => by
    rw [Block.placedItems, List.forall_mem_cons, List.forall_mem_append]
    exact ⟨item.isOneLine_text h.1 depth number,
      ListItem.isOneLine_of_mem_nestedItems depth ordered item h.1,
      Block.isOneLine_of_mem_placedItems depth ordered (number + 1) rest h.2⟩

theorem ListItem.isOneLine_of_mem_nestedItems (depth : Nat) (ordered : Bool) :
    ∀ item : ListItem, item.OneLine ordered →
      ∀ p ∈ item.nestedItems depth ordered, p.text.IsOneLine
  | { isTask, checked, taskText, blocks }, h => by
    rw [ListItem.OneLine] at h
    rw [ListItem.nestedItems]
    split at h
    case isTrue task =>
      rw [if_pos task]
      exact List.forall_mem_nil _
    case isFalse noTask =>
      rw [if_neg noTask]
      match blocks, h with
      | .paragraph inlines :: nested, h =>
        exact Block.isOneLine_of_mem_nestedItems depth nested h.2

theorem Block.isOneLine_of_mem_nestedItems (depth : Nat) :
    ∀ blocks : List Block, Block.NestedLists blocks →
      ∀ p ∈ Block.nestedItems depth blocks, p.text.IsOneLine
  | [], _ => List.forall_mem_nil _
  | .list ordered items :: rest, h => by
    rw [Block.nestedItems, List.forall_mem_append]
    exact ⟨Block.isOneLine_of_mem_placedItems (depth + 1) ordered 1 items h.2.1,
      Block.isOneLine_of_mem_nestedItems depth rest h.2.2⟩

end

namespace PlacedItem

variable {p : PlacedItem} (indent : Text)

theorem marker_of_task (h : (!p.ordered && p.item.isTask) = true) :
    p.marker = "\\- ".toList ++ checkbox p.item.checked := by
  obtain ⟨noNumbers, isTask⟩ : p.ordered = false ∧ p.item.isTask = true := by simpa using h
  rw [marker, if_neg (by simp [noNumbers]), if_pos isTask]
  cases p.item.checked with
  | true => rfl
  | false => rfl

theorem marker_of_not_task (h : ¬ (!p.ordered && p.item.isTask) = true) :
    p.marker = bullet p.ordered p.number := by
  rw [marker, bullet]
  cases numbered : p.ordered with
  | true => rfl
  | false =>
    have noTask : ¬ p.item.isTask = true := by simpa [numbered] using h
    rw [if_neg Bool.false_ne_true, if_neg noTask]
    rfl

theorem line_feed_notMem_marker (p : PlacedItem) : '\n' ∉ p.marker := by
  have digits : '\n' ∉ Text.ofNat p.number := fun isIn => Text.ne_of_mem_ofNat isIn (by decide) rfl
  rw [marker]
  split
  · exact fun isIn => (List.mem_append.mp isIn).elim digits (by decide)
  · split
    · split <;> decide
    · decide

theorem not_isBlank_of_mem_getLast?_line (h : p.text.IsOneLine) :
    ∀ c ∈ (p.line indent).getLast?, Text.isBlank c = false := by
  rw [line, List.getLast?_append_of_ne_nil _ h.notEmpty]
  exact h.noBlankAtEnd

theorem line_feed_notMem_line {indent : Text} (spaces : '\n' ∉ indent) (h : p.text.IsOneLine) :
    '\n' ∉ p.line indent := by
  have deeper : '\n' ∉ List.replicate (2 * p.depth) ' ' := by simp
  rw [line, List.mem_append, List.mem_append, List.mem_append]
  rintro (((inIndent | isDeeper) | inMarker) | inText)
  · exact spaces inIndent
  · exact deeper isDeeper
  · exact p.line_feed_notMem_marker inMarker
  · exact h.noLineFeed inText

theorem line_ne_nil (h : p.text.IsOneLine) : p.line indent ≠ [] :=
  fun isNil => h.notEmpty (List.append_eq_nil_iff.mp isNil).2

end PlacedItem

/-- Trimming takes the last line feed away and nothing more. -/
theorem trimEnd_writeLines (indent : Text) {items : List PlacedItem} (ne : items ≠ [])
    (h : ∀ p ∈ items, p.text.IsOneLine) :
    Text.trimEnd (writeLines indent items) ++ ['\n'] = writeLines indent items := by
  obtain ⟨init, last, rfl⟩ := (List.eq_nil_or_concat' items).resolve_left ne
  have shows := h last (by simp)
  have whole : writeLines indent (init ++ [last]) =
      writeLines indent init ++ last.line indent ++ ['\n'] := by
    rw [writeLines_append, writeLines_cons, List.append_assoc]
    rfl
  have tight : ∀ c ∈ (writeLines indent init ++ last.line indent).getLast?,
      Text.isBlank c = false := by
    rw [List.getLast?_append_of_ne_nil _ (last.line_ne_nil indent shows)]
    exact last.not_isBlank_of_mem_getLast?_line indent shows
  rw [whole, Text.trimEnd_eq_rdropWhile, List.rdropWhile_concat_pos _ _ _ (by decide),
    ← Text.trimEnd_eq_rdropWhile, Text.trimEnd_eq_self tight]

/-! ### Rendering writes the lines -/

theorem Block.placedItems_ne_nil {items : List ListItem} (ne : items ≠ []) (depth : Nat)
    (ordered : Bool) (number : Nat) : Block.placedItems depth ordered number items ≠ [] := by
  obtain ⟨item, rest, rfl⟩ := List.exists_cons_of_ne_nil ne
  exact List.cons_ne_nil _ _

theorem indent_deeper (indent : Text) (depth : Nat) :
    indent ++ List.replicate (2 * depth) ' ' ++ [' ', ' '] =
      indent ++ List.replicate (2 * (depth + 1)) ' ' := by
  rw [Nat.mul_succ, List.replicate_add, List.append_assoc]
  rfl

mutual

theorem Block.renderItems_eq_writeLines (indent : Text) (depth : Nat) (ordered : Bool)
    (number : Nat) :
    ∀ items : List ListItem, Block.ItemsOneLine ordered items →
      Block.renderItems ordered (indent ++ List.replicate (2 * depth) ' ') number items =
        writeLines indent (Block.placedItems depth ordered number items)
  | [], _ => rfl
  | item :: rest, h => by
    rw [Block.renderItems, Block.placedItems, ← List.cons_append, writeLines_append,
      ListItem.render_eq_writeLines indent depth ordered number item h.1,
      Block.renderItems_eq_writeLines indent depth ordered (number + 1) rest h.2]

theorem ListItem.render_eq_writeLines (indent : Text) (depth : Nat) (ordered : Bool)
    (number : Nat) :
    ∀ item : ListItem, item.OneLine ordered →
      item.render ordered (indent ++ List.replicate (2 * depth) ' ') number =
        writeLines indent
          (⟨depth, ordered, number, item⟩ :: item.nestedItems depth ordered)
  | { isTask, checked, taskText, blocks }, h => by
    rw [ListItem.OneLine] at h
    split at h
    case isTrue task =>
      rw [ListItem.render, if_pos task, ListItem.nestedItems, if_pos task, writeLines_cons,
        PlacedItem.line, PlacedItem.marker_of_task task, PlacedItem.text, if_pos task]
      simp [writeLines]
    case isFalse noTask =>
      match blocks, h with
      | .paragraph inlines :: nested, h =>
        let p : PlacedItem :=
          ⟨depth, ordered, number, isTask, checked, taskText, .paragraph inlines :: nested⟩
        have behind := Block.renderInItem_eq_writeLines indent depth nested h.2
        have line : p.line indent = indent ++ List.replicate (2 * depth) ' ' ++
            bullet ordered number ++ Inline.renderAll inlines := by
          rw [PlacedItem.line, PlacedItem.marker_of_not_task noTask, PlacedItem.text,
            if_neg noTask]
        calc p.item.render ordered (indent ++ List.replicate (2 * depth) ' ') number
            = indent ++ List.replicate (2 * depth) ' ' ++ bullet ordered number ++
                Inline.renderAll inlines ++
                (Block.renderInItem (indent ++ List.replicate (2 * depth) ' ') nested ++
                  ['\n']) := by
              rw [ListItem.render, if_neg noTask, Block.renderInItem]
              simp only [List.append_assoc]
          _ = writeLines indent (p :: p.item.nestedItems depth ordered) := by
              rw [behind, ← line, writeLines_cons, ListItem.nestedItems, if_neg noTask,
                Block.nestedItems]
              nofun

theorem Block.renderInItem_eq_writeLines (indent : Text) (depth : Nat) :
    ∀ blocks : List Block, Block.NestedLists blocks →
      Block.renderInItem (indent ++ List.replicate (2 * depth) ' ') blocks ++ ['\n'] =
        '\n' :: writeLines indent (Block.nestedItems depth blocks)
  | [], _ => rfl
  | .list ordered items :: rest, h => by
    -- The nested list loses its last line feed to trimming. What follows starts with one: the
    -- next nested list does, and so does the end of the item.
    have nested := Block.renderItems_eq_writeLines indent (depth + 1) ordered 1 items h.2.1
    have behind := Block.renderInItem_eq_writeLines indent depth rest h.2.2
    let placed := Block.placedItems (depth + 1) ordered 1 items
    have trimmed : Text.trimEnd (writeLines indent placed) ++ ['\n'] = writeLines indent placed :=
      trimEnd_writeLines indent (Block.placedItems_ne_nil h.1 (depth + 1) ordered 1)
        (Block.isOneLine_of_mem_placedItems (depth + 1) ordered 1 items h.2.1)
    calc Block.renderInItem (indent ++ List.replicate (2 * depth) ' ')
          (.list ordered items :: rest) ++ ['\n']
        = '\n' :: Text.trimEnd (writeLines indent placed) ++
            '\n' :: writeLines indent (Block.nestedItems depth rest) := by
          rw [Block.renderInItem, indent_deeper, nested, List.append_assoc, behind]
      _ = '\n' :: (Text.trimEnd (writeLines indent placed) ++ ['\n'] ++
            writeLines indent (Block.nestedItems depth rest)) := by
          simp
      _ = '\n' :: writeLines indent (Block.nestedItems depth (.list ordered items :: rest)) := by
          rw [trimmed, Block.nestedItems, writeLines_append]

end

/-! ### The lines of a list -/

/-- A list in which every item that is shown has text of one line, and besides it only nested
lists that are not empty, is rendered with any indent as the lines of these items: each item
before those nested in it, two spaces deeper for every list around its own, with its marker
and its text. None of the lines is blank. -/
theorem Block.lines_renderItems (ordered : Bool) (n : Nat) (items : List ListItem)
    (h : Block.ItemsOneLine ordered items) :
    let indent := List.replicate n ' '
    let lines := (Block.placedItems 0 ordered 1 items).map (·.line indent)
    Block.renderItems ordered indent 1 items = lines.flatMap (· ++ ['\n']) ∧
      Text.lines (Block.renderItems ordered indent 1 items) = lines ∧
      ∀ line ∈ lines, ∃ c ∈ line, Text.isBlank c = false := by
  intro indent lines
  have oneLine := Block.isOneLine_of_mem_placedItems 0 ordered 1 items h
  have written : Block.renderItems ordered indent 1 items = lines.flatMap (· ++ ['\n']) := by
    have rendered := Block.renderItems_eq_writeLines indent 0 ordered 1 items h
    rwa [Nat.mul_zero, List.replicate_zero, List.append_nil] at rendered
  have tight : ∀ line ∈ lines, ∀ c ∈ line.getLast?, Text.isBlank c = false := by
    intro line isLine
    obtain ⟨p, isPlaced, rfl⟩ := List.mem_map.mp isLine
    exact p.not_isBlank_of_mem_getLast?_line indent (oneLine p isPlaced)
  refine ⟨written, ?_, ?_⟩
  · rw [written]
    apply Text.lines_flatMap
    · intro line isLine
      obtain ⟨p, isPlaced, rfl⟩ := List.mem_map.mp isLine
      exact p.line_feed_notMem_line (by simp [indent]) (oneLine p isPlaced)
    · intro line isLine returns
      exact absurd (tight line isLine '\r' returns) (by decide)
  · intro line isLine
    obtain ⟨p, isPlaced, rfl⟩ := List.mem_map.mp isLine
    have ne := p.line_ne_nil indent (oneLine p isPlaced)
    exact ⟨_, List.getLast_mem ne, tight _ isLine _ (List.getLast_mem_getLast? ne)⟩

/-- Lists of all kinds in one another, two of them in one item, and a task that hides a list:
five lines. -/
theorem Block.lines_renderItems_nested :
    let task (text : Text) (checked : Bool) (blocks : List Block) : ListItem :=
      ⟨true, checked, text, blocks⟩
    let plain (text : Text) (nested : List Block) : ListItem :=
      ⟨false, false, [], .paragraph [.literal text] :: nested⟩
    let items : List ListItem := [
      plain ['a'] [
        .list false [task ['!'] true [.paragraph [], .list true [plain ['x'] []]]],
        .list true [task ['\\'] false [.paragraph [.emphasis '*' 1 [.literal ['b']]]]]],
      plain ['c'] [.list false [plain ['d'] []]]]
    Block.ItemsOneLine true items ∧
      Text.lines (Block.renderItems true [' '] 1 items) =
        [" 1\\. a".toList, "   \\- \\[x\\] \\!".toList,
          "   1\\. \u200B_\u200Bb\u200B_\u200B".toList, " 2\\. c".toList, "   • d".toList] := by
  intro task plain items
  have h : Block.ItemsOneLine true items := by
    simp only [items, task, plain, Block.ItemsOneLine, ListItem.OneLine,
      Block.ParagraphThenLists, Block.NestedLists]
    decide
  exact ⟨h, (Block.lines_renderItems true 1 items h).2.1.trans (by decide)⟩

end TelegramMarkdown
