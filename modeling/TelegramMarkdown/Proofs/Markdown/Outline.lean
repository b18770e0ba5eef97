import TelegramMarkdown.Markdown.BlockStructure

/-!
Lists hold items only.

While a text is read, the innermost open container may be a list: an item of it has been
closed, and the next line decides whether another one follows. Whatever else that line
turns out to be, the list is closed first. So the outline of every text has nothing but
items in its lists (`Outline.allShaped_ofText`).
-/

namespace TelegramMarkdown.Markdown

namespace Container

/-- Whether the container is a list of items. Definitions share theirs with terms. -/
def isItemList : Container → Bool
  | list .. => true
  | _ => false

/-- Whether the container is an item of such a list. -/
def isListItem : Container → Bool
  | item _ => true
  | _ => false

@[simp] theorem isItemList_loosen (kind : Container) : kind.loosen.isItemList = kind.isItemList := by
  cases kind <;> rfl

@[simp] theorem isListItem_loosen (kind : Container) : kind.loosen.isListItem = kind.isListItem := by
  cases kind <;> rfl

theorem isItemList_of_isList_eq_false {kind : Container} (h : kind.isList = false) :
    kind.isItemList = false := by
  cases kind with
  | list _ _ _ => nomatch h
  | _ => rfl

theorem isListItem_of_isList {kind : Container} (h : kind.isList = true) :
    kind.isListItem = false := by
  cases kind with
  | list _ _ _ | definitionList _ => rfl
  | _ => nomatch h

end Container

namespace Node

/-- An item of a list. -/
def IsItem : Node → Prop
  | container kind _ => kind.isListItem = true
  | _ => False

mutual

/-- Whether lists in a block hold items only. -/
def IsShaped : Node → Prop
  | container kind children =>
    (kind.isItemList = true → ∀ child ∈ children, child.IsItem) ∧ AllShaped children
  | _ => True

/-- Whether lists in blocks hold items only. -/
def AllShaped : List Node → Prop
  | [] => True
  | node :: rest => node.IsShaped ∧ AllShaped rest

end

theorem allShaped_iff {nodes : List Node} :
    AllShaped nodes ↔ ∀ node ∈ nodes, node.IsShaped := by
  induction nodes with
  | nil => exact ⟨fun _ => nofun, fun _ => trivial⟩
  | cons node rest ih => rw [AllShaped, List.forall_mem_cons, ih]

end Node

/-! ### Open containers -/

namespace Frame

/-- What an open container holds so far is shaped. -/
structure IsShaped (f : Frame) : Prop where
  items : f.kind.isItemList = true → ∀ child ∈ f.children, child.IsItem
  children : ∀ child ∈ f.children, child.IsShaped

/-- Open containers, innermost first, are shaped, and what is open directly in a list is an
item. -/
def AllShaped : List Frame → Prop
  | [] => True
  | f :: rest =>
    f.IsShaped ∧
      (rest.head?.any (·.kind.isItemList) = true → f.kind.isListItem = true) ∧ AllShaped rest

theorem IsShaped.loosen {f : Frame} (h : f.IsShaped) :
    IsShaped { f with kind := f.kind.loosen } :=
  ⟨fun isList => h.items (by simpa using isList), h.children⟩

theorem any_head?_loosen (frames : List Frame) (n : Nat) :
    (frames.modify n fun f => { f with kind := f.kind.loosen }).head?.any (·.kind.isItemList) =
      frames.head?.any (·.kind.isItemList) := by
  cases frames <;> cases n <;> simp

theorem AllShaped.loosen {frames : List Frame} (h : AllShaped frames) (n : Nat) :
    AllShaped (frames.modify n fun f => { f with kind := f.kind.loosen }) := by
  induction frames generalizing n with
  | nil => simpa using h
  | cons f rest ih =>
    obtain ⟨first, fits, others⟩ := h
    cases n with
    | zero => exact ⟨first.loosen, by simpa using fits, others⟩
    | succ n =>
      exact ⟨first, fun inList => fits ((any_head?_loosen rest n).symm.trans inList), ih others n⟩

/-- What a closed container leaves behind is shaped, and is an item if the container was. -/
theorem IsShaped.close {f : Frame} (h : f.IsShaped) :
    (∀ node ∈ f.close, node.IsShaped) ∧
      (f.kind.isListItem = true → ∀ node ∈ f.close, node.IsItem) := by
  obtain ⟨kind, children⟩ := f
  have whole : (Node.container kind children.reverse).IsShaped :=
    ⟨fun isList child isIn => h.items isList child (List.mem_reverse.mp isIn),
      Node.allShaped_iff.mpr fun child isIn => h.children child (List.mem_reverse.mp isIn)⟩
  cases kind with
  | definitionList tight =>
    refine ⟨?_, nofun⟩
    intro node isIn
    have shaped : ∀ child ∈ children.reverse, child.IsShaped :=
      fun child isIn => h.children child (List.mem_reverse.mp isIn)
    rcases List.mem_append.mp isIn with after | inside
    · obtain ⟨child, isChild, rfl⟩ := List.mem_map.mp (List.mem_reverse.mp after)
      have childShaped := shaped child ((List.dropWhile_sublist _).subset isChild)
      split
      · trivial
      · exact childShaped
    · obtain rfl := List.mem_singleton.mp inside
      exact ⟨nofun, Node.allShaped_iff.mpr fun child isEntry =>
        shaped child ((List.takeWhile_sublist _).subset isEntry)⟩
  | quote | list _ _ _ | item _ | definition _ =>
    exact ⟨List.forall_mem_singleton.mpr whole,
      fun isItem => List.forall_mem_singleton.mpr isItem⟩

end Frame

namespace Outline

/-- Outside of open containers and in them, lists hold items only. -/
structure IsShaped (o : Outline) : Prop where
  frames : Frame.AllShaped o.frames
  blocks : ∀ node ∈ o.blocks, node.IsShaped

/-- Whether the innermost open container is a list, so that an item has to follow. -/
def inList (o : Outline) : Bool :=
  o.frames.head?.any (·.kind.isItemList)

theorem isShaped_empty : empty.IsShaped :=
  ⟨trivial, nofun⟩

@[simp] theorem inList_setSiblings (o : Outline) (nodes : List Node) :
    (o.setSiblings nodes).inList = o.inList := by
  obtain ⟨frames, _, _, _, _⟩ := o
  cases frames <;> rfl

@[simp] theorem inList_loosenAt (o : Outline) (n : Nat) : (o.loosenAt n).inList = o.inList :=
  Frame.any_head?_loosen o.frames n

theorem inList_eq (o : Outline) : o.inList = o.innermost?.any Container.isItemList := by
  obtain ⟨frames, _, _, _, _⟩ := o
  cases frames <;> rfl

theorem inList_of_innermost? {o : Outline} {kind : Container} (h : o.innermost? = some kind) :
    o.inList = kind.isItemList := by
  rw [inList_eq, h]
  rfl

theorem inList_eq_false_of_isList {o : Outline}
    (h : o.innermost?.any Container.isList = false) : o.inList = false := by
  cases innermost : o.innermost? with
  | none => rw [inList_eq, innermost]; rfl
  | some kind =>
    rw [innermost] at h
    rw [inList_of_innermost? innermost, Container.isItemList_of_isList_eq_false h]

namespace IsShaped

variable {o : Outline}

theorem siblings (h : o.IsShaped) :
    (∀ node ∈ o.siblings, node.IsShaped) ∧
      (o.inList = true → ∀ node ∈ o.siblings, node.IsItem) := by
  obtain ⟨frames, blocks, _, _, _⟩ := o
  cases frames with
  | nil => exact ⟨h.blocks, nofun⟩
  | cons f rest => exact ⟨h.frames.1.children, h.frames.1.items⟩

theorem setSiblings (h : o.IsShaped) {nodes : List Node} (shaped : ∀ node ∈ nodes, node.IsShaped)
    (items : o.inList = true → ∀ node ∈ nodes, node.IsItem) : (o.setSiblings nodes).IsShaped := by
  obtain ⟨frames, blocks, _, _, _⟩ := o
  cases frames with
  | nil => exact ⟨trivial, shaped⟩
  | cons f rest => exact ⟨⟨⟨items, shaped⟩, h.frames.2⟩, h.blocks⟩

theorem setSiblings_outside (h : o.IsShaped) (outside : o.inList = false) {nodes : List Node}
    (shaped : ∀ node ∈ nodes, node.IsShaped) : (o.setSiblings nodes).IsShaped := by
  apply h.setSiblings shaped
  rw [outside]
  nofun

theorem append (h : o.IsShaped) {node : Node} (shaped : node.IsShaped)
    (outside : o.inList = false) : (o.append node).IsShaped :=
  h.setSiblings_outside outside (List.forall_mem_cons.mpr ⟨shaped, h.siblings.1⟩)

theorem push (h : o.IsShaped) (kind : Container)
    (fits : o.inList = true → kind.isListItem = true) : (o.push kind).IsShaped :=
  ⟨⟨⟨fun _ => nofun, nofun⟩, fits, h.frames⟩, h.blocks⟩

theorem push_outside (h : o.IsShaped) (outside : o.inList = false) (kind : Container) :
    (o.push kind).IsShaped := by
  apply h.push
  rw [outside]
  nofun

theorem close (h : o.IsShaped) : o.close.IsShaped := by
  obtain ⟨frames, blocks, itemBegun, afterBlank, definitions⟩ := o
  cases frames with
  | nil => exact h
  | cons f rest =>
    obtain ⟨⟨first, fits, others⟩, outside⟩ := h
    obtain ⟨shaped, items⟩ := first.close
    have outer : IsShaped ⟨rest, blocks, itemBegun, afterBlank, definitions⟩ := ⟨others, outside⟩
    have closed := outer.setSiblings
      (List.forall_mem_append.mpr ⟨shaped, outer.siblings.1⟩)
      (fun inList => List.forall_mem_append.mpr
        ⟨items (fits inList), outer.siblings.2 inList⟩)
    exact ⟨closed.frames, closed.blocks⟩

theorem closeMany (h : o.IsShaped) (n : Nat) : (closeMany n o).IsShaped := by
  induction n generalizing o with
  | zero => exact h
  | succ n ih => exact ih h.close

theorem loosenAt (h : o.IsShaped) (n : Nat) : (o.loosenAt n).IsShaped :=
  ⟨h.frames.loosen n, h.blocks⟩

/-- After a blank line a container is made loose, which is all that changes. -/
theorem loosened (h : o.IsShaped) (n : Nat) :
    (if o.afterBlank then { o.loosenAt n with afterBlank := false } else o).IsShaped ∧
      (if o.afterBlank then { o.loosenAt n with afterBlank := false } else o).inList =
        o.inList := by
  split
  · exact ⟨⟨(h.loosenAt n).frames, (h.loosenAt n).blocks⟩, inList_loosenAt o n⟩
  · exact ⟨h, rfl⟩

theorem finishEmptyItem (h : o.IsShaped) : o.finishEmptyItem.IsShaped := by
  have closed : (if o.itemBegun && o.afterBlank && o.innermost?.any Container.isItem then o.close
      else o).IsShaped := by
    split
    · exact h.close
    · exact h
  exact ⟨closed.frames, closed.blocks⟩

/-- A closed list leaves none open: directly in a list there are items. -/
theorem inList_close (h : o.IsShaped) (isList : o.innermost?.any Container.isList = true) :
    o.close.inList = false := by
  obtain ⟨frames, blocks, itemBegun, afterBlank, definitions⟩ := o
  cases frames with
  | nil => nomatch isList
  | cons f rest =>
    have noItem : f.kind.isListItem = false := Container.isListItem_of_isList isList
    have fits := h.frames.2.1
    rw [noItem] at fits
    have outside : (Outline.mk rest blocks itemBegun afterBlank definitions).inList = false :=
      Bool.eq_false_iff.mpr fun inList => Bool.false_ne_true (fits inList)
    exact (inList_setSiblings _ _).trans outside

theorem finishList (h : o.IsShaped) : o.finishList.IsShaped ∧ o.finishList.inList = false := by
  unfold Outline.finishList
  have afterItem := h.finishEmptyItem
  generalize o.finishEmptyItem = o at afterItem
  obtain ⟨shaped, outside⟩ :
      (if o.innermost?.any Container.isList then o.close else o).IsShaped ∧
        (if o.innermost?.any Container.isList then o.close else o).inList = false := by
    split
    case isTrue isList => exact ⟨afterItem.close, afterItem.inList_close isList⟩
    case isFalse noList =>
      exact ⟨afterItem, inList_eq_false_of_isList (Bool.eq_false_iff.mpr noList)⟩
  dsimp only
  generalize (if o.innermost?.any Container.isList then o.close else o) = closed
    at shaped outside ⊢
  exact ⟨(shaped.loosened 1).1, (shaped.loosened 1).2.trans outside⟩

theorem continueList (h : o.IsShaped) (marker : Opening.Marker) :
    (o.continueList marker).IsShaped ∧ (o.continueList marker).inList = true := by
  have start : ∀ o : Outline, o.IsShaped → o.inList = false →
      IsShaped { o.push (.list marker.char marker.number.isSome true) with afterBlank := false } ∧
        inList { o.push (.list marker.char marker.number.isSome true) with
          afterBlank := false } = true := by
    intro o h outside
    have pushed := h.push_outside outside (.list marker.char marker.number.isSome true)
    exact ⟨⟨pushed.frames, pushed.blocks⟩, rfl⟩
  have afterItem := h.finishEmptyItem
  have fresh := start _ afterItem.finishList.1 afterItem.finishList.2
  unfold Outline.continueList
  dsimp only
  split
  case h_1 char ordered tight isList =>
    have inList : o.finishEmptyItem.inList = true := inList_of_innermost? isList
    split
    · exact ⟨(afterItem.loosened 0).1, (afterItem.loosened 0).2.trans inList⟩
    · exact fresh
  case h_2 => exact fresh
  case h_3 nothing =>
    apply start _ afterItem
    rw [inList_eq, nothing]
    rfl

theorem continueDefinitions {next : Outline} (h : o.IsShaped)
    (continues : o.continueDefinitions? = some next) : next.IsShaped ∧ next.inList = false := by
  -- What stands before a definition is no item.
  have noItem : ∀ node ∈ o.siblings, ¬ node.IsItem → o.inList = false := by
    intro node isSibling noItem
    exact Bool.eq_false_iff.mpr fun inList => noItem (h.siblings.2 inList node isSibling)
  have shaped := h.siblings.1
  unfold continueDefinitions? at continues
  split at continues
  case h_1 content older same =>
    cases continues
    rw [same] at noItem shaped
    have outside := noItem _ List.mem_cons_self id
    have others := h.setSiblings_outside outside (List.forall_mem_cons.mp shaped).2
    have pushed := others.push_outside ((inList_setSiblings _ _).trans outside)
      (.definitionList true)
    exact ⟨pushed.append trivial rfl, inList_setSiblings _ _⟩
  case h_2 content older same =>
    cases continues
    rw [same] at noItem shaped
    have outside := noItem _ List.mem_cons_self id
    refine ⟨h.setSiblings_outside outside ?_, (inList_setSiblings _ _).trans outside⟩
    exact List.forall_mem_cons.mpr ⟨trivial, (List.forall_mem_cons.mp shaped).2⟩
  case h_3 same =>
    cases continues
    rw [same] at noItem
    exact ⟨h, noItem _ List.mem_cons_self nofun⟩
  case h_4 => nomatch continues

theorem blankLine (h : o.IsShaped) : o.blankLine.IsShaped := by
  obtain ⟨frames, blocks, itemBegun, afterBlank, definitions⟩ := o
  cases frames with
  | nil => exact ⟨trivial, h.blocks⟩
  | cons f rest =>
    obtain ⟨⟨first, fits, others⟩, blocks⟩ := h
    obtain ⟨kind, children⟩ := f
    cases kind with
    | quote => exact ⟨⟨first, fits, others⟩, blocks⟩
    | list _ _ _ | definitionList _ => exact ⟨⟨first, fits, others⟩, blocks⟩
    | item _ | definition _ =>
      unfold Outline.blankLine
      dsimp only
      split
      · exact ⟨⟨⟨nofun, first.children⟩, fits, others⟩, blocks⟩
      · exact ⟨⟨first, fits, others⟩, blocks⟩

end IsShaped

/-! ### Reading blocks -/

section

variable (x : Extensions) (bound : Nat)

/-- A paragraph stands in the list of definitions that is open, or behind the list that is
closed before it. -/
theorem IsShaped.readParagraph {o : Outline} (h : o.IsShaped) (task : Option Bool) (c : Cursor) :
    (o.readParagraph x bound task c).1.IsShaped := by
  unfold Outline.readParagraph
  extract_lets +lift afterDefinition prepared k boxes mode
  obtain ⟨shaped, outside⟩ : prepared.IsShaped ∧ prepared.inList = false := by
    unfold prepared
    split
    case isTrue isAfter =>
      refine ⟨⟨h.frames, h.blocks⟩, ?_⟩
      have inDefinitions : ∃ tight, o.innermost? = some (.definitionList tight) := by
        unfold afterDefinition at isAfter
        split at isAfter
        case h_1 tight _ _ _ innermost _ => exact ⟨tight, innermost⟩
        case h_2 => nomatch isAfter
      obtain ⟨tight, innermost⟩ := inDefinitions
      exact inList_of_innermost? innermost
    case isFalse => exact h.finishList
  cases BlockStructure.paragraph k mode boxes bound c with
  | text content next =>
    apply shaped.append _ outside
    split <;> trivial
  | heading level content next => exact shaped.append trivial outside
  | table header columns body => exact shaped.append trivial outside

theorem IsShaped.readDefinitions {o : Outline} (h : o.IsShaped) (n : Nat) (c : Cursor) :
    (o.readDefinitions x n c).1.IsShaped := by
  induction n generalizing o c with
  | zero => exact h
  | succ n ih =>
    rw [Outline.readDefinitions]
    split
    case h_1 => exact h
    case h_2 definition next _ =>
      have known : IsShaped { o with definitions := definition :: o.definitions } :=
        ⟨h.frames, h.blocks⟩
      dsimp only
      split
      · exact known.finishList.1
      · exact ih known _

theorem IsShaped.readLeaf {o : Outline} (h : o.IsShaped) (m : Margin) :
    (o.readLeaf x bound m).1.IsShaped := by
  have leaf {node : Node} (shaped : node.IsShaped) : (o.appendLeaf node).IsShaped :=
    h.finishList.1.append shaped h.finishList.2
  have defined := h.readDefinitions x bound (m.indentUpTo 4).2.cursor
  unfold Outline.readLeaf
  extract_lets +lift k
  dsimp only
  -- Code by its indentation, then HTML, a rule, a heading, fenced code, and a paragraph.
  split
  · have code (text : Text) (span : Span) : (o.appendLeaf (.code none text span)).IsShaped :=
      leaf trivial
    exact ⟨(code _ _).frames, (code _ _).blocks⟩
  split
  · exact leaf trivial
  split
  · exact leaf trivial
  split
  · exact leaf trivial
  split
  · exact leaf trivial
  split
  case h_1 o c same =>
    rw [same] at defined
    exact defined.readParagraph x bound none c
  case h_2 same =>
    rw [same] at defined
    exact defined

/-! ### Opening containers -/

/-- Whether the outline in which a line goes on is shaped. -/
def Opened.IsShaped : Opened → Prop
  | .finished o _ | .leaf o _ | .task _ o _ => o.IsShaped

theorem IsShaped.beginItem {o : Outline} (h : o.IsShaped) {m : Margin} {opened : Opened}
    (begins : beginItem? o m = some opened) : opened.IsShaped := by
  obtain ⟨n, -, rfl⟩ := Option.map_eq_some_iff.mp begins
  exact ⟨h.frames, h.blocks⟩

theorem IsShaped.getD_beginItem {o : Outline} (h : o.IsShaped) (m : Margin) {opened : Opened}
    (otherwise : opened.IsShaped) : ((beginItem? o m).getD opened).IsShaped := by
  cases begins : beginItem? o m with
  | none => exact otherwise
  | some finished => exact h.beginItem begins

theorem IsShaped.beginTask {o : Outline} (h : o.IsShaped) (outside : o.inList = false)
    (checked : Bool) (m : Margin) : (beginTask o checked m).IsShaped :=
  have boxed : (o.append (.checkbox checked)).IsShaped := h.append trivial outside
  boxed.getD_beginItem m h

theorem IsShaped.beginAlert {o : Outline} (h : o.IsShaped) (c : Cursor) :
    (beginAlert x o c).IsShaped := by
  unfold Outline.beginAlert
  extract_lets +lift containers
  dsimp only
  split
  · exact h
  · exact h

theorem IsShaped.openContainers {o : Outline} (h : o.IsShaped) (n : Nat) (m : Margin) :
    (openContainers x n m o).IsShaped := by
  induction n generalizing o m with
  | zero => exact h
  | succ n ih =>
    unfold Outline.openContainers
    dsimp only
    split
    · exact h
    · split
      case h_1 marker columns after _ =>
        obtain ⟨listed, inList⟩ := h.continueList marker
        have item : ((o.continueList marker).push (.item columns)).IsShaped :=
          listed.push _ fun _ => rfl
        split
        case h_1 begins => exact item.beginItem begins
        case h_2 checked content _ _ => exact item.beginTask rfl checked content
        case h_3 => exact ih item after
      case h_2 =>
        split
        case h_1 columns after next _ continues =>
          obtain ⟨shaped, outside⟩ := h.continueDefinitions continues
          obtain ⟨loosened, same⟩ := shaped.loosened 0
          have definition := loosened.push_outside (same.trans outside) (.definition columns)
          exact definition.getD_beginItem after (ih definition after)
        case h_2 =>
          split
          case h_1 after _ =>
            have quoted := h.finishList.1.push_outside h.finishList.2 .quote
            split
            · exact quoted.beginAlert x _
            · exact ih quoted after
          case h_2 => exact h

/-! ### Documents -/

theorem IsShaped.readBlock {o : Outline} (h : o.IsShaped) (c : Cursor) :
    (o.readBlock x bound c).1.IsShaped := by
  unfold Outline.readBlock
  dsimp only
  have closed := h.closeMany (o.frames.length - (Container.matching o.containers
    (Margin.ofLine c)).1)
  have opened := closed.openContainers x (Scan.toLineFeed c.rest + 1)
    (Container.matching o.containers (Margin.ofLine c)).2
  split
  case h_1 same => rwa [same] at opened
  case h_2 same =>
    rw [same] at opened
    exact IsShaped.readParagraph x bound opened _ _
  case h_3 same =>
    rw [same] at opened
    split
    · exact IsShaped.blankLine opened
    · exact IsShaped.readLeaf x bound opened _

theorem IsShaped.readBlocks {o : Outline} (h : o.IsShaped) (n : Nat) (c : Cursor) :
    (readBlocks x bound n c o).IsShaped := by
  induction n generalizing o c with
  | zero => exact h
  | succ n ih =>
    rw [Outline.readBlocks]
    split
    · exact h
    · exact ih (h.readBlock x bound c) _

/-- In the outline of a text, lists hold items only. -/
theorem allShaped_ofText (t : Text) : Node.AllShaped (ofText x t).blocks.reverse := by
  have read := isShaped_empty.readBlocks x (t.length + 1) (t.length + 1) (Cursor.start t)
  exact Node.allShaped_iff.mpr fun node isIn =>
    (read.closeMany _).blocks node (List.mem_reverse.mp isIn)

end

end Outline

end TelegramMarkdown.Markdown
