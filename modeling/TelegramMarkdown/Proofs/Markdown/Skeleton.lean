import TelegramMarkdown.Convert
import TelegramMarkdown.Proofs.Builder
import TelegramMarkdown.Proofs.Markdown.Inlines
import TelegramMarkdown.Proofs.Markdown.Outline
import TelegramMarkdown.Proofs.Skeleton

/-!
The skeleton of a document is that of its outline.

The events of a text are those of a forest whose elements hold what they may
(`exists_forest`), so the builder makes of them what the fold over the forest makes
(`Builder.blocks_eq`). Of a leaf block only its kind is left in the skeleton, and whether it
shows anything, which its tokens tell. So nothing that is found inside of leaf blocks has any
bearing on the blocks (`Document.skeleton_ofMarkdown`): not links and emphasis, and not the
spoilers that are put back. But placeholders for spoilers are put into the text before its
outline is read, and that they may change (`Document.skeleton_spoilers_iff`).
-/

namespace TelegramMarkdown.Markdown

open EventTree (eventsAll AllShaped)
open Builder (Fold.outline Fold.partOf)

/-! ### Forests of events -/

theorem EventTree.eventsAll_append (a b : List EventTree) :
    eventsAll (a ++ b) = eventsAll a ++ eventsAll b := by
  induction a with
  | nil => rfl
  | cons tree rest ih => rw [List.cons_append, eventsAll, ih, eventsAll, List.append_assoc]

theorem EventTree.AllShaped.append {a b : List EventTree} (ha : AllShaped a) (hb : AllShaped b) :
    AllShaped (a ++ b) := by
  induction a with
  | nil => exact hb
  | cons tree rest ih => exact ⟨ha.1, ih ha.2⟩

/-- A forest has the given events, holds what it may, and leaves the given outline. -/
structure IsForestOf (forest : List EventTree) (events : List Event)
    (outline : List (Option Skeleton)) : Prop where
  events : eventsAll forest = events
  shaped : AllShaped forest
  outline : ∀ (k : Builder.Context) (depth : Nat),
    SameBlocks (Fold.outline k depth forest) outline

namespace IsForestOf

theorem nil : IsForestOf [] [] [] :=
  ⟨rfl, trivial, fun _ _ => .refl []⟩

theorem append {a b : List EventTree} {events more : List Event}
    {outline others : List (Option Skeleton)} (ha : IsForestOf a events outline)
    (hb : IsForestOf b more others) :
    IsForestOf (a ++ b) (events ++ more) (outline ++ others) := by
  refine ⟨?_, ha.shaped.append hb.shaped, ?_⟩
  · rw [EventTree.eventsAll_append, ha.events, hb.events]
  · intro k depth
    rw [Builder.Fold.outline_append]
    exact (ha.outline k depth).append (hb.outline k depth)

/-- An event that is no element, and stands for an inline or for none. -/
theorem leaf {event : Event} (isPlain : event.IsPlain) (noRule : event ≠ .rule) :
    IsForestOf [.leaf event] [event] (if event.shows then [none] else []) := by
  refine ⟨rfl, ⟨isPlain, trivial⟩, ?_⟩
  intro k depth
  rw [Builder.Fold.outline, Builder.Fold.partAll, Builder.partOf_leaf k noRule]
  cases event with
  | enter _ | exit => exact isPlain.elim
  | rule => exact absurd rfl noRule
  | _ => exact .refl _

/-- An element among blocks. -/
theorem block (tag : Tag) {children : List EventTree} {inner : List Event}
    (events : eventsAll children = inner) (shaped : (EventTree.node tag children).IsShaped)
    {s : Skeleton}
    (here : ∀ (k : Builder.Context) (depth : Nat), ∃ block : Block,
      Fold.partOf k depth (.node tag children) = .block block ∧ block.skeleton = s) :
    IsForestOf [.node tag children] (Event.element tag inner) [some s] := by
  refine ⟨?_, ⟨shaped, trivial⟩, ?_⟩
  · rw [← events]
    exact List.append_nil _
  · intro k depth
    obtain ⟨block, same, rfl⟩ := here k depth
    rw [Builder.Fold.outline, Builder.Fold.partAll, same]
    exact .refl _

/-- An element among blocks that holds one event. -/
theorem single (tag : Tag) (event : Event) (holds : tag.Holds (.leaf event))
    (isPlain : event.IsPlain) {s : Skeleton}
    (here : ∀ (k : Builder.Context) (depth : Nat), ∃ block : Block,
      Fold.partOf k depth (.node tag [.leaf event]) = .block block ∧ block.skeleton = s) :
    IsForestOf [.node tag [.leaf event]] (Event.element tag [event]) [some s] :=
  block tag rfl ⟨List.forall_mem_singleton.mpr holds, isPlain, trivial⟩ here

end IsForestOf

theorem Tag.holds_of_isInline {tag : Tag} (isInline : tag.isInline = true) (tree : EventTree) :
    tag.Holds tree := by
  cases tag with
  | emphasis _ _ | link _ _ | image _ _ | autolink _ _ => trivial
  | _ => nomatch isInline

/-- The events of text are those of a forest, of which nothing is left but whether it shows
anything. -/
theorem IsText.exists_forest {events : List Event} (h : IsText events) :
    ∃ forest, IsForestOf forest events (if shows events then [none] else []) := by
  induction h with
  | nil => exact ⟨[], .nil⟩
  | @plain event isPlain noRule =>
    refine ⟨[.leaf event], ?_⟩
    simpa [shows] using IsForestOf.leaf isPlain noRule
  | @element tag inner isInline _ ih =>
    obtain ⟨children, inside⟩ := ih
    refine ⟨[.node tag children], ?_, ?_, ?_⟩
    · rw [← inside.events]
      exact List.append_nil _
    · exact ⟨⟨fun tree _ => Tag.holds_of_isInline isInline tree, inside.shaped⟩, trivial⟩
    · intro k depth
      rw [Builder.Fold.outline, Builder.Fold.partAll,
        (Builder.partOf_inline k isInline depth children).1]
      cases tag with
      | emphasis _ _ | link _ _ | image _ _ | autolink _ _ => exact .refl _
      | _ => cases isInline
  | @append a b _ _ iha ihb =>
    obtain ⟨before, first⟩ := iha
    obtain ⟨after, second⟩ := ihb
    have both := first.append second
    refine ⟨before ++ after, both.events, both.shaped, ?_⟩
    intro k depth
    rw [shows_append]
    exact (both.outline k depth).trans (.texts (shows a) (shows b))

/-! ### Outlines -/

/-- Whether a leaf block shows anything. -/
def Content.shows (content : Content) : Bool :=
  content.tokens.any Token.shows

namespace Node

mutual

/-- What a block leaves without its text. In the items of tight lists a paragraph is text
among blocks. -/
def outline (tight : Bool) : Node → List (Option Skeleton)
  | paragraph content | possibleTerm content =>
    if tight then (if content.shows then [none] else []) else [some .paragraph]
  | heading level _ => [some (.heading level)]
  | rule => [some .rule]
  | code _ _ _ => [some .code]
  | html _ _ => [some .html]
  | table header rows => [some (.table ((header :: rows).map List.length))]
  | checkbox _ => []
  | term _ => [some .paragraph]
  | container kind children =>
    match kind with
    | .quote => [some (.quote (Skeleton.assemble false (outlineAll false children)))]
    | .list _ ordered tight => [some (.list ordered (outlineItems tight children))]
    | .definitionList tight =>
      [some (.container (Skeleton.assemble false (outlineAll tight children)))]
    | .item _ | .definition _ =>
      [some (.container (Skeleton.assemble false (outlineAll tight children)))]

/-- What blocks leave without their text. -/
def outlineAll (tight : Bool) : List Node → List (Option Skeleton)
  | [] => []
  | node :: rest => node.outline tight ++ outlineAll tight rest

/-- What the items of a list leave without their text. -/
def outlineItems (tight : Bool) : List Node → List (List Skeleton)
  | [] => []
  | .container _ children :: rest =>
    Skeleton.assemble false (outlineAll tight children) :: outlineItems tight rest
  | _ :: rest => outlineItems tight rest

end

section

variable (m : Node.Context)

/-- The content of a leaf block is text. -/
theorem exists_content (containers : List Container) (inTable : Bool) (content : Content) :
    ∃ forest, IsForestOf forest (contentEvents m containers inTable content)
      (if content.shows then [none] else []) := by
  have text := (Inlines.isText_events
    ⟨m.extensions, containers, inTable, content.stop, m.lookup?⟩ content.tokens).exists_forest
  rwa [Inlines.shows_events] at text

/-- A leaf block whose element holds its content. -/
theorem exists_leaf (containers : List Container) (content : Content) {tag : Tag} {s : Skeleton}
    (holds : ∀ tree, tag.Holds tree)
    (here : ∀ (k : Builder.Context) (depth : Nat) (children : List EventTree), ∃ block : Block,
      Fold.partOf k depth (.node tag children) = .block block ∧ block.skeleton = s) :
    ∃ forest, IsForestOf forest
      (Event.element tag (contentEvents m containers false content)) [some s] := by
  obtain ⟨children, inside⟩ := exists_content m containers false content
  exact ⟨_, .block tag inside.events ⟨fun tree _ => holds tree, inside.shaped⟩
    fun k depth => here k depth children⟩

theorem exists_cells (containers : List Container) (row : List Content) :
    ∃ cells, eventsAll cells = row.flatMap (fun cell =>
        Event.element .tableCell (contentEvents m containers true cell)) ∧
      EventTree.AllShaped cells ∧ (∀ tree ∈ cells, tree.IsCell) ∧
      ∀ (k : Builder.Context) (depth : Nat),
        (Builder.Fold.cells k depth cells).length = row.length := by
  induction row with
  | nil => exact ⟨[], rfl, trivial, nofun, fun _ _ => rfl⟩
  | cons cell rest ih =>
    obtain ⟨others, events, shaped, areCells, count⟩ := ih
    obtain ⟨children, inside⟩ := exists_content m containers true cell
    refine ⟨.node .tableCell children :: others, ?_,
      ⟨⟨fun _ _ => trivial, inside.shaped⟩, shaped⟩,
      List.forall_mem_cons.mpr ⟨trivial, areCells⟩, ?_⟩
    · rw [eventsAll, EventTree.events, inside.events, events, List.flatMap_cons]
    · intro k depth
      rw [Builder.Fold.cells, List.length_cons, count, List.length_cons]

theorem exists_rows (containers : List Container) (tag : Tag)
    (isRow : ∀ cells, (EventTree.node tag cells).IsRow)
    (holds : ∀ tree : EventTree, tree.IsCell → tag.Holds tree) (rows : List (List Content)) :
    ∃ forest, eventsAll forest = rows.flatMap (rowEvents m containers tag) ∧
      EventTree.AllShaped forest ∧ (∀ tree ∈ forest, tree.IsRow) ∧
      ∀ (k : Builder.Context) (depth : Nat),
        (Builder.Fold.rows k depth forest).map List.length = rows.map List.length := by
  induction rows with
  | nil => exact ⟨[], rfl, trivial, nofun, fun _ _ => rfl⟩
  | cons row rest ih =>
    obtain ⟨others, events, shaped, areRows, counts⟩ := ih
    obtain ⟨cells, inside, cellsShaped, areCells, count⟩ := exists_cells m containers row
    refine ⟨.node tag cells :: others, ?_,
      ⟨⟨fun tree isIn => holds tree (areCells tree isIn), cellsShaped⟩, shaped⟩,
      List.forall_mem_cons.mpr ⟨isRow cells, areRows⟩, ?_⟩
    · rw [eventsAll, EventTree.events, inside, events, List.flatMap_cons, rowEvents]
    · intro k depth
      rw [Builder.Fold.rows, List.map_cons, count, counts, List.map_cons]

theorem exists_table (containers : List Container) (header : List Content)
    (rows : List (List Content)) :
    ∃ forest, IsForestOf forest
      (Event.element .table (rowEvents m containers .tableHead header ++
        rows.flatMap (rowEvents m containers .tableRow)))
      [some (.table ((header :: rows).map List.length))] := by
  obtain ⟨cells, cellEvents, cellsShaped, areCells, count⟩ := exists_cells m containers header
  obtain ⟨body, bodyEvents, bodyShaped, areRows, counts⟩ :=
    exists_rows m containers .tableRow (fun _ => trivial) (fun _ isCell => isCell) rows
  have allRows : ∀ tree ∈ EventTree.node .tableHead cells :: body, tree.IsRow :=
    List.forall_mem_cons.mpr ⟨trivial, areRows⟩
  refine ⟨[.node .table (.node .tableHead cells :: body)],
    .block .table ?_ ⟨allRows, ⟨areCells, cellsShaped⟩, bodyShaped⟩ ?_⟩
  · rw [eventsAll, EventTree.events, cellEvents, bodyEvents, rowEvents]
  · intro k depth
    refine ⟨_, rfl, ?_⟩
    rw [Block.skeleton, Builder.Fold.rows, List.map_cons, count, counts, List.map_cons]

/-- If the children of a container other than a list are a forest, so is the container. -/
theorem exists_container {children : List EventTree} {inner : List Event}
    {outline : List (Option Skeleton)} (inside : IsForestOf children inner outline) (tag : Tag)
    (holds : ∀ tree, tag.Holds tree) (wrap : List Skeleton → Skeleton)
    (here : ∀ (k : Builder.Context) (depth : Nat), ∃ block : Block,
      Fold.partOf k depth (.node tag children) = .block block ∧
        block.skeleton = wrap (Block.skeletons (Builder.Fold.blocks k depth children))) :
    ∃ forest, IsForestOf forest (Event.element tag inner)
      [some (wrap (Skeleton.assemble false outline))] := by
  refine ⟨_, .block tag inside.events ⟨fun tree _ => holds tree, inside.shaped⟩ ?_⟩
  intro k depth
  obtain ⟨block, same, skeleton⟩ := here k depth
  refine ⟨block, same, skeleton.trans ?_⟩
  rw [Builder.Fold.skeletons_blocks, (inside.outline k depth).assemble_eq]

mutual

theorem exists_forest : ∀ (node : Node), node.IsShaped → ∀ (containers : List Container)
    (tight : Bool), ∃ forest, IsForestOf forest (node.events m containers tight)
      (node.outline tight)
  | .paragraph content, _, containers, tight | .possibleTerm content, _, containers, tight => by
    cases tight with
    | true => exact exists_content m containers false content
    | false => exact exists_leaf m containers content (fun _ => trivial) fun _ _ _ => ⟨_, rfl, rfl⟩
  | .heading level content, _, containers, _ =>
    exists_leaf m containers content (fun _ => trivial) fun _ _ _ => ⟨_, rfl, rfl⟩
  | .term content, _, containers, _ =>
    exists_leaf m containers content (fun _ => trivial) fun _ _ _ => ⟨_, rfl, rfl⟩
  | .rule, _, _, _ => ⟨[.leaf .rule], rfl, ⟨trivial, trivial⟩, fun _ _ => .refl _⟩
  | .code info text span, _, _, _ =>
    ⟨_, .single (.codeBlock info span) (.text text) trivial trivial fun _ _ => ⟨_, rfl, rfl⟩⟩
  | .html raw span, _, _, _ =>
    ⟨_, .single (.htmlBlock span) (.html raw span) trivial trivial fun _ _ => ⟨_, rfl, rfl⟩⟩
  | .table header rows, _, containers, _ => exists_table m containers header rows
  | .checkbox checked, _, _, _ => ⟨[.leaf (.checkbox checked)], .leaf trivial nofun⟩
  | .container kind children, shaped, containers, tight => by
    cases kind with
    | quote =>
      obtain ⟨forest, inside⟩ := exists_forests children shaped.2 (containers ++ [.quote]) false
      exact exists_container inside .quote (fun _ => trivial) .quote fun _ _ => ⟨_, rfl, rfl⟩
    | list marker ordered tight =>
      obtain ⟨items, events, itemsShaped, areItems, skeletons⟩ :=
        exists_items children shaped.2 (shaped.1 rfl) (containers ++ [.list marker ordered tight])
          tight
      refine ⟨_, .block (.list ordered) events ⟨areItems, itemsShaped⟩ ?_⟩
      intro k depth
      exact ⟨_, rfl, congrArg (Skeleton.list ordered) (skeletons k depth)⟩
    | item columns =>
      obtain ⟨forest, inside⟩ :=
        exists_forests children shaped.2 (containers ++ [.item columns]) tight
      exact exists_container inside .item (fun _ => trivial) .container fun _ _ => ⟨_, rfl, rfl⟩
    | definitionList tight =>
      obtain ⟨forest, inside⟩ :=
        exists_forests children shaped.2 (containers ++ [.definitionList tight]) tight
      exact exists_container inside .definitionList (fun _ => trivial) .container fun _ _ => ⟨_, rfl, rfl⟩
    | definition columns =>
      obtain ⟨forest, inside⟩ :=
        exists_forests children shaped.2 (containers ++ [.definition columns]) tight
      exact exists_container inside .definition (fun _ => trivial) .container fun _ _ => ⟨_, rfl, rfl⟩

theorem exists_forests : ∀ (nodes : List Node), AllShaped nodes →
    ∀ (containers : List Container) (tight : Bool),
      ∃ forest, IsForestOf forest (allEvents m containers tight nodes) (outlineAll tight nodes)
  | [], _, _, _ => ⟨[], .nil⟩
  | node :: rest, shaped, containers, tight => by
    obtain ⟨first, here⟩ := exists_forest node shaped.1 containers tight
    obtain ⟨others, after⟩ := exists_forests rest shaped.2 containers tight
    exact ⟨first ++ others, here.append after⟩

theorem exists_items : ∀ (nodes : List Node), AllShaped nodes → (∀ node ∈ nodes, node.IsItem) →
    ∀ (containers : List Container) (tight : Bool),
      ∃ items, eventsAll items = allEvents m containers tight nodes ∧
        EventTree.AllShaped items ∧ (∀ tree ∈ items, tree.IsItem) ∧
        ∀ (k : Builder.Context) (depth : Nat),
          Block.itemSkeletons (Builder.Fold.items k depth items) = outlineItems tight nodes
  | [], _, _, _, _ => ⟨[], rfl, trivial, nofun, fun _ _ => rfl⟩
  | .container kind children :: rest, shaped, areItems, containers, tight => by
    obtain ⟨isItem, others⟩ := List.forall_mem_cons.mp areItems
    obtain ⟨columns, rfl⟩ : ∃ columns, kind = .item columns := by
      cases kind with
      | item columns => exact ⟨columns, rfl⟩
      | _ => nomatch isItem
    obtain ⟨forest, inside⟩ :=
      exists_forests children shaped.1.2 (containers ++ [.item columns]) tight
    obtain ⟨items, events, itemsShaped, areTrees, skeletons⟩ :=
      exists_items rest shaped.2 others containers tight
    refine ⟨.node .item forest :: items, ?_, ⟨⟨fun _ _ => trivial, inside.shaped⟩, itemsShaped⟩,
      List.forall_mem_cons.mpr ⟨trivial, areTrees⟩, ?_⟩
    · rw [eventsAll, EventTree.events, inside.events, events]
      rfl
    · intro k depth
      rw [Builder.Fold.items, Block.itemSkeletons, outlineItems, skeletons,
        Builder.Fold.skeleton_itemOf, ← Builder.Fold.blocks, Builder.Fold.skeletons_blocks,
        (inside.outline k depth).assemble_eq]
  | .paragraph _ :: _, _, areItems, _, _ => (areItems _ List.mem_cons_self).elim
  | .possibleTerm _ :: _, _, areItems, _, _ => (areItems _ List.mem_cons_self).elim
  | .heading _ _ :: _, _, areItems, _, _ => (areItems _ List.mem_cons_self).elim
  | .rule :: _, _, areItems, _, _ => (areItems _ List.mem_cons_self).elim
  | .code _ _ _ :: _, _, areItems, _, _ => (areItems _ List.mem_cons_self).elim
  | .html _ _ :: _, _, areItems, _, _ => (areItems _ List.mem_cons_self).elim
  | .table _ _ :: _, _, areItems, _, _ => (areItems _ List.mem_cons_self).elim
  | .checkbox _ :: _, _, areItems, _, _ => (areItems _ List.mem_cons_self).elim
  | .term _ :: _, _, areItems, _, _ => (areItems _ List.mem_cons_self).elim

end

end

end Node

/-- The skeleton of an outline. -/
def Outline.skeleton (o : Outline) : List Skeleton :=
  Skeleton.assemble false (Node.outlineAll false o.blocks.reverse)

/-- The events of a text are those of a forest whose elements hold what they may. Its
skeleton is that of the outline. -/
theorem exists_forest (x : Extensions) (t : Text) :
    ∃ forest, eventsAll forest = events x t ∧ AllShaped forest ∧
      ∀ (k : Builder.Context) (depth : Nat),
        Block.skeletons (Builder.Fold.blocks k depth forest) = (Outline.ofText x t).skeleton := by
  obtain ⟨forest, whole⟩ := Node.exists_forests
    ⟨x, (Outline.ofText x t).lookup? sameLabel⟩ _ (Outline.allShaped_ofText x t) [] false
  refine ⟨forest, whole.events, whole.shaped, ?_⟩
  intro k depth
  rw [Builder.Fold.skeletons_blocks, (whole.outline k depth).assemble_eq, Outline.skeleton]

end TelegramMarkdown.Markdown

namespace TelegramMarkdown

open Markdown (Outline)

/-- The skeleton of a document is that of the outline of its text, in which placeholders
stand for the spoilers. -/
theorem Document.skeleton_ofMarkdown (s : Settings) (markdown : Text) :
    (Document.ofMarkdown s markdown).skeleton =
      (Outline.ofText s.extensions (hideSpoilers s markdown).1).skeleton := by
  obtain ⟨forest, same, shaped, skeletons⟩ :=
    Markdown.exists_forest s.extensions (hideSpoilers s markdown).1
  have document : Document.ofMarkdown s markdown = ⟨Builder.Fold.blocks
      ⟨s.autolinks, (hideSpoilers s markdown).2⟩ 0 forest⟩ := by
    rw [Document.ofMarkdown]
    dsimp only
    rw [← same]
    exact Builder.ofEvents_eq_fold ⟨s.autolinks, (hideSpoilers s markdown).2⟩ shaped
  rw [document]
  exact skeletons _ 0

/-- Whether spoilers are recognised has no bearing on the skeleton of a document exactly
if the text with placeholders has an outline of the same skeleton as the text itself.
Nothing that happens after that has any: neither that spoilers are put back nor how links,
code spans and emphasis are found around them. -/
theorem Document.skeleton_spoilers_iff (s : Settings) (markdown : Text) :
    let on : Settings := { s with spoilers := true }
    let off : Settings := { s with spoilers := false }
    (Document.ofMarkdown on markdown).skeleton = (Document.ofMarkdown off markdown).skeleton ↔
      (Outline.ofText s.extensions (hideSpoilers on markdown).1).skeleton =
        (Outline.ofText s.extensions markdown).skeleton := by
  intro on off
  have unmarked : (hideSpoilers off markdown).1 = markdown := rfl
  rw [skeleton_ofMarkdown, skeleton_ofMarkdown, unmarked]
  rfl

/-- A paragraph that is no definition of a link, for what follows the colon holds a blank.
The placeholder of the spoiler holds none, so with spoilers the line is a definition and
nothing is left of it. -/
theorem Document.skeleton_lost_in_definition :
    let markdown := "[a]: ||x y||".toList
    let off : Settings := { Settings.default with spoilers := false }
    (Document.ofMarkdown Settings.default markdown).skeleton = [] ∧
      (Document.ofMarkdown off markdown).skeleton = [.paragraph] := by
  constructor
  · exact List.isEmpty_iff.mp (by decide +kernel)
  · exact (List.eq_replicate_iff (n := 1)).mpr ⟨by decide +kernel, by decide +kernel⟩

end TelegramMarkdown
