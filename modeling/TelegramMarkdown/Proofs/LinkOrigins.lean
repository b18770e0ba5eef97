import TelegramMarkdown.Proofs.Links

/-!
Where the links of a document come from (`Document.link_origins`).

As long as text is left as it is, every link that is built is one that an event enters, and
links are built in the order in which they are entered (`Document.linkHeads_sublist`). Only
those in the label of an autolink, or where the builder expects no inlines, are passed. Text
that is completed afterwards adds links of bare URLs, but none in the label of another link
(`Document.origins_completed`).
-/

namespace TelegramMarkdown

open Markdown (Event Tag)
open Builder (Context Stream finishOne)

/-! ### Links and the events that enter them -/

/-- What a link is known by: where it leads, and whether it is an image. -/
structure LinkHead where
  url : Text
  isImage : Bool

/-- The link that an event enters. -/
def Markdown.Event.linkHead? : Event → Option LinkHead
  | .enter (.link url _) => some ⟨url, false⟩
  | .enter (.image url _) => some ⟨url, true⟩
  | _ => none

/-- The links that events enter. -/
def Markdown.Event.linkHeads (events : List Event) : List LinkHead :=
  events.filterMap Event.linkHead?

/-- The link that an inline is. -/
def Inline.linkHead? : Inline → Option LinkHead
  | .link url isImage _ => some ⟨url, isImage⟩
  | _ => none

/-- The links among inlines, with those in their labels. -/
def Inline.linkHeads (inlines : List Inline) : List LinkHead :=
  (Inline.allLinks inlines).filterMap Inline.linkHead?

/-- The links in blocks. -/
def Block.linkHeads (blocks : List Block) : List LinkHead :=
  (Block.allRuns blocks).flatMap Inline.linkHeads

theorem Inline.linkHeads_append (before after : List Inline) :
    Inline.linkHeads (before ++ after) = Inline.linkHeads before ++ Inline.linkHeads after := by
  rw [linkHeads, allLinks_append, List.filterMap_append]
  rfl

theorem Inline.linkHeads_singleton (inline : Inline) :
    Inline.linkHeads [inline] = inline.links.filterMap Inline.linkHead? := by
  rw [linkHeads, allLinks, allLinks, List.append_nil]

theorem Block.linkHeads_cons (block : Block) (rest : List Block) :
    Block.linkHeads (block :: rest) =
      block.runs.flatMap Inline.linkHeads ++ Block.linkHeads rest := by
  rw [linkHeads, allRuns, List.flatMap_append]
  rfl

theorem Block.linkHeads_append (before after : List Block) :
    Block.linkHeads (before ++ after) = Block.linkHeads before ++ Block.linkHeads after := by
  induction before with
  | nil => rfl
  | cons block rest ih =>
    rw [List.cons_append, linkHeads_cons, ih, linkHeads_cons, List.append_assoc]

/-! ### What the builder finds -/

namespace Builder

theorem linkHeads_push (read : List Inline) (inline : Inline) :
    Inline.linkHeads (push read inline).reverse =
      Inline.linkHeads read.reverse ++ Inline.linkHeads [inline] := by
  cases inline with
  | literal t =>
    cases read with
    | nil => rfl
    | cons newest older =>
      cases newest with
      | literal u =>
        rw [push, List.reverse_cons, List.reverse_cons, Inline.linkHeads_append,
          Inline.linkHeads_append]
        exact (List.append_nil _).symm
      | _ => rw [← Inline.linkHeads_append, ← List.reverse_cons]; rfl
  | _ => rw [← Inline.linkHeads_append, ← List.reverse_cons]; rfl

theorem readEvent_linkHeads (e : Event) (read : List Inline) (s : Stream) :
    Inline.linkHeads (readEvent e read s).1.reverse = Inline.linkHeads read.reverse := by
  have noLink (inline : Inline) (h : Inline.linkHeads [inline] = []) :
      Inline.linkHeads (push read inline).reverse = Inline.linkHeads read.reverse := by
    rw [linkHeads_push, h, List.append_nil]
  cases e with
  | text t => exact noLink (.literal t) rfl
  | code content _ => exact noLink (.codeSpan content) rfl
  | softBreak | hardBreak => exact noLink .lineBreak rfl
  | html raw _ | inlineHtml raw _ => exact noLink (.htmlTag (tagName raw)) rfl
  | _ => rfl

theorem readEvent_events (e : Event) (read : List Inline) (s : Stream) :
    (readEvent e read s).2.events = s.events := by
  cases e <;> rfl

theorem flush_linkHeads (s : Stream) (read : List Inline) :
    Block.linkHeads (flush .bare s read) = Inline.linkHeads read.reverse := by
  cases read with
  | nil => rfl
  | cons inline older =>
    rw [flush, finish_bare]
    exact List.append_nil _

/-- Events are read up to some that are left. The links found, with those still to be entered,
are among the links known before and those that the events enter, in the same order. -/
def Finds (before : List LinkHead) (events : List Event) (found : List LinkHead)
    (left : List Event) : Prop :=
  (found ++ Event.linkHeads left).Sublist (before ++ Event.linkHeads events)

namespace Finds

variable {events left left' : List Event} {before found more : List LinkHead}

theorem nothing (before : List LinkHead) (events : List Event) :
    Finds before events before events :=
  List.Sublist.refl _

theorem trans (h : Finds before events found left) (h' : Finds found left more left') :
    Finds before events more left' :=
  List.Sublist.trans h' h

theorem append_left (front : List LinkHead) (h : Finds before events found left) :
    Finds (front ++ before) events (front ++ found) left := by
  rw [Finds, List.append_assoc, List.append_assoc]
  exact List.Sublist.append_left h front

theorem andThen (h : Finds before events found left) (h' : Finds [] left more left') :
    Finds before events (found ++ more) left' := by
  have later := h'.append_left found
  rw [List.append_nil] at later
  exact h.trans later

/-- What an event enters is known when the events after it are read. -/
theorem event {e : Event} (h : Finds (before ++ Event.linkHeads [e]) events found left) :
    Finds before (e :: events) found left := by
  have whole : Event.linkHeads (e :: events) = Event.linkHeads [e] ++ Event.linkHeads events := by
    rw [Event.linkHeads, ← List.singleton_append, List.filterMap_append]
    rfl
  rwa [Finds, List.append_assoc, ← whole] at h

/-- What an event enters may be passed. -/
theorem later {e : Event} (h : Finds before events found left) :
    Finds before (e :: events) found left :=
  event (List.Sublist.trans h (List.Sublist.append_right (List.sublist_append_left _ _) _))

/-- What is found may be dropped, as the label of an autolink is. -/
theorem drop (h : Finds before events found left) : Finds before events [] left :=
  (List.sublist_append_right _ _).trans h

end Finds

-- By induction on the steps that are allowed. Wherever these run out, the events that are not
-- read yet are left, so that it makes no difference how many there are.

mutual

theorem inlines_finds : ∀ (n : Nat) (read : List Inline) (s : Stream),
    Finds (Inline.linkHeads read.reverse) s.events (Inline.linkHeads (inlines .bare n read s).1)
      (inlines .bare n read s).2.events
  | 0, read, s => by
    rw [inlines, finish_bare]
    exact .nothing _ _
  | n + 1, read, ⟨[], task, depth⟩ => by
    rw [inlines, finish_bare]
    exact .nothing _ _
  | n + 1, read, ⟨e :: rest, task, depth⟩ => by
    by_cases plain : e.IsPlain
    · have more := inlines_finds n (readEvent e read ⟨rest, task, depth⟩).1
        (readEvent e read ⟨rest, task, depth⟩).2
      rw [readEvent_linkHeads, readEvent_events] at more
      rw [inlines_plain .bare plain]
      exact .later more
    · cases e with
      | exit =>
        rw [inlines]
        dsimp only
        rw [finish_bare]
        exact .later (.nothing _ _)
      | enter tag =>
        have element := inlineElement_finds n tag ⟨rest, task, depth⟩
        have more := inlines_finds n (push read (inlineElement .bare n tag ⟨rest, task, depth⟩).1)
          (inlineElement .bare n tag ⟨rest, task, depth⟩).2
        rw [linkHeads_push] at more
        exact .event ((element.append_left _).trans more)
      | _ => exact absurd trivial plain

theorem inlineElement_finds : ∀ (n : Nat) (tag : Tag) (s : Stream),
    Finds (Event.linkHeads [.enter tag]) s.events
      (Inline.linkHeads [(inlineElement .bare n tag s).1]) (inlineElement .bare n tag s).2.events
  | 0, tag, s => (Finds.nothing _ _).drop
  | n + 1, tag, s => by
    have children := inlines_finds n [] s
    have inLink := label_finds n s
    rw [Inline.linkHeads_singleton]
    cases tag with
    | link url _ => exact inLink.append_left [⟨url, false⟩]
    | image url _ => exact inLink.append_left [⟨url, true⟩]
    | autolink url _ => exact inLink.drop
    | _ => exact children

theorem label_finds : ∀ (n : Nat) (s : Stream),
    Finds [] s.events (Inline.linkHeads (label .bare n s).1) (label .bare n s).2.events
  | 0, s => .nothing [] s.events
  | n + 1, s => inlines_finds n [] { s with linkDepth := s.linkDepth + 1 }

end

theorem rawText_finds (events : List Event) : Finds [] events [] (rawText events).2 := by
  induction events with
  | nil => exact .nothing [] []
  | cons e rest ih =>
    cases e with
    | exit => exact .later (.nothing [] rest)
    | _ => exact .later ih

theorem cells_finds (n : Nat) (s : Stream) :
    Finds [] s.events ((Block.cellsRuns (cells .bare n s).1).flatMap Inline.linkHeads)
      (cells .bare n s).2.events := by
  apply (cells_keepsOnly .bare).holds (P := fun s read =>
    Finds [] s.events ((Block.cellsRuns read.1).flatMap Inline.linkHeads) read.2.events)
  case nothing => exact fun s => .nothing [] s.events
  case later => exact Finds.later
  case element => exact fun n s _ more => (inlines_finds n [] s).andThen more

theorem rows_finds (n : Nat) (s : Stream) :
    Finds [] s.events ((Block.rowsRuns (rows .bare n s).1).flatMap Inline.linkHeads)
      (rows .bare n s).2.events := by
  apply (rows_keepsOnly .bare).holds (P := fun s read =>
    Finds [] s.events ((Block.rowsRuns read.1).flatMap Inline.linkHeads) read.2.events)
  case nothing => exact fun s => .nothing [] s.events
  case later => exact Finds.later
  case element =>
    intro n s r more
    rw [Block.rowsRuns, List.flatMap_append]
    exact (cells_finds n s).andThen more

mutual

theorem blocks_finds : ∀ (n : Nat) (read : List Inline) (s : Stream),
    Finds (Inline.linkHeads read.reverse) s.events (Block.linkHeads (blocks .bare n read s).1)
      (blocks .bare n read s).2.events
  | 0, read, s => by
    rw [blocks, flush_linkHeads]
    exact .nothing _ _
  | n + 1, read, ⟨[], task, depth⟩ => by
    rw [blocks, flush_linkHeads]
    exact .nothing _ _
  | n + 1, read, ⟨e :: rest, task, depth⟩ => by
    by_cases plain : e.IsPlain ∧ e ≠ .rule
    · have more := blocks_finds n (readEvent e read ⟨rest, task, depth⟩).1
        (readEvent e read ⟨rest, task, depth⟩).2
      rw [readEvent_linkHeads, readEvent_events] at more
      rw [blocks_plain .bare plain.1 plain.2]
      exact .later more
    · cases e with
      | exit =>
        rw [blocks]
        dsimp only
        rw [flush_linkHeads]
        exact .later (.nothing _ _)
      | rule =>
        have more := blocks_finds n [] ⟨rest, task, depth⟩
        rw [blocks]
        dsimp only
        rw [Block.linkHeads_append, flush_linkHeads]
        exact .later ((Finds.nothing _ _).andThen more)
      | enter tag =>
        rw [blocks]
        dsimp only
        split
        · have element := inlineElement_finds n tag ⟨rest, task, depth⟩
          have more := blocks_finds n
            (push read (inlineElement .bare n tag ⟨rest, task, depth⟩).1)
            (inlineElement .bare n tag ⟨rest, task, depth⟩).2
          rw [linkHeads_push] at more
          exact .event ((element.append_left _).trans more)
        · have element := blockElement_finds n tag ⟨rest, task, depth⟩
          have more := blocks_finds n [] (blockElement .bare n tag ⟨rest, task, depth⟩).2
          rw [Block.linkHeads_append, flush_linkHeads, Block.linkHeads_cons]
          exact .later ((Finds.nothing _ _).andThen (element.andThen more))
      | _ => exact absurd ⟨trivial, nofun⟩ plain

theorem blockElement_finds : ∀ (n : Nat) (tag : Tag) (s : Stream),
    Finds [] s.events ((blockElement .bare n tag s).1.runs.flatMap Inline.linkHeads)
      (blockElement .bare n tag s).2.events
  | 0, _, s => .nothing [] s.events
  | n + 1, tag, s => by
    have content := inlines_finds n [] s
    have children := blocks_finds n [] s
    cases tag with
    | paragraph | term | heading _ =>
      rw [blockElement, Block.runs, List.flatMap_singleton]
      exact content
    | codeBlock _ _ | htmlBlock _ => exact rawText_finds s.events
    | list _ => exact items_finds n s
    | table => exact rows_finds n s
    | _ => exact children

theorem items_finds : ∀ (n : Nat) (s : Stream),
    Finds [] s.events ((Block.itemsRuns (items .bare n s).1).flatMap Inline.linkHeads)
      (items .bare n s).2.events
  | 0, s => .nothing [] s.events
  | n + 1, s => by
    apply (items_keepsOnly .bare).step (P := fun s read =>
      Finds [] s.events ((Block.itemsRuns read.1).flatMap Inline.linkHeads) read.2.events)
    case nothing => exact fun s => .nothing [] s.events
    case later => exact Finds.later
    case element =>
      intro s r more
      rw [Block.itemsRuns, List.flatMap_append]
      exact (item_finds n s).andThen more
    case ih => exact items_finds n

theorem item_finds : ∀ (n : Nat) (s : Stream),
    Finds [] s.events ((item .bare n s).1.runs.flatMap Inline.linkHeads) (item .bare n s).2.events
  | 0, s => .nothing [] s.events
  | n + 1, s => by
    have children := blocks_finds n [] { s with task := none }
    unfold item
    dsimp only
    split
    · exact children
    · exact children

end

end Builder

/-- The links of a document in which text is left as it is are among those that the events
enter, in the same order. -/
theorem Document.linkHeads_sublist (events : List Event) :
    (Block.linkHeads (Document.ofEvents false [] events).blocks).Sublist
      (Event.linkHeads events) := by
  have finds := Builder.blocks_finds (3 * events.length + 3) [] ⟨events, none, 0⟩
  exact (List.sublist_append_left _ _).trans finds

/-! ### Links where they stand -/

/-- A link of a tree, and whether it is in the label of another one. -/
structure PlacedLink where
  inLabel : Bool
  head : LinkHead
  label : List Inline

mutual

/-- The links of an inline, each before those in its label. -/
def Inline.placedLinks (inLabel : Bool) : Inline → List PlacedLink
  | .link url isImage children =>
    ⟨inLabel, ⟨url, isImage⟩, children⟩ :: Inline.allPlacedLinks true children
  | .emphasis _ _ children => Inline.allPlacedLinks inLabel children
  | .container children => Inline.allPlacedLinks inLabel children
  | _ => []

/-- The links of inlines. -/
def Inline.allPlacedLinks (inLabel : Bool) : List Inline → List PlacedLink
  | [] => []
  | inline :: rest => inline.placedLinks inLabel ++ Inline.allPlacedLinks inLabel rest

end

/-- The links of a document, where they stand. -/
def Document.placedLinks (document : Document) : List PlacedLink :=
  (Block.allRuns document.blocks).flatMap (Inline.allPlacedLinks false)

mutual

/-- The literals of an inline that are in no link. -/
def Inline.outerLiterals : Inline → List Text
  | .literal t => [t]
  | .emphasis _ _ children => Inline.allOuterLiterals children
  | .container children => Inline.allOuterLiterals children
  | _ => []

/-- The literals among inlines that are in no link. -/
def Inline.allOuterLiterals : List Inline → List Text
  | [] => []
  | inline :: rest => inline.outerLiterals ++ Inline.allOuterLiterals rest

end

/-- The literals of a document that are in no link. -/
def Document.outerLiterals (document : Document) : List Text :=
  (Block.allRuns document.blocks).flatMap Inline.allOuterLiterals

/-- Links with what they come from, in order: each is one of those that are entered, of which
some may be passed; or it is a bare URL that is found in a text, if such are asked for, and
then it is in no other link. -/
inductive LinkOrigins (autolinks : Bool) : List PlacedLink → (entered : List LinkHead) → Prop where
  | nil : LinkOrigins autolinks [] []
  | entered (inLabel : Bool) (head : LinkHead) (label : List Inline) {links : List PlacedLink}
    {entered : List LinkHead} :
    LinkOrigins autolinks links entered →
      LinkOrigins autolinks (⟨inLabel, head, label⟩ :: links) (head :: entered)
  | passed (head : LinkHead) {links : List PlacedLink} {entered : List LinkHead} :
    LinkOrigins autolinks links entered → LinkOrigins autolinks links (head :: entered)
  | bareUrl (asked : autolinks = true) {t label : Text}
    (found : BareUrl.link label ∈ BareUrl.linkify t) {links : List PlacedLink}
    {entered : List LinkHead} :
    LinkOrigins autolinks links entered →
      LinkOrigins autolinks
        (⟨false, ⟨BareUrl.target label, false⟩, [.literal label]⟩ :: links) entered

namespace LinkOrigins

variable {autolinks : Bool} {links links' : List PlacedLink} {entered entered' : List LinkHead}

theorem append (h : LinkOrigins autolinks links entered)
    (h' : LinkOrigins autolinks links' entered') :
    LinkOrigins autolinks (links ++ links') (entered ++ entered') := by
  induction h with
  | nil => exact h'
  | entered inLabel head label _ ih => exact .entered inLabel head label ih
  | passed head _ ih => exact .passed head ih
  | bareUrl asked found _ ih => exact .bareUrl asked found ih

theorem passed_append (before : List LinkHead) (h : LinkOrigins autolinks links entered) :
    LinkOrigins autolinks links (before ++ entered) := by
  induction before with
  | nil => exact h
  | cons head before ih => exact .passed head ih

/-- More links may have been entered than those that are left. -/
theorem mono (h : LinkOrigins autolinks links entered) (sub : entered.Sublist entered') :
    LinkOrigins autolinks links entered' := by
  induction h generalizing entered' with
  | nil =>
    rw [← List.append_nil entered']
    exact .passed_append entered' .nil
  | entered inLabel head label _ ih =>
    obtain ⟨before, after, rfl, isIn, rests⟩ := List.cons_sublist_iff.mp sub
    obtain ⟨passed, others, rfl⟩ := List.append_of_mem isIn
    rw [List.append_assoc, List.cons_append]
    exact .passed_append passed (.entered inLabel head label (.passed_append others (ih rests)))
  | passed head _ ih => exact ih (List.sublist_of_cons_sublist sub)
  | bareUrl asked found _ ih => exact .bareUrl asked found (ih sub)

/-- Only bare URLs are not entered, and these are in no label. -/
theorem head_mem (h : LinkOrigins autolinks links entered) {link : PlacedLink}
    (isIn : link ∈ links) (notBare : link.inLabel = true ∨ autolinks = false) :
    link.head ∈ entered := by
  induction h with
  | nil => exact absurd isIn List.not_mem_nil
  | entered inLabel head label _ ih =>
    obtain rfl | isIn := List.mem_cons.mp isIn
    · exact List.mem_cons_self
    · exact List.mem_cons_of_mem _ (ih isIn)
  | passed head _ ih => exact List.mem_cons_of_mem _ (ih isIn)
  | bareUrl asked _ _ ih =>
    obtain rfl | isIn := List.mem_cons.mp isIn
    · obtain inLabel | unasked := notBare
      · cases inLabel
      · rw [asked] at unasked
        cases unasked
    · exact ih isIn

end LinkOrigins

/-! ### Completing -/

theorem Inline.allPlacedLinks_append (inLabel : Bool) (before after : List Inline) :
    Inline.allPlacedLinks inLabel (before ++ after) =
      Inline.allPlacedLinks inLabel before ++ Inline.allPlacedLinks inLabel after := by
  induction before with
  | nil => rfl
  | cons inline rest ih =>
    rw [List.cons_append, allPlacedLinks, ih, allPlacedLinks, List.append_assoc]

theorem Inline.allOuterLiterals_append (before after : List Inline) :
    Inline.allOuterLiterals (before ++ after) =
      Inline.allOuterLiterals before ++ Inline.allOuterLiterals after := by
  induction before with
  | nil => rfl
  | cons inline rest ih =>
    rw [List.cons_append, allOuterLiterals, ih, allOuterLiterals, List.append_assoc]

section

variable (k : Context)

theorem LinkOrigins.of_completed {depth : Nat} {pieces : List Inline}
    (h : ∀ piece ∈ pieces, Builder.Completed k depth piece) :
    LinkOrigins k.autolinks (Inline.allPlacedLinks (0 < depth) pieces) [] := by
  induction pieces with
  | nil => exact .nil
  | cons piece rest ih =>
    obtain ⟨first, others⟩ := List.forall_mem_cons.mp h
    cases first with
    | literal _ => exact ih others
    | spoiler content => exact ih others
    | bareUrl asked outside found =>
      subst outside
      exact .bareUrl asked found (ih others)

mutual

theorem Inline.origins_finishOne_filled (depth : Nat) :
    ∀ inline : Inline,
      LinkOrigins k.autolinks
        (Inline.allPlacedLinks (0 < depth) (finishOne k depth (inline.filled k depth)))
        (inline.links.filterMap Inline.linkHead?)
  | .literal t => .of_completed k (Builder.completed_finishOne k depth t)
  | .emphasis delimiter count children => by
    have inside := Inline.origins_allCompleted depth children
    simpa [finishOne, filled, allPlacedLinks, placedLinks, links, linkHeads] using inside
  | .link url isImage children => by
    have inside := Inline.origins_allCompleted (depth + 1) children
    have whole := inside.entered (0 < depth) ⟨url, isImage⟩
      (Inline.allCompleted k (depth + 1) children)
    simpa [finishOne, filled, allPlacedLinks, placedLinks, links, linkHeads, linkHead?] using whole
  | .container children => by
    have inside := Inline.origins_allCompleted depth children
    simpa [finishOne, filled, allPlacedLinks, placedLinks, links, linkHeads] using inside
  | .codeSpan _ | .lineBreak | .htmlTag _ | .autolink _ | .spoiler _ => .nil

theorem Inline.origins_allCompleted (depth : Nat) :
    ∀ inlines : List Inline,
      LinkOrigins k.autolinks
        (Inline.allPlacedLinks (0 < depth) (Inline.allCompleted k depth inlines))
        (Inline.linkHeads inlines)
  | [] => .nil
  | inline :: rest => by
    rw [allCompleted, allPlacedLinks_append, linkHeads, allLinks, List.filterMap_append]
    exact (Inline.origins_finishOne_filled depth inline).append
      (Inline.origins_allCompleted depth rest)

end

theorem Document.origins_completed (document : Document) :
    LinkOrigins k.autolinks (document.completed k).placedLinks
      (Block.linkHeads document.blocks) := by
  rw [placedLinks, completed, Block.allRuns_completed, Block.linkHeads]
  induction Block.allRuns document.blocks with
  | nil => exact .nil
  | cons run rest ih =>
    rw [List.map_cons, List.flatMap_cons, List.flatMap_cons]
    exact (Inline.origins_allCompleted k 0 run).append ih

variable {k}

theorem linkify_outerLiterals_of_completed (asked : k.autolinks = true) {pieces : List Inline}
    (h : ∀ piece ∈ pieces, Builder.Completed k 0 piece) :
    ∀ t ∈ Inline.allOuterLiterals pieces, BareUrl.linkify t = [.literal t] := by
  induction pieces with
  | nil => exact nofun
  | cons piece rest ih =>
    obtain ⟨first, others⟩ := List.forall_mem_cons.mp h
    cases first with
    | literal settled => exact List.forall_mem_cons.mpr ⟨settled asked rfl, ih others⟩
    | spoiler content => exact ih others
    | bareUrl _ _ _ => exact ih others

mutual

theorem Inline.linkify_outerLiterals_finishOne (asked : k.autolinks = true) :
    ∀ inline : Inline, ∀ t ∈ Inline.allOuterLiterals (finishOne k 0 (inline.filled k 0)),
      BareUrl.linkify t = [.literal t]
  | .literal t => linkify_outerLiterals_of_completed asked (Builder.completed_finishOne k 0 t)
  | .emphasis delimiter count children => by
    have inside := Inline.linkify_outerLiterals_allCompleted asked children
    simpa [finishOne, filled, allOuterLiterals, outerLiterals] using inside
  | .container children => by
    have inside := Inline.linkify_outerLiterals_allCompleted asked children
    simpa [finishOne, filled, allOuterLiterals, outerLiterals] using inside
  | .link _ _ _ | .codeSpan _ | .lineBreak | .htmlTag _ | .autolink _ | .spoiler _ => nofun

theorem Inline.linkify_outerLiterals_allCompleted (asked : k.autolinks = true) :
    ∀ inlines : List Inline, ∀ t ∈ Inline.allOuterLiterals (Inline.allCompleted k 0 inlines),
      BareUrl.linkify t = [.literal t]
  | [] => nofun
  | inline :: rest => by
    rw [allCompleted, allOuterLiterals_append, List.forall_mem_append]
    exact ⟨Inline.linkify_outerLiterals_finishOne asked inline,
      Inline.linkify_outerLiterals_allCompleted asked rest⟩

end

end

/-- The links of every document come, in order, from the events that enter links, and else from
bare URLs, which are made links only where that is asked for and in no other link. In the text
outside of all links no URL is left that would be made one. -/
theorem Document.link_origins (autolinks : Bool) (hidden : List Text) (events : List Event) :
    let document := Document.ofEvents autolinks hidden events
    LinkOrigins autolinks document.placedLinks (Event.linkHeads events) ∧
      (∀ link ∈ document.placedLinks, link.inLabel = true ∨ autolinks = false →
        link.head ∈ Event.linkHeads events) ∧
      (autolinks = true → ∀ t ∈ document.outerLiterals, BareUrl.linkify t = [.literal t]) := by
  intro document
  have whole : document = (Document.ofEvents false [] events).completed ⟨autolinks, hidden⟩ :=
    Document.ofEvents_eq_completed autolinks hidden events
  have origins : LinkOrigins autolinks document.placedLinks (Event.linkHeads events) := by
    rw [whole]
    exact (Document.origins_completed ⟨autolinks, hidden⟩ _).mono
      (Document.linkHeads_sublist events)
  refine ⟨origins, fun link isIn notBare => origins.head_mem isIn notBare, ?literals⟩
  case literals =>
    intro asked t isIn
    rw [whole, outerLiterals, completed, Block.allRuns_completed, List.mem_flatMap] at isIn
    obtain ⟨run, isRun, isIn⟩ := isIn
    obtain ⟨inlines, _, rfl⟩ := List.mem_map.mp isRun
    exact Inline.linkify_outerLiterals_allCompleted (k := ⟨autolinks, hidden⟩) asked inlines t isIn

-- A bare URL is left alone in the label of a link and made a link after it, without its full stop.
example :
    let document := Document.ofEvents true [] [.enter .paragraph, .enter (.link ['u'] ⟨0, 0⟩),
      .text ['w', 'w', 'w', '.', 'a', '.', 'b'], .enter (.image ['v'] ⟨0, 0⟩), .exit, .exit,
      .text [' ', 'w', 'w', 'w', '.', 'a', '.', 'b', '.'], .exit]
    document.placedLinks.map (fun link => (link.inLabel, link.head.url)) =
        [(false, ['u']), (true, ['v']), (false, "http://www.a.b".toList)] ∧
      document.outerLiterals = [[' '], ['.']] := by
  decide +kernel

end TelegramMarkdown
