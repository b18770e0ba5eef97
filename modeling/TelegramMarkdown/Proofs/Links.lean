import TelegramMarkdown.Proofs.BareUrl.Scan
import TelegramMarkdown.Proofs.Spoiler.Placeholders

/-!
The links of a document, in order (`Document.links`).

They are those of the tree before it is completed, each with its label complete, and
among them those of bare URLs (`Document.links_completed`).
-/

namespace TelegramMarkdown

open Builder (Context finishOne)

/-! ### What a literal is completed to -/

namespace BareUrl

theorem ne_nil_of_isComplete {url : Text} (h : isComplete url = true) : url ≠ [] := by
  rintro rfl
  exact absurd h (by decide)

/-- Whether an inline is text, or a bare URL as a link. A URL is its own label, and no
label is empty. -/
inductive FromText : Inline → Prop where
  | literal (t : Text) : FromText (.literal t)
  | link {label : Text} (notEmpty : label ≠ []) : FromText (link label)

theorem fromText_prepend (t : Text) {rest : List Inline} (h : ∀ piece ∈ rest, FromText piece) :
    ∀ piece ∈ prepend t rest, FromText piece := by
  unfold prepend
  split
  · obtain ⟨_, others⟩ := List.forall_mem_cons.mp h
    exact List.forall_mem_cons.mpr ⟨.literal _, others⟩
  · split
    · exact h
    · exact List.forall_mem_cons.mpr ⟨.literal t, h⟩

theorem fromText_linkifyAfter (n : Nat) (before : Option Char) (t : Text) :
    ∀ piece ∈ linkifyAfter n before t, FromText piece := by
  induction n generalizing before t with
  | zero => exact fromText_prepend t (List.forall_mem_nil _)
  | succ n ih =>
    cases t with
    | nil => exact List.forall_mem_nil _
    | cons c cs =>
      unfold linkifyAfter
      dsimp only
      split
      · exact fromText_prepend [c] (ih _ _)
      · split
        case isTrue isLink =>
          have notEmpty := ne_nil_of_isComplete ((Bool.and_eq_true _ _).mp isLink).2
          exact List.forall_mem_cons.mpr ⟨.link notEmpty, fromText_prepend _ (ih _ _)⟩
        case isFalse => exact fromText_prepend _ (ih _ _)

/-- A text in which URLs are made links consists of text and links. -/
theorem fromText_linkify (t : Text) : ∀ piece ∈ linkify t, FromText piece :=
  fromText_linkifyAfter t.length none t

theorem ne_nil_of_link_mem {t label : Text} (h : link label ∈ linkify t) : label ≠ [] := by
  generalize same : link label = piece at h
  cases fromText_linkify t piece h with
  | literal u => cases same
  | @link label' notEmpty =>
    have sameLabel : label = label' := by simpa using (Inline.link.inj same).2.2
    rwa [sameLabel]

end BareUrl

namespace Spoiler

theorem isPiece_of_mem_restoreFrom {hidden : List Text} {t read : Text} {piece : Inline}
    (h : piece ∈ restoreFrom hidden 0 read t) : IsPiece piece := by
  induction t using induction_tokens generalizing read with
  | nil =>
    rw [restoreFrom] at h
    exact isPiece_of_mem_literal h
  | char c rest other ih =>
    rw [restoreFrom_cons hidden read other] at h
    exact ih h
  | unended rest notIn =>
    rw [restoreFrom_unended hidden read notIn] at h
    obtain rfl := List.mem_singleton.mp h
    exact List.append_ne_nil_of_right_ne_nil _ (List.cons_ne_nil _ _)
  | placeholder name rest notIn ih =>
    cases found : named? hidden name with
    | some content =>
      rw [restoreFrom_some hidden read notIn found, List.mem_append, List.mem_cons] at h
      obtain inLiteral | rfl | inRest := h
      · exact isPiece_of_mem_literal inLiteral
      · trivial
      · exact ih inRest
    | none =>
      rw [restoreFrom_none hidden read notIn found] at h
      obtain rfl := List.mem_singleton.mp h
      exact List.append_ne_nil_of_right_ne_nil _ (List.cons_ne_nil _ _)

theorem isPiece_of_mem_restored {hidden : List Text} {t : Text} {piece : Inline}
    (h : piece ∈ restored hidden t) : piece = .literal t ∨ IsPiece piece := by
  rw [restored] at h
  split at h
  · exact .inl (List.mem_singleton.mp h)
  · exact .inr (isPiece_of_mem_restoreFrom h)

end Spoiler

/-- What a literal is completed to, so many links deep. URLs are looked for outside of links
only, and there are no more to be found in the text that is left. -/
inductive Builder.Completed (k : Context) (depth : Nat) : Inline → Prop where
  | literal {t : Text}
    (settled : k.autolinks = true → depth = 0 → BareUrl.linkify t = [.literal t]) :
    Completed k depth (.literal t)
  | spoiler (content : Text) : Completed k depth (.spoiler content)
  | bareUrl (asked : k.autolinks = true) (outside : depth = 0) {t label : Text}
    (found : BareUrl.link label ∈ BareUrl.linkify t) : Completed k depth (BareUrl.link label)

theorem Builder.completed_finishOne (k : Context) (depth : Nat) (t : Text) :
    ∀ piece ∈ finishOne k depth (.literal t), Completed k depth piece := by
  intro piece isIn
  rw [Spoiler.finishOne_literal, List.mem_flatMap] at isIn
  obtain ⟨part, isPart, isIn⟩ := isIn
  have isPiece := Spoiler.isPiece_of_mem_restored isPart
  cases part with
  | literal u =>
    simp only [finishOne, List.isEmpty_nil, if_true, List.flatMap_singleton, Bool.and_eq_true,
      decide_eq_true_eq] at isIn
    split at isIn
    case isTrue asked =>
      cases BareUrl.fromText_linkify u piece isIn with
      | literal v => exact .literal fun _ _ => BareUrl.linkify_literal_of_mem isIn
      | link _ => exact .bareUrl asked.1 asked.2 isIn
    case isFalse unasked =>
      obtain rfl := List.mem_singleton.mp isIn
      exact .literal fun asked outside => absurd ⟨asked, outside⟩ unasked
  | spoiler content =>
    obtain rfl := List.mem_singleton.mp isIn
    exact .spoiler content
  | _ =>
    cases isPiece with
    | inl same => cases same
    | inr none => exact none.elim

/-- What a literal may be completed to. Links are made of URLs only, and only where they
are asked for. -/
inductive Builder.FromLiteral (k : Context) : Inline → Prop where
  | literal (t : Text) : FromLiteral k (.literal t)
  | spoiler (content : Text) : FromLiteral k (.spoiler content)
  | bareUrl (asked : k.autolinks = true) {label : Text} (notEmpty : label ≠ []) :
    FromLiteral k (BareUrl.link label)

theorem Builder.fromLiteral_finishOne (k : Context) (depth : Nat) (t : Text) :
    ∀ piece ∈ finishOne k depth (.literal t), FromLiteral k piece := by
  intro piece isIn
  cases completed_finishOne k depth t piece isIn with
  | literal _ => exact .literal _
  | spoiler content => exact .spoiler content
  | bareUrl asked _ found => exact .bareUrl asked (BareUrl.ne_nil_of_link_mem found)

/-! ### Links of a tree -/

mutual

/-- The links of an inline, each before those in its label. -/
def Inline.links : Inline → List Inline
  | .link url isImage children => .link url isImage children :: Inline.allLinks children
  | .emphasis _ _ children => Inline.allLinks children
  | .container children => Inline.allLinks children
  | _ => []

/-- The links of inlines. -/
def Inline.allLinks : List Inline → List Inline
  | [] => []
  | inline :: rest => inline.links ++ Inline.allLinks rest

end

mutual

/-- The runs of inlines that a block holds: what stands in headings and paragraphs. -/
def Block.runs : Block → List (List Inline)
  | .heading _ inlines => [inlines]
  | .paragraph inlines => [inlines]
  | .list _ items => Block.itemsRuns items
  | .quote blocks => Block.allRuns blocks
  | .table rows => Block.rowsRuns rows
  | .container blocks => Block.allRuns blocks
  | _ => []

/-- The runs of inlines in blocks. -/
def Block.allRuns : List Block → List (List Inline)
  | [] => []
  | block :: rest => block.runs ++ Block.allRuns rest

/-- The runs of inlines in the items of a list. -/
def Block.itemsRuns : List ListItem → List (List Inline)
  | [] => []
  | item :: rest => item.runs ++ Block.itemsRuns rest

/-- The runs of inlines in an item of a list. -/
def ListItem.runs : ListItem → List (List Inline)
  | { isTask := _, checked := _, taskText := _, blocks } => Block.allRuns blocks

/-- The runs of inlines in the rows of a table. -/
def Block.rowsRuns : List (List (List Block)) → List (List Inline)
  | [] => []
  | row :: rest => Block.cellsRuns row ++ Block.rowsRuns rest

/-- The runs of inlines in the cells of a row. -/
def Block.cellsRuns : List (List Block) → List (List Inline)
  | [] => []
  | cell :: rest => Block.allRuns cell ++ Block.cellsRuns rest

end

/-- The links of a document. -/
def Document.links (document : Document) : List Inline :=
  (Block.allRuns document.blocks).flatMap Inline.allLinks

theorem Inline.allLinks_append (before after : List Inline) :
    Inline.allLinks (before ++ after) = Inline.allLinks before ++ Inline.allLinks after := by
  induction before with
  | nil => rfl
  | cons inline rest ih => rw [List.cons_append, allLinks, ih, allLinks, List.append_assoc]

/-! ### Links of a completed tree -/

section

variable (k : Context)

mutual

theorem Block.runs_completed :
    ∀ block : Block, (block.completed k).runs = block.runs.map (Inline.allCompleted k 0)
  | .heading _ _ | .paragraph _ => rfl
  | .list _ items => Block.itemsRuns_completed items
  | .quote blocks => Block.allRuns_completed blocks
  | .table rows => Block.rowsRuns_completed rows
  | .container blocks => Block.allRuns_completed blocks
  | .codeBlock _ _ | .rule | .html _ => rfl

theorem Block.allRuns_completed :
    ∀ blocks : List Block,
      Block.allRuns (Block.allCompleted k blocks) =
        (Block.allRuns blocks).map (Inline.allCompleted k 0)
  | [] => rfl
  | block :: rest => by
    rw [allCompleted, allRuns, allRuns, List.map_append, Block.runs_completed block,
      Block.allRuns_completed rest]

theorem Block.itemsRuns_completed :
    ∀ items : List ListItem,
      Block.itemsRuns (Block.itemsCompleted k items) =
        (Block.itemsRuns items).map (Inline.allCompleted k 0)
  | [] => rfl
  | { isTask, checked, taskText, blocks } :: rest => by
    have inItem : (ListItem.completed k ⟨isTask, checked, taskText, blocks⟩).runs = _ :=
      Block.allRuns_completed blocks
    rw [itemsCompleted, itemsRuns, itemsRuns, List.map_append, inItem,
      Block.itemsRuns_completed rest, ListItem.runs]

theorem Block.rowsRuns_completed :
    ∀ rows : List (List (List Block)),
      Block.rowsRuns (Block.rowsCompleted k rows) =
        (Block.rowsRuns rows).map (Inline.allCompleted k 0)
  | [] => rfl
  | row :: rest => by
    rw [rowsCompleted, rowsRuns, rowsRuns, List.map_append, Block.cellsRuns_completed row,
      Block.rowsRuns_completed rest]

theorem Block.cellsRuns_completed :
    ∀ cells : List (List Block),
      Block.cellsRuns (Block.cellsCompleted k cells) =
        (Block.cellsRuns cells).map (Inline.allCompleted k 0)
  | [] => rfl
  | cell :: rest => by
    rw [cellsCompleted, cellsRuns, cellsRuns, List.map_append, Block.allRuns_completed cell,
      Block.cellsRuns_completed rest]

end

/-- Links of a completed tree with what they come from, in order: a link of the tree,
whose label is completed, or a bare URL, whose label is the one literal in it. -/
inductive LinksFrom : (completed links : List Inline) → Prop where
  | nil : LinksFrom [] []
  | element (depth : Nat) (link : Inline) {completed links : List Inline} :
    LinksFrom completed links → LinksFrom (link.filled k depth :: completed) (link :: links)
  | bareUrl (asked : k.autolinks = true) {label : Text} (notEmpty : label ≠ [])
    {completed links : List Inline} :
    LinksFrom completed links →
      LinksFrom (.link (BareUrl.target label) false [.literal label] :: completed) links

variable {k}

theorem LinksFrom.append {completed links completed' links' : List Inline}
    (h : LinksFrom k completed links) (h' : LinksFrom k completed' links') :
    LinksFrom k (completed ++ completed') (links ++ links') := by
  induction h with
  | nil => exact h'
  | element depth link _ ih => exact .element depth link ih
  | bareUrl asked notEmpty _ ih => exact .bareUrl asked notEmpty ih

/-- What literals are completed to holds no links but those of bare URLs. -/
theorem LinksFrom.of_fromLiteral {pieces : List Inline}
    (h : ∀ piece ∈ pieces, Builder.FromLiteral k piece) :
    LinksFrom k (Inline.allLinks pieces) [] := by
  induction pieces with
  | nil => exact .nil
  | cons piece rest ih =>
    obtain ⟨first, others⟩ := List.forall_mem_cons.mp h
    cases first with
    | literal t => exact ih others
    | spoiler content => exact ih others
    | bareUrl asked notEmpty => exact .bareUrl asked notEmpty (ih others)

variable (k)

mutual

theorem Inline.links_finishOne_filled (depth : Nat) :
    ∀ inline : Inline,
      LinksFrom k (Inline.allLinks (finishOne k depth (inline.filled k depth))) inline.links
  | .literal t => .of_fromLiteral (Builder.fromLiteral_finishOne k depth t)
  | .emphasis delimiter count children => by
    have inside := Inline.links_allCompleted depth children
    simpa [finishOne, filled, allLinks, links] using inside
  | .link url isImage children => by
    have inside := Inline.links_allCompleted (depth + 1) children
    have whole := inside.element depth (.link url isImage children)
    simpa [finishOne, filled, allLinks, links] using whole
  | .container children => by
    have inside := Inline.links_allCompleted depth children
    simpa [finishOne, filled, allLinks, links] using inside
  | .codeSpan _ | .lineBreak | .htmlTag _ | .autolink _ | .spoiler _ => .nil

theorem Inline.links_allCompleted (depth : Nat) :
    ∀ inlines : List Inline,
      LinksFrom k (Inline.allLinks (Inline.allCompleted k depth inlines)) (Inline.allLinks inlines)
  | [] => .nil
  | inline :: rest => by
    rw [allCompleted, allLinks_append, allLinks]
    exact (Inline.links_finishOne_filled depth inline).append (Inline.links_allCompleted depth rest)

end

/-- Completing a document keeps its links, and adds those of bare URLs. -/
theorem Document.links_completed (document : Document) :
    LinksFrom k (document.completed k).links document.links := by
  rw [links, completed, links, Block.allRuns_completed]
  induction Block.allRuns document.blocks with
  | nil => exact .nil
  | cons run rest ih =>
    rw [List.map_cons, List.flatMap_cons, List.flatMap_cons]
    exact (Inline.links_allCompleted k 0 run).append ih

end

end TelegramMarkdown
