import TelegramMarkdown.Proofs.Builder.Invariant
import TelegramMarkdown.Proofs.Everywhere
import TelegramMarkdown.Proofs.Links

/-!
The normal form of documents that are built from events (`Document.IsNormal`).

Literals are joined as they are read, and cut up again where spoilers and URLs are found
in them. No two are left side by side in any of this, for a cut always leaves something
else between them (`Spoiler.Alternate.flatMap`).
-/

namespace TelegramMarkdown

open Builder (Context finishOne)
open Spoiler (Alternate IsLiteral)

/-! ### Literals with something between them -/

namespace Spoiler

/-- Cutting up literals leaves no two side by side, if cutting up one does not: what stood
between two of them still stands between their pieces. -/
theorem Alternate.flatMap {f : Inline → List Inline}
    (other : ∀ inline, ¬ IsLiteral inline → f inline = [inline])
    (pieces : ∀ t, Alternate (f (.literal t))) {inlines : List Inline} (h : Alternate inlines) :
    Alternate (inlines.flatMap f) := by
  induction inlines with
  | nil => exact List.isChain_nil
  | cons inline rest ih =>
    have after : Alternate (rest.flatMap f) := ih (List.IsChain.tail h)
    rw [List.flatMap_cons]
    by_cases isLiteral : IsLiteral inline
    · obtain ⟨t, rfl⟩ : ∃ t, inline = .literal t := by
        cases inline with
        | literal t => exact ⟨t, rfl⟩
        | _ => exact isLiteral.elim
      apply List.IsChain.append (pieces t) after
      intro last _ first isFirst both
      cases rest with
      | nil => cases isFirst
      | cons next more =>
        have nextOther : ¬ IsLiteral next := by
          intro isLiteral
          exact (List.isChain_cons_cons.mp h).1 ⟨trivial, isLiteral⟩
        rw [List.flatMap_cons, other next nextOther, List.singleton_append, List.head?_cons,
          Option.mem_some_iff] at isFirst
        rw [← isFirst] at both
        exact nextOther both.2
    · rw [other inline isLiteral, List.singleton_append]
      exact after.cons isLiteral

theorem alternate_restoreFrom (hidden : List Text) (t : Text) :
    ∀ read : Text, Alternate (restoreFrom hidden 0 read t) := by
  induction t using induction_tokens with
  | nil =>
    intro read
    exact alternate_literal read.reverse
  | char c rest other ih =>
    intro read
    rw [restoreFrom_cons hidden read other]
    exact ih (c :: read)
  | unended rest notIn =>
    intro read
    rw [restoreFrom_unended hidden read notIn]
    exact List.isChain_singleton _
  | placeholder name rest notIn ih =>
    intro read
    cases found : named? hidden name with
    | some content =>
      rw [restoreFrom_some hidden read notIn found]
      exact alternate_literal_spoiler read.reverse content (ih [])
    | none =>
      rw [restoreFrom_none hidden read notIn found]
      exact List.isChain_singleton _

theorem alternate_restored (hidden : List Text) (t : Text) : Alternate (restored hidden t) := by
  rw [restored]
  split
  · exact List.isChain_singleton _
  · exact alternate_restoreFrom hidden t []

end Spoiler

namespace BareUrl

theorem alternate_prepend (t : Text) {rest : List Inline} (h : Alternate rest) :
    Alternate (prepend t rest) := by
  unfold prepend
  split
  case h_1 u rest => exact List.IsChain.imp_head (fun after both => after both) h
  case h_2 noLiteral =>
    split
    · exact h
    · apply List.IsChain.cons h
      intro next isNext both
      cases rest with
      | nil => cases isNext
      | cons first rest =>
        obtain rfl := Option.mem_some_iff.mp isNext
        cases first with
        | literal u => exact noLiteral u rest rfl
        | _ => exact both.2

theorem alternate_linkifyAfter (n : Nat) (before : Option Char) (t : Text) :
    Alternate (linkifyAfter n before t) := by
  induction n generalizing before t with
  | zero => exact alternate_prepend t List.isChain_nil
  | succ n ih =>
    cases t with
    | nil => exact List.isChain_nil
    | cons c cs =>
      unfold linkifyAfter
      dsimp only
      split
      · exact alternate_prepend [c] (ih _ _)
      · split
        · exact (alternate_prepend _ (ih _ _)).cons id
        · exact alternate_prepend _ (ih _ _)

theorem alternate_linkify (t : Text) : Alternate (linkify t) :=
  alternate_linkifyAfter t.length none t

end BareUrl

namespace Builder

theorem alternate_finishOne (k : Context) (depth : Nat) (t : Text) :
    Alternate (finishOne k depth (.literal t)) := by
  rw [Spoiler.finishOne_literal]
  apply Alternate.flatMap _ _ (Spoiler.alternate_restored k.hidden t)
  · intro inline other
    cases inline with
    | literal u => exact absurd trivial other
    | _ => rfl
  · intro u
    simp only [finishOne, List.isEmpty_nil, if_true, List.flatMap_singleton]
    split
    · exact BareUrl.alternate_linkify u
    · exact List.isChain_singleton _

/-- Reading an inline joins it to a literal before it, and lets no two stand side by
side. -/
theorem alternate_push {read : List Inline} (h : Alternate read.reverse) (inline : Inline) :
    Alternate (push read inline).reverse := by
  rw [Alternate, List.isChain_reverse] at h ⊢
  cases inline with
  | literal t =>
    cases read with
    | nil => exact List.isChain_singleton _
    | cons newest older =>
      cases newest with
      | literal u => exact List.IsChain.imp_head (fun after both => after both) h
      | _ =>
        apply List.IsChain.cons h
        intro next isNext both
        obtain rfl := Option.mem_some_iff.mp isNext
        exact both.1
  | _ =>
    apply List.IsChain.cons h
    intro next _ both
    exact both.2

theorem alternate_finish (k : Context) (s : Stream) {read : List Inline}
    (h : Alternate read.reverse) : Alternate (finish k s read) := by
  apply Alternate.flatMap _ (alternate_finishOne k s.linkDepth) h
  intro inline other
  cases inline with
  | literal t => exact absurd trivial other
  | _ => rfl

end Builder

/-! ### Texts that the builder takes from events -/

namespace Text

theorem line_feed_notMem_lines (t : Text) : ∀ line ∈ lines t, '\n' ∉ line := by
  have pieces : ∀ piece ∈ (splitAt (· = '\n') t).reverse, '\n' ∉ piece := by
    intro piece isPiece isIn
    have noCut := not_of_mem_splitAt (List.mem_reverse.mp isPiece) '\n' isIn
    exact absurd rfl (decide_eq_false_iff_not.mp noCut)
  unfold lines
  cases found : (splitAt (· = '\n') t).reverse with
  | nil => exact List.forall_mem_nil _
  | cons last ended =>
    rw [found] at pieces
    obtain ⟨lastClean, endedClean⟩ := List.forall_mem_cons.mp pieces
    have fullClean : ∀ line ∈ ended.reverse.map (fun line =>
        if line.getLast? = some '\r' then line.dropLast else line), '\n' ∉ line := by
      intro line isLine
      obtain ⟨piece, isPiece, rfl⟩ := List.mem_map.mp isLine
      have clean := endedClean piece (List.mem_reverse.mp isPiece)
      split
      · exact fun isIn => clean ((List.dropLast_prefix piece).subset isIn)
      · exact clean
    dsimp only
    split
    · exact fullClean
    · exact List.forall_mem_append.mpr ⟨fullClean, List.forall_mem_singleton.mpr lastClean⟩

end Text

/-- Whether a text is the name of a tag: ASCII letters and digits, after a `/` if the tag
closes. -/
def IsTagName (tag : Text) : Prop :=
  ∃ name : Text, (tag = name ∨ tag = '/' :: name) ∧ ∀ c ∈ name, c.isAlphanum = true

namespace Builder

theorem isTagName_tagName (raw : Text) : IsTagName (tagName raw) := by
  unfold tagName
  dsimp only
  split
  · exact ⟨_, .inr rfl, fun c isIn => List.mem_takeWhile_imp isIn⟩
  · exact ⟨_, .inl rfl, fun c isIn => List.mem_takeWhile_imp isIn⟩

theorem not_isBlank_of_mem_head?_taskText (blocks : List Block) :
    ∀ c ∈ (taskText blocks).head?, Text.isBlank c = false := by
  unfold taskText
  split
  case h_1 t _ _ => exact Text.not_of_mem_head?_dropWhile Text.isBlank t
  case h_2 => exact nofun

end Builder

/-! ### Normal form -/

/-- Whether an inline is as the builder makes it. -/
def Inline.IsNormal : Inline → Prop
  | .emphasis _ _ children => Alternate children
  | .link _ _ children => Alternate children
  | .container children => Alternate children
  | .htmlTag tag => IsTagName tag
  | _ => True

/-- Whether an item of a list is as the builder makes it: only a task has a checkbox and a
text for it, which starts with no blank. -/
def ListItem.IsNormal (item : ListItem) : Prop :=
  (item.isTask = false → item.checked = false ∧ item.taskText = []) ∧
    ∀ c ∈ item.taskText.head?, Text.isBlank c = false

/-- Whether a block is as the builder makes it. -/
def Block.IsNormal : Block → Prop
  | .heading _ inlines => Alternate inlines
  | .paragraph inlines => Alternate inlines
  | .list _ items => ∀ item ∈ items, item.IsNormal
  | .codeBlock info lines => info ≠ some [] ∧ ∀ line ∈ lines, '\n' ∉ line
  | .table rows => ∀ row ∈ rows, ∀ cell ∈ row, ∃ inlines, cell = [.paragraph inlines]
  | .html raw => ∀ c ∈ raw.getLast?, c ≠ '\r' ∧ c ≠ '\n'
  | _ => True

/-- Whether a document is, at every depth, as the builder makes it. -/
def Document.IsNormal (document : Document) : Prop :=
  document.Everywhere Inline.IsNormal Block.IsNormal

namespace Builder

theorem MakesItem.isNormal {item : ListItem} (h : MakesItem item) : item.IsNormal := by
  cases h with
  | task checked children => exact ⟨nofun, not_isBlank_of_mem_head?_taskText children⟩
  | plain children => exact ⟨fun _ => ⟨rfl, rfl⟩, nofun⟩

theorem FromLiteral.everywhere_isNormal {k : Context} {piece : Inline} (h : FromLiteral k piece) :
    piece.Everywhere Inline.IsNormal := by
  cases h with
  | literal _ | spoiler _ => trivial
  | bareUrl _ _ => exact ⟨List.isChain_singleton _, trivial, trivial⟩

/-- Inlines in normal form, no two of them literals side by side. -/
def IsNormalRun (inlines : List Inline) : Prop :=
  Alternate inlines ∧ ∀ inline ∈ inlines, inline.Everywhere Inline.IsNormal

theorem IsNormalRun.allEverywhere {inlines : List Inline} (h : IsNormalRun inlines) :
    Alternate inlines ∧ Inline.AllEverywhere Inline.IsNormal inlines :=
  ⟨h.1, Inline.allEverywhere_iff.mpr h.2⟩

theorem isNormalRun_push {read : List Inline} {inline : Inline} (h : IsNormalRun read.reverse)
    (isNormal : inline.Everywhere Inline.IsNormal) : IsNormalRun (push read inline).reverse := by
  obtain ⟨alternate, others⟩ := h
  refine ⟨alternate_push alternate inline, ?_⟩
  simp only [List.mem_reverse] at others ⊢
  cases inline with
  | literal t =>
    cases read with
    | nil => exact List.forall_mem_singleton.mpr trivial
    | cons newest older =>
      cases newest with
      | literal u => exact List.forall_mem_cons.mpr ⟨trivial, (List.forall_mem_cons.mp others).2⟩
      | _ => exact List.forall_mem_cons.mpr ⟨trivial, others⟩
  | _ => exact List.forall_mem_cons.mpr ⟨isNormal, others⟩

theorem isNormalRun_finish (k : Context) (s : Stream) {read : List Inline}
    (h : IsNormalRun read.reverse) : IsNormalRun (finish k s read) := by
  refine ⟨alternate_finish k s h.1, ?_⟩
  intro piece isPiece
  obtain ⟨inline, isIn, isPiece⟩ := List.mem_flatMap.mp isPiece
  cases inline with
  | literal t => exact (fromLiteral_finishOne k s.linkDepth t piece isPiece).everywhere_isNormal
  | _ =>
    obtain rfl := List.mem_singleton.mp isPiece
    exact h.2 _ isIn

/-- Every step of the builder keeps to the normal form. -/
def normalForm (k : Context) : Invariant k where
  Reading read := IsNormalRun read.reverse
  Run := IsNormalRun
  OfInline inline := inline.Everywhere Inline.IsNormal
  OfBlock block := block.Everywhere Inline.IsNormal Block.IsNormal
  nothing := ⟨List.isChain_nil, List.forall_mem_nil _⟩
  push := isNormalRun_push
  finish h s := isNormalRun_finish k s h
  literal _ := trivial
  codeSpan _ := trivial
  lineBreak := trivial
  htmlTag raw := isTagName_tagName raw
  emphasis _ _ _ h := h.allEverywhere
  link _ _ _ h := h.allEverywhere
  autolink _ := trivial
  group h := h.allEverywhere
  paragraph h := h.allEverywhere
  heading _ _ h := h.allEverywhere
  rule := trivial
  codeBlock info text := ⟨by cases info <;> simp, Text.line_feed_notMem_lines text⟩
  html raw c isLast := by
    have other := Text.not_of_mem_getLast?_dropEndWhile _ raw c isLast
    simpa using other
  quote h := ⟨trivial, Block.allEverywhere_iff.mpr h⟩
  container h := ⟨trivial, Block.allEverywhere_iff.mpr h⟩
  list _ _ h :=
    ⟨fun item isIn => (h item isIn).1.isNormal,
      Block.itemsEverywhere_iff.mpr fun item isIn => (h item isIn).2⟩
  table h := by
    constructor
    · intro row isRow cell isCell
      obtain ⟨content, _, rfl⟩ := h row isRow cell isCell
      exact ⟨content, rfl⟩
    · apply Block.rowsEverywhere_iff.mpr
      intro row isRow cell isCell
      obtain ⟨content, isNormal, rfl⟩ := h row isRow cell isCell
      exact ⟨isNormal.allEverywhere, trivial⟩

end Builder

/-- Every document that is built from events is in normal form. Its links are those that
the events enter, and among them those of bare URLs, if they are asked for; a bare URL has
its label as one literal, which is not empty. -/
theorem Document.ofEvents_normal (autolinks : Bool) (hidden : List Text)
    (events : List Markdown.Event) :
    (Document.ofEvents autolinks hidden events).IsNormal ∧
      LinksFrom ⟨autolinks, hidden⟩ (Document.ofEvents autolinks hidden events).links
        (Document.ofEvents false [] events).links := by
  constructor
  · have blocks := (Builder.normalForm ⟨autolinks, hidden⟩).document events
    exact Block.allEverywhere_iff.mpr blocks
  · rw [Document.ofEvents_eq_completed autolinks hidden]
    exact Document.links_completed ⟨autolinks, hidden⟩ _

end TelegramMarkdown
