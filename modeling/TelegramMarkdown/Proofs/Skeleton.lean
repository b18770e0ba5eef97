import TelegramMarkdown.Proofs.Forest

/-!
Skeletons: what is left of blocks without their text.

What the builder makes of a forest has a skeleton that can be told without the text: every
tree among blocks leaves the skeleton of its block, or the mark that there is text, or
nothing (`Builder.Fold.skeletons_blocks`).
-/

namespace TelegramMarkdown

open Builder (Context)
open Markdown (EventTree)

/-! ### Skeletons -/

/-- A block without its text. -/
inductive Skeleton where
  | heading (level : Nat)
  | paragraph
  /-- A list, by the blocks of each item. -/
  | list (ordered : Bool) (items : List (List Skeleton))
  | quote (blocks : List Skeleton)
  | code
  /-- A table, by the number of cells in each row. -/
  | table (rows : List Nat)
  | rule
  | html
  | container (blocks : List Skeleton)

instance : DecidablePred (· = Skeleton.paragraph)
  | .paragraph => isTrue rfl
  | .heading _ | .list _ _ | .quote _ | .code | .table _ | .rule | .html | .container _ =>
    isFalse nofun

mutual

/-- The skeleton of a block. -/
def Block.skeleton : Block → Skeleton
  | .heading level _ => .heading level
  | .paragraph _ => .paragraph
  | .list ordered items => .list ordered (Block.itemSkeletons items)
  | .quote blocks => .quote (Block.skeletons blocks)
  | .codeBlock _ _ => .code
  | .table rows => .table (rows.map List.length)
  | .rule => .rule
  | .html _ => .html
  | .container blocks => .container (Block.skeletons blocks)

/-- The skeletons of blocks. -/
def Block.skeletons : List Block → List Skeleton
  | [] => []
  | block :: rest => block.skeleton :: Block.skeletons rest

/-- The skeletons of the items of a list. -/
def Block.itemSkeletons : List ListItem → List (List Skeleton)
  | [] => []
  | item :: rest => item.skeleton :: Block.itemSkeletons rest

/-- The skeletons of the blocks of an item. -/
def ListItem.skeleton : ListItem → List Skeleton
  | { isTask := _, checked := _, taskText := _, blocks } => Block.skeletons blocks

end

/-- The skeletons of the blocks of a document. -/
def Document.skeleton (document : Document) : List Skeleton :=
  Block.skeletons document.blocks

/-! ### Skeletons of a forest -/

/-- What is between blocks as blocks: text, which is marked by `none`, makes a paragraph
with all the text next to it. `text` tells whether there is some before. -/
def Skeleton.assemble : (text : Bool) → List (Option Skeleton) → List Skeleton
  | text, [] => if text then [.paragraph] else []
  | _, none :: rest => assemble true rest
  | text, some block :: rest =>
    (if text then [.paragraph] else []) ++ block :: assemble false rest

/-- Parts that make the same blocks wherever they stand. -/
def SameBlocks (a b : List (Option Skeleton)) : Prop :=
  ∀ (text : Bool) (rest : List (Option Skeleton)),
    Skeleton.assemble text (a ++ rest) = Skeleton.assemble text (b ++ rest)

namespace SameBlocks

variable {a b c d : List (Option Skeleton)}

theorem refl (a : List (Option Skeleton)) : SameBlocks a a := fun _ _ => rfl

theorem trans (ab : SameBlocks a b) (bc : SameBlocks b c) : SameBlocks a c :=
  fun text rest => (ab text rest).trans (bc text rest)

theorem cons (first : Option Skeleton) (ab : SameBlocks a b) :
    SameBlocks (first :: a) (first :: b) := by
  intro text rest
  cases first with
  | none => exact ab true rest
  | some block => exact congrArg (_ ++ block :: ·) (ab false rest)

theorem append (ab : SameBlocks a b) (cd : SameBlocks c d) : SameBlocks (a ++ c) (b ++ d) := by
  have before : SameBlocks (a ++ c) (b ++ c) := by
    intro text rest
    rw [List.append_assoc, List.append_assoc]
    exact ab text (c ++ rest)
  refine before.trans ?_
  clear before ab
  induction b with
  | nil => exact cd
  | cons first others ih => exact ih.cons first

/-- Text next to text makes no other paragraph. -/
theorem texts (x y : Bool) :
    SameBlocks ((if x then [none] else []) ++ (if y then [none] else []))
      (if x || y then [none] else []) := by
  intro text rest
  cases x <;> cases y <;> rfl

theorem assemble_eq (ab : SameBlocks a b) (text : Bool) :
    Skeleton.assemble text a = Skeleton.assemble text b := by
  simpa using ab text []

end SameBlocks

namespace Builder.Fold

/-- What a part leaves without its text. -/
def Part.outline : Part → List (Option Skeleton)
  | .text run => if run.isEmpty then [] else [none]
  | .block inner => [some inner.skeleton]

/-- What trees leave without their text. -/
def outline (k : Context) (depth : Nat) (forest : List EventTree) : List (Option Skeleton) :=
  (partAll k depth forest).flatMap Part.outline

theorem partAll_append (k : Context) (depth : Nat) (a b : List EventTree) :
    partAll k depth (a ++ b) = partAll k depth a ++ partAll k depth b := by
  induction a with
  | nil => rfl
  | cons tree rest ih => rw [List.cons_append, partAll, ih, partAll, List.cons_append]

theorem outline_append (k : Context) (depth : Nat) (a b : List EventTree) :
    outline k depth (a ++ b) = outline k depth a ++ outline k depth b := by
  rw [outline, partAll_append, List.flatMap_append, ← outline, ← outline]

theorem skeletons_assemble (k : Context) (depth : Nat) (run : List Inline) (parts : List Part) :
    Block.skeletons (assemble k depth run parts) =
      Skeleton.assemble (!run.isEmpty) (parts.flatMap Part.outline) := by
  induction parts generalizing run with
  | nil =>
    rw [assemble, paragraph]
    cases run <;> rfl
  | cons part rest ih =>
    cases part with
    | text more =>
      rw [assemble, ih, List.flatMap_cons, Part.outline]
      cases run <;> cases more <;> rfl
    | block inner =>
      have others : Block.skeletons (assemble k depth [] rest) =
          Skeleton.assemble false (rest.flatMap Part.outline) := ih []
      rw [assemble, paragraph, List.flatMap_cons, Part.outline, List.singleton_append,
        Skeleton.assemble, ← others]
      cases run <;> rfl

/-- The blocks of an element leave what its children leave. -/
theorem skeletons_blocks (k : Context) (depth : Nat) (forest : List EventTree) :
    Block.skeletons (blocks k depth forest) =
      Skeleton.assemble false (outline k depth forest) :=
  skeletons_assemble k depth [] (partAll k depth forest)

/-- Whether an item is a task has no bearing on its blocks. -/
theorem skeleton_itemOf (found : List Bool) (blocks : List Block) :
    (itemOf found blocks).skeleton = Block.skeletons blocks := by
  unfold itemOf
  split <;> rfl

end Builder.Fold

end TelegramMarkdown
