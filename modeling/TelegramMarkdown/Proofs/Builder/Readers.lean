import TelegramMarkdown.Document.OfEvents

/-!
Elements of one kind, read one after the other.

The cells of a row, the rows of a table and the items of a list are read alike: up to the `exit`
of the element around them, and whatever stands between them is passed (`Builder.KeepsOnly`). So
what holds of such a reader follows from what holds of the one that reads a single element
(`Builder.KeepsOnly.holds`).
-/

namespace TelegramMarkdown.Builder

open Markdown (Event Tag)

/-- A reader of the elements of one kind up to the end of the element around them, which skips all
that is not such an element. -/
structure KeepsOnly {α : Type} (opens : Tag → Prop) (one : Nat → Stream → α × Stream)
    (read : Nat → Stream → List α × Stream) : Prop where
  outOfSteps : ∀ s, read 0 s = ([], s)
  ended : ∀ n task depth, read (n + 1) ⟨[], task, depth⟩ = ([], ⟨[], task, depth⟩)
  exit : ∀ n events task depth,
    read (n + 1) ⟨.exit :: events, task, depth⟩ = ([], ⟨events, task, depth⟩)
  element : ∀ n tag events task depth, opens tag →
    read (n + 1) ⟨.enter tag :: events, task, depth⟩ =
      let (first, s) := one n ⟨events, task, depth⟩
      let (more, s) := read n s
      (first :: more, s)
  skip : ∀ n e events task depth, e ≠ .exit → (∀ tag, opens tag → e ≠ .enter tag) →
    read (n + 1) ⟨e :: events, task, depth⟩ = read n ⟨events, task, depth⟩

namespace KeepsOnly

variable {α : Type} {opens : Tag → Prop} {one : Nat → Stream → α × Stream}
  {read : Nat → Stream → List α × Stream} {P : Stream → List α × Stream → Prop}

/-- One step keeps what is said of a stream and what is read of it, if it holds where nothing is
read, where an event is passed, and where an element is read before others. -/
theorem step (keeps : KeepsOnly opens one read) (nothing : ∀ s, P s ([], s))
    (later : ∀ {e events task depth r}, P ⟨events, task, depth⟩ r → P ⟨e :: events, task, depth⟩ r)
    {n : Nat} (element : ∀ s {r}, P (one n s).2 r → P s ((one n s).1 :: r.1, r.2))
    (ih : ∀ s, P s (read n s)) (s : Stream) : P s (read (n + 1) s) := by
  obtain ⟨events, task, depth⟩ := s
  cases events with
  | nil =>
    rw [keeps.ended]
    exact nothing _
  | cons e events =>
    by_cases isExit : e = .exit
    · rw [isExit, keeps.exit]
      exact later (nothing _)
    by_cases isElement : ∃ tag, opens tag ∧ e = .enter tag
    · obtain ⟨tag, isOpen, rfl⟩ := isElement
      rw [keeps.element n tag events task depth isOpen]
      exact later (element _ (ih _))
    · rw [keeps.skip n e events task depth isExit fun tag isOpen same =>
        isElement ⟨tag, isOpen, same⟩]
      exact later (ih _)

/-- The run, by induction on the steps that are allowed. -/
theorem holds (keeps : KeepsOnly opens one read) (nothing : ∀ s, P s ([], s))
    (later : ∀ {e events task depth r}, P ⟨events, task, depth⟩ r → P ⟨e :: events, task, depth⟩ r)
    (element : ∀ n s {r}, P (one n s).2 r → P s ((one n s).1 :: r.1, r.2)) (n : Nat)
    (s : Stream) : P s (read n s) := by
  induction n generalizing s with
  | zero =>
    rw [keeps.outOfSteps]
    exact nothing s
  | succ n ih => exact keeps.step nothing later (element n) ih s

/-- What holds of each element holds of all that are read. -/
theorem forall_mem_succ (keeps : KeepsOnly opens one read) {Q : α → Prop} {n : Nat}
    (element : ∀ s, Q (one n s).1) (ih : ∀ s, ∀ x ∈ (read n s).1, Q x) (s : Stream) :
    ∀ x ∈ (read (n + 1) s).1, Q x :=
  keeps.step (P := fun _ r => ∀ x ∈ r.1, Q x) (fun _ => List.forall_mem_nil _) id
    (fun s _ others => List.forall_mem_cons.mpr ⟨element s, others⟩) ih s

theorem forall_mem (keeps : KeepsOnly opens one read) {Q : α → Prop}
    (element : ∀ n s, Q (one n s).1) (n : Nat) (s : Stream) : ∀ x ∈ (read n s).1, Q x :=
  keeps.holds (P := fun _ r => ∀ x ∈ r.1, Q x) (fun _ => List.forall_mem_nil _) id
    (fun n s _ others => List.forall_mem_cons.mpr ⟨element n s, others⟩) n s

end KeepsOnly

section

variable (k : Context)

theorem cells_keepsOnly : KeepsOnly (· = .tableCell)
    (fun n s => ([Block.paragraph (inlines k n [] s).1], (inlines k n [] s).2)) (cells k) where
  outOfSteps _ := rfl
  ended _ _ _ := rfl
  exit _ _ _ _ := rfl
  element := by
    rintro n _ events task depth rfl
    rfl
  skip := by
    intro n e events task depth notExit notCell
    cases e with
    | exit => exact absurd rfl notExit
    | enter tag =>
      cases tag with
      | tableCell => exact absurd rfl (notCell _ rfl)
      | _ => rfl
    | _ => rfl

theorem rows_keepsOnly :
    KeepsOnly (fun tag => tag = .tableHead ∨ tag = .tableRow) (cells k) (rows k) where
  outOfSteps _ := rfl
  ended _ _ _ := rfl
  exit _ _ _ _ := rfl
  element := by
    rintro n _ events task depth (rfl | rfl)
    · rfl
    · rfl
  skip := by
    intro n e events task depth notExit notRow
    cases e with
    | exit => exact absurd rfl notExit
    | enter tag =>
      cases tag with
      | tableHead => exact absurd rfl (notRow _ (.inl rfl))
      | tableRow => exact absurd rfl (notRow _ (.inr rfl))
      | _ => rfl
    | _ => rfl

theorem items_keepsOnly : KeepsOnly (· = .item) (item k) (items k) where
  outOfSteps _ := rfl
  ended _ _ _ := rfl
  exit _ _ _ _ := rfl
  element := by
    rintro n _ events task depth rfl
    rfl
  skip := by
    intro n e events task depth notExit notItem
    cases e with
    | exit => exact absurd rfl notExit
    | enter tag =>
      cases tag with
      | item => exact absurd rfl (notItem _ rfl)
      | _ => rfl
    | _ => rfl

end

end TelegramMarkdown.Builder
