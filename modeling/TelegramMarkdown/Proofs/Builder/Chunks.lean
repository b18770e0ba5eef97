import TelegramMarkdown.Proofs.Builder.Readers

/-!
How text is cut into events makes no difference.

A text that comes in two events is read in two steps, after which the builder is where one
step takes it that reads the text as a whole (`Builder.GathersText.step`), or skips it
(`Builder.KeepsOnly.gathersText`). So two streams that differ in nothing else are read side by side to
the same document (`Document.ofEvents_chunks`). The streams may be any, with elements that do
not end or were not entered; all that counts is that the steps allowed are enough for each of
them.
-/

namespace TelegramMarkdown.Builder

open Markdown (Event Tag)

/-! ### Streams that differ in how text is cut -/

/-- Events, and the same events with some texts cut in two. -/
inductive Split : (whole parts : List Event) → Prop where
  | nil : Split [] []
  | cons (e : Event) {whole parts : List Event} :
    Split whole parts → Split (e :: whole) (e :: parts)
  | text (t u : Text) {whole parts : List Event} :
    Split whole parts → Split (.text (t ++ u) :: whole) (.text t :: .text u :: parts)

theorem Split.refl (events : List Event) : Split events events := by
  induction events with
  | nil => exact .nil
  | cons e rest ih => exact .cons e ih

theorem Split.append_left (before : List Event) {whole parts : List Event}
    (split : Split whole parts) : Split (before ++ whole) (before ++ parts) := by
  induction before with
  | nil => exact split
  | cons e before ih => exact .cons e ih

/-- Two streams of such events in equal states. -/
structure Alike (s s' : Stream) : Prop where
  events : Split s.events s'.events
  task : s.task = s'.task
  linkDepth : s.linkDepth = s'.linkDepth

/-- Two readings of streams that are alike have the same result, and leave streams alike,
which are not longer than before. -/
structure SameRead {α : Type} (s s' : Stream) (read read' : α × Stream) : Prop where
  result : read.1 = read'.1
  alike : Alike read.2 read'.2
  le : read.2.events.length ≤ s.events.length
  le' : read'.2.events.length ≤ s'.events.length

namespace SameRead

variable {α : Type} {s s' t t' : Stream}

theorem same {x : α} (alike : Alike s s') : SameRead s s' (x, s) (x, s') :=
  ⟨rfl, alike, Nat.le_refl _, Nat.le_refl _⟩

/-- What holds of readings of the rests holds of readings of the whole. -/
theorem later {read read' : α × Stream} (le : t.events.length ≤ s.events.length)
    (le' : t'.events.length ≤ s'.events.length) (h : SameRead t t' read read') :
    SameRead s s' read read' :=
  ⟨h.result, h.alike, Nat.le_trans h.le le, Nat.le_trans h.le' le'⟩

end SameRead

/-! ### Readers -/

/-- Whether a reader that is allowed `n` steps reads two streams that are alike the same, if the
steps are enough for both: three for an event, and so many more. -/
def ReadsAlike {α : Type} (more : Nat) (read : Nat → Stream → α × Stream) (n : Nat) : Prop :=
  ∀ (m : Nat) {s s' : Stream}, Alike s s' → 3 * s.events.length + more ≤ n →
    3 * s'.events.length + more ≤ m → SameRead s s' (read n s) (read m s')

namespace ReadsAlike

variable {α β : Type} {a b n : Nat} {read : Nat → Stream → α × Stream}

theorem zero (more : 0 < a) : ReadsAlike a read 0 :=
  fun _ _ _ _ enough _ => absurd enough (by omega)

theorem succ (h : ReadsAlike a (fun n => read (n + 1)) n) (lt : a < b) :
    ReadsAlike b read (n + 1) := by
  intro m s s' alike enough enough'
  obtain ⟨m, rfl⟩ : ∃ p, m = p + 1 := ⟨m - 1, by omega⟩
  exact h m alike (by omega) (by omega)

theorem mono (h : ReadsAlike a read n) (le : a ≤ b) : ReadsAlike b read n :=
  fun m _ _ alike enough enough' => h m alike (by omega) (by omega)

theorem congr {read' : Nat → Stream → α × Stream} (h : ReadsAlike a read' n)
    (same : ∀ n s, read n s = read' n s) : ReadsAlike a read n := by
  obtain rfl : read = read' := funext fun n => funext (same n)
  exact h

/-- What is made of the result may depend on how many links are open. -/
theorem map (h : ReadsAlike a read n) (f : Nat → α → β) :
    ReadsAlike a (fun n s => (f s.linkDepth (read n s).1, (read n s).2)) n := by
  intro m s s' alike enough enough'
  have same := h m alike enough enough'
  refine ⟨?_, same.alike, same.le, same.le'⟩
  dsimp only
  rw [same.result, alike.linkDepth]

theorem andThen {next : Nat → α → Stream → β × Stream} (h : ReadsAlike a read n) (le : b ≤ a)
    (goesOn : ∀ x, ReadsAlike b (next · x) n) :
    ReadsAlike a (fun n s => next n (read n s).1 (read n s).2) n := by
  intro m s s' alike enough enough'
  have same := h m alike enough enough'
  have shorter := same.le
  have shorter' := same.le'
  have more := goesOn (read n s).1 m same.alike (by omega) (by omega)
  dsimp only
  rw [← same.result]
  exact more.later shorter shorter'

/-- A reader that starts in another state. -/
theorem inState (h : ReadsAlike a read n) (task : Option Bool → Option Bool) (depth : Nat → Nat) :
    ReadsAlike a (fun n s => read n ⟨s.events, task s.task, depth s.linkDepth⟩) n := by
  intro m s s' alike enough enough'
  have inside : Alike ⟨s.events, task s.task, depth s.linkDepth⟩
      ⟨s'.events, task s'.task, depth s'.linkDepth⟩ :=
    ⟨alike.events, congrArg task alike.task, congrArg depth alike.linkDepth⟩
  have same := h m inside enough enough'
  exact ⟨same.result, same.alike, same.le, same.le'⟩

end ReadsAlike

/-! ### Text -/

theorem push_push_literal (read : List Inline) (t u : Text) :
    push (push read (.literal t)) (.literal u) = push read (.literal (t ++ u)) := by
  cases read with
  | nil => rfl
  | cons first older => cases first <;> simp [push]

theorem rawText_split {whole parts : List Event} (split : Split whole parts) :
    (rawText whole).1 = (rawText parts).1 ∧ Split (rawText whole).2 (rawText parts).2 ∧
      (rawText whole).2.length ≤ whole.length ∧ (rawText parts).2.length ≤ parts.length := by
  induction split with
  | nil => exact ⟨rfl, .nil, Nat.le_refl _, Nat.le_refl _⟩
  | cons e split ih =>
    obtain ⟨same, after, le, le'⟩ := ih
    cases e with
    | exit => exact ⟨rfl, split, Nat.le_succ _, Nat.le_succ _⟩
    | text t | html t _ =>
      exact ⟨congrArg (t ++ ·) same, after, Nat.le_succ_of_le le, Nat.le_succ_of_le le'⟩
    | _ => exact ⟨same, after, Nat.le_succ_of_le le, Nat.le_succ_of_le le'⟩
  | text t u split ih =>
    obtain ⟨same, after, le, le'⟩ := ih
    refine ⟨?_, after, Nat.le_succ_of_le le, Nat.le_succ_of_le (Nat.le_succ_of_le le')⟩
    simp [rawText, same]

theorem rawText_alike (a n : Nat) : ReadsAlike a
    (fun _ s => ((rawText s.events).1, ⟨(rawText s.events).2, s.task, s.linkDepth⟩)) n := by
  intro m s s' alike _ _
  obtain ⟨same, after, le, le'⟩ := rawText_split alike.events
  exact ⟨same, ⟨after, alike.task, alike.linkDepth⟩, le, le'⟩

/-- A reader that stops at the end of an element, and adds text to what it has read. -/
structure GathersText {σ α : Type} (read : Nat → σ → Stream → α × Stream) (stop : Nat → σ → α)
    (add : σ → Text → σ) : Prop where
  ended : ∀ n x task depth, read (n + 1) x ⟨[], task, depth⟩ = (stop depth x, ⟨[], task, depth⟩)
  exit : ∀ n x events task depth,
    read (n + 1) x ⟨.exit :: events, task, depth⟩ = (stop depth x, ⟨events, task, depth⟩)
  text : ∀ n x t events task depth,
    read (n + 1) x ⟨.text t :: events, task, depth⟩ = read n (add x t) ⟨events, task, depth⟩
  add_add : ∀ x t u, add (add x t) u = add x (t ++ u)

/-- Where one stream has a text in two parts, the reader makes two steps at once there. So what is
left to see to is what it does at the other events. -/
theorem GathersText.step {σ α : Type} {read : Nat → σ → Stream → α × Stream} {stop : Nat → σ → α}
    {add : σ → Text → σ} (gathers : GathersText read stop add) {n : Nat}
    (ih : ∀ x, ReadsAlike 1 (read · x) n)
    (other : ∀ x e, e ≠ .exit → (∀ t, e ≠ .text t) →
      ReadsAlike 3 (fun n s => read (n + 1) x ⟨e :: s.events, s.task, s.linkDepth⟩) n) (x : σ) :
    ReadsAlike 1 (read · x) (n + 1) := by
  rintro m ⟨whole, task, depth⟩ ⟨parts, _, _⟩ ⟨split, rfl, rfl⟩ enough enough'
  obtain ⟨m, rfl⟩ : ∃ p, m = p + 1 := ⟨m - 1, by omega⟩
  dsimp only at split enough enough' ⊢
  cases split with
  | nil =>
    rw [gathers.ended, gathers.ended]
    exact .same ⟨.nil, rfl, rfl⟩
  | @cons e whole parts split =>
    rw [List.length_cons] at enough enough'
    have rests : Alike ⟨whole, task, depth⟩ ⟨parts, task, depth⟩ := ⟨split, rfl, rfl⟩
    have here : SameRead ⟨whole, task, depth⟩ ⟨parts, task, depth⟩
        (read (n + 1) x ⟨e :: whole, task, depth⟩) (read (m + 1) x ⟨e :: parts, task, depth⟩) := by
      by_cases isExit : e = .exit
      · rw [isExit, gathers.exit, gathers.exit]
        exact .same rests
      by_cases isText : ∃ t, e = .text t
      · obtain ⟨t, rfl⟩ := isText
        rw [gathers.text, gathers.text]
        exact ih (add x t) m rests (by dsimp only; omega) (by dsimp only; omega)
      · have reads := other x e isExit fun t same => isText ⟨t, same⟩
        exact reads m rests (by dsimp only; omega) (by dsimp only; omega)
    exact here.later (Nat.le_succ _) (Nat.le_succ _)
  | @text t u whole parts split =>
    simp only [List.length_cons] at enough enough'
    obtain ⟨m, rfl⟩ : ∃ p, m = p + 1 := ⟨m - 1, by omega⟩
    have rests : Alike ⟨whole, task, depth⟩ ⟨parts, task, depth⟩ := ⟨split, rfl, rfl⟩
    have behind := ih (add x (t ++ u)) m rests (by dsimp only; omega) (by dsimp only; omega)
    rw [gathers.text, gathers.text, gathers.text, gathers.add_add]
    exact behind.later (Nat.le_succ _) (Nat.le_add_right _ 2)

/-! ### Elements of one kind -/

namespace KeepsOnly

variable {α : Type} {opens : Tag → Prop} {one : Nat → Stream → α × Stream}
  {read : Nat → Stream → List α × Stream}

/-- Text is skipped, so it may well be cut. -/
theorem gathersText (keeps : KeepsOnly opens one read) :
    GathersText (fun n (_ : Unit) => read n) (fun _ _ => []) fun _ _ => () where
  ended n _ := keeps.ended n
  exit n _ := keeps.exit n
  text n _ _ events task depth := keeps.skip n _ events task depth nofun nofun
  add_add _ _ _ := rfl

theorem alike_succ (keeps : KeepsOnly opens one read) {n : Nat} (elements : ReadsAlike 3 one n)
    (ih : ReadsAlike 1 read n) : ReadsAlike 1 read (n + 1) := by
  refine keeps.gathersText.step (fun _ => ih) (fun _ e notExit _ => ?_) ()
  by_cases isElement : ∃ tag, opens tag ∧ e = .enter tag
  · obtain ⟨tag, isOpen, rfl⟩ := isElement
    have reads := elements.andThen (by omega) fun first => ih.map fun _ more => first :: more
    exact reads.congr fun n s => keeps.element n tag s.events s.task s.linkDepth isOpen
  · have notElement (tag : Tag) (isOpen : opens tag) (same : e = .enter tag) : False :=
      isElement ⟨tag, isOpen, same⟩
    exact (ih.mono (by omega)).congr fun n s =>
      keeps.skip n e s.events s.task s.linkDepth notExit notElement

theorem alike (keeps : KeepsOnly opens one read) (elements : ∀ n, ReadsAlike 3 one n) (n : Nat) :
    ReadsAlike 1 read n := by
  induction n with
  | zero => exact .zero (by omega)
  | succ n ih => exact keeps.alike_succ (elements n) ih

end KeepsOnly

/-! ### Inlines -/

section

variable (k : Context)

theorem inlines_gathersText : GathersText (inlines k) (fun depth => finish k ⟨[], none, depth⟩)
    fun read t => push read (.literal t) where
  ended _ _ _ _ := rfl
  exit _ _ _ _ _ := rfl
  text _ _ _ _ _ _ := rfl
  add_add := push_push_literal

-- By induction on the steps that are allowed for the stream with whole texts.

mutual

theorem inlines_alike : ∀ (n : Nat) (read : List Inline), ReadsAlike 1 (inlines k · read) n
  | 0, _ => .zero (by omega)
  | n + 1, read => by
    refine (inlines_gathersText k).step (inlines_alike n) (fun read e notExit notText => ?_) read
    cases e with
    | exit => exact absurd rfl notExit
    | text t => exact absurd rfl (notText t)
    | enter tag =>
      have reads := (inlineElement_alike n tag).andThen (by omega)
        fun inline => inlines_alike n (push read inline)
      exact reads
    | checkbox checked =>
      exact ((inlines_alike n read).inState (fun _ => some checked) id).mono (by omega)
    | _ => exact (inlines_alike n _).mono (by omega)

theorem inlineElement_alike : ∀ (n : Nat) (tag : Tag), ReadsAlike 3 (inlineElement k · tag) n
  | 0, _ => .zero (by omega)
  | n + 1, tag => by
    have children : ReadsAlike 2 (inlines k · []) n := (inlines_alike n []).mono (by omega)
    have inLink := label_alike n
    refine .succ (a := 2) ?_ (by omega)
    cases tag with
    | link url _ => exact inLink.map fun _ => Inline.link url false
    | image url _ => exact inLink.map fun _ => Inline.link url true
    | autolink url _ => exact inLink.map fun _ _ => Inline.autolink url
    | emphasis c count => exact children.map fun _ => Inline.emphasis c count
    | _ => exact children.map fun _ => Inline.container

theorem label_alike : ∀ n, ReadsAlike 2 (label k) n
  | 0 => .zero (by omega)
  | n + 1 => by
    refine .succ (a := 1) (fun m s s' alike enough enough' => ?_) (by omega)
    have inside := (inlines_alike n []).inState id (· + 1) m alike enough enough'
    exact ⟨inside.result, ⟨inside.alike.events, inside.alike.task,
      congrArg (· - 1) inside.alike.linkDepth⟩, inside.le, inside.le'⟩

end

/-! ### Tables -/

theorem cells_alike (n : Nat) : ReadsAlike 1 (cells k) n := by
  refine (cells_keepsOnly k).alike (fun n => ?_) n
  exact ((inlines_alike k n []).map fun _ content => [Block.paragraph content]).mono (by omega)

theorem rows_alike (n : Nat) : ReadsAlike 1 (rows k) n :=
  (rows_keepsOnly k).alike (fun n => (cells_alike k n).mono (by omega)) n

/-! ### Blocks -/

theorem blocks_gathersText : GathersText (blocks k) (fun depth => flush k ⟨[], none, depth⟩)
    fun read t => push read (.literal t) where
  ended _ _ _ _ := rfl
  exit _ _ _ _ _ := rfl
  text _ _ _ _ _ _ := rfl
  add_add := push_push_literal

mutual

theorem blocks_alike : ∀ (n : Nat) (read : List Inline), ReadsAlike 1 (blocks k · read) n
  | 0, _ => .zero (by omega)
  | n + 1, read => by
    refine (blocks_gathersText k).step (blocks_alike n) (fun read e notExit notText => ?_) read
    cases e with
    | exit => exact absurd rfl notExit
    | text t => exact absurd rfl (notText t)
    | rule =>
      have reads := (blocks_alike n []).map fun depth more =>
        flush k ⟨[], none, depth⟩ read ++ Block.rule :: more
      exact reads.mono (by omega)
    | enter tag =>
      have inline := (inlineElement_alike k n tag).andThen (by omega)
        fun inline => blocks_alike n (push read inline)
      have block := (blockElement_alike n tag).andThen (by omega)
        fun block => (blocks_alike n []).map fun _ more => block :: more
      cases tag with
      | emphasis | link | image | autolink => exact inline
      | _ => exact block.map fun depth more => flush k ⟨[], none, depth⟩ read ++ more
    | checkbox checked =>
      exact ((blocks_alike n read).inState (fun _ => some checked) id).mono (by omega)
    | _ => exact (blocks_alike n _).mono (by omega)

theorem blockElement_alike : ∀ (n : Nat) (tag : Tag), ReadsAlike 3 (blockElement k · tag) n
  | 0, _ => .zero (by omega)
  | n + 1, tag => by
    have text := inlines_alike k n []
    have inside := blocks_alike n []
    have raw := rawText_alike 1 n
    refine .succ (a := 1) ?_ (by omega)
    cases tag with
    | paragraph | term => exact text.map fun _ => Block.paragraph
    | heading level => exact text.map fun _ => Block.heading level
    | quote => exact inside.map fun _ => Block.quote
    | list ordered => exact (items_alike n).map fun _ => Block.list ordered
    | table => exact (rows_alike k n).map fun _ => Block.table
    | codeBlock info _ =>
      exact raw.map fun _ text => Block.codeBlock (info.filter (!·.isEmpty)) (Text.lines text)
    | htmlBlock _ =>
      exact raw.map fun _ text =>
        Block.html (Text.dropEndWhile (fun c => c = '\r' || c = '\n') text)
    | _ => exact inside.map fun _ => Block.container

theorem items_alike : ∀ n, ReadsAlike 1 (items k) n
  | 0 => .zero (by omega)
  | n + 1 => (items_keepsOnly k).alike_succ ((item_alike n).mono (by omega)) (items_alike n)

theorem item_alike : ∀ n, ReadsAlike 2 (item k) n
  | 0 => .zero (by omega)
  | n + 1 => by
    refine .succ (a := 1) (fun m s s' alike enough enough' => ?_) (by omega)
    have inside := (blocks_alike n []).inState (fun _ => none) id m alike enough enough'
    refine ⟨?_, ⟨inside.alike.events, alike.task, inside.alike.linkDepth⟩, inside.le, inside.le'⟩
    dsimp only [item, id_eq] at inside ⊢
    rw [inside.result, inside.alike.task]

end

end

end Builder

open Markdown (Event)

/-! ### All of the events -/

theorem Document.ofEvents_split (autolinks : Bool) (hidden : List Text) {whole parts : List Event}
    (split : Builder.Split whole parts) :
    Document.ofEvents autolinks hidden whole = Document.ofEvents autolinks hidden parts := by
  have start : Builder.Alike ⟨whole, none, 0⟩ ⟨parts, none, 0⟩ := ⟨split, rfl, rfl⟩
  have read := Builder.blocks_alike ⟨autolinks, hidden⟩ (3 * whole.length + 3) []
    (3 * parts.length + 3) start (by dsimp only; omega) (by dsimp only; omega)
  exact congrArg Document.mk read.result

/-- How text is chunked makes no difference to the document: consecutive text events, anywhere
among any events, read like one event with all of their text. -/
theorem Document.ofEvents_chunks (autolinks : Bool) (hidden : List Text)
    (before after : List Event) (first : Text) (more : List Text) :
    Document.ofEvents autolinks hidden (before ++ (first :: more).map .text ++ after) =
      Document.ofEvents autolinks hidden (before ++ .text (first :: more).flatten :: after) := by
  induction more generalizing first with
  | nil => simp
  | cons next more ih =>
    have split : Builder.Split (before ++ (((first ++ next) :: more).map .text ++ after))
        (before ++ ((first :: next :: more).map .text ++ after)) :=
      .append_left before (.text first next (.refl _))
    rw [List.append_assoc, ← ofEvents_split autolinks hidden split, ← List.append_assoc, ih]
    simp

end TelegramMarkdown
