import Mathlib.Data.List.Sort
import TelegramMarkdown.Proofs.Spoiler.Placeholders

/-!
The spoilers that a document shows, and what is left of placeholders.

A document is built of the text with placeholders and completed afterwards
(`Document.ofMarkdown_eq_completed`), so all depends on where the placeholders stand
before that. Nothing is left of them exactly if they stand in literals only
(`placeholders_restored_iff`), and spoilers are shown by their numbers in the order of
the document (`spoilers_shown`). Neither is certain: the text with placeholders can be
parsed into other elements than the text itself.
-/

namespace TelegramMarkdown

open Markdown (Span)
open Passage (Throughout throughout_append throughout_cons)
open Spoiler

/-- The document that a text is read as before it is completed, with placeholders for the
spoilers. -/
def Document.withPlaceholders (s : Settings) (markdown : Text) : Document :=
  Document.ofEvents false [] (Markdown.events s.extensions (hideSpoilers s markdown).1)

theorem Document.ofMarkdown_eq_completed (s : Settings) (markdown : Text) :
    Document.ofMarkdown s markdown =
      (Document.withPlaceholders s markdown).completed
        ⟨s.autolinks, (hideSpoilers s markdown).2⟩ :=
  Document.ofEvents_eq_completed s.autolinks (hideSpoilers s markdown).2
    (Markdown.events s.extensions (hideSpoilers s markdown).1)

/-! ### Marked text -/

theorem hideSpoilers_cases (s : Settings) (markdown : Text) :
    hideSpoilers s markdown = (markdown, []) ∨
      ∃ (verbatim : List Span) (source : Text) (hidden : List Text),
        mark? verbatim markdown = some (source, hidden) ∧
          hideSpoilers s markdown = (source, hidden) := by
  unfold hideSpoilers
  dsimp only
  split
  · cases found : mark? (Markdown.verbatimSpans s.extensions markdown) markdown with
    | none => exact .inl rfl
    | some pair => exact .inr ⟨_, pair.1, pair.2, found, rfl⟩
  · exact .inl rfl

/-- The contents of spoilers hold no characters of a placeholder. -/
theorem isOrdinary_of_mem_hidden (s : Settings) (markdown : Text) :
    ∀ content ∈ (hideSpoilers s markdown).2, ∀ c ∈ content, IsOrdinary c := by
  intro content isHidden c inContent
  obtain unmarked | ⟨verbatim, source, hidden, marking, same⟩ := hideSpoilers_cases s markdown
  · rw [unmarked] at isHidden
    exact absurd isHidden List.not_mem_nil
  · rw [same] at isHidden
    have inText : c ∈ markdown := by
      obtain ⟨_, _, rfl⟩ := exists_of_mark?_eq_some marking
      obtain ⟨part, inParts, isContent⟩ := List.mem_filterMap.mp isHidden
      rw [← written_parts verbatim markdown, written, List.mem_flatMap]
      refine ⟨part, inParts, ?_⟩
      cases part with
      | plain d => cases isContent
      | hidden other =>
        obtain rfl := Option.some.inj isContent
        simp [Part.written, inContent]
    have noPlaceholder : ¬ (markdown.any fun c =>
        c = placeholderOpen || c = placeholderClose) = true := by
      intro found
      rw [mark?, if_pos found] at marking
      cases marking
    simp only [List.any_eq_true, not_exists, not_and, Bool.or_eq_true, decide_eq_true_eq, not_or]
      at noPlaceholder
    exact noPlaceholder c inText

theorem names_of_ordinary {t : Text} (ordinary : ∀ c ∈ t, IsOrdinary c) : names t = [] := by
  induction t with
  | nil => rfl
  | cons c cs ih =>
    obtain ⟨first, others⟩ := List.forall_mem_cons.mp ordinary
    rw [names, tokens_cons first.1]
    exact ih others

/-- The placeholders in the text are numbered as their spoilers are. -/
theorem names_hideSpoilers (s : Settings) {markdown : Text}
    (ordinary : ∀ c ∈ markdown, IsOrdinary c) :
    names (hideSpoilers s markdown).1 =
      (List.range (hideSpoilers s markdown).2.length).map Text.ofNat := by
  obtain unmarked | ⟨verbatim, source, hidden, marking, same⟩ := hideSpoilers_cases s markdown
  · rw [unmarked]
    exact names_of_ordinary ordinary
  · obtain ⟨clean, rfl, rfl⟩ := exists_of_mark?_eq_some marking
    rw [same, names_marked clean, List.range_eq_range']

/-! ### What is left of placeholders -/

/-- Whether nothing is left of the characters of placeholders when a passage is completed.
They may be in literals, as far as these are restored. What a task shows is taken from
a literal. -/
def Passage.IsRestored (hidden : List Text) : Passage → Prop
  | literal t => ∀ token ∈ tokens t, token.IsRestored hidden
  | task _ => True
  | spoiler t | verbatim t => ∀ c ∈ t, IsOrdinary c

instance (hidden : List Text) : DecidablePred (Passage.IsRestored hidden)
  | .literal t => List.decidableBAll (Token.IsRestored hidden) (tokens t)
  | .task _ => instDecidableTrue
  | .spoiler t | .verbatim t => List.decidableBAll IsOrdinary t

theorem restoreFrom_of_no_spoilers (t : Text) :
    ∀ read : Text, restoreFrom [] 0 read t = Spoiler.literal (read.reverse ++ t) := by
  induction t using induction_tokens with
  | nil => intro read; simp [restoreFrom]
  | char c rest other ih => intro read; simp [restoreFrom_cons [] read other, ih]
  | unended rest notIn =>
    intro read
    simp [restoreFrom_unended [] read notIn, Spoiler.literal]
  | placeholder name rest notIn ih =>
    intro read
    have missing : named? [] name = none := by
      cases number : number? name <;> simp [named?, number]
    simp [restoreFrom_none [] read notIn missing, Spoiler.literal]

theorem throughout_restored {hidden : List Text}
    (ordinary : ∀ content ∈ hidden, ∀ c ∈ content, IsOrdinary c) (t : Text) :
    Throughout IsOrdinary (Inline.allPassages (restored hidden t)) ↔
      ∀ token ∈ tokens t, token.IsRestored hidden := by
  unfold restored
  split
  case isTrue isEmpty =>
    obtain rfl := List.isEmpty_iff.mp isEmpty
    have same := throughout_restore ordinary t
    rw [restore, restoreFrom_of_no_spoilers, throughout_literal] at same
    exact (throughout_one_literal t).trans same
  case isFalse => exact throughout_restore ordinary t

theorem throughout_taskText {p : Char → Prop} {blocks : List Block}
    (h : Throughout p (Block.allPassages blocks)) : ∀ c ∈ Builder.taskText blocks, p c := by
  unfold Builder.taskText
  split
  case h_1 t more rest =>
    intro c isShown
    have inLiteral : c ∈ t := (List.dropWhile_sublist _).subset isShown
    exact h (.literal t) List.mem_cons_self c inLiteral
  case h_2 => exact fun c isShown => absurd isShown List.not_mem_nil

theorem isOrdinary_scheme : ∀ c ∈ "http://".toList, IsOrdinary c := by
  simp [IsOrdinary, placeholderOpen, placeholderClose]

theorem completes_isRestored (autolinks : Bool) {hidden : List Text}
    (ordinary : ∀ content ∈ hidden, ∀ c ∈ content, IsOrdinary c) :
    Completes ⟨autolinks, hidden⟩ fun done before =>
      Throughout IsOrdinary done ↔ ∀ passage ∈ before, passage.IsRestored hidden where
  nil := iff_of_true (List.forall_mem_nil _) (List.forall_mem_nil _)
  append := by
    intro a b c d first second
    rw [throughout_append, first, second, List.forall_mem_append]
  verbatim t := by
    rw [Throughout, List.forall_mem_singleton, List.forall_mem_singleton]
    rfl
  spoiler t := by
    rw [Throughout, List.forall_mem_singleton, List.forall_mem_singleton]
    rfl
  literal depth t := by
    rw [finishOne_literal, throughout_finished isOrdinary_scheme, throughout_restored ordinary,
      List.forall_mem_singleton]
    rfl
  item := by
    rintro ⟨isTask, checked, taskText, blocks⟩ inside
    rw [ListItem.completed, ListItem.passages, throughout_cons, ListItem.passages,
      List.forall_mem_cons, ← inside]
    constructor
    · rintro ⟨-, all⟩
      exact ⟨trivial, all⟩
    · rintro ⟨-, all⟩
      refine ⟨?_, all⟩
      cases isTask with
      | true => exact throughout_taskText all
      | false => exact fun c isShown => absurd isShown List.not_mem_nil

/-- Nothing is left of placeholders in a document exactly if, before it is completed, their
characters stand in literals only, and there only in placeholders that stand for a
spoiler. If the text itself has none of these characters, all placeholders in the marked
text stand for one. -/
theorem placeholders_restored_iff (s : Settings) (markdown : Text) :
    let hidden := (hideSpoilers s markdown).2
    (Throughout IsOrdinary (Document.ofMarkdown s markdown).passages ↔
      ∀ passage ∈ (Document.withPlaceholders s markdown).passages, passage.IsRestored hidden) ∧
    ((∀ c ∈ markdown, IsOrdinary c) →
      ∀ name ∈ names (hideSpoilers s markdown).1, (named? hidden name).isSome) := by
  intro hidden
  constructor
  · rw [Document.ofMarkdown_eq_completed]
    exact Document.passages_completed
      (completes_isRestored s.autolinks (isOrdinary_of_mem_hidden s markdown)) _
  · intro ordinary name isName
    rw [names_hideSpoilers s ordinary, List.mem_map] at isName
    obtain ⟨n, inRange, rfl⟩ := isName
    rw [named?, number?_ofNat, Option.bind_some,
      List.getElem?_eq_getElem (List.mem_range.mp inRange)]
    rfl

/-- A spoiler behind code. -/
theorem placeholders_restored_behind_code :
    Throughout IsOrdinary (Document.ofMarkdown .default "`a` ||b c||".toList).passages := by
  have hidden : (hideSpoilers .default "`a` ||b c||".toList).2 = [['b', ' ', 'c']] := by
    decide +kernel
  have before : (Document.withPlaceholders .default "`a` ||b c||".toList).passages =
      [.verbatim ['a'], .literal (' ' :: placeholder 0)] := by decide +kernel
  apply (placeholders_restored_iff .default _).1.mpr
  rw [hidden, before]
  decide

/-- What is no link may become one when its spoiler is hidden, and the URL keeps the
placeholder. -/
theorem placeholder_left_in_url :
    (∀ c ∈ "[a](||b c||)".toList, IsOrdinary c ∧ c ≠ '&') ∧
      ¬ Throughout IsOrdinary (Document.ofMarkdown .default "[a](||b c||)".toList).passages := by
  have parsed : (Document.ofMarkdown .default "[a](||b c||)".toList).passages =
      [.verbatim (placeholder 0), .literal ['a']] := by decide +kernel
  refine ⟨by simp [IsOrdinary, placeholderOpen, placeholderClose], ?_⟩
  intro all
  rw [parsed] at all
  exact (all (.verbatim (placeholder 0)) List.mem_cons_self placeholderOpen List.mem_cons_self).1 rfl

/-! ### Which spoilers are shown -/

/-- The spoilers that a passage is completed to. -/
def Passage.shown (hidden : List Text) : Passage → List Text
  | literal t => (shownNumbers hidden (names t)).filterMap (hidden[·]?)
  | spoiler t => [t]
  | task _ | verbatim _ => []

theorem completes_shown (autolinks : Bool) (hidden : List Text) :
    Completes ⟨autolinks, hidden⟩ fun done before =>
      Passage.spoilers done = before.flatMap (Passage.shown hidden) where
  nil := rfl
  append := by
    intro a b c d first second
    rw [Passage.spoilers_append, first, second, List.flatMap_append]
  verbatim t := rfl
  spoiler t := rfl
  literal depth t := by
    rw [finishOne_literal, spoilers_finished, List.flatMap_singleton, Passage.shown, restored]
    split
    case isTrue isEmpty =>
      obtain rfl := List.isEmpty_iff.mp isEmpty
      simp [Inline.allPassages, Inline.passages, Passage.spoilers]
    case isFalse => exact spoilers_restore hidden t
  item := by
    rintro ⟨isTask, checked, taskText, blocks⟩ inside
    exact inside

/-- Where there are no spoilers yet, the passages are completed to those of the numbers in
the literals. -/
theorem flatMap_shown_eq (hidden : List Text) {before : List Passage}
    (noSpoiler : Passage.spoilers before = []) :
    before.flatMap (Passage.shown hidden) =
      ((Passage.literals before).flatMap fun t => shownNumbers hidden (names t)).filterMap
        (hidden[·]?) := by
  induction before with
  | nil => rfl
  | cons passage rest ih =>
    cases passage with
    | literal t =>
      have others := ih noSpoiler
      rw [List.flatMap_cons, others]
      exact List.filterMap_append.symm
    | spoiler t => nomatch noSpoiler
    | task t | verbatim t => exact ih noSpoiler

theorem lt_of_mem_shownNumbers {hidden : List Text} {n : Nat} {given : List Text}
    (h : n ∈ shownNumbers hidden given) : n < hidden.length := by
  induction given with
  | nil => cases h
  | cons name rest ih =>
    rw [shownNumbers] at h
    split at h
    · split at h
      case isTrue isNumber =>
        obtain rfl | later := List.mem_cons.mp h
        · exact isNumber
        · exact ih later
      case isFalse => cases h
    · cases h

theorem shownNumbers_sublist (hidden given : List Text) :
    (shownNumbers hidden given).Sublist (given.filterMap number?) := by
  induction given with
  | nil => exact List.Sublist.refl _
  | cons name rest ih =>
    rw [shownNumbers]
    split
    case h_1 n number =>
      rw [List.filterMap_cons, number]
      split
      · exact ih.cons_cons n
      · exact List.nil_sublist _
    case h_2 => exact List.nil_sublist _

theorem flatMap_shownNumbers_sublist (hidden : List Text) (literals : List Text) :
    (literals.flatMap fun t => shownNumbers hidden (names t)).Sublist
      ((literals.flatMap names).filterMap number?) := by
  induction literals with
  | nil => exact List.Sublist.refl _
  | cons t rest ih =>
    rw [List.flatMap_cons, List.flatMap_cons, List.filterMap_append]
    exact (shownNumbers_sublist hidden (names t)).append ih

theorem filterMap_range (hidden : List Text) :
    (List.range hidden.length).filterMap (hidden[·]?) = hidden := by
  induction hidden with
  | nil => rfl
  | cons content rest ih =>
    rw [List.length_cons, List.range_succ_eq_map, List.filterMap_cons, List.filterMap_map]
    exact congrArg (content :: ·) ih

section

variable {hidden : List Text} {numbers : List Nat} (bounded : ∀ n ∈ numbers, n < hidden.length)

include bounded

theorem sublist_of_increasing (increasing : numbers.Pairwise (· < ·)) :
    (numbers.filterMap (hidden[·]?)).Sublist hidden := by
  have distinct : numbers.Nodup := increasing.imp Nat.ne_of_lt
  have inRange : numbers ⊆ List.range hidden.length := by
    intro n isNumber
    exact List.mem_range.mpr (bounded n isNumber)
  have among : numbers.Sublist (List.range hidden.length) :=
    List.sublist_of_subperm_of_pairwise (List.subperm_of_subset distinct inRange) increasing
      List.pairwise_lt_range
  have shown := among.filterMap (hidden[·]?)
  rw [filterMap_range] at shown
  exact shown

theorem map_idxOf_filterMap (distinct : hidden.Nodup) :
    (numbers.filterMap (hidden[·]?)).map hidden.idxOf = numbers := by
  induction numbers with
  | nil => rfl
  | cons n rest ih =>
    obtain ⟨first, others⟩ := List.forall_mem_cons.mp bounded
    rw [List.filterMap_cons, List.getElem?_eq_getElem first, List.map_cons, ih others,
      distinct.idxOf_getElem]

theorem increasing_of_sublist (distinct : hidden.Nodup)
    (among : (numbers.filterMap (hidden[·]?)).Sublist hidden) : numbers.Pairwise (· < ·) := by
  have inOrder : ((List.range hidden.length).filterMap (hidden[·]?)).map hidden.idxOf =
      List.range hidden.length := map_idxOf_filterMap (fun _ => List.mem_range.mp) distinct
  have places := among.map hidden.idxOf
  rw [filterMap_range] at inOrder
  rw [map_idxOf_filterMap bounded distinct, inOrder] at places
  exact List.pairwise_lt_range.sublist places

end

theorem filterMap_number?_range (n : Nat) :
    ((List.range n).map Text.ofNat).filterMap number? = List.range n := by
  rw [List.filterMap_map]
  conv => rhs; rw [← List.filterMap_some (l := List.range n)]
  congr 1
  funext m
  exact number?_ofNat m

/-- The spoilers that a document shows are those of the numbers of placeholders in its
literals, before it is completed. They are shown once at most, in the order of the text,
if the numbers increase, and only then if no two spoilers have the same content. The
numbers increase if literals get the placeholders of the marked text in its order, each
once at most. -/
theorem spoilers_shown (s : Settings) (markdown : Text) :
    let source := (hideSpoilers s markdown).1
    let hidden := (hideSpoilers s markdown).2
    let literals := Passage.literals (Document.withPlaceholders s markdown).passages
    let numbers := literals.flatMap fun t => shownNumbers hidden (names t)
    let shown := (Document.ofMarkdown s markdown).spoilers
    shown = numbers.filterMap (hidden[·]?) ∧
    (∀ n ∈ numbers, n < hidden.length) ∧
    (numbers.Pairwise (· < ·) → shown.Sublist hidden) ∧
    (hidden.Nodup → shown.Sublist hidden → numbers.Pairwise (· < ·)) ∧
    ((literals.flatMap names).Sublist (names source) → numbers.Pairwise (· < ·)) := by
  intro source hidden literals numbers shown
  have same : shown = numbers.filterMap (hidden[·]?) := by
    simp only [shown]
    rw [Document.ofMarkdown_eq_completed, Document.spoilers,
      Document.passages_completed (completes_shown s.autolinks hidden)]
    exact flatMap_shown_eq hidden (Document.spoilers_ofEvents_bare _)
  have bounded : ∀ n ∈ numbers, n < hidden.length := by
    intro n isNumber
    obtain ⟨t, _, isShown⟩ := List.mem_flatMap.mp isNumber
    exact lt_of_mem_shownNumbers isShown
  refine ⟨same, bounded, ?_, ?_, ?_⟩
  · intro increasing
    rw [same]
    exact sublist_of_increasing bounded increasing
  · intro distinct among
    rw [same] at among
    exact increasing_of_sublist bounded distinct among
  · intro kept
    obtain unmarked | ⟨verbatim, _, _, marking, pair⟩ := hideSpoilers_cases s markdown
    · have noNumber : numbers = [] := by
        rw [List.eq_nil_iff_forall_not_mem]
        intro n isNumber
        have tooLarge := bounded n isNumber
        simp only [hidden, unmarked, List.length_nil, Nat.not_lt_zero] at tooLarge
      rw [noNumber]
      exact List.Pairwise.nil
    · obtain ⟨clean, rfl, rfl⟩ := exists_of_mark?_eq_some marking
      have inText : numbers.Sublist ((names source).filterMap number?) :=
        (flatMap_shownNumbers_sublist hidden literals).trans (kept.filterMap number?)
      simp only [source, pair] at inText
      rw [names_marked clean, ← List.range_eq_range', filterMap_number?_range] at inText
      exact List.pairwise_lt_range.sublist inText

/-- Two spoilers of the same content. -/
theorem spoilers_shown_in_order :
    (Document.ofMarkdown .default "||a|| ||a||".toList).spoilers.Sublist
      (hideSpoilers .default "||a|| ||a||".toList).2 := by
  have hidden : (hideSpoilers .default "||a|| ||a||".toList).2 = [['a'], ['a']] := by decide +kernel
  have before : (Document.withPlaceholders .default "||a|| ||a||".toList).passages =
      [.literal (placeholder 0 ++ ' ' :: placeholder 1)] := by decide +kernel
  apply (spoilers_shown .default _).2.2.1
  rw [hidden, before]
  decide

/-- Character references can spell a placeholder, and a spoiler that stands elsewhere is
shown for them once more. -/
theorem spoiler_shown_twice :
    (hideSpoilers .default "&#xE000;0&#xE001; ||a||".toList).2 = [['a']] ∧
      ¬ (Document.ofMarkdown .default "&#xE000;0&#xE001; ||a||".toList).spoilers.Sublist
        [['a']] := by
  have twice : (Document.ofMarkdown .default "&#xE000;0&#xE001; ||a||".toList).spoilers =
      [['a'], ['a']] := by decide +kernel
  refine ⟨by decide +kernel, ?_⟩
  rw [twice]
  intro among
  exact absurd among.length_le (by decide)

end TelegramMarkdown
