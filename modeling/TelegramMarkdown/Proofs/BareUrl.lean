import TelegramMarkdown.Proofs.Passages
import TelegramMarkdown.Proofs.Text

/-!
What bare URLs leave of a text.

Cutting links out of a text drops nothing: every character of the text is in one of the
inlines, and they hold no others but those of the scheme that a label goes without
(`BareUrl.throughout_linkify`).
-/

namespace TelegramMarkdown.BareUrl

open Passage (Throughout throughout_append throughout_cons)

/-! ### Trimming -/

theorem isPrefix_trimOnce (url : Text) : trimOnce url <+: url := by
  have ends : Text.dropEndWhile isTrailing url <+: url := List.rdropWhile_prefix isTrailing url
  unfold trimOnce
  dsimp only
  split
  · have front : (Text.dropEndWhile isTrailing url).dropLast <+: _ := List.dropLast_prefix _
    exact front.trans ends
  · exact ends

theorem isPrefix_trimWithin (n : Nat) (url : Text) : trimWithin n url <+: url := by
  induction n generalizing url with
  | zero => exact List.prefix_refl url
  | succ n ih =>
    unfold trimWithin
    dsimp only
    split
    · exact List.prefix_refl url
    · exact (ih (trimOnce url)).trans (isPrefix_trimOnce url)

theorem isPrefix_trim (url : Text) : trim url <+: url :=
  isPrefix_trimWithin url.length url

/-- A URL is its label and what is dropped behind it. -/
theorem trim_append_drop (url : Text) : trim url ++ url.drop (trim url).length = url :=
  List.prefix_iff_eq_append.mp (isPrefix_trim url)

/-! ### Passages -/

theorem spoilers_prepend (t : Text) (rest : List Inline) :
    Passage.spoilers (Inline.allPassages (prepend t rest)) =
      Passage.spoilers (Inline.allPassages rest) := by
  unfold prepend
  split
  · rfl
  · split
    · rfl
    · rfl

theorem spoilers_linkifyAfter (n : Nat) (before : Option Char) (t : Text) :
    Passage.spoilers (Inline.allPassages (linkifyAfter n before t)) = [] := by
  induction n generalizing before t with
  | zero => exact spoilers_prepend t []
  | succ n ih =>
    cases t with
    | nil => rfl
    | cons c cs =>
      unfold linkifyAfter
      dsimp only
      split
      · rw [spoilers_prepend, ih]
      · split
        · exact (spoilers_prepend _ _).trans (ih _ _)
        · rw [spoilers_prepend, ih]

/-- No spoilers are made of the URLs in a text. -/
theorem spoilers_linkify (t : Text) :
    Passage.spoilers (Inline.allPassages (linkify t)) = [] :=
  spoilers_linkifyAfter t.length none t

section

variable {p : Char → Prop}

theorem throughout_prepend (t : Text) (rest : List Inline) :
    Throughout p (Inline.allPassages (prepend t rest)) ↔
      (∀ c ∈ t, p c) ∧ Throughout p (Inline.allPassages rest) := by
  unfold prepend
  split
  case h_1 u rest =>
    rw [Inline.allPassages, Inline.allPassages, Inline.passages, Inline.passages,
      List.singleton_append, List.singleton_append, throughout_cons, throughout_cons, ← and_assoc]
    exact and_congr_left' List.forall_mem_append
  case h_2 =>
    split
    case isTrue isEmpty =>
      obtain rfl := List.isEmpty_iff.mp isEmpty
      simp
    case isFalse => exact throughout_cons

variable (scheme : ∀ c ∈ "http://".toList, p c)

include scheme

theorem forall_target_iff (label : Text) :
    (∀ c ∈ target label, p c) ↔ ∀ c ∈ label, p c := by
  unfold target
  split
  · rw [List.forall_mem_append]
    exact and_iff_right scheme
  · exact Iff.rfl

theorem throughout_linkifyAfter (n : Nat) (before : Option Char) (t : Text) :
    Throughout p (Inline.allPassages (linkifyAfter n before t)) ↔ ∀ c ∈ t, p c := by
  induction n generalizing before t with
  | zero =>
    rw [linkifyAfter, throughout_prepend]
    exact and_iff_left (fun _ isIn => absurd isIn List.not_mem_nil)
  | succ n ih =>
    cases t with
    | nil => simp [linkifyAfter, Inline.allPassages, Throughout]
    | cons c cs =>
      unfold linkifyAfter
      dsimp only
      split
      case h_1 => rw [throughout_prepend, ih, List.forall_mem_singleton, List.forall_mem_cons]
      case h_2 length _ =>
        have whole : (∀ d ∈ c :: cs, p d) ↔
            (∀ d ∈ (c :: cs).take length, p d) ∧ ∀ d ∈ (c :: cs).drop length, p d := by
          rw [← List.forall_mem_append, List.take_append_drop]
        rw [whole]
        split
        · have label : (∀ d ∈ (c :: cs).take length, p d) ↔
              (∀ d ∈ trim ((c :: cs).take length), p d) ∧
                ∀ d ∈ ((c :: cs).take length).drop (trim ((c :: cs).take length)).length, p d := by
            rw [← List.forall_mem_append, trim_append_drop]
          rw [label, Inline.allPassages, link, Inline.passages, throughout_append, throughout_cons,
            throughout_prepend, ih]
          simp only [Inline.allPassages, Inline.passages, List.append_nil, Passage.text,
            forall_target_iff scheme, throughout_cons]
          simp [Throughout, and_assoc]
        · rw [throughout_prepend, ih]

/-- A property of the characters of a text is one of all that is made of it, if it holds of
the scheme that is added to labels. -/
theorem throughout_linkify (t : Text) :
    Throughout p (Inline.allPassages (linkify t)) ↔ ∀ c ∈ t, p c :=
  throughout_linkifyAfter scheme t.length none t

end

end TelegramMarkdown.BareUrl
