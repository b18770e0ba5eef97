import TelegramMarkdown.Convert
import TelegramMarkdown.Proofs.BareUrl
import TelegramMarkdown.Proofs.Spoiler.Restore

/-!
What becomes of placeholders in a document.

The text with placeholders is parsed like any other, and only the literals that come out
are searched for placeholders.
-/

namespace TelegramMarkdown

open Markdown (Span)
open Passage (Throughout throughout_append throughout_cons)

namespace Spoiler

/-! ### Texts by their placeholders -/

/-- Induction along the tokens of a text: characters, whole placeholders, and at last
perhaps the start of a placeholder that does not end. -/
theorem induction_tokens {motive : Text → Prop} (nil : motive [])
    (char : ∀ c rest, c ≠ placeholderOpen → motive rest → motive (c :: rest))
    (unended : ∀ rest, placeholderClose ∉ rest → motive (placeholderOpen :: rest))
    (placeholder : ∀ name rest, placeholderClose ∉ name → motive rest →
      motive (placeholderOpen :: (name ++ placeholderClose :: rest))) :
    ∀ t : Text, motive t
  | [] => nil
  | c :: cs => by
    by_cases opens : c = placeholderOpen
    · subst opens
      by_cases closes : placeholderClose ∈ cs
      · obtain ⟨name, rest, whole, notIn⟩ := List.eq_append_cons_of_mem closes
        have shorter : rest.length < (placeholderOpen :: cs).length := by
          rw [whole, List.length_cons, List.length_append, List.length_cons]
          omega
        rw [whole]
        exact placeholder name rest notIn (induction_tokens nil char unended placeholder rest)
      · exact unended cs closes
    · exact char c cs opens (induction_tokens nil char unended placeholder cs)
termination_by t => t.length

theorem tokensFrom_unended {cs : Text} (h : placeholderClose ∉ cs) (name : Text) :
    tokensFrom (some name) cs = (placeholderOpen :: (name ++ cs)).map .char := by
  induction cs generalizing name with
  | nil => rw [tokensFrom, List.append_nil]
  | cons c cs ih =>
    obtain ⟨other, after⟩ := not_or.mp (mt List.mem_cons.mpr h)
    rw [tokensFrom, if_neg (Ne.symm other), ih after]
    simp

/-- The start of a placeholder that does not end is text. -/
theorem tokens_unended {cs : Text} (h : placeholderClose ∉ cs) :
    tokens (placeholderOpen :: cs) = (placeholderOpen :: cs).map .char := by
  rw [tokens, tokensFrom, if_pos rfl, tokensFrom_unended h]
  rfl

theorem resolve?_unended (hidden : List Text) {cs : Text} (h : placeholderClose ∉ cs) :
    resolve? hidden cs = none := by
  have whole : cs.takeWhile (· ≠ placeholderClose) = cs := by
    rw [List.takeWhile_eq_self_iff]
    intro c inText
    simpa using ne_of_mem_of_not_mem inText h
  rw [resolve?, whole, if_pos rfl]

/-- The spoiler that a name is the number of. -/
def named? (hidden : List Text) (name : Text) : Option Text :=
  (number? name).bind (hidden[·]?)

/-! ### Restoring, placeholder by placeholder -/

section

variable (hidden : List Text) (read : Text)

theorem restoreFrom_cons {c : Char} (h : c ≠ placeholderOpen) (rest : Text) :
    restoreFrom hidden 0 read (c :: rest) = restoreFrom hidden 0 (c :: read) rest := by
  rw [restoreFrom, if_neg h]

theorem restoreFrom_unended {cs : Text} (h : placeholderClose ∉ cs) :
    restoreFrom hidden 0 read (placeholderOpen :: cs) =
      [.literal (read.reverse ++ placeholderOpen :: cs)] := by
  rw [restoreFrom, if_pos rfl, resolve?_unended hidden h]
  simp [literal]

theorem restoreFrom_some {name : Text} (h : placeholderClose ∉ name) {content : Text}
    (found : named? hidden name = some content) (rest : Text) :
    restoreFrom hidden 0 read (placeholderOpen :: (name ++ placeholderClose :: rest)) =
      literal read.reverse ++ .spoiler content :: restoreFrom hidden 0 [] rest := by
  have skipped := restoreFrom_skip hidden [] (name ++ [placeholderClose]) rest
  rw [List.length_append, List.length_singleton, List.append_assoc, List.singleton_append]
    at skipped
  rw [named?] at found
  rw [restoreFrom, if_pos rfl, resolve?_name hidden h, found, Option.map_some]
  dsimp only
  rw [skipped]

theorem restoreFrom_none {name : Text} (h : placeholderClose ∉ name)
    (missing : named? hidden name = none) (rest : Text) :
    restoreFrom hidden 0 read (placeholderOpen :: (name ++ placeholderClose :: rest)) =
      [.literal (read.reverse ++ placeholderOpen :: (name ++ placeholderClose :: rest))] := by
  rw [named?] at missing
  rw [restoreFrom, if_pos rfl, resolve?_name hidden h, missing, Option.map_none]
  simp [literal]

end

/-! ### Characters of placeholders -/

/-- Whether a character is none that only placeholders have. -/
def IsOrdinary (c : Char) : Prop :=
  c ≠ placeholderOpen ∧ c ≠ placeholderClose

instance : DecidablePred IsOrdinary :=
  fun c => inferInstanceAs (Decidable (c ≠ placeholderOpen ∧ c ≠ placeholderClose))

theorem not_isOrdinary_of_open (before after : Text) :
    ¬ ∀ c ∈ before ++ placeholderOpen :: after, IsOrdinary c := by
  intro all
  exact (all placeholderOpen (by simp)).1 rfl

/-- Whether nothing is left of the characters of placeholders where a token is restored. -/
def Token.IsRestored (hidden : List Text) : Token → Prop
  | char c => IsOrdinary c
  | placeholder name => (named? hidden name).isSome

instance (hidden : List Text) : DecidablePred (Token.IsRestored hidden)
  | .char c => inferInstanceAs (Decidable (IsOrdinary c))
  | .placeholder name => inferInstanceAs (Decidable ((named? hidden name).isSome = true))

theorem throughout_one_literal {p : Char → Prop} (t : Text) :
    Throughout p (Inline.allPassages [.literal t]) ↔ ∀ c ∈ t, p c :=
  List.forall_mem_singleton

theorem throughout_literal {p : Char → Prop} (t : Text) :
    Throughout p (Inline.allPassages (literal t)) ↔ ∀ c ∈ t, p c := by
  cases t with
  | nil => exact iff_of_true (List.forall_mem_nil _) (List.forall_mem_nil _)
  | cons c cs => exact throughout_one_literal (c :: cs)

theorem throughout_restoreFrom {hidden : List Text}
    (ordinary : ∀ content ∈ hidden, ∀ c ∈ content, IsOrdinary c) (t : Text) :
    ∀ read : Text, Throughout IsOrdinary (Inline.allPassages (restoreFrom hidden 0 read t)) ↔
      (∀ c ∈ read, IsOrdinary c) ∧ ∀ token ∈ tokens t, token.IsRestored hidden := by
  induction t using induction_tokens with
  | nil =>
    intro read
    rw [restoreFrom, throughout_literal]
    simp [tokens, tokensFrom]
  | char c rest other ih =>
    intro read
    rw [restoreFrom_cons hidden read other, ih, tokens_cons other, List.forall_mem_cons,
      List.forall_mem_cons, ← and_assoc, and_comm (b := ∀ d ∈ read, IsOrdinary d)]
    rfl
  | unended rest notIn =>
    intro read
    rw [restoreFrom_unended hidden read notIn, throughout_one_literal]
    apply iff_of_false (not_isOrdinary_of_open read.reverse rest)
    rintro ⟨-, all⟩
    rw [tokens_unended notIn, List.map_cons, List.forall_mem_cons] at all
    exact all.1.1 rfl
  | placeholder name rest notIn ih =>
    intro read
    rw [tokens_name notIn, List.forall_mem_cons]
    cases found : named? hidden name with
    | some content =>
      have isHidden : content ∈ hidden := by
        obtain ⟨n, _, isNth⟩ := Option.bind_eq_some_iff.mp found
        exact List.mem_of_getElem? isNth
      rw [restoreFrom_some hidden read notIn found, Inline.allPassages_append, throughout_append,
        throughout_literal, Inline.allPassages, Inline.passages, List.singleton_append,
        throughout_cons, ih]
      simp only [List.mem_reverse, Passage.text, Token.IsRestored, found, Option.isSome_some,
        List.not_mem_nil, false_implies, implies_true, true_and]
      exact and_congr_right' (and_iff_right (ordinary content isHidden))
    | none =>
      rw [restoreFrom_none hidden read notIn found, throughout_one_literal]
      apply iff_of_false (not_isOrdinary_of_open read.reverse _)
      rintro ⟨-, known, -⟩
      rw [Token.IsRestored, found] at known
      exact Bool.false_ne_true known

/-- No character of a placeholder is left of a text exactly if it has none outside of
placeholders and each of its placeholders stands for a spoiler. -/
theorem throughout_restore {hidden : List Text}
    (ordinary : ∀ content ∈ hidden, ∀ c ∈ content, IsOrdinary c) (t : Text) :
    Throughout IsOrdinary (Inline.allPassages (restore hidden t)) ↔
      ∀ token ∈ tokens t, token.IsRestored hidden := by
  rw [restore, throughout_restoreFrom ordinary]
  exact and_iff_right fun c isIn => absurd isIn List.not_mem_nil

/-! ### Numbers of placeholders -/

/-- The numbers of placeholders that are shown as spoilers: of all up to the first that
stands for none. -/
def shownNumbers (hidden : List Text) : (names : List Text) → List Nat
  | [] => []
  | name :: rest =>
    match number? name with
    | some n => if n < hidden.length then n :: shownNumbers hidden rest else []
    | none => []

theorem shownNumbers_some {hidden : List Text} {name content : Text}
    (found : named? hidden name = some content) (rest : List Text) :
    ∃ n, hidden[n]? = some content ∧
      shownNumbers hidden (name :: rest) = n :: shownNumbers hidden rest := by
  obtain ⟨n, number, isNth⟩ := Option.bind_eq_some_iff.mp found
  obtain ⟨isNumber, _⟩ := List.getElem?_eq_some_iff.mp isNth
  refine ⟨n, isNth, ?_⟩
  rw [shownNumbers, number]
  exact if_pos isNumber

theorem shownNumbers_none {hidden : List Text} {name : Text}
    (missing : named? hidden name = none) (rest : List Text) :
    shownNumbers hidden (name :: rest) = [] := by
  rw [shownNumbers]
  cases number : number? name with
  | none => rfl
  | some n =>
    rw [named?, number, Option.bind_some, List.getElem?_eq_none_iff] at missing
    exact if_neg (Nat.not_lt.mpr missing)

theorem spoilers_literal (t : Text) : Passage.spoilers (Inline.allPassages (literal t)) = [] := by
  cases t <;> rfl

theorem names_unended {cs : Text} (h : placeholderClose ∉ cs) :
    names (placeholderOpen :: cs) = [] := by
  rw [names, tokens_unended h, List.filterMap_map, List.filterMap_eq_nil_iff]
  intro c _
  rfl

theorem spoilers_restoreFrom (hidden : List Text) (t : Text) :
    ∀ read : Text, Passage.spoilers (Inline.allPassages (restoreFrom hidden 0 read t)) =
      (shownNumbers hidden (names t)).filterMap (hidden[·]?) := by
  induction t using induction_tokens with
  | nil =>
    intro read
    rw [restoreFrom, spoilers_literal]
    rfl
  | char c rest other ih =>
    intro read
    rw [restoreFrom_cons hidden read other, ih, names, names, tokens_cons other]
    rfl
  | unended rest notIn =>
    intro read
    rw [restoreFrom_unended hidden read notIn, names_unended notIn]
    rfl
  | placeholder name rest notIn ih =>
    intro read
    have isFirst : names (placeholderOpen :: (name ++ placeholderClose :: rest)) =
        name :: names rest := by
      rw [names, tokens_name notIn]
      rfl
    rw [isFirst]
    cases found : named? hidden name with
    | some content =>
      obtain ⟨n, isNth, numbers⟩ := shownNumbers_some found (names rest)
      rw [restoreFrom_some hidden read notIn found, Inline.allPassages_append,
        Passage.spoilers_append, spoilers_literal, numbers, List.filterMap_cons, isNth]
      exact congrArg (content :: ·) (ih [])
    | none =>
      rw [restoreFrom_none hidden read notIn found, shownNumbers_none found]
      rfl

/-- The spoilers that a text is restored to are those of the numbers of its
placeholders. -/
theorem spoilers_restore (hidden : List Text) (t : Text) :
    Passage.spoilers (Inline.allPassages (restore hidden t)) =
      (shownNumbers hidden (names t)).filterMap (hidden[·]?) :=
  spoilers_restoreFrom hidden t []

/-! ### Literals that are completed -/

section

open Builder (finishOne)

/-- A text in which spoilers are put back, if there are any. -/
def restored (hidden : List Text) (t : Text) : List Inline :=
  if hidden.isEmpty then [.literal t] else restore hidden t

/-- A literal is searched for spoilers first, and what is left of it for bare URLs. -/
theorem finishOne_literal (autolinks : Bool) (hidden : List Text) (depth : Nat) (t : Text) :
    finishOne ⟨autolinks, hidden⟩ depth (.literal t) =
      (restored hidden t).flatMap (finishOne ⟨autolinks, []⟩ depth) := by
  unfold finishOne restored
  dsimp only
  congr 1
  funext piece
  cases piece with
  | literal u => exact (List.append_nil _).symm
  | _ => rfl

theorem spoilers_finishOne (autolinks : Bool) (depth : Nat) (piece : Inline) :
    Passage.spoilers (Inline.allPassages (finishOne ⟨autolinks, []⟩ depth piece)) =
      Passage.spoilers piece.passages := by
  cases piece with
  | literal t =>
    unfold finishOne
    simp only [List.isEmpty_nil, if_true, List.flatMap_singleton]
    split
    · exact BareUrl.spoilers_linkify t
    · rfl
  | _ => exact congrArg Passage.spoilers (List.append_nil _)

theorem throughout_finishOne {p : Char → Prop} (scheme : ∀ c ∈ "http://".toList, p c)
    (autolinks : Bool) (depth : Nat) (piece : Inline) :
    Throughout p (Inline.allPassages (finishOne ⟨autolinks, []⟩ depth piece)) ↔
      Throughout p piece.passages := by
  cases piece with
  | literal t =>
    have own : Throughout p (Inline.literal t).passages ↔ ∀ c ∈ t, p c :=
      List.forall_mem_singleton
    unfold finishOne
    simp only [List.isEmpty_nil, if_true, List.flatMap_singleton]
    split
    · rw [BareUrl.throughout_linkify scheme, own]
    · exact Iff.of_eq (congrArg (Throughout p) (List.append_nil _))
  | _ => exact Iff.of_eq (congrArg (Throughout p) (List.append_nil _))

theorem spoilers_finished (autolinks : Bool) (depth : Nat) (pieces : List Inline) :
    Passage.spoilers (Inline.allPassages (pieces.flatMap (finishOne ⟨autolinks, []⟩ depth))) =
      Passage.spoilers (Inline.allPassages pieces) := by
  induction pieces with
  | nil => rfl
  | cons piece rest ih =>
    rw [List.flatMap_cons, Inline.allPassages_append, Passage.spoilers_append, spoilers_finishOne,
      ih, Inline.allPassages, Passage.spoilers_append]

theorem throughout_finished {p : Char → Prop} (scheme : ∀ c ∈ "http://".toList, p c)
    (autolinks : Bool) (depth : Nat) (pieces : List Inline) :
    Throughout p (Inline.allPassages (pieces.flatMap (finishOne ⟨autolinks, []⟩ depth))) ↔
      Throughout p (Inline.allPassages pieces) := by
  induction pieces with
  | nil => rfl
  | cons piece rest ih =>
    rw [List.flatMap_cons, Inline.allPassages_append, throughout_append,
      throughout_finishOne scheme, ih, Inline.allPassages, throughout_append]

end

end Spoiler

end TelegramMarkdown
