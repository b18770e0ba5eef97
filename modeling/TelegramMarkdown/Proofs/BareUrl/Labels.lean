import Mathlib.Data.List.Infix
import TelegramMarkdown.Proofs.BareUrl.Scan

/-!
The labels of bare URLs: what is left of a URL that is found when it is trimmed.

Trimming leaves nothing that it would drop (`BareUrl.trim_trim`). It may leave no more than
the lead of a URL or a part of it, which is never complete (`BareUrl.isUrl_of_isComplete`); what
is complete, and what is not although it is still a URL, says `BareUrl.isComplete_trim_iff`.
-/

namespace TelegramMarkdown.BareUrl

/-! ### Trimming -/

theorem length_trimOnce_le (url : Text) :
    (trimOnce url).length ≤ (Text.dropEndWhile isTrailing url).length := by
  unfold trimOnce
  dsimp only
  split
  · rw [List.length_dropLast]
    exact Nat.sub_le _ _
  · exact Nat.le_refl _

/-- The rounds of trimming, without a bound on their number: they are over when one of them drops
nothing. -/
inductive TrimsTo : (url label : Text) → Prop where
  | settled {url : Text} : (trimOnce url).length = url.length → TrimsTo url url
  | again {url label : Text} : (trimOnce url).length ≠ url.length →
      TrimsTo (trimOnce url) label → TrimsTo url label

/-- As many rounds as a URL has characters are enough. -/
theorem trimsTo_trimWithin (n : Nat) (url : Text) (enough : url.length ≤ n) :
    TrimsTo url (trimWithin n url) := by
  induction n generalizing url with
  | zero =>
    obtain rfl := List.length_eq_zero_iff.mp (Nat.le_zero.mp enough)
    exact .settled rfl
  | succ n ih =>
    rw [trimWithin]
    split
    case isTrue same => exact .settled same
    case isFalse shorter =>
      have le := (isPrefix_trimOnce url).length_le
      exact .again shorter (ih (trimOnce url) (by omega))

theorem trimsTo_trim (url : Text) : TrimsTo url (trim url) :=
  trimsTo_trimWithin url.length url (Nat.le_refl _)

theorem TrimsTo.trimOnce_eq {url label : Text} (h : TrimsTo url label) : trimOnce label = label := by
  induction h with
  | @settled url same => exact (isPrefix_trimOnce url).eq_of_length same
  | again _ _ ih => exact ih

/-- There is nothing to drop at the end of a URL that is trimmed. -/
theorem trimOnce_trim (url : Text) : trimOnce (trim url) = trim url :=
  (trimsTo_trim url).trimOnce_eq

theorem trim_eq_self {url : Text} (h : trimOnce url = url) : trim url = url := by
  rw [trim]
  cases url.length with
  | zero => rfl
  | succ n => rw [trimWithin, h, if_pos rfl]

theorem trim_trim (url : Text) : trim (trim url) = trim url :=
  trim_eq_self (trimOnce_trim url)

/-- A URL that is trimmed does not end with punctuation. -/
theorem not_isTrailing_of_mem_getLast?_trim (url : Text) :
    ∀ c ∈ (trim url).getLast?, isTrailing c = false := by
  have kept : Text.dropEndWhile isTrailing (trim url) = trim url := by
    have isPrefix : Text.dropEndWhile isTrailing (trim url) <+: trim url :=
      List.rdropWhile_prefix isTrailing (trim url)
    have longer := length_trimOnce_le (trim url)
    rw [trimOnce_trim] at longer
    exact isPrefix.eq_of_length_le longer
  rw [← kept]
  exact Text.not_of_mem_getLast?_dropEndWhile isTrailing (trim url)

/-! ### URLs as a whole -/

/-- Whether a text is a URL as a whole: a lead in any letter case and one or more characters
after it, all of which may be in a URL. -/
def IsUrl (t : Text) : Prop :=
  StartsUrl t ∧ ∀ c ∈ t, isUrlChar c = true

/-- Whether the first two slashes in a row are the end of a text. -/
def EndsAtSlashes (t : Text) : Prop :=
  ∃ front : Text, t = front ++ "//".toList ∧ ¬ "//".toList <:+: front ++ ['/']

/-- A text is a URL as a whole if the URL that it starts with ends where it does. -/
theorem isUrl_iff_matchHere? {t : Text} : IsUrl t ↔ matchHere? t = some t.length := by
  have isPrefix : t.takeWhile isUrlChar <+: t := List.takeWhile_prefix _
  constructor
  · rintro ⟨starts, isUrl⟩
    rw [starts.matchHere?, List.takeWhile_eq_self_iff.mpr isUrl]
  · intro found
    obtain ⟨starts, length⟩ := startsUrl_of_matchHere? found
    exact ⟨starts, List.takeWhile_eq_self_iff.mp (isPrefix.eq_of_length length.symm)⟩

/-- Signs stand for themselves only. -/
theorem Agrees.eq_iff {l c d : Char} (agrees : Agrees l c) (sign : d.isAlpha = false)
    (notLong : d ≠ '\u017F') : c = d ↔ l = d := by
  obtain rfl | ⟨rfl, rfl⟩ := agrees
  · exact (Text.toLower_eq_iff c sign).symm
  · have other : 's' ≠ d := by
      rintro rfl
      cases sign
    exact iff_of_false notLong.symm other

theorem mem_iff_of_agree {p u : Text} {d : Char} (agree : List.Forall₂ Agrees p u)
    (sign : d.isAlpha = false) (notLong : d ≠ '\u017F') : d ∈ u ↔ d ∈ p := by
  induction agree with
  | nil => exact Iff.rfl
  | cons first _ ih =>
    rw [List.mem_cons, List.mem_cons, ih, eq_comm, first.eq_iff sign notLong, eq_comm]

section

-- Texts that are alike as far as slashes go: a text and one that is spelled like it, or a text
-- and its capitals.
variable {R : Char → Char → Prop} (slash : ∀ l c, R l c → (c = '/' ↔ l = '/')) {p u : Text}

include slash

theorem dropLead?_slashes_of_alike (alike : List.Forall₂ R p u) (slashes : Text)
    (areSlashes : ∀ d ∈ slashes, d = '/') :
    Option.Rel (List.Forall₂ R) (Text.dropLead? slashes p) (Text.dropLead? slashes u) := by
  induction slashes generalizing p u with
  | nil => exact .some alike
  | cons d ds ih =>
    obtain ⟨rfl, others⟩ := List.forall_mem_cons.mp areSlashes
    cases alike with
    | nil => exact .none
    | @cons l c ls cs first rest =>
      rw [Text.dropLead?, Text.dropLead?, if_congr (slash l c first) rfl rfl]
      split
      · exact ih rest others
      · exact .none

theorem afterSlashes?_of_alike (alike : List.Forall₂ R p u) :
    Option.Rel (List.Forall₂ R) (afterSlashes? p) (afterSlashes? u) := by
  induction alike with
  | nil => exact .none
  | @cons l c ls cs first others ih =>
    have here := dropLead?_slashes_of_alike slash (.cons first others) "//".toList (by simp)
    rw [afterSlashes?, afterSlashes?]
    revert here
    generalize Text.dropLead? _ (l :: ls) = x
    generalize Text.dropLead? _ (c :: cs) = y
    rintro (alike | _)
    · exact .some alike
    · exact ih

theorem afterSlashes?_eq_none_iff_of_alike (alike : List.Forall₂ R p u) :
    afterSlashes? u = none ↔ afterSlashes? p = none := by
  have same := afterSlashes?_of_alike slash alike
  generalize afterSlashes? p = x at same ⊢
  generalize afterSlashes? u = y at same ⊢
  cases same <;> simp

theorem afterSlashes?_eq_nil_iff_of_alike (alike : List.Forall₂ R p u) :
    afterSlashes? u = some [] ↔ afterSlashes? p = some [] := by
  have same := afterSlashes?_of_alike slash alike
  generalize afterSlashes? p = x at same ⊢
  generalize afterSlashes? u = y at same ⊢
  cases same with
  | none => simp
  | some alike =>
    rw [Option.some_inj, Option.some_inj, ← List.length_eq_zero_iff, ← List.length_eq_zero_iff,
      alike.length_eq]

end

theorem afterSlashes?_eq_some_iff {t host : Text} :
    afterSlashes? t = some host ↔
      ∃ front, t = front ++ ("//".toList ++ host) ∧ ¬ "//".toList <:+: front ++ ['/'] := by
  have upToSlash (front host : Text) : front ++ ['/'] <+: front ++ ("//".toList ++ host) :=
    ⟨'/' :: host, by simp⟩
  induction t with
  | nil => simp [afterSlashes?]
  | cons c cs ih =>
    rw [afterSlashes?]
    split
    case h_1 rest starts =>
      have whole := Text.eq_append_of_dropLead? starts
      rw [whole, Option.some_inj]
      constructor
      · rintro rfl
        exact ⟨[], rfl, fun isIn => absurd isIn.length_le (by decide)⟩
      · rintro ⟨front, same, first⟩
        cases front with
        | nil => exact List.append_cancel_left same
        | cons d ds =>
          have within := upToSlash (d :: ds) host
          rw [← same] at within
          have starts : "//".toList <+: (d :: ds) ++ ['/'] :=
            List.prefix_of_prefix_length_le (List.prefix_append _ rest) within (by simp)
          exact absurd starts.isInfix first
    case h_2 other =>
      have notHere : ¬ "//".toList <+: c :: cs := by
        rw [← Text.startsWith_iff, Text.startsWith, other]
        exact Bool.false_ne_true
      refine ih.trans ?_
      constructor
      · rintro ⟨front, rfl, first⟩
        refine ⟨c :: front, rfl, ?_⟩
        rw [List.cons_append, List.infix_cons_iff, not_or]
        refine ⟨fun starts => notHere (starts.trans ?_), first⟩
        exact upToSlash (c :: front) host
      · rintro ⟨front, whole, first⟩
        cases front with
        | nil => exact absurd ⟨host, whole.symm⟩ notHere
        | cons d ds =>
          exact ⟨ds, (List.cons.inj whole).2, fun isIn => first (List.infix_cons isIn)⟩

theorem afterSlashes?_eq_nil_iff (t : Text) : afterSlashes? t = some [] ↔ EndsAtSlashes t := by
  rw [afterSlashes?_eq_some_iff, List.append_nil]
  rfl

theorem isComplete_iff (url : Text) :
    isComplete url = true ↔ ¬ EndsAtSlashes url ∧ (afterSlashes? url = none → 4 < url.length) ∧
      ('.' ∈ url ∨ "mailto:".toList <+: url) := by
  rw [← afterSlashes?_eq_nil_iff, isComplete, ← Text.startsWith_iff]
  cases afterSlashes? url with
  | none => simp
  | some host => simp

/-- What is left of a lead is not complete. -/
theorem not_isComplete_of_agree {lead p u : Text} (isLead : lead ∈ leads) (isPrefix : p <+: lead)
    (agree : List.Forall₂ Agrees p u) (ends : ∀ c ∈ u.getLast?, isTrailing c = false) :
    ¬ isComplete u = true := by
  have undotted : ∀ lead ∈ leads, ∀ p ∈ lead.inits,
      afterSlashes? p ≠ some [] → (afterSlashes? p = none → 4 < p.length) → '.' ∉ p := by
    decide
  have ofAddress : ∀ lead ∈ leads, ∀ p ∈ lead.inits, p.head? = some 'm' → p.length ≤ 7 := by
    decide
  have slash (l c : Char) (agrees : Agrees l c) : c = '/' ↔ l = '/' :=
    agrees.eq_iff (by decide) (by decide)
  have isInit : p ∈ lead.inits := (List.mem_inits p lead).mpr isPrefix
  intro complete
  obtain ⟨notAtEnd, long, looks⟩ := (isComplete_iff u).mp complete
  rw [← afterSlashes?_eq_nil_iff] at notAtEnd
  have noDot : '.' ∉ p := by
    apply undotted lead isLead p isInit
    · exact fun atEnd => notAtEnd ((afterSlashes?_eq_nil_iff_of_alike slash agree).mpr atEnd)
    · rw [← afterSlashes?_eq_none_iff_of_alike slash agree, agree.length_eq]
      exact long
  obtain hasDot | ⟨rest, rfl⟩ := looks
  · exact noDot ((mem_iff_of_agree agree (by decide) (by decide)).mp hasDot)
  · have first : p.head? = some 'm' := by
      cases agree with
      | cons first _ =>
        have same : 'm' = _ := first.resolve_right (fun long => absurd long.2 (by decide))
        rw [List.head?_cons, ← same]
    have atMost := ofAddress lead isLead p isInit first
    have length : p.length = 7 + rest.length := agree.length_eq.trans List.length_append
    obtain rfl : rest = [] := List.length_eq_zero_iff.mp (by omega)
    exact absurd (ends ':' rfl) (by decide)

/-- What is left of a URL is one if it is complete. -/
theorem isUrl_of_isComplete {word : Text} (starts : StartsUrl word)
    (isUrl : ∀ c ∈ word, isUrlChar c = true) (complete : isComplete (trim word) = true) :
    IsUrl (trim word) := by
  have isPrefix := isPrefix_trim word
  have ends := not_isTrailing_of_mem_getLast?_trim word
  obtain @⟨lead, spelled, c, rest, isLead, agree, -⟩ := starts
  have lead := List.prefix_append spelled (c :: rest)
  by_cases longer : spelled.length < (trim (spelled ++ c :: rest)).length
  · obtain ⟨more, whole⟩ := List.prefix_of_prefix_length_le lead isPrefix (Nat.le_of_lt longer)
    rw [← whole] at isPrefix longer ⊢
    have within : ∀ d ∈ spelled ++ more, isUrlChar d = true :=
      fun d isIn => isUrl d (isPrefix.subset isIn)
    cases more with
    | nil => exact absurd longer (by simp)
    | cons d ds => exact ⟨⟨ds, isLead, agree, within d (by simp)⟩, within⟩
  · have within := List.prefix_of_prefix_length_le isPrefix lead (Nat.le_of_not_lt longer)
    have agree := List.forall₂_take (trim (spelled ++ c :: rest)).length agree
    rw [← List.prefix_iff_eq_take.mp within] at agree
    exact absurd complete (not_isComplete_of_agree isLead (List.take_prefix _ _) agree ends)

theorem StartsUrl.length_lt {t : Text} (h : StartsUrl t) : 4 < t.length := by
  have long : ∀ lead ∈ leads, 4 ≤ lead.length := by decide
  obtain ⟨rest, isLead, agree, -⟩ := h
  have leadLong := long _ isLead
  rw [List.length_append, List.length_cons, ← agree.length_eq]
  omega

/-- Which URLs that are found are complete: what is left of them is a URL, holds a dot or is an
address, and its first two slashes in a row are not its end. -/
theorem isComplete_trim_iff {word : Text} (starts : StartsUrl word)
    (isUrl : ∀ c ∈ word, isUrlChar c = true) :
    isComplete (trim word) = true ↔ IsUrl (trim word) ∧ ¬ EndsAtSlashes (trim word) ∧
      ('.' ∈ trim word ∨ "mailto:".toList <+: trim word) := by
  constructor
  · intro complete
    obtain ⟨notAtEnd, -, looks⟩ := (isComplete_iff _).mp complete
    exact ⟨isUrl_of_isComplete starts isUrl complete, notAtEnd, looks⟩
  · rintro ⟨isUrl, notAtEnd, looks⟩
    exact (isComplete_iff _).mpr ⟨notAtEnd, fun _ => isUrl.1.length_lt, looks⟩

end TelegramMarkdown.BareUrl
