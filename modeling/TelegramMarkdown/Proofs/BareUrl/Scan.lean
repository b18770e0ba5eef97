import Mathlib.Data.List.Forall2
import TelegramMarkdown.Proofs.BareUrl
import TelegramMarkdown.Proofs.Text.Case

/-!
How a text is searched for bare URLs, and that what is not a link stays one.

A URL that is found goes to the end of its word, the characters up to the next blank or angle
bracket (`BareUrl.StartsUrl.matchHere?`). So the search takes a text apart into characters that
no URL starts at and words that are URLs (`BareUrl.induction_urls`). The text between links is
searched with the same outcome when it stands alone: it ends where a URL starts, and what is
before its first word are characters that no URL starts with
(`BareUrl.linkify_literal_of_mem`).
-/

namespace TelegramMarkdown.BareUrl

/-! ### Characters of a URL -/

theorem isUrlChar_iff (c : Char) :
    isUrlChar c = true ↔ Text.isBlank c = false ∧ c.toNat ≠ 60 ∧ c.toNat ≠ 62 := by
  have lt : c = '<' ↔ c.toNat = 60 := ⟨fun h => by rw [h]; rfl, fun h => Char.toNat_inj.mp h⟩
  have gt : c = '>' ↔ c.toNat = 62 := ⟨fun h => by rw [h]; rfl, fun h => Char.toNat_inj.mp h⟩
  simp [isUrlChar, lt, gt, and_assoc]

theorem isUrlChar_of_isAlpha {c : Char} (h : c.isAlpha = true) : isUrlChar c = true := by
  have bounds := Text.isAlpha_iff_toNat.mp h
  rw [isUrlChar_iff]
  exact ⟨Text.not_isBlank_of_isAlpha h, by omega, by omega⟩

theorem isUrlChar_of_mem_leads : ∀ lead ∈ leads, ∀ l ∈ lead, isUrlChar l = true := by
  simp [leads, isUrlChar, Text.isBlank]

/-- The characters up to the next one that may not be in a URL. -/
theorem takeWhile_append_of_ends {url rest : Text} (isUrl : ∀ c ∈ url, isUrlChar c = true)
    (ends : ∀ c ∈ rest.head?, isUrlChar c = false) :
    (url ++ rest).takeWhile isUrlChar = url := by
  rw [List.takeWhile_append_of_pos isUrl]
  cases rest with
  | nil => simp
  | cons c cs => simp [ends c rfl]

/-! ### Where URLs start -/

/-- Whether a character stands for one of a lead, which has small letters. -/
def Agrees (l c : Char) : Prop :=
  c.toLower = l ∨ l = 's' ∧ c = '\u017F'

/-- Whether a URL starts a text: a lead in any letter case, and a character after it that
may be in a URL. -/
inductive StartsUrl : Text → Prop where
  | intro {lead spelled : Text} {c : Char} (rest : Text) :
    lead ∈ leads → List.Forall₂ Agrees lead spelled → isUrlChar c = true →
      StartsUrl (spelled ++ c :: rest)

theorem dropLead?_eq_some_iff {lead t rest : Text} :
    dropLead? lead t = some rest ↔
      ∃ spelled, List.Forall₂ Agrees lead spelled ∧ t = spelled ++ rest := by
  induction lead generalizing t with
  | nil =>
    simp only [dropLead?, List.forall₂_nil_left_iff, exists_eq_left, List.nil_append,
      Option.some.injEq, eq_comm]
  | cons l ls ih =>
    cases t with
    | nil =>
      simp only [dropLead?, reduceCtorEq, false_iff]
      rintro ⟨spelled, agree, whole⟩
      cases agree
      exact List.cons_ne_nil _ _ whole.symm
    | cons c cs =>
      have step : dropLead? (l :: ls) (c :: cs) = some rest ↔
          Agrees l c ∧ dropLead? ls cs = some rest := by
        rw [dropLead?]
        simp only [Agrees, Bool.or_eq_true, Bool.and_eq_true, decide_eq_true_eq]
        split <;> simp_all
      rw [step, ih]
      constructor
      · rintro ⟨first, spelled, agree, rfl⟩
        exact ⟨c :: spelled, .cons first agree, rfl⟩
      · rintro ⟨spelled, agree, whole⟩
        cases agree with
        | cons first agree =>
          obtain ⟨rfl, rfl⟩ := List.cons.inj whole
          exact ⟨first, _, agree, rfl⟩

theorem isUrlChar_of_agrees {lead spelled : Text} (isLead : lead ∈ leads)
    (agree : List.Forall₂ Agrees lead spelled) : ∀ c ∈ spelled, isUrlChar c = true := by
  have all := isUrlChar_of_mem_leads lead isLead
  clear isLead
  induction agree with
  | nil => exact List.forall_mem_nil _
  | cons first _ ih =>
    obtain ⟨isUrl, others⟩ := List.forall_mem_cons.mp all
    refine List.forall_mem_cons.mpr ⟨?_, ih others⟩
    obtain rfl | ⟨_, rfl⟩ := first
    · rwa [Text.toLower_congr _ isUrlChar fun _ => isUrlChar_of_isAlpha] at isUrl
    · decide

theorem StartsUrl.ne_nil {t : Text} (h : StartsUrl t) : t ≠ [] := by
  obtain ⟨rest, _, _, _⟩ := h
  exact List.append_ne_nil_of_right_ne_nil _ (List.cons_ne_nil _ _)

theorem StartsUrl.append {t : Text} (h : StartsUrl t) (more : Text) : StartsUrl (t ++ more) := by
  obtain ⟨rest, isLead, agree, isUrl⟩ := h
  rw [List.append_assoc, List.cons_append]
  exact ⟨rest ++ more, isLead, agree, isUrl⟩

/-- Whether a URL starts a text shows in its first word. -/
theorem StartsUrl.takeWhile {t : Text} (h : StartsUrl t) : StartsUrl (t.takeWhile isUrlChar) := by
  obtain ⟨rest, isLead, agree, isUrl⟩ := h
  rw [List.takeWhile_append_of_pos (isUrlChar_of_agrees isLead agree),
    List.takeWhile_cons_of_pos isUrl]
  exact ⟨_, isLead, agree, isUrl⟩

theorem StartsUrl.isAlpha {c : Char} {t : Text} (h : StartsUrl (c :: t)) : c.isAlpha = true := by
  have letters : ∀ lead ∈ leads, ∃ l ls, lead = l :: ls ∧ l.isAlpha = true ∧ l ≠ 's' := by
    simp [leads]
  generalize whole : c :: t = text at h
  obtain ⟨rest, isLead, agree, isUrl⟩ := h
  obtain ⟨l, ls, rfl, isAlpha, notS⟩ := letters _ isLead
  cases agree with
  | cons first _ =>
    obtain ⟨rfl, _⟩ := List.cons.inj whole
    obtain rfl | ⟨isS, _⟩ := first
    · rwa [Text.isAlpha_toLower] at isAlpha
    · exact absurd isS notS

theorem startsUrl_of_matchHere? {t : Text} {n : Nat} (found : matchHere? t = some n) :
    StartsUrl t ∧ n = (t.takeWhile isUrlChar).length := by
  rw [matchHere?] at found
  obtain ⟨lead, isLead, counted⟩ := List.exists_of_findSome?_eq_some found
  rw [Option.bind_eq_some_iff] at counted
  obtain ⟨rest, dropped, counted⟩ := counted
  obtain ⟨spelled, agree, rfl⟩ := dropLead?_eq_some_iff.mp dropped
  cases rest with
  | nil => cases counted
  | cons c cs =>
    cases isUrl : isUrlChar c with
    | false => simp [isUrl] at counted
    | true =>
      refine ⟨⟨cs, isLead, agree, isUrl⟩, ?_⟩
      rw [List.takeWhile_append_of_pos (isUrlChar_of_agrees isLead agree),
        List.takeWhile_cons_of_pos isUrl, List.length_append, ← agree.length_eq]
      simpa [isUrl] using counted.symm

/-- A URL goes to the end of the word that it starts. -/
theorem StartsUrl.matchHere? {t : Text} (h : StartsUrl t) :
    matchHere? t = some (t.takeWhile isUrlChar).length := by
  cases found : BareUrl.matchHere? t with
  | none =>
    obtain ⟨rest, isLead, agree, isUrl⟩ := h
    have none := List.findSome?_eq_none_iff.mp found _ isLead
    simp [dropLead?_eq_some_iff.mpr ⟨_, agree, rfl⟩, isUrl] at none
  | some n => rw [(startsUrl_of_matchHere? found).2]

theorem matchHere?_eq_none {t : Text} (h : ¬ StartsUrl t) : matchHere? t = none := by
  cases found : matchHere? t with
  | none => rfl
  | some n => exact absurd (startsUrl_of_matchHere? found).1 h

/-! ### Taking a text apart -/

/-- A text is empty, or no URL starts it, or it starts with a word that is a URL. -/
theorem induction_urls {motive : Option Char → Text → Prop}
    (nil : ∀ before, motive before [])
    (char : ∀ before c rest, ¬ StartsUrl (c :: rest) → motive (some c) rest →
      motive before (c :: rest))
    (url : ∀ before word rest, StartsUrl word → (∀ c ∈ word, isUrlChar c = true) →
      (∀ c ∈ rest.head?, isUrlChar c = false) → motive word.getLast? rest →
      motive before (word ++ rest)) (before : Option Char) (t : Text) : motive before t := by
  induction size : t.length using Nat.strong_induction_on generalizing before t with
  | _ size ih =>
    subst size
    by_cases starts : StartsUrl t
    · have word := starts.takeWhile
      have whole : t.takeWhile isUrlChar ++ t.dropWhile isUrlChar = t :=
        List.takeWhile_append_dropWhile
      have shorter : (t.dropWhile isUrlChar).length < t.length := by
        have size := congrArg List.length whole
        have notEmpty := List.length_pos_of_ne_nil word.ne_nil
        rw [List.length_append] at size
        omega
      have rest := ih _ shorter (t.takeWhile isUrlChar).getLast? _ rfl
      rw [← whole]
      exact url before _ _ word (fun c isIn => List.mem_takeWhile_imp isIn)
        (Text.not_of_mem_head?_dropWhile isUrlChar t) rest
    · cases t with
      | nil => exact nil before
      | cons c cs => exact char before c cs starts (ih _ (Nat.lt_succ_self _) (some c) cs rfl)

/-- A text is taken apart likewise where the steps are bounded. -/
theorem induction_steps {motive : Nat → Option Char → Text → Prop}
    (zero : ∀ before t, motive 0 before t) (nil : ∀ n before, motive n before [])
    (char : ∀ n before c rest, ¬ StartsUrl (c :: rest) → motive n (some c) rest →
      motive (n + 1) before (c :: rest))
    (url : ∀ n before word rest, StartsUrl word → (∀ c ∈ word, isUrlChar c = true) →
      (∀ c ∈ rest.head?, isUrlChar c = false) → motive n word.getLast? rest →
      motive (n + 1) before (word ++ rest)) (n : Nat) (before : Option Char) (t : Text) :
    motive n before t := by
  induction before, t using induction_urls generalizing n with
  | nil before => exact nil n before
  | char before c rest noUrl ih =>
    cases n with
    | zero => exact zero before _
    | succ n => exact char n before c rest noUrl (ih n)
  | url before word rest starts isUrl ends ih =>
    cases n with
    | zero => exact zero before _
    | succ n => exact url n before word rest starts isUrl ends (ih n)

section

variable (before : Option Char) (n : Nat)

theorem linkifyAfter_nil : linkifyAfter n before [] = [] := by
  cases n <;> rfl

theorem linkifyAfter_char {c : Char} {rest : Text} (h : ¬ StartsUrl (c :: rest)) :
    linkifyAfter (n + 1) before (c :: rest) = prepend [c] (linkifyAfter n (some c) rest) := by
  rw [linkifyAfter, matchHere?_eq_none h]

theorem linkifyAfter_url {word rest : Text} (starts : StartsUrl word)
    (isUrl : ∀ c ∈ word, isUrlChar c = true) (ends : ∀ c ∈ rest.head?, isUrlChar c = false) :
    linkifyAfter (n + 1) before (word ++ rest) =
      if mayFollow before && isComplete (trim word) then
        link (trim word) ::
          prepend (word.drop (trim word).length) (linkifyAfter n word.getLast? rest)
      else prepend word (linkifyAfter n word.getLast? rest) := by
  have found := (starts.append rest).matchHere?
  rw [takeWhile_append_of_ends isUrl ends] at found
  obtain ⟨c, cs, rfl⟩ := List.exists_cons_of_ne_nil starts.ne_nil
  rw [List.cons_append] at found ⊢
  rw [linkifyAfter, found]
  dsimp only
  rw [← List.cons_append, List.take_left, List.drop_left]

/-- What stands before a text makes no difference if no URL starts it. -/
theorem linkifyAfter_of_head (before' : Option Char) {t : Text}
    (h : ∀ c ∈ t.head?, isUrlChar c = false) :
    linkifyAfter n before t = linkifyAfter n before' t := by
  cases t with
  | nil => rw [linkifyAfter_nil, linkifyAfter_nil]
  | cons c cs =>
    have noUrl : ¬ StartsUrl (c :: cs) := by
      intro starts
      have isUrl := isUrlChar_of_isAlpha starts.isAlpha
      rw [h c rfl] at isUrl
      cases isUrl
    cases n with
    | zero => rfl
    | succ n => rw [linkifyAfter_char before n noUrl, linkifyAfter_char before' n noUrl]

end

/-! ### Text that stays text -/

theorem prepend_prepend (t u : Text) (rest : List Inline) :
    prepend t (prepend u rest) = prepend (t ++ u) rest := by
  cases rest with
  | nil => cases u <;> cases t <;> simp [prepend]
  | cons first rest => cases first <;> cases u <;> cases t <;> simp [prepend]

theorem prepend_nil_of_ne_nil {t : Text} (h : t ≠ []) : prepend t [] = [.literal t] := by
  simp [prepend, h]

theorem trimOnce_drops (url : Text) :
    ∃ dropped, trimOnce url ++ dropped = url ∧ ∀ c ∈ dropped, isTrailing c = true ∨ c = ')' := by
  have whole : url.rdropWhile isTrailing ++ url.rtakeWhile isTrailing = url :=
    List.rdropWhile_append_rtakeWhile
  have punctuation : ∀ c ∈ url.rtakeWhile isTrailing, isTrailing c = true ∨ c = ')' :=
    fun c isIn => .inl (List.mem_rtakeWhile_imp isIn)
  unfold trimOnce
  dsimp only
  split
  case isTrue closes =>
    rw [Bool.and_eq_true, decide_eq_true_eq] at closes
    have last := List.dropLast_append_getLast? ')' closes.1
    refine ⟨')' :: url.rtakeWhile isTrailing, ?_, List.forall_mem_cons.mpr ⟨.inr rfl, punctuation⟩⟩
    rw [← List.singleton_append, ← List.append_assoc, last]
    exact whole
  case isFalse => exact ⟨_, whole, punctuation⟩

theorem trimWithin_drops (n : Nat) (url : Text) :
    ∃ dropped, trimWithin n url ++ dropped = url ∧
      ∀ c ∈ dropped, isTrailing c = true ∨ c = ')' := by
  induction n generalizing url with
  | zero => exact ⟨[], List.append_nil url, List.forall_mem_nil _⟩
  | succ n ih =>
    unfold trimWithin
    dsimp only
    split
    · exact ⟨[], List.append_nil url, List.forall_mem_nil _⟩
    · obtain ⟨once, whole, first⟩ := trimOnce_drops url
      obtain ⟨more, whole', others⟩ := ih (trimOnce url)
      refine ⟨more ++ once, ?_, List.forall_mem_append.mpr ⟨others, first⟩⟩
      rw [← List.append_assoc, whole', whole]

/-- What is dropped at the end of a URL is punctuation and closing parentheses. -/
theorem isTrailing_of_mem_drop_trim (url : Text) :
    ∀ c ∈ url.drop (trim url).length, isTrailing c = true ∨ c = ')' := by
  obtain ⟨dropped, whole, drops⟩ := trimWithin_drops url.length url
  have same := whole.trans (trim_append_drop url).symm
  rwa [← List.append_cancel_left same]

theorem not_startsUrl_of_isTrailing {c : Char} (h : isTrailing c = true ∨ c = ')') (t : Text) :
    ¬ StartsUrl (c :: t) := by
  intro starts
  have isAlpha := starts.isAlpha
  simp only [isTrailing, List.contains_eq_mem, List.mem_cons, List.not_mem_nil, or_false,
    decide_eq_true_eq] at h
  obtain (rfl | rfl | rfl | rfl | rfl | rfl | rfl | rfl) | rfl := h <;> cases isAlpha

/-- Inlines made of a text: the text `front`, in which no URL is found when it stands alone,
and then, if anything, a link, with what is made of the rest. -/
structure Settled (before : Option Char) (t front : Text) (tail : List Inline) : Prop where
  isPrefix : front <+: t
  alone : ∀ n, front.length ≤ n → linkifyAfter n before front = prepend front []
  link : tail = [] ∨ ∃ label rest, tail = link label :: rest
  literals : ∀ u, Inline.literal u ∈ tail → linkify u = [.literal u]

namespace Settled

variable {before : Option Char} {t front : Text} {tail : List Inline}

theorem literal_of_mem_prepend (h : Settled before t front tail) (more : Text) {u : Text}
    (isIn : Inline.literal u ∈ prepend more tail) :
    more ≠ [] ∧ u = more ∨ linkify u = [.literal u] := by
  have noLiteral : prepend more tail = if more.isEmpty then tail else .literal more :: tail := by
    obtain rfl | ⟨label, rest, rfl⟩ := h.link <;> rfl
  rw [noLiteral] at isIn
  split at isIn
  case isTrue => exact .inr (h.literals u isIn)
  case isFalse notEmpty =>
    obtain same | isIn := List.mem_cons.mp isIn
    · exact .inl ⟨fun empty => notEmpty (List.isEmpty_iff.mpr empty), Inline.literal.inj same⟩
    · exact .inr (h.literals u isIn)

theorem head_of_head (h : Settled before t front tail) {p : Char → Prop}
    (head : ∀ c ∈ t.head?, p c) : ∀ c ∈ front.head?, p c := by
  obtain ⟨more, rfl⟩ := h.isPrefix
  cases front with
  | nil => exact nofun
  | cons c cs => exact head

/-- What is dropped at the end of a URL goes with the text after it, in which no URL is found
then either. -/
theorem alone_append (h : Settled before t front tail)
    (ends : ∀ c ∈ t.head?, isUrlChar c = false) {dropped : Text}
    (drops : ∀ c ∈ dropped, isTrailing c = true ∨ c = ')') (before' : Option Char) (n : Nat)
    (enough : (dropped ++ front).length ≤ n) :
    linkifyAfter n before' (dropped ++ front) = prepend (dropped ++ front) [] := by
  induction dropped generalizing before' n with
  | nil =>
    rw [List.nil_append, linkifyAfter_of_head before' n before (h.head_of_head ends)]
    exact h.alone n enough
  | cons c dropped ih =>
    obtain ⟨first, others⟩ := List.forall_mem_cons.mp drops
    obtain ⟨n, rfl⟩ : ∃ m, n = m + 1 := ⟨n - 1, by simp at enough; omega⟩
    rw [List.cons_append, linkifyAfter_char before' n (not_startsUrl_of_isTrailing first _),
      ih others (some c) n (Nat.le_of_succ_le_succ enough), prepend_prepend]
    rfl

end Settled

theorem settled_linkifyAfter (before : Option Char) (t : Text) :
    ∀ n, t.length ≤ n → ∃ front tail, linkifyAfter n before t = prepend front tail ∧
      Settled before t front tail := by
  induction before, t using induction_urls with
  | nil before =>
    intro n _
    refine ⟨[], [], linkifyAfter_nil before n, List.prefix_refl [], ?_, .inl rfl, nofun⟩
    exact fun n _ => linkifyAfter_nil before n
  | char before c rest noUrl ih =>
    intro n enough
    obtain ⟨n, rfl⟩ : ∃ m, n = m + 1 := ⟨n - 1, by simp at enough; omega⟩
    obtain ⟨front, tail, made, settled⟩ := ih n (Nat.le_of_succ_le_succ enough)
    refine ⟨c :: front, tail, ?_, ?_, ?_, settled.link, settled.literals⟩
    · rw [linkifyAfter_char before n noUrl, made, prepend_prepend]
      rfl
    · exact List.cons_prefix_cons.mpr ⟨rfl, settled.isPrefix⟩
    · intro m enough
      obtain ⟨m, rfl⟩ : ∃ p, m = p + 1 := ⟨m - 1, by simp at enough; omega⟩
      have noUrl : ¬ StartsUrl (c :: front) := by
        obtain ⟨more, whole⟩ := settled.isPrefix
        intro starts
        have longer := starts.append more
        rw [List.cons_append, whole] at longer
        exact noUrl longer
      rw [linkifyAfter_char before m noUrl, settled.alone m (Nat.le_of_succ_le_succ enough),
        prepend_prepend]
      rfl
  | url before word rest starts isUrl ends ih =>
    intro n enough
    have notEmpty := List.length_pos_of_ne_nil starts.ne_nil
    rw [List.length_append] at enough
    obtain ⟨n, rfl⟩ : ∃ m, n = m + 1 := ⟨n - 1, by omega⟩
    obtain ⟨front, tail, made, settled⟩ := ih n (by omega)
    rw [linkifyAfter_url before n starts isUrl ends, made, prepend_prepend, prepend_prepend]
    split
    case isTrue =>
      refine ⟨[], _, rfl, List.nil_prefix, ?_, .inr ⟨_, _, rfl⟩, ?_⟩
      · exact fun n _ => linkifyAfter_nil before n
      · intro u isIn
        obtain same | isIn := List.mem_cons.mp isIn
        · cases same
        · obtain ⟨notEmpty, rfl⟩ | stays := settled.literal_of_mem_prepend _ isIn
          · have alone := settled.alone_append ends (isTrailing_of_mem_drop_trim word) none _
              (Nat.le_refl _)
            exact alone.trans (prepend_nil_of_ne_nil notEmpty)
          · exact stays
    case isFalse noLink =>
      refine ⟨word ++ front, tail, rfl, ?_, ?_, settled.link, settled.literals⟩
      · exact (List.prefix_append_right_inj word).mpr settled.isPrefix
      · intro m enough
        rw [List.length_append] at enough
        obtain ⟨m, rfl⟩ : ∃ p, m = p + 1 := ⟨m - 1, by omega⟩
        rw [linkifyAfter_url before m starts isUrl (settled.head_of_head ends), if_neg noLink,
          settled.alone m (by omega), prepend_prepend]

/-- Where bare URLs are made links of, the text between them is left as it is: no URL is found
in it when it stands alone. -/
theorem linkify_literal_of_mem {t u : Text} (isIn : Inline.literal u ∈ linkify t) :
    linkify u = [.literal u] := by
  obtain ⟨front, tail, made, settled⟩ := settled_linkifyAfter none t t.length (Nat.le_refl _)
  rw [linkify, made] at isIn
  obtain ⟨notEmpty, rfl⟩ | stays := settled.literal_of_mem_prepend front isIn
  · exact (settled.alone u.length (Nat.le_refl _)).trans (prepend_nil_of_ne_nil notEmpty)
  · exact stays

end TelegramMarkdown.BareUrl
