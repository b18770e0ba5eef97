import TelegramMarkdown.Proofs.BareUrl.Labels

/-!
What trimming leaves of a URL.

A URL is clean when there is nothing to drop at its end. No round of trimming drops a part of a
clean prefix (`BareUrl.isPrefix_trimOnce_of_isClean`), and a URL that a round leaves as it is is
clean, so trimming ends at the longest clean prefix, whichever way it goes there
(`BareUrl.TrimsTo.isLongestClean`, `BareUrl.isLongestClean_dropUnclean`).

Whether a URL closes too much is a matter of numbers, so a parenthesis that closes another one
is dropped where enough others before them close nothing (`BareUrl.IsPair.dropped_iff`).
-/

namespace TelegramMarkdown.BareUrl

/-! ### Clean URLs -/

/-- The punctuation that a clean URL does not end with. -/
def punctuation : List Char :=
  ['.', ',', ':', ';', '!', '?', '"', '\'']

/-- Whether a URL does not end with punctuation, and not with a closing parenthesis either if it
holds more of them than opening ones. -/
structure IsClean (url : Text) : Prop where
  ends : ∀ c ∈ url.getLast?, c ∉ punctuation
  closes : url.getLast? = some ')' → url.count ')' ≤ url.count '('

/-- The longest prefix of a URL that is clean. -/
structure IsLongestClean (url label : Text) : Prop where
  isPrefix : label <+: url
  isClean : IsClean label
  longest : ∀ other, other <+: url → IsClean other → other.length ≤ label.length

instance (url : Text) : Decidable (IsClean url) :=
  haveI : Decidable (∀ c ∈ url.getLast?, c ∉ punctuation) := Option.decidableForallMem _
  decidable_of_iff ((∀ c ∈ url.getLast?, c ∉ punctuation) ∧
      (url.getLast? = some ')' → url.count ')' ≤ url.count '('))
    ⟨fun h => ⟨h.1, h.2⟩, fun h => ⟨h.ends, h.closes⟩⟩

theorem isTrailing_iff (c : Char) : isTrailing c = true ↔ c ∈ punctuation :=
  List.contains_iff_mem

theorem isClean_nil : IsClean [] := ⟨nofun, nofun⟩

/-- The last character of a URL that is not clean is in no clean prefix. -/
theorem IsClean.isPrefix_dropLast {other url : Text} (h : IsClean other) (isPrefix : other <+: url)
    (unclean : ¬ IsClean url) : other <+: url.dropLast := by
  obtain rfl | ⟨front, c, rfl⟩ := List.eq_nil_or_concat' url
  · exact absurd isClean_nil unclean
  · rw [List.dropLast_concat]
    obtain rfl | inFront := List.prefix_concat_iff.mp isPrefix
    · exact absurd h unclean
    · exact inFront

namespace IsLongestClean

theorem refl {url : Text} (h : IsClean url) : IsLongestClean url url :=
  ⟨List.prefix_refl url, h, fun _ isPrefix _ => isPrefix.length_le⟩

theorem unique {url label label' : Text} (h : IsLongestClean url label)
    (h' : IsLongestClean url label') : label = label' := by
  have le := h'.longest label h.isPrefix h.isClean
  have ge := h.longest label' h'.isPrefix h'.isClean
  exact (List.prefix_of_prefix_length_le h.isPrefix h'.isPrefix le).eq_of_length
    (Nat.le_antisymm le ge)

/-- Where what is dropped is no part of a clean prefix, the longest one stays the longest. -/
theorem of_dropped {url shorter label : Text} (h : IsLongestClean shorter label)
    (isPrefix : shorter <+: url)
    (keeps : ∀ other, other <+: url → IsClean other → other <+: shorter) :
    IsLongestClean url label :=
  ⟨h.isPrefix.trans isPrefix, h.isClean, fun other inUrl isClean =>
    h.longest other (keeps other inUrl isClean) isClean⟩

end IsLongestClean

/-! ### Rounds -/

theorem IsClean.isPrefix_dropEndWhile {other url : Text} (h : IsClean other)
    (isPrefix : other <+: url) : other <+: Text.dropEndWhile isTrailing url := by
  induction url using List.reverseRecOn with
  | nil => exact isPrefix
  | append_singleton front c ih =>
    cases dropped : isTrailing c with
    | false =>
      have kept : Text.dropEndWhile isTrailing (front ++ [c]) = front ++ [c] :=
        List.rdropWhile_concat_neg _ _ _ (by simp [dropped])
      rwa [kept]
    | true =>
      have shorter : Text.dropEndWhile isTrailing (front ++ [c]) =
          Text.dropEndWhile isTrailing front := List.rdropWhile_concat_pos _ _ _ dropped
      rw [shorter]
      obtain rfl | inFront := List.prefix_concat_iff.mp isPrefix
      · exact absurd ((isTrailing_iff c).mp dropped) (h.ends c (by simp))
      · exact ih inFront

/-- A round of trimming drops no part of a clean prefix. -/
theorem isPrefix_trimOnce_of_isClean {other url : Text} (isPrefix : other <+: url)
    (h : IsClean other) : other <+: trimOnce url := by
  have trimmed := h.isPrefix_dropEndWhile isPrefix
  unfold trimOnce
  dsimp only
  split
  case isTrue closes =>
    rw [Bool.and_eq_true, decide_eq_true_eq, decide_eq_true_eq] at closes
    obtain ⟨last, tooMany⟩ := closes
    exact h.isPrefix_dropLast trimmed fun isClean =>
      Nat.not_le_of_lt tooMany (isClean.closes last)
  case isFalse => exact trimmed

theorem trimOnce_of_closes {url : Text} (ends : ∀ c ∈ url.getLast?, isTrailing c = false)
    (last : url.getLast? = some ')') (tooMany : url.count '(' < url.count ')') :
    trimOnce url = url.dropLast := by
  have kept : Text.dropEndWhile isTrailing url = url := by
    refine List.rdropWhile_eq_self_iff.mpr fun ne => ?_
    rw [ends _ (List.getLast_mem_getLast? ne)]
    exact Bool.false_ne_true
  unfold trimOnce
  dsimp only
  rw [kept, last, if_pos (by simpa using tooMany)]

/-- A URL that a round leaves as it is is clean. -/
theorem isClean_of_trimOnce_eq {url : Text} (same : trimOnce url = url) : IsClean url := by
  have ends := not_isTrailing_of_mem_getLast?_trim url
  rw [trim_eq_self same] at ends
  constructor
  · intro c isLast
    rw [← isTrailing_iff, ends c isLast]
    exact Bool.false_ne_true
  · intro last
    by_contra tooMany
    have whole := List.dropLast_append_getLast? ')' last
    rw [← trimOnce_of_closes ends last (Nat.lt_of_not_le tooMany), same] at whole
    exact absurd (List.append_right_eq_self.mp whole) (List.cons_ne_nil _ _)

theorem TrimsTo.isLongestClean {url label : Text} (h : TrimsTo url label) :
    IsLongestClean url label := by
  induction h with
  | @settled url same =>
    exact .refl (isClean_of_trimOnce_eq ((isPrefix_trimOnce url).eq_of_length same))
  | @again url _ _ _ ih =>
    exact ih.of_dropped (isPrefix_trimOnce url) fun _ => isPrefix_trimOnce_of_isClean

theorem isLongestClean_trim (url : Text) : IsLongestClean url (trim url) :=
  (trimsTo_trim url).isLongestClean

theorem trimsTo_iff {url label : Text} : TrimsTo url label ↔ label = trim url := by
  constructor
  · intro trims
    exact trims.isLongestClean.unique (isLongestClean_trim url)
  · rintro rfl
    exact trimsTo_trim url

/-! ### One character at a time -/

/-- Drop the last character of a URL as long as it is not clean. -/
def dropUnclean (url : Text) : Text :=
  if IsClean url then url else dropUnclean url.dropLast
termination_by url.length
decreasing_by
  rename_i unclean
  have ne : url.length ≠ 0 := by
    intro empty
    rw [List.length_eq_zero_iff.mp empty] at unclean
    exact unclean isClean_nil
  rw [List.length_dropLast]
  omega

theorem isLongestClean_dropUnclean (url : Text) : IsLongestClean url (dropUnclean url) := by
  fun_induction dropUnclean url with
  | case1 url isClean => exact .refl isClean
  | case2 url unclean ih =>
    exact ih.of_dropped (List.dropLast_prefix url) fun _ isPrefix isClean =>
      isClean.isPrefix_dropLast isPrefix unclean

/-! ### Parentheses -/

/-- A text whose parentheses match. -/
inductive Balanced : Text → Prop where
  | nil : Balanced []
  | char {c : Char} {t : Text} : c ≠ '(' → c ≠ ')' → Balanced t → Balanced (c :: t)
  | pair {inside t : Text} : Balanced inside → Balanced t →
      Balanced ('(' :: (inside ++ ')' :: t))

theorem count_opening_pair (inside t : Text) :
    ('(' :: (inside ++ ')' :: t)).count '(' = inside.count '(' + t.count '(' + 1 := by
  simp

theorem count_closing_pair (inside t : Text) :
    ('(' :: (inside ++ ')' :: t)).count ')' = inside.count ')' + t.count ')' + 1 := by
  simp [Nat.add_assoc]

theorem Balanced.count_eq {t : Text} (h : Balanced t) : t.count '(' = t.count ')' := by
  induction h with
  | nil => rfl
  | char notOpen notClose _ ih =>
    rw [List.count_cons_of_ne notOpen, List.count_cons_of_ne notClose, ih]
  | pair _ _ inside rest => rw [count_opening_pair, count_closing_pair, inside, rest]

/-- An opening parenthesis of a URL behind `before`, and the one that closes it, with `behind`
after it. -/
structure IsPair (url before inside behind : Text) : Prop where
  whole : url = before ++ '(' :: (inside ++ ')' :: behind)
  balanced : Balanced inside

theorem length_trim_lt {upTo behind : Text} (dropped : ¬ upTo <+: trim (upTo ++ behind)) :
    (trim (upTo ++ behind)).length < upTo.length := by
  by_contra longer
  exact dropped (List.prefix_of_prefix_length_le (List.prefix_append upTo behind)
    (isPrefix_trim _) (Nat.le_of_not_lt longer))

/-- Where a closing parenthesis is one too many, nothing that ends behind it is clean as long as
only what may be dropped follows. -/
theorem not_isClean_append {t dropped : Text} (last : t.getLast? = some ')')
    (tooMany : t.count '(' < t.count ')') (drops : ∀ c ∈ dropped, c ∈ punctuation ∨ c = ')') :
    ¬ IsClean (t ++ dropped) := by
  intro isClean
  have noOpening : dropped.count '(' = 0 := by
    refine List.count_eq_zero.mpr fun isIn => ?_
    exact absurd (drops '(' isIn) (by decide)
  have closes : (t ++ dropped).getLast? = some ')' := by
    cases atEnd : dropped.getLast? with
    | none => rwa [List.getLast?_eq_none_iff.mp atEnd, List.append_nil]
    | some c =>
      have isLast : (t ++ dropped).getLast? = some c := by
        rw [List.getLast?_append, atEnd]
        rfl
      obtain ends | rfl := drops c (List.mem_of_getLast? atEnd)
      · exact absurd ends (isClean.ends c isLast)
      · exact isLast
  have fewer := isClean.closes closes
  rw [List.count_append, List.count_append, noOpening] at fewer
  omega

/-- A URL is cut somewhere before the end of a closing parenthesis just if more are closed than
opened up to there, and only what may be dropped follows. -/
theorem cut_before_closing_iff {upTo behind : Text} (last : upTo.getLast? = some ')') :
    ¬ upTo <+: trim (upTo ++ behind) ↔
      upTo.count '(' < upTo.count ')' ∧ ∀ c ∈ behind, c ∈ punctuation ∨ c = ')' := by
  have longest := isLongestClean_trim (upTo ++ behind)
  constructor
  · intro dropped
    have shorter := length_trim_lt dropped
    constructor
    · by_contra enough
      have isClean : IsClean upTo := by
        refine ⟨fun c isLast => ?_, fun _ => Nat.le_of_not_lt enough⟩
        obtain rfl : ')' = c := Option.some.inj (last.symm.trans isLast)
        decide
      have le := longest.longest upTo (List.prefix_append upTo behind) isClean
      exact Nat.not_le_of_lt shorter le
    · intro c isBehind
      have isDropped := isTrailing_of_mem_drop_trim (upTo ++ behind) c
      rw [List.drop_append_of_le_length (Nat.le_of_lt shorter), isTrailing_iff] at isDropped
      exact isDropped (List.mem_append_right _ isBehind)
  · rintro ⟨tooMany, drops⟩ ⟨kept, label⟩
    have isPrefix := longest.isPrefix
    rw [← label, List.prefix_append_right_inj] at isPrefix
    refine not_isClean_append last tooMany (fun c isIn => drops c (isPrefix.subset isIn)) ?_
    rw [label]
    exact longest.isClean

theorem opening_notMem_drop_trim (url : Text) : '(' ∉ url.drop (trim url).length := by
  intro isDropped
  exact absurd (isTrailing_of_mem_drop_trim url '(' isDropped) (by decide)

/-- Where a closing parenthesis is dropped, there are as many left as opening ones, or more. -/
theorem closed_of_dropped (url : Text) :
    (trim url).count ')' = url.count ')' ∨ (trim url).count '(' ≤ (trim url).count ')' := by
  obtain ⟨dropped, whole⟩ := isPrefix_trim url
  by_cases isDropped : ')' ∈ dropped
  · right
    obtain ⟨front, behind, rfl, notBefore⟩ := List.eq_append_cons_of_mem isDropped
    obtain ⟨upTo, shape⟩ : ∃ upTo, upTo = trim url ++ front ++ [')'] := ⟨_, rfl⟩
    have split : upTo ++ behind = url := by
      rw [shape, List.append_assoc, List.append_assoc, List.singleton_append]
      exact whole
    have last : upTo.getLast? = some ')' := by rw [shape, List.getLast?_concat]
    have cut : ¬ upTo <+: trim (upTo ++ behind) := by
      intro kept
      have le := kept.length_le
      rw [split, shape, List.length_append, List.length_append, List.length_singleton] at le
      omega
    have tooMany := ((cut_before_closing_iff last).mp cut).1
    have closing : upTo.count ')' = (trim url).count ')' + 1 := by
      rw [shape, List.count_append, List.count_append, List.count_eq_zero.mpr notBefore]
      rfl
    have opening : (trim url).count '(' ≤ upTo.count '(' := by
      rw [shape, List.append_assoc, List.count_append]
      exact Nat.le_add_right _ _
    omega
  · left
    conv_rhs => rw [← whole]
    rw [List.count_append, List.count_eq_zero.mpr isDropped, Nat.add_zero]

namespace IsPair

variable {url before inside behind : Text}

/-- What ends with an opening parenthesis is clean, so none is dropped. -/
theorem opening_kept (h : IsPair url before inside behind) : before ++ ['('] <+: trim url := by
  have isPrefix : before ++ ['('] <+: url := ⟨inside ++ ')' :: behind, by simp [h.whole]⟩
  have isClean : IsClean (before ++ ['(']) := by
    constructor
    · intro c isLast
      rw [List.getLast?_concat] at isLast
      cases isLast
      decide
    · intro last
      rw [List.getLast?_concat] at last
      cases last
  have longest := isLongestClean_trim url
  exact List.prefix_of_prefix_length_le isPrefix longest.isPrefix
    (longest.longest _ isPrefix isClean)

/-- A pair and what is in it opens as much as it closes, so it is what stands before the pair that
decides. -/
theorem dropped_iff (h : IsPair url before inside behind) :
    ¬ before ++ '(' :: (inside ++ [')']) <+: trim url ↔
      before.count '(' < before.count ')' ∧ ∀ c ∈ behind, c ∈ punctuation ∨ c = ')' := by
  obtain ⟨rfl, balanced⟩ := h
  have split : before ++ '(' :: (inside ++ ')' :: behind) =
      before ++ '(' :: (inside ++ [')']) ++ behind := by simp
  have last : (before ++ '(' :: (inside ++ [')'])).getLast? = some ')' := by
    rw [← List.cons_append, ← List.append_assoc, List.getLast?_concat]
  rw [split, cut_before_closing_iff last, List.count_append, List.count_append, count_opening_pair,
    count_closing_pair, balanced.count_eq]
  exact and_congr_left' Nat.add_lt_add_iff_right

end IsPair

/-! ### Trimming as a whole -/

/-- Trimming ends, at the longest clean prefix of a URL. Trimming that again changes nothing, and
dropping one character at a time leads there too. By their numbers, the opening parentheses that
are kept need none of the closing ones that are dropped. No opening parenthesis at all is dropped;
one that closes another is, just if what stands before the two closes more than it opens and
nothing but punctuation and closing parentheses comes behind. -/
theorem trim_longest_clean (url : Text) :
    (∀ label, TrimsTo url label ↔ label = trim url) ∧
      IsLongestClean url (trim url) ∧
      trim (trim url) = trim url ∧
      dropUnclean url = trim url ∧
      ((trim url).count ')' = url.count ')' ∨ (trim url).count '(' ≤ (trim url).count ')') ∧
      '(' ∉ url.drop (trim url).length ∧
      ∀ before inside behind, IsPair url before inside behind →
        before ++ ['('] <+: trim url ∧
          (¬ before ++ '(' :: (inside ++ [')']) <+: trim url ↔
            before.count '(' < before.count ')' ∧
              ∀ c ∈ behind, c ∈ punctuation ∨ c = ')') := by
  have longest := isLongestClean_trim url
  refine ⟨fun label => trimsTo_iff, longest, trim_trim url, ?_, closed_of_dropped url, ?_, ?_⟩
  · exact (isLongestClean_dropUnclean url).unique longest
  · exact opening_notMem_drop_trim url
  · intro before inside behind isPair
    exact ⟨isPair.opening_kept, isPair.dropped_iff⟩

/-- The parenthesis behind `b` closes the one before it. It is dropped with all that comes behind,
as the one before the two closes nothing. -/
theorem trim_longest_clean_pair :
    IsPair "www.a)(b)).".toList "www.a)".toList ['b'] [')', '.'] ∧
      "www.a)(".toList <+: trim "www.a)(b)).".toList ∧
      ¬ "www.a)(b)".toList <+: trim "www.a)(b)).".toList := by
  have isPair : IsPair "www.a)(b)).".toList "www.a)".toList ['b'] [')', '.'] :=
    ⟨by decide, .char (by decide) (by decide) .nil⟩
  have tooMany : "www.a)".toList.count '(' < "www.a)".toList.count ')' := by decide
  have drops : ∀ c ∈ [')', '.'], c ∈ punctuation ∨ c = ')' := by simp [punctuation]
  obtain ⟨-, -, -, -, -, -, pairs⟩ := trim_longest_clean "www.a)(b)).".toList
  obtain ⟨opening, closing⟩ := pairs _ _ _ isPair
  exact ⟨isPair, opening, closing.mpr ⟨tooMany, drops⟩⟩

/-- A parenthesis is dropped that closes one of what is kept. -/
theorem closing_parenthesis_dropped :
    trim "www.a.b)(c)".toList = "www.a.b)(c".toList ∧
      IsPair "www.a.b)(c)".toList "www.a.b)".toList ['c'] [] ∧
      "www.a.b)(".toList <+: trim "www.a.b)(c)".toList ∧
      ¬ "www.a.b)(c)".toList <+: trim "www.a.b)(c)".toList := by
  have trimmed : trim "www.a.b)(c)".toList = "www.a.b)(c".toList := by decide +kernel
  refine ⟨trimmed, ⟨by decide, .char (by decide) (by decide) .nil⟩, ?_, ?_⟩
  · rw [trimmed]
    decide
  · rw [trimmed]
    decide

end TelegramMarkdown.BareUrl
