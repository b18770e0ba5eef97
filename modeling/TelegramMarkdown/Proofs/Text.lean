import Mathlib.Data.List.DropRight
import TelegramMarkdown.Text

/-!
The operations on texts, by equations: letters, prefixes, cutting at characters, and what
trimming takes away.
-/

namespace TelegramMarkdown.Text

/-! ### Letters -/

theorem isUpper_iff_toNat {c : Char} : c.isUpper = true ↔ 65 ≤ c.toNat ∧ c.toNat ≤ 90 :=
  decide_eq_true_iff.trans (and_congr UInt32.le_iff_toNat_le UInt32.le_iff_toNat_le)

theorem isLower_iff_toNat {c : Char} : c.isLower = true ↔ 97 ≤ c.toNat ∧ c.toNat ≤ 122 :=
  Bool.and_eq_true_iff.trans (and_congr (decide_eq_true_iff.trans UInt32.le_iff_toNat_le)
    (decide_eq_true_iff.trans UInt32.le_iff_toNat_le))

theorem isAlpha_iff_toNat {c : Char} :
    c.isAlpha = true ↔ (65 ≤ c.toNat ∧ c.toNat ≤ 90) ∨ (97 ≤ c.toNat ∧ c.toNat ≤ 122) :=
  Bool.or_eq_true_iff.trans (or_congr isUpper_iff_toNat isLower_iff_toNat)

theorem not_isBlank_of_isAlpha {c : Char} (h : c.isAlpha = true) : isBlank c = false := by
  have bounds := isAlpha_iff_toNat.mp h
  simp [isBlank]
  omega

theorem ne_of_isAlpha {c d : Char} (isAlpha : c.isAlpha = true) (sign : d.isAlpha = false) :
    c ≠ d := by
  rintro rfl
  rw [isAlpha] at sign
  cases sign

/-! ### Prefixes -/

@[simp] theorem dropLead?_append (lead t : Text) : dropLead? lead (lead ++ t) = some t := by
  induction lead with
  | nil => rfl
  | cons l ls ih => simp [dropLead?, ih]

@[simp] theorem startsWith_append (lead t : Text) : startsWith (lead ++ t) lead = true := by
  simp [startsWith]

/-- A text with another first character than `l` does not start with `l`. -/
theorem startsWith_eq_false {t : Text} {l : Char} (h : ∀ u, t ≠ l :: u) (lead : Text) :
    startsWith t (l :: lead) = false := by
  cases t with
  | nil => rfl
  | cons c cs =>
    have hc : c ≠ l := fun e => h cs (by rw [e])
    simp [startsWith, dropLead?, hc]

theorem eq_append_of_dropLead? {lead t rest : Text} (h : dropLead? lead t = some rest) :
    t = lead ++ rest := by
  induction lead generalizing t with
  | nil =>
    rw [dropLead?] at h
    exact Option.some.inj h
  | cons l ls ih =>
    cases t with
    | nil => cases h
    | cons c cs =>
      rw [dropLead?] at h
      split at h
      case isTrue same => rw [same, ih h, List.cons_append]
      case isFalse => cases h

theorem eq_append_of_startsWith {t lead : Text} (h : startsWith t lead = true) :
    ∃ rest, t = lead ++ rest := by
  obtain ⟨rest, dropped⟩ := Option.isSome_iff_exists.mp h
  exact ⟨rest, eq_append_of_dropLead? dropped⟩

theorem startsWith_iff {t lead : Text} : startsWith t lead = true ↔ lead <+: t := by
  constructor
  · intro starts
    obtain ⟨rest, rfl⟩ := eq_append_of_startsWith starts
    exact List.prefix_append lead rest
  · rintro ⟨rest, rfl⟩
    exact startsWith_append lead rest

/-- Whether a text starts with `lead` shows in as many characters as `lead` has. -/
theorem startsWith_append_of_le {t lead : Text} (h : lead.length ≤ t.length) (more : Text) :
    startsWith (t ++ more) lead = startsWith t lead := by
  induction lead generalizing t with
  | nil => rfl
  | cons l ls ih =>
    cases t with
    | nil => exact absurd h (by simp)
    | cons c cs =>
      have shorter := ih (Nat.le_of_succ_le_succ h)
      simp only [startsWith, List.cons_append, dropLead?] at shorter ⊢
      split
      case isTrue => exact shorter
      case isFalse => rfl

/-! ### Cutting -/

theorem splitAt_ne_nil (p : Char → Bool) (t : Text) : splitAt p t ≠ [] := by
  cases t with
  | nil => simp [splitAt]
  | cons c cs =>
    rw [splitAt]
    split
    · simp
    · split <;> simp

theorem splitAt_cons_of_cut {p : Char → Bool} {c : Char} (h : p c = true) (t : Text) :
    splitAt p (c :: t) = [] :: splitAt p t := by
  rw [splitAt, if_pos h]

theorem splitAt_cons_of_not_cut {p : Char → Bool} {c : Char} (h : p c = false) {t piece : Text}
    {pieces : List Text} (ht : splitAt p t = piece :: pieces) :
    splitAt p (c :: t) = (c :: piece) :: pieces := by
  rw [splitAt, if_neg (by simp [h]), ht]

theorem not_of_mem_splitAt {p : Char → Bool} {t piece : Text} (h : piece ∈ splitAt p t) :
    ∀ c ∈ piece, p c = false := by
  induction t generalizing piece with
  | nil =>
    rw [splitAt, List.mem_singleton] at h
    rw [h]
    exact List.forall_mem_nil _
  | cons c cs ih =>
    cases cut : p c with
    | true =>
      rw [splitAt_cons_of_cut cut] at h
      obtain rfl | isPiece := List.mem_cons.mp h
      · exact List.forall_mem_nil _
      · exact ih isPiece
    | false =>
      obtain ⟨first, others, found⟩ := List.exists_cons_of_ne_nil (splitAt_ne_nil p cs)
      rw [splitAt_cons_of_not_cut cut found] at h
      obtain rfl | isPiece := List.mem_cons.mp h
      · exact List.forall_mem_cons.mpr ⟨cut, ih (found ▸ List.mem_cons_self)⟩
      · exact ih (found ▸ List.mem_cons_of_mem first isPiece)

/-- What stands before the first cut is the first piece. -/
theorem splitAt_append_cut {p : Char → Bool} {piece : Text} {c : Char}
    (whole : ∀ d ∈ piece, p d = false) (cut : p c = true) (t : Text) :
    splitAt p (piece ++ c :: t) = piece :: splitAt p t := by
  induction piece with
  | nil => exact splitAt_cons_of_cut cut t
  | cons d ds ih =>
    obtain ⟨hd, hds⟩ := List.forall_mem_cons.mp whole
    exact splitAt_cons_of_not_cut hd (ih hds)

/-! ### Lines -/

/-- Where no carriage return stands before a line feed, lines are the pieces between line
feeds. -/
theorem map_dropReturn {ls : List Text} (noReturn : ∀ line ∈ ls, line.getLast? ≠ some '\r') :
    ls.map (fun line => if line.getLast? = some '\r' then line.dropLast else line) = ls := by
  conv_rhs => rw [← List.map_id ls]
  apply List.map_congr_left
  intro line isLine
  exact if_neg (noReturn line isLine)

/-- A text that is written line by line has the lines that were written. -/
theorem lines_flatMap {ls : List Text} (noEnd : ∀ line ∈ ls, '\n' ∉ line)
    (noReturn : ∀ line ∈ ls, line.getLast? ≠ some '\r') :
    lines (ls.flatMap (· ++ ['\n'])) = ls := by
  have pieces : splitAt (· = '\n') (ls.flatMap (· ++ ['\n'])) = ls ++ [[]] := by
    clear noReturn
    induction ls with
    | nil => rfl
    | cons line others ih =>
      obtain ⟨inLine, inOthers⟩ := List.forall_mem_cons.mp noEnd
      have whole : ∀ d ∈ line, decide (d = '\n') = false := by
        intro d isIn
        exact decide_eq_false fun ends => inLine (ends ▸ isIn)
      rw [List.flatMap_cons, List.append_assoc, List.singleton_append,
        splitAt_append_cut whole (by decide), ih inOthers, List.cons_append]
  rw [lines, pieces, List.reverse_append]
  simp [map_dropReturn noReturn]

/-! ### Numbers -/

theorem isDigit_of_mem_ofNat {n : Nat} {c : Char} (h : c ∈ ofNat n) : c.isDigit = true :=
  Nat.isDigit_of_mem_toDigits (by decide) (by decide) h

theorem ne_of_mem_ofNat {n : Nat} {c d : Char} (h : c ∈ ofNat n) (other : d.isDigit = false) :
    c ≠ d := by
  rintro rfl
  rw [isDigit_of_mem_ofNat h] at other
  exact Bool.false_ne_true other.symm

/-! ### Trimming -/

theorem trimEnd_eq_rdropWhile (t : Text) : trimEnd t = t.rdropWhile isBlank := rfl

theorem trimStart_eq_dropWhile (t : Text) : trimStart t = t.dropWhile isBlank := rfl

theorem trimEnd_eq_self {t : Text} (h : ∀ c ∈ t.getLast?, isBlank c = false) : trimEnd t = t := by
  rw [trimEnd_eq_rdropWhile, List.rdropWhile_eq_self_iff]
  intro ne
  rw [h _ (List.getLast_mem_getLast? ne)]
  exact Bool.false_ne_true

theorem not_of_mem_head?_dropWhile (p : Char → Bool) (t : Text) :
    ∀ c ∈ (t.dropWhile p).head?, p c = false := by
  intro c isFirst
  have first := List.head?_dropWhile_not p t
  rw [Option.mem_def.mp isFirst] at first
  exact first

theorem not_of_mem_getLast?_dropEndWhile (p : Char → Bool) (t : Text) :
    ∀ c ∈ (dropEndWhile p t).getLast?, p c = false := by
  rw [dropEndWhile, List.getLast?_reverse]
  exact not_of_mem_head?_dropWhile p t.reverse

end TelegramMarkdown.Text
