import TelegramMarkdown.Proofs.Text

/-!
Letter case.

Case changes by 32, and only where a letter stands (`Text.toNat_toLower`, `Text.toNat_toUpper`).
So what is the same for all letters does not depend on letter case (`Text.toLower_congr`,
`Text.toUpper_congr`), and a character that is no letter is the same before and after
(`Text.toLower_eq_iff`, `Text.toUpper_eq_iff`).
-/

namespace TelegramMarkdown.Text

variable (c : Char)

theorem toNat_toLower :
    c.toLower.toNat = if 65 ≤ c.toNat ∧ c.toNat ≤ 90 then c.toNat + 32 else c.toNat := by
  have bounds : c.val ≥ 'A'.val ∧ c.val ≤ 'Z'.val ↔ 65 ≤ c.toNat ∧ c.toNat ≤ 90 :=
    and_congr UInt32.le_iff_toNat_le UInt32.le_iff_toNat_le
  by_cases upper : c.val ≥ 'A'.val ∧ c.val ≤ 'Z'.val
  · have changed : c.toLower = _ := dif_pos upper
    have small := bounds.mp upper
    rw [if_pos small, changed, ← Char.toNat_val, UInt32.toNat_add]
    simp
    omega
  · have same : c.toLower = c := dif_neg upper
    rw [same, if_neg fun small => upper (bounds.mpr small)]

theorem toNat_toUpper :
    c.toUpper.toNat = if 97 ≤ c.toNat ∧ c.toNat ≤ 122 then c.toNat - 32 else c.toNat := by
  have bounds : 'a'.val ≤ c.val ∧ c.val ≤ 'z'.val ↔ 97 ≤ c.toNat ∧ c.toNat ≤ 122 :=
    and_congr UInt32.le_iff_toNat_le UInt32.le_iff_toNat_le
  by_cases lower : 'a'.val ≤ c.val ∧ c.val ≤ 'z'.val
  · have changed : c.toUpper = _ := dif_pos lower
    have small := bounds.mp lower
    rw [if_pos small, changed, ← Char.toNat_val, UInt32.toNat_add]
    simp
    omega
  · have same : c.toUpper = c := dif_neg lower
    rw [same, if_neg fun small => lower (bounds.mpr small)]

theorem isAlpha_toLower : c.toLower.isAlpha = c.isAlpha := by
  rw [Bool.eq_iff_iff, isAlpha_iff_toNat, isAlpha_iff_toNat, toNat_toLower]
  split <;> omega

theorem isAlpha_toUpper : c.toUpper.isAlpha = c.isAlpha := by
  rw [Bool.eq_iff_iff, isAlpha_iff_toNat, isAlpha_iff_toNat, toNat_toUpper]
  split <;> omega

theorem toLower_toUpper : c.toUpper.toLower = c.toLower := by
  rw [← Char.toNat_inj, toNat_toLower, toNat_toLower, toNat_toUpper]
  by_cases lower : 97 ≤ c.toNat ∧ c.toNat ≤ 122
  · rw [if_pos lower, if_pos (by omega), if_neg (by omega)]
    omega
  · rw [if_neg lower]

theorem toLower_eq_or_isAlpha : c.toLower = c ∨ c.isAlpha = true := by
  rw [← Char.toNat_inj, isAlpha_iff_toNat, toNat_toLower]
  split <;> omega

theorem toUpper_eq_or_isAlpha : c.toUpper = c ∨ c.isAlpha = true := by
  rw [← Char.toNat_inj, isAlpha_iff_toNat, toNat_toUpper]
  split <;> omega

/-- What is the same for all letters does not depend on letter case. -/
theorem toLower_congr {α : Type} (f : Char → α) {a : α}
    (letters : ∀ d : Char, d.isAlpha = true → f d = a) : f c.toLower = f c := by
  obtain same | isAlpha := toLower_eq_or_isAlpha c
  · rw [same]
  · rw [letters c isAlpha, letters c.toLower ((isAlpha_toLower c).trans isAlpha)]

/-- The same for capitals. -/
theorem toUpper_congr {α : Type} (f : Char → α) {a : α}
    (letters : ∀ d : Char, d.isAlpha = true → f d = a) : f c.toUpper = f c := by
  obtain same | isAlpha := toUpper_eq_or_isAlpha c
  · rw [same]
  · rw [letters c isAlpha, letters c.toUpper ((isAlpha_toUpper c).trans isAlpha)]

theorem toLower_eq_iff {d : Char} (sign : d.isAlpha = false) : c.toLower = d ↔ c = d :=
  iff_of_eq (toLower_congr c (· = d) fun _ isAlpha => eq_false (ne_of_isAlpha isAlpha sign))

theorem toUpper_eq_iff {d : Char} (sign : d.isAlpha = false) : c.toUpper = d ↔ c = d :=
  iff_of_eq (toUpper_congr c (· = d) fun _ isAlpha => eq_false (ne_of_isAlpha isAlpha sign))

theorem isBlank_toUpper : isBlank c.toUpper = isBlank c :=
  toUpper_congr c isBlank fun _ => not_isBlank_of_isAlpha

theorem utf8Size_toUpper : c.toUpper.utf8Size = c.utf8Size := by
  refine toUpper_congr c Char.utf8Size (a := 1) fun d isAlpha => ?_
  have bounds := isAlpha_iff_toNat.mp isAlpha
  rw [Char.utf8Size_eq_one_iff, UInt32.le_iff_toNat_le]
  change d.toNat ≤ 127
  omega

end TelegramMarkdown.Text
