import TelegramMarkdown.Text.Utf8

/-!
UTF-8, read and written.

Bytes are read as a text just if they are what the text is written as
(`Utf8.decode?_eq_some_iff`): nothing that is written is refused, and no other bytes are read.
-/

namespace TelegramMarkdown.Utf8

/-- The bytes that the number of a character is written as, by the bits that each of them
holds. No form is longer than needed, and surrogates have none. -/
inductive Form : (n : Nat) → Bytes → Prop where
  | one {n : Nat} : n < 0x80 → Form n [UInt8.ofNat n]
  | two {x y : Nat} : 2 ≤ x → x < 32 → y < 64 →
      Form (x * 64 + y) [UInt8.ofNat (0xC0 + x), UInt8.ofNat (0x80 + y)]
  | three {x y z : Nat} : x < 16 → y < 64 → z < 64 → 0x800 ≤ (x * 64 + y) * 64 + z →
      ((x * 64 + y) * 64 + z).isValidChar →
      Form ((x * 64 + y) * 64 + z)
        [UInt8.ofNat (0xE0 + x), UInt8.ofNat (0x80 + y), UInt8.ofNat (0x80 + z)]
  | four {x y z w : Nat} : y < 64 → z < 64 → w < 64 →
      0x10000 ≤ ((x * 64 + y) * 64 + z) * 64 + w → ((x * 64 + y) * 64 + z) * 64 + w < 0x110000 →
      Form (((x * 64 + y) * 64 + z) * 64 + w)
        [UInt8.ofNat (0xF0 + x), UInt8.ofNat (0x80 + y), UInt8.ofNat (0x80 + z),
          UInt8.ofNat (0x80 + w)]

theorem Form.isValidChar {n : Nat} {bytes : Bytes} (h : Form n bytes) : n.isValidChar := by
  cases h with
  | one small => exact .inl (by omega)
  | two => exact .inl (by omega)
  | three _ _ _ _ valid => exact valid
  | four => exact .inr (by omega)

theorem Form.ne_nil {n : Nat} {bytes : Bytes} (h : Form n bytes) : bytes ≠ [] := by
  cases h with
  | one | two | three | four => exact List.cons_ne_nil _ _

theorem tail?_eq_some_iff {b : UInt8} {y : Nat} :
    tail? b = some y ↔ y < 64 ∧ b = UInt8.ofNat (0x80 + y) := by
  rw [tail?]
  simp only [UInt8.le_iff_toNat_le, ← UInt8.toNat_inj, UInt8.toNat_ofNat', UInt8.reduceToNat]
  have byte := b.toNat_lt
  split
  · rw [Option.some_inj]
    omega
  · simp
    omega

/-! ### Characters -/

theorem encodeChar_of_form {n : Nat} {bytes : Bytes} (h : Form n bytes) :
    encodeChar (Char.ofNat n) = bytes := by
  have number : (Char.ofNat n).toNat = n := by
    rw [Char.ofNat, dif_pos h.isValidChar]
    rfl
  have powers : Nat.pow 64 0 = 1 ∧ Nat.pow 64 1 = 64 ∧ Nat.pow 64 2 = 4096 ∧
      Nat.pow 64 3 = 262144 := by decide
  rw [encodeChar, number]
  clear number
  dsimp only
  simp only [powers]
  cases h with
  | one small => rw [if_pos small]
  | @two x y =>
    rw [if_neg (by omega), if_pos (by omega)]
    congr 3 <;> omega
  | @three x y z =>
    rw [if_neg (by omega), if_neg (by omega), if_pos (by omega)]
    congr 4 <;> omega
  | @four x y z w =>
    rw [if_neg (by omega), if_neg (by omega), if_neg (by omega)]
    congr 5 <;> omega

theorem exists_form {n : Nat} (valid : n.isValidChar) : ∃ bytes, Form n bytes := by
  have digits (n : Nat) : n / 64 * 64 + n % 64 = n := Nat.div_add_mod' n 64
  have digit (n : Nat) : n % 64 < 64 := Nat.mod_lt n (by decide)
  by_cases one : n < 0x80
  · exact ⟨_, .one one⟩
  by_cases two : n < 0x800
  · rw [← digits n]
    exact ⟨_, .two (by omega) (by omega) (digit n)⟩
  by_cases three : n < 0x10000
  · rw [← digits n, ← digits (n / 64)]
    exact ⟨_, .three (by omega) (digit _) (digit _) (by omega) (by rwa [digits, digits])⟩
  · rw [← digits n, ← digits (n / 64), ← digits (n / 64 / 64)]
    exact ⟨_, .four (digit _) (digit _) (digit _) (by omega) (by omega)⟩

theorem form_encodeChar (c : Char) : Form c.toNat (encodeChar c) := by
  obtain ⟨bytes, form⟩ : ∃ bytes, Form c.toNat bytes := exists_form c.valid
  have written := encodeChar_of_form form
  rw [Char.ofNat_toNat] at written
  rwa [written]

theorem decode?_append_of_form {n : Nat} {bytes : Bytes} (h : Form n bytes) (rest : Bytes) :
    decode? (bytes ++ rest) = (decode? rest).map (Char.ofNat n :: ·) := by
  have byte {n : Nat} (small : n < 256) : (UInt8.ofNat n).toNat = n := by
    rw [UInt8.toNat_ofNat', Nat.mod_eq_of_lt small]
  have tail {y : Nat} (small : y < 64) : tail? (UInt8.ofNat (0x80 + y)) = some y :=
    tail?_eq_some_iff.mpr ⟨small, rfl⟩
  cases h with
  | one small =>
    have first := byte (n := n) (by omega)
    conv => lhs; unfold decode?
    simp only [List.cons_append, UInt8.lt_iff_toNat_lt, first, UInt8.reduceToNat]
    rw [if_pos small, List.nil_append]
  | @two x y _ _ hy =>
    have first := byte (n := 0xC0 + x) (by omega)
    rw [List.cons_append, List.singleton_append, decode?]
    simp only [UInt8.lt_iff_toNat_lt, UInt8.le_iff_toNat_le, first, UInt8.reduceToNat]
    rw [if_neg (by omega), if_pos (by omega), tail hy, Option.bind_some, Nat.add_sub_cancel_left]
  | @three x y z hx hy hz least valid =>
    have first := byte (n := 0xE0 + x) (by omega)
    have second := byte (n := 0x80 + y) (by omega)
    rw [List.cons_append, List.cons_append, List.singleton_append, decode?]
    simp only [UInt8.lt_iff_toNat_lt, UInt8.le_iff_toNat_le, ← UInt8.toNat_inj, first, second,
      UInt8.reduceToNat]
    rw [if_neg (by omega), if_neg (by omega), if_pos (by omega), if_neg (by omega), tail hy,
      Option.bind_some, tail hz, Option.bind_some, Nat.add_sub_cancel_left]
  | @four x y z w hy hz hw least greatest =>
    have first := byte (n := 0xF0 + x) (by omega)
    have second := byte (n := 0x80 + y) (by omega)
    rw [List.cons_append, List.cons_append, List.cons_append, List.singleton_append, decode?]
    simp only [UInt8.lt_iff_toNat_lt, UInt8.le_iff_toNat_le, ← UInt8.toNat_inj, first, second,
      UInt8.reduceToNat]
    rw [if_neg (by omega), if_neg (by omega), if_neg (by omega), if_pos (by omega),
      if_neg (by omega), tail hy, Option.bind_some, tail hz, Option.bind_some, tail hw,
      Option.bind_some, Nat.add_sub_cancel_left]

theorem exists_form_of_decode? {a : UInt8} {rest : Bytes} {t : Text}
    (h : decode? (a :: rest) = some t) :
    ∃ n bytes more u, Form n bytes ∧ a :: rest = bytes ++ more ∧ decode? more = some u ∧
      t = Char.ofNat n :: u := by
  have leading (k : Nat) (le : k ≤ a.toNat) : UInt8.ofNat (k + (a.toNat - k)) = a := by
    rw [Nat.add_sub_cancel' le, UInt8.ofNat_toNat]
  unfold decode? at h
  simp only [UInt8.lt_iff_toNat_lt, UInt8.le_iff_toNat_le, ← UInt8.toNat_inj,
    UInt8.reduceToNat] at h
  split at h
  case isTrue small =>
    obtain ⟨u, read, rfl⟩ := Option.map_eq_some_iff.mp h
    have form := Form.one small
    rw [UInt8.ofNat_toNat] at form
    exact ⟨_, _, rest, u, form, rfl, read, rfl⟩
  split at h
  case isTrue bounds =>
    split at h
    case h_2 => cases h
    case h_1 b more =>
      obtain ⟨y, second, h⟩ := Option.bind_eq_some_iff.mp h
      obtain ⟨u, read, rfl⟩ := Option.map_eq_some_iff.mp h
      obtain ⟨hy, rfl⟩ := tail?_eq_some_iff.mp second
      have form := @Form.two (a.toNat - 0xC0) y (by omega) (by omega) hy
      rw [leading 0xC0 (by omega)] at form
      exact ⟨_, _, more, u, form, rfl, read, rfl⟩
  split at h
  case isTrue bounds =>
    split at h
    case h_2 => cases h
    case h_1 b c more =>
      -- What is refused here is longer than needed or a surrogate, and has no form.
      split at h
      case isTrue => cases h
      case isFalse others =>
        obtain ⟨y, second, h⟩ := Option.bind_eq_some_iff.mp h
        obtain ⟨z, third, h⟩ := Option.bind_eq_some_iff.mp h
        obtain ⟨u, read, rfl⟩ := Option.map_eq_some_iff.mp h
        obtain ⟨hy, rfl⟩ := tail?_eq_some_iff.mp second
        obtain ⟨hz, rfl⟩ := tail?_eq_some_iff.mp third
        rw [UInt8.toNat_ofNat', Nat.mod_eq_of_lt (by omega)] at others
        have form := @Form.three (a.toNat - 0xE0) y z (by omega) hy hz (by omega) (by omega)
        rw [leading 0xE0 (by omega)] at form
        exact ⟨_, _, more, u, form, rfl, read, rfl⟩
  split at h
  case isTrue bounds =>
    split at h
    case h_2 => cases h
    case h_1 b c d more =>
      split at h
      case isTrue => cases h
      case isFalse others =>
        obtain ⟨y, second, h⟩ := Option.bind_eq_some_iff.mp h
        obtain ⟨z, third, h⟩ := Option.bind_eq_some_iff.mp h
        obtain ⟨w, fourth, h⟩ := Option.bind_eq_some_iff.mp h
        obtain ⟨u, read, rfl⟩ := Option.map_eq_some_iff.mp h
        obtain ⟨hy, rfl⟩ := tail?_eq_some_iff.mp second
        obtain ⟨hz, rfl⟩ := tail?_eq_some_iff.mp third
        obtain ⟨hw, rfl⟩ := tail?_eq_some_iff.mp fourth
        rw [UInt8.toNat_ofNat', Nat.mod_eq_of_lt (by omega)] at others
        have form := @Form.four (a.toNat - 0xF0) y z w hy hz hw (by omega) (by omega)
        rw [leading 0xF0 (by omega)] at form
        exact ⟨_, _, more, u, form, rfl, read, rfl⟩
  cases h

/-! ### Texts -/

theorem decode?_encode (t : Text) : decode? (encode t) = some t := by
  induction t with
  | nil => rfl
  | cons c cs ih =>
    have written : encode (c :: cs) = encodeChar c ++ encode cs := List.flatMap_cons
    rw [written, decode?_append_of_form (form_encodeChar c), ih, Char.ofNat_toNat]
    rfl

theorem encode_of_decode? {bytes : Bytes} {t : Text} (h : decode? bytes = some t) :
    encode t = bytes := by
  induction size : bytes.length using Nat.strongRecOn generalizing bytes t with
  | _ size ih =>
    subst size
    cases bytes with
    | nil =>
      rw [decode?, Option.some_inj] at h
      rw [← h]
      rfl
    | cons a rest =>
      obtain ⟨n, front, more, u, form, whole, read, rfl⟩ := exists_form_of_decode? h
      have shorter : more.length < (a :: rest).length := by
        rw [whole, List.length_append]
        have positive := List.length_pos_iff.mpr form.ne_nil
        omega
      have written : encode (Char.ofNat n :: u) = encodeChar (Char.ofNat n) ++ encode u :=
        List.flatMap_cons
      rw [written, encodeChar_of_form form, ih _ shorter read rfl, whole]

/-- Bytes are read as a text just if the text is written as them. -/
theorem decode?_eq_some_iff {bytes : Bytes} {t : Text} :
    decode? bytes = some t ↔ encode t = bytes := by
  constructor
  · exact encode_of_decode?
  · rintro rfl
    exact decode?_encode t

end TelegramMarkdown.Utf8
