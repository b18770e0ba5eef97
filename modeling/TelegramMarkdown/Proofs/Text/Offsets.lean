import TelegramMarkdown.Proofs.Text
import TelegramMarkdown.Markdown.Cursor
import TelegramMarkdown.Text.Utf8

/-!
Texts by the offsets of their bytes in UTF-8.

An offset need not be one of a character. Cutting at an offset fails inside of a
character and beyond the end (`Text.cut?`), so what is shown not to fail keeps to the
boundaries. Spans of bytes are related to spans of characters by the number of
characters that start before an offset (`Text.charsBefore`).
-/

namespace TelegramMarkdown

namespace Utf8

theorem length_encodeChar (c : Char) : (encodeChar c).length = c.utf8Size := by
  have number : c.val.toNat = c.toNat := rfl
  simp only [encodeChar, Char.utf8Size, UInt32.le_iff_toNat_le, UInt32.toNat_ofNatLT, number]
  by_cases one : c.toNat < 0x80
  · rw [if_pos one, if_pos (Nat.le_of_lt_succ one)]
    rfl
  rw [if_neg one, if_neg (Nat.not_le.mpr (Nat.le_of_not_lt one))]
  by_cases two : c.toNat < 0x800
  · rw [if_pos two, if_pos (Nat.le_of_lt_succ two)]
    rfl
  rw [if_neg two, if_neg (Nat.not_le.mpr (Nat.le_of_not_lt two))]
  by_cases three : c.toNat < 0x10000
  · rw [if_pos three, if_pos (Nat.le_of_lt_succ three)]
    rfl
  rw [if_neg three, if_neg (Nat.not_le.mpr (Nat.le_of_not_lt three))]
  rfl

end Utf8

namespace Text

/-! ### Sizes -/

/-- The number of bytes of a text. -/
def size : Text → Nat
  | [] => 0
  | c :: cs => c.utf8Size + size cs

/-- The size of a text is the number of bytes that it is written as. -/
theorem size_eq_length_encode (t : Text) : size t = (Utf8.encode t).length := by
  induction t with
  | nil => rfl
  | cons c cs ih =>
    rw [size, ih, ← Utf8.length_encodeChar]
    simp [Utf8.encode]

theorem size_append (a b : Text) : size (a ++ b) = size a + size b := by
  induction a with
  | nil => simp [size]
  | cons c cs ih => simp [size, ih, Nat.add_assoc]

/-! ### Slices -/

/-- The text before an offset and from it on, if a character starts there or the text
ends there. -/
def cut? : Text → (offset : Nat) → Option (Text × Text)
  | t, 0 => some ([], t)
  | [], _ + 1 => none
  | c :: cs, offset + 1 =>
    if c.utf8Size ≤ offset + 1 then
      (cut? cs (offset + 1 - c.utf8Size)).map fun (before, rest) => (c :: before, rest)
    else none

/-- The text between two offsets, if they are in order and both on boundaries. -/
def slice? (t : Text) (start stop : Nat) : Option Text :=
  if start ≤ stop then
    (cut? t start).bind fun (_, rest) => (cut? rest (stop - start)).map (·.1)
  else none

theorem cut?_size (a b : Text) : cut? (a ++ b) (size a) = some (a, b) := by
  induction a with
  | nil => cases b <;> rfl
  | cons c cs ih =>
    obtain ⟨n, hn⟩ : ∃ n, size (c :: cs) = n + 1 :=
      Nat.exists_eq_succ_of_ne_zero (by have := c.utf8Size_pos; rw [size]; omega)
    have fits : c.utf8Size ≤ n + 1 := by rw [← hn, size]; omega
    have left : n + 1 - c.utf8Size = size cs := by rw [← hn, size]; omega
    rw [hn, List.cons_append, cut?, if_pos fits, left, ih]
    rfl

/-- What is cut out between two boundaries. -/
theorem slice?_append (a b c : Text) :
    slice? (a ++ b ++ c) (size a) (size (a ++ b)) = some b := by
  have between : size (a ++ b) - size a = size b := by rw [size_append]; omega
  rw [slice?, if_pos (by rw [size_append]; omega), List.append_assoc, cut?_size, between]
  simp [cut?_size]

theorem slice?_rest (a b : Text) : slice? (a ++ b) (size a) (size (a ++ b)) = some b := by
  have all := slice?_append a b []
  rwa [List.append_nil] at all

theorem slice?_before (a b : Text) : slice? (a ++ b) 0 (size a) = some a :=
  slice?_append [] a b

/-! ### Searching -/

/-- The offset of the first occurrence of a text. -/
def find? (inner : Text) : Text → Option Nat
  | [] => if inner.isEmpty then some 0 else none
  | c :: cs =>
    if startsWith (c :: cs) inner then some 0
    else (find? inner cs).map (c.utf8Size + ·)

/-- Whether no occurrence of `inner` starts in the text, when `rest` follows it. -/
def Lacks (inner rest : Text) : Text → Prop
  | [] => True
  | c :: cs => startsWith (c :: (cs ++ rest)) inner = false ∧ Lacks inner rest cs

theorem lacks_of_find?_eq_none {inner t : Text} (h : find? inner t = none) :
    Lacks inner [] t := by
  induction t with
  | nil => trivial
  | cons c cs ih =>
    rw [find?] at h
    split at h
    case isTrue => cases h
    case isFalse absent =>
      rw [Option.map_eq_none_iff] at h
      refine ⟨?_, ih h⟩
      rw [List.append_nil]
      exact (Bool.not_eq_true _).mp absent

/-- The first occurrence stands where it was found, and none starts before it. -/
theorem exists_of_find?_eq_some {inner t : Text} {offset : Nat} (h : find? inner t = some offset) :
    ∃ before rest, t = before ++ (inner ++ rest) ∧ offset = size before ∧
      Lacks inner (inner ++ rest) before := by
  induction t generalizing offset with
  | nil =>
    rw [find?] at h
    split at h
    case isTrue isEmpty =>
      cases h
      rw [List.isEmpty_iff] at isEmpty
      subst isEmpty
      exact ⟨[], [], rfl, rfl, trivial⟩
    case isFalse => cases h
  | cons c cs ih =>
    rw [find?] at h
    split at h
    case isTrue starts =>
      cases h
      obtain ⟨rest, same⟩ := eq_append_of_startsWith starts
      exact ⟨[], rest, same, rfl, trivial⟩
    case isFalse absent =>
      obtain ⟨inCs, found, rfl⟩ := Option.map_eq_some_iff.mp h
      obtain ⟨before, rest, rfl, rfl, lacks⟩ := ih found
      refine ⟨c :: before, rest, rfl, rfl, ?_, lacks⟩
      exact (Bool.not_eq_true _).mp absent

/-- No occurrence appears where more text follows, if what followed already was long
enough. -/
theorem Lacks.append {inner rest t : Text} (long : inner.length ≤ rest.length + 1) (more : Text)
    (h : Lacks inner rest t) : Lacks inner (rest ++ more) t := by
  induction t with
  | nil => trivial
  | cons c cs ih =>
    refine ⟨?_, ih h.2⟩
    rw [← List.append_assoc, ← List.cons_append, startsWith_append_of_le (by simp; omega)]
    exact h.1

/-- The first of a character stands after all that are not that character. -/
theorem find?_singleton (c : Char) (t : Text) :
    find? [c] t = if c ∈ t then some (size (t.takeWhile (· ≠ c))) else none := by
  induction t with
  | nil => rfl
  | cons d ds ih =>
    by_cases same : d = c
    · subst same
      simp [find?, startsWith, dropLead?, size]
    · have other : c ≠ d := Ne.symm same
      by_cases inRest : c ∈ ds <;>
        simp [find?, startsWith, dropLead?, size, same, other, ih, inRest]

/-! ### Spans of bytes and of characters -/

/-- The number of characters that start before an offset. -/
def charsBefore : Text → (offset : Nat) → Nat
  | _, 0 => 0
  | [], _ => 0
  | c :: cs, offset => charsBefore cs (offset - c.utf8Size) + 1

/-- The characters that start in a span of bytes. -/
def charSpan (t : Text) (bytes : Markdown.Span) : Markdown.Span :=
  ⟨charsBefore t bytes.start, charsBefore t bytes.stop⟩

theorem charsBefore_le_iff (a : Text) (c : Char) (b : Text) (offset : Nat) :
    charsBefore (a ++ c :: b) offset ≤ a.length ↔ offset ≤ size a := by
  induction a generalizing offset with
  | nil => cases offset <;> simp [charsBefore, size]
  | cons d ds ih =>
    cases offset with
    | zero => simp [charsBefore]
    | succ n =>
      rw [List.cons_append, charsBefore, List.length_cons, size, Nat.add_le_add_iff_right, ih]
      · omega
      · exact nofun

/-- A character starts in a span of bytes exactly if it is one of the characters of
that span. -/
theorem charSpan_contains (a : Text) (c : Char) (b : Text) (bytes : Markdown.Span) :
    (charSpan (a ++ c :: b) bytes).contains a.length = bytes.contains (size a) := by
  have start : decide (charsBefore (a ++ c :: b) bytes.start ≤ a.length) =
      decide (bytes.start ≤ size a) :=
    decide_eq_decide.mpr (charsBefore_le_iff a c b bytes.start)
  have stop : decide (a.length < charsBefore (a ++ c :: b) bytes.stop) =
      decide (size a < bytes.stop) := by
    rw [decide_eq_decide, ← Nat.not_le, charsBefore_le_iff, Nat.not_le]
  rw [Markdown.Span.contains, Markdown.Span.contains, ← start, ← stop]
  rfl

end Text

end TelegramMarkdown
