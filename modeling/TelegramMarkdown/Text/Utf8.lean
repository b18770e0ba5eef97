import TelegramMarkdown.Text

/-!
UTF-8: texts as bytes. Decoding refuses what no text is written as: stray or
missing continuation bytes, forms that are longer than needed, surrogates, and
numbers beyond the last code point.
-/

namespace TelegramMarkdown.Utf8

/-- A file's content. -/
abbrev Bytes := List UInt8

/-- The bits of a continuation byte. -/
def tail? (b : UInt8) : Option Nat :=
  if 0x80 ≤ b ∧ b ≤ 0xBF then some (b.toNat - 0x80) else none

/-- The text that bytes are written as. -/
def decode? : Bytes → Option Text
  | [] => some []
  | a :: rest =>
    if a < 0x80 then (decode? rest).map (Char.ofNat a.toNat :: ·)
    else if 0xC2 ≤ a ∧ a ≤ 0xDF then
      match rest with
      | b :: rest =>
        (tail? b).bind fun b =>
          (decode? rest).map (Char.ofNat ((a.toNat - 0xC0) * 64 + b) :: ·)
      | _ => none
    else if 0xE0 ≤ a ∧ a ≤ 0xEF then
      match rest with
      | b :: c :: rest =>
        if (a = 0xE0 ∧ b < 0xA0) ∨ (a = 0xED ∧ 0x9F < b) then none
        else
          (tail? b).bind fun b => (tail? c).bind fun c =>
            (decode? rest).map (Char.ofNat (((a.toNat - 0xE0) * 64 + b) * 64 + c) :: ·)
      | _ => none
    else if 0xF0 ≤ a ∧ a ≤ 0xF4 then
      match rest with
      | b :: c :: d :: rest =>
        if (a = 0xF0 ∧ b < 0x90) ∨ (a = 0xF4 ∧ 0x8F < b) then none
        else
          (tail? b).bind fun b => (tail? c).bind fun c => (tail? d).bind fun d =>
            (decode? rest).map
              (Char.ofNat ((((a.toNat - 0xF0) * 64 + b) * 64 + c) * 64 + d) :: ·)
      | _ => none
    else none

/-- The bytes of a character. -/
def encodeChar (c : Char) : Bytes :=
  let n := c.toNat
  let tail (k : Nat) : UInt8 := UInt8.ofNat (0x80 + n / Nat.pow 64 k % 64)
  if n < 0x80 then [UInt8.ofNat n]
  else if n < 0x800 then [UInt8.ofNat (0xC0 + n / 64), tail 0]
  else if n < 0x10000 then [UInt8.ofNat (0xE0 + n / Nat.pow 64 2), tail 1, tail 0]
  else [UInt8.ofNat (0xF0 + n / Nat.pow 64 3), tail 2, tail 1, tail 0]

/-- The bytes of a text. -/
def encode (t : Text) : Bytes :=
  t.flatMap encodeChar

end TelegramMarkdown.Utf8
