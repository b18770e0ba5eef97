/-!
Text as a list of characters, and the few operations on it that every part of
the library shares: blanks, trimming, lines, and joining.

Positions in a text are counted in characters. A character is blank when it has
the Unicode property `White_Space` (`Text.isBlank`); trimming removes blanks.
-/

namespace TelegramMarkdown

/-- A text is the list of its characters. -/
abbrev Text := List Char

namespace Text

/-! ### Blanks -/

/-- The characters with the Unicode property `White_Space`. -/
def isBlank (c : Char) : Bool :=
  let n := c.toNat
  (9 ≤ n && n ≤ 13) || n == 0x20 || n == 0x85 || n == 0xA0 || n == 0x1680 ||
    (0x2000 ≤ n && n ≤ 0x200A) || n == 0x2028 || n == 0x2029 || n == 0x202F ||
    n == 0x205F || n == 0x3000

/-- Drop the characters at the end that satisfy `p`. -/
def dropEndWhile (p : Char → Bool) (t : Text) : Text :=
  (t.reverse.dropWhile p).reverse

/-- Drop the blanks at the start. -/
def trimStart (t : Text) : Text :=
  t.dropWhile isBlank

/-- Drop the blanks at the end. -/
def trimEnd (t : Text) : Text :=
  dropEndWhile isBlank t

/-- Drop the blanks at both ends. -/
def trim (t : Text) : Text :=
  trimEnd (trimStart t)

/-! ### Prefixes and letter case -/

/-- The text after `lead`, if it starts with `lead`. -/
def dropLead? : (lead t : Text) → Option Text
  | [], t => some t
  | _ :: _, [] => none
  | l :: ls, c :: cs => if c = l then dropLead? ls cs else none

/-- Whether the text starts with `lead`. -/
def startsWith (t lead : Text) : Bool :=
  (dropLead? lead t).isSome

/-- Whether `inner` occurs somewhere in the text. -/
def occursIn (inner : Text) : Text → Bool
  | [] => inner.isEmpty
  | c :: cs => startsWith (c :: cs) inner || occursIn inner cs

/-- The text with its ASCII capitals made small. -/
def toLower (t : Text) : Text :=
  t.map Char.toLower

/-! ### Pieces -/

/-- Cut at every character that satisfies `p`; the cutting characters are
dropped, and `n` of them give `n + 1` pieces. -/
def splitAt (p : Char → Bool) : Text → List Text
  | [] => [[]]
  | c :: cs =>
    if p c then [] :: splitAt p cs
    else match splitAt p cs with
      | [] => [[c]]
      | piece :: pieces => (c :: piece) :: pieces

/-- The pieces with `sep` between each two. -/
def join (sep : Text) : List Text → Text
  | [] => []
  | [t] => t
  | t :: u :: rest => t ++ sep ++ join sep (u :: rest)

/-- The lines of a text. A line ends with a line feed, which a carriage return
may precede; the last line needs no end, and keeps a carriage return. -/
def lines (t : Text) : List Text :=
  match (splitAt (· = '\n') t).reverse with
  | [] => []
  | last :: ended =>
    let full := ended.reverse.map fun line =>
      if line.getLast? = some '\r' then line.dropLast else line
    if last.isEmpty then full else full ++ [last]

/-- The decimal digits of a number. -/
def ofNat (n : Nat) : Text :=
  Nat.toDigits 10 n

end Text

end TelegramMarkdown
