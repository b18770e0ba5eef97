import TelegramMarkdown.Markdown.Cursor
import TelegramMarkdown.Markdown.Entity.Table

/-!
Character references: `&amp;`, `&#38;`, `&#x26;`, and backslash escapes, as they
are undone in URLs and info strings (`Entity.decode`).
-/

namespace TelegramMarkdown.Markdown.Entity

/-! ### Numbers -/

/-- The value of a digit, in any base up to sixteen. -/
def digit? (c : Char) : Option Nat :=
  if c.isDigit then some (c.toNat - 48)
  else if 'a' ≤ c ∧ c ≤ 'f' then some (c.toNat - 87)
  else if 'A' ≤ c ∧ c ≤ 'F' then some (c.toNat - 55)
  else none

/-- The number written by digits, most significant first. -/
def number (base : Nat) (digits : Text) : Nat :=
  digits.foldl (fun n c => base * n + (digit? c).getD 0) 0

/-- The character with a code point. Zero and numbers that are no code point
stand for the replacement character. -/
def charOf (n : Nat) : Char :=
  if n = 0 || 0x10FFFF < n || (0xD800 ≤ n && n ≤ 0xDFFF) then '\uFFFD' else Char.ofNat n

/-! ### Names -/

/-- The characters that the code points of a row stand for, and the rows after
it. -/
def rowValue (row : Text) : Text :=
  let codes := row.takeWhile (· ≠ ' ')
  (Text.splitAt (· = '+') codes).map fun code => charOf (number 16 code)

/-- Look a name up in the rows of a line. The first argument bounds the number of
rows. -/
def lookup? (name : Text) : Nat → Text → Option Text
  | 0, _ => none
  | _, [] => none
  | n + 1, row =>
    match Text.dropLead? name row with
    | some ('=' :: value) => some (rowValue value)
    | _ => lookup? name n ((row.dropWhile (· ≠ ' ')).drop 1)

/-- What a name stands for. -/
def named? : Text → Option Text
  | [] => none
  | c :: name =>
    (table c).findSome? fun line => lookup? name line.length line.toList

/-! ### References in text -/

/-- A character reference at the start of the text: its length, and what it
stands for. -/
def reference? (t : Text) : Option (Nat × Text) :=
  let numeric (base limit lead : Nat) (isDigit : Char → Bool) (t : Text) :=
    let n := min limit (Scan.countWhile isDigit t)
    if n ≠ 0 && Scan.startsWithChar ';' (t.drop n) then
      some (lead + n + 1, [charOf (number base (t.take n))])
    else none
  match t with
  | '&' :: '#' :: 'x' :: t | '&' :: '#' :: 'X' :: t =>
    numeric 16 6 3 (fun c => (digit? c).isSome) t
  | '&' :: '#' :: t => numeric 10 7 2 Char.isDigit t
  | '&' :: t =>
    let n := Scan.countWhile Char.isAlphanum t
    if Scan.startsWithChar ';' (t.drop n) then
      (named? (t.take n)).map fun value => (n + 2, value)
    else none
  | _ => none

/-- Undo backslash escapes and character references, and drop carriage returns.
In a table an escaped pipe may itself be escaped: `\\|` stands for `|`. The first
argument counts characters that are dealt with already. -/
def decodeFrom (inTable : Bool) : (skip : Nat) → Text → Text
  | _, [] => []
  | skip + 1, _ :: t => decodeFrom inTable skip t
  | 0, c :: t =>
    if c = '\\' && inTable && Text.startsWith t ['\\', '|'] then
      '|' :: decodeFrom inTable 2 t
    else if c = '\\' then
      match t with
      | d :: _ =>
        if Scan.isAsciiPunctuation d then d :: decodeFrom inTable 1 t
        else c :: decodeFrom inTable 0 t
      | [] => [c]
    else if c = '&' then
      match reference? (c :: t) with
      | some (n, value) => value ++ decodeFrom inTable (n - 1) t
      | none => c :: decodeFrom inTable 0 t
    else if c = '\r' then decodeFrom inTable 0 t
    else c :: decodeFrom inTable 0 t

/-- Undo backslash escapes and character references, and drop carriage
returns. -/
def decode (inTable : Bool) (t : Text) : Text :=
  decodeFrom inTable 0 t

end TelegramMarkdown.Markdown.Entity
