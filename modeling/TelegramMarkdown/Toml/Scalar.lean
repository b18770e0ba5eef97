import TelegramMarkdown.Toml.Value

/-!
TOML scalars: strings, numbers, booleans, dates and times.

A reader gets a text and answers a value and the text after it, or nothing when
the text does not start with one.
-/

namespace TelegramMarkdown.Toml

/-! ### Characters -/

/-- Spaces and tabs. -/
def isSpace (c : Char) : Bool :=
  c = ' ' || c = '\t'

/-- Control characters that may stand nowhere. -/
def isForbidden (c : Char) : Bool :=
  (c.toNat < 0x20 && c ≠ '\t') || c.toNat = 0x7F

/-- The value of a hexadecimal digit. -/
def hexDigit? (c : Char) : Option Nat :=
  if c.isDigit then some (c.toNat - 48)
  else if 'a' ≤ c ∧ c ≤ 'f' then some (c.toNat - 87)
  else if 'A' ≤ c ∧ c ≤ 'F' then some (c.toNat - 55)
  else none

/-- The number written by digits, most significant first. -/
def number (base : Nat) (digits : Text) : Nat :=
  digits.foldl (fun n c => base * n + (hexDigit? c).getD 0) 0

/-- The text after a line end. -/
def newline? : Text → Option Text
  | '\n' :: rest => some rest
  | '\r' :: '\n' :: rest => some rest
  | _ => none

/-- The text after spaces and tabs. -/
def skipSpaces (t : Text) : Text :=
  t.dropWhile isSpace

/-! ### Strings -/

/-- The character that `n` hexadecimal digits stand for. -/
def codePoint? (n : Nat) (t : Text) : Option Char :=
  let digits := t.take n
  let code := number 16 digits
  if digits.length = n && digits.all (fun c => (hexDigit? c).isSome) && code ≤ 0x10FFFF &&
      !(0xD800 ≤ code && code ≤ 0xDFFF) then
    some (Char.ofNat code)
  else none

/-- What the text after a backslash stands for: a character, and how many
characters of the text it covers. -/
def escape? (t : Text) : Option (Char × Nat) :=
  match t with
  | 'b' :: _ => some ('\x08', 1)
  | 't' :: _ => some ('\t', 1)
  | 'n' :: _ => some ('\n', 1)
  | 'f' :: _ => some ('\x0c', 1)
  | 'r' :: _ => some ('\r', 1)
  | 'e' :: _ => some ('\x1b', 1)
  | '"' :: _ => some ('"', 1)
  | '\\' :: _ => some ('\\', 1)
  | 'x' :: hex => (codePoint? 2 hex).map (·, 3)
  | 'u' :: hex => (codePoint? 4 hex).map (·, 5)
  | 'U' :: hex => (codePoint? 8 hex).map (·, 9)
  | _ => none

/-- Read a string on one line, from after its quote. Escapes are known only in
double quotes. The number counts characters that are dealt with already. -/
def lineString (quote : Char) (read : Text) : (skip : Nat) → Text → Option (Text × Text)
  | _, [] => none
  | skip + 1, _ :: t => lineString quote read skip t
  | 0, c :: t =>
    if c = quote then some (read.reverse, t)
    else if c = '\\' && quote = '"' then
      (escape? t).bind fun (d, n) => lineString quote (d :: read) n t
    else if isForbidden c then none
    else lineString quote (c :: read) 0 t

/-- How many characters a backslash at the end of a line covers with what it
joins: the blanks and line ends after it. -/
def joined? (t : Text) : Option Nat :=
  let spaces := t.takeWhile isSpace
  match newline? (t.drop spaces.length) with
  | some _ => some (blanks t)
  | none => none
where
  /-- The length of the blanks and line ends at the start. -/
  blanks : Text → Nat
  | ' ' :: t | '\t' :: t | '\n' :: t => blanks t + 1
  | '\r' :: '\n' :: t => blanks t + 2
  | _ => 0

/-- Read a string over lines, from after its three quotes. Up to two quotes may
stand before the three that end it. -/
def blockString (quote : Char) (read : Text) : (skip : Nat) → Text → Option (Text × Text)
  | _, [] => none
  | skip + 1, _ :: t => blockString quote read skip t
  | 0, c :: t =>
    let quotes := ((c :: t).takeWhile (· = quote)).length
    if 3 ≤ quotes then
      let n := min quotes 5
      some (read.reverse ++ List.replicate (n - 3) quote, (c :: t).drop n)
    else if c = '\\' && quote = '"' then
      match joined? t with
      | some n => blockString quote read n t
      | none => (escape? t).bind fun (d, n) => blockString quote (d :: read) n t
    else if c = '\n' then blockString quote (c :: read) 0 t
    else if c = '\r' && t.head? = some '\n' then blockString quote ('\n' :: read) 1 t
    else if isForbidden c then none
    else blockString quote (c :: read) 0 t

/-- Read a string of any kind. -/
def string? (t : Text) : Option (Text × Text) :=
  let opened (quote : Char) (rest : Text) : Option (Text × Text) :=
    match rest with
    | c :: d :: body =>
      if c = quote ∧ d = quote then blockString quote [] 0 ((newline? body).getD body)
      else lineString quote [] 0 rest
    | _ => lineString quote [] 0 rest
  match t with
  | '"' :: rest => opened '"' rest
  | '\'' :: rest => opened '\'' rest
  | _ => none

/-! ### Numbers -/

/-- The digits without the underscores between them. -/
def digits? (isDigit : Char → Bool) : Text → Option Text
  | [] => none
  | [c] => if isDigit c then some [c] else none
  | c :: '_' :: t => if isDigit c then (digits? isDigit t).map (c :: ·) else none
  | c :: t => if isDigit c then (digits? isDigit t).map (c :: ·) else none

/-- The digits of a decimal number, which starts with no zero unless it is
zero. -/
def decimalDigits? (t : Text) : Option Text :=
  (digits? Char.isDigit t).filter fun digits => digits.length = 1 || digits.head? ≠ some '0'

/-- Take off a sign: whether it is a minus, and the text after it. -/
def unsigned (t : Text) : Bool × Text :=
  match t with
  | '-' :: t => (true, t)
  | '+' :: t => (false, t)
  | t => (false, t)

/-- An integer. -/
def integer? (t : Text) : Option Int :=
  let based (base : Nat) (digits : Text) : Option Int :=
    (digits? (fun c => (hexDigit? c).any (· < base)) digits).map fun ds => (number base ds : Int)
  match t with
  | '0' :: 'x' :: t => based 16 t
  | '0' :: 'o' :: t => based 8 t
  | '0' :: 'b' :: t => based 2 t
  | _ =>
    let (negative, t) := unsigned t
    (decimalDigits? t).map fun ds =>
      let n : Int := number 10 ds
      if negative then -n else n

/-- The exponent of a number: an `e`, a sign and digits, or nothing. -/
def exponent? (t : Text) : Option Int :=
  match t with
  | [] => some 0
  | 'e' :: t | 'E' :: t =>
    let (negative, t) := unsigned t
    (digits? Char.isDigit t).map fun ds =>
      let n : Int := number 10 ds
      if negative then -n else n
  | _ => none

/-- A number with a fraction, an exponent or both, or an infinity or no
number. -/
def float? (t : Text) : Option Value :=
  let (_, t) := unsigned t
  if t = "inf".toList ∨ t = "nan".toList then some .special
  else
    let whole := t.takeWhile fun c => c.isDigit || c = '_'
    (decimalDigits? whole).bind fun ws =>
      match t.drop whole.length with
      | '.' :: t =>
        let fraction := t.takeWhile fun c => c.isDigit || c = '_'
        (digits? Char.isDigit fraction).bind fun fs =>
          (exponent? (t.drop fraction.length)).map fun e =>
            .float ⟨number 10 (ws ++ fs), e - fs.length⟩
      | [] => none
      | t => (exponent? t).map fun e => .float ⟨number 10 ws, e⟩

/-! ### Dates and times -/

/-- Read `n` digits. -/
def fixed? (n : Nat) (t : Text) : Option (Nat × Text) :=
  let ds := t.take n
  if ds.length = n && ds.all Char.isDigit then some (number 10 ds, t.drop n) else none

/-- The length of a month. -/
def daysIn (year month : Nat) : Nat :=
  if month = 2 then
    if year % 4 = 0 && (year % 100 ≠ 0 || year % 400 = 0) then 29 else 28
  else if month = 4 || month = 6 || month = 9 || month = 11 then 30
  else 31

/-- The text after a date. -/
def date? (t : Text) : Option Text :=
  match fixed? 4 t with
  | some (year, '-' :: t) =>
    match fixed? 2 t with
    | some (month, '-' :: t) =>
      (fixed? 2 t).bind fun (day, t) =>
        if 1 ≤ month && month ≤ 12 && 1 ≤ day && day ≤ daysIn year month then some t else none
    | _ => none
  | _ => none

/-- The text after an hour and a minute. -/
def clock? (t : Text) : Option Text :=
  match fixed? 2 t with
  | some (hour, ':' :: t) =>
    (fixed? 2 t).bind fun (minute, t) => if hour ≤ 23 && minute ≤ 59 then some t else none
  | _ => none

/-- The text after a time. Seconds may be left out, or have a fraction. -/
def time? (t : Text) : Option Text :=
  (clock? t).bind fun t =>
    match t with
    | ':' :: t =>
      (fixed? 2 t).bind fun (second, t) =>
        if 60 < second then none
        else match t with
          | '.' :: t => if t.head?.any Char.isDigit then some (t.dropWhile Char.isDigit) else none
          | t => some t
    | t => some t

/-- Whether a text is the offset of a time zone, or nothing. -/
def isOffset (t : Text) : Bool :=
  match t with
  | [] | ['Z'] | ['z'] => true
  | '+' :: t | '-' :: t => clock? t = some []
  | _ => false

/-- Whether a text is a date, a time, or both. -/
def isDateTime (t : Text) : Bool :=
  match date? t with
  | some [] => true
  | some ('T' :: t) | some ('t' :: t) | some (' ' :: t) => (time? t).any isOffset
  | some _ => false
  | none => time? t = some []

/-! ### Scalars -/

/-- The characters of a scalar without quotes. -/
def isAtomChar (c : Char) : Bool :=
  c.isAlphanum || c = '_' || c = '+' || c = '-' || c = '.' || c = ':'

/-- The value of a scalar without quotes. -/
def atom? (t : Text) : Option Value :=
  if t = "true".toList then some (.boolean true)
  else if t = "false".toList then some (.boolean false)
  else match integer? t with
    | some n => some (.integer n)
    | none =>
      match float? t with
      | some value => some value
      | none => if isDateTime t then some .dateTime else none

/-- Read a scalar. A date and a time may have a space between them. -/
def scalar? (t : Text) : Option (Value × Text) :=
  match string? t with
  | some (s, rest) => some (.string s, rest)
  | none =>
    let first := t.takeWhile isAtomChar
    let rest := t.drop first.length
    let spaced :=
      match date? first, rest with
      | some [], ' ' :: c :: _ => c.isDigit
      | _, _ => false
    if spaced then
      let second := (rest.drop 1).takeWhile isAtomChar
      (atom? (first ++ ' ' :: second)).map fun value => (value, (rest.drop 1).drop second.length)
    else (atom? first).map fun value => (value, rest)

end TelegramMarkdown.Toml
