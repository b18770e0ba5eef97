import TelegramMarkdown.Markdown.Entity

/-!
The parts of links: destinations, titles and labels.

A part may be spread over lines. The scans take a function `nextLine?` that
passes over what the next line starts with, or answers nothing when the part may
not go on there.
-/

namespace TelegramMarkdown.Markdown.Link

/-- Passes over the prefixes of a line, if the part may go on in it. -/
abbrev NextLine := Cursor → Option Cursor

/-! ### Destinations -/

/-- The length of a destination between angle brackets, from after the `<`. The
first argument counts characters that are dealt with already. -/
def bracketed? : (skip : Nat) → Text → Option Nat
  | _, [] => none
  | skip + 1, _ :: t => (bracketed? skip t).map (· + 1)
  | 0, c :: t =>
    if c = '\n' || c = '\r' || c = '<' then none
    else if c = '>' then some 0
    else if c = '\\' && t.head?.any Scan.isAsciiPunctuation then (bracketed? 1 t).map (· + 1)
    else (bracketed? 0 t).map (· + 1)

/-- The length of a destination without brackets: it ends at a blank or control
character or at a parenthesis that it does not open. It closes those that it
opens, and may nest them `depth` deep and once more. `opened` of them are
open. -/
def bare? (depth : Nat) : (opened skip : Nat) → Text → Option Nat
  | opened, _, [] => if opened = 0 then some 0 else none
  | opened, skip + 1, _ :: t => (bare? depth opened skip t).map (· + 1)
  | opened, 0, c :: t =>
    if c.toNat ≤ 0x20 then if opened = 0 then some 0 else none
    else if c = '(' then
      if depth < opened then none else (bare? depth (opened + 1) 0 t).map (· + 1)
    else if c = ')' then
      if opened = 0 then some 0 else (bare? depth (opened - 1) 0 t).map (· + 1)
    else if c = '\\' && t.head?.any Scan.isAsciiPunctuation then
      (bare? depth opened 1 t).map (· + 1)
    else (bare? depth opened 0 t).map (· + 1)

/-- A destination at the start of the text: its length with its brackets, and
its characters as written between them. -/
def destination? (depth : Nat) (t : Text) : Option (Nat × Text) :=
  match t with
  | '<' :: inner => (bracketed? 0 inner).map fun n => (n + 2, inner.take n)
  | _ => (bare? depth 0 0 t).map fun n => (n, t.take n)

/-! ### Labels -/

/-- The longest label there may be, in characters. -/
def maxLabel : Nat := 999

/-- Read a label from after its `[` up to and including its `]`; answers its text
with every stretch of blanks made one space, newest character first, and the
cursor after it. A label holds something other than blanks, no bracket that is
not escaped, and no blank line. -/
def label (nextLine? : NextLine) (inTable : Bool) :
    (fuel count : Nat) → (blank : Bool) → (read : Text) → Cursor → Option (Text × Cursor)
  | 0, _, _, _, _ => none
  | fuel + 1, count, blank, read, c =>
    if maxLabel < count then none
    else
      match c.rest with
      | [] => none
      | '[' :: _ => none
      | ']' :: _ => if blank then none else some (read, c.advance 1)
      | '\\' :: d :: more =>
        -- In a table one backslash before a pipe is not part of the label.
        let kept :=
          if inTable && (d = '|' || (d = '\\' && Scan.startsWithChar '|' more)) then [d]
          else [d, '\\']
        label nextLine? inTable fuel (count + 2) false (kept ++ read) (c.advance 2)
      | d :: _ =>
        if Scan.isAsciiBlank d then
          (blanks 2 c).bind fun after =>
            label nextLine? inTable fuel (count + (after.pos - c.pos)) blank (' ' :: read) after
        else label nextLine? inTable fuel (count + 1) false (d :: read) (c.advance 1)
where
  /-- Pass over blanks with at most one end of a line among them. The argument
  is that bound, and one. -/
  blanks : Nat → Cursor → Option Cursor
  | 0, _ => none
  | lines + 1, c =>
    let c := c.advance (Scan.countBlanks c.rest)
    match c.rest with
    | '\n' :: _ | '\r' :: _ =>
      if lines = 0 then none
      else (nextLine? (c.advance ((Scan.lineEnd? c.rest).getD 0))).bind (blanks lines)
    | _ => some c

/-- A label that starts here with its `[`: its text without spaces around it, and
the cursor after its `]`. -/
def label? (nextLine? : NextLine) (inTable : Bool) (c : Cursor) : Option (Text × Cursor) :=
  match c.rest with
  | '[' :: t =>
    (label nextLine? inTable (t.length + 1) 0 true [] (c.advance 1)).map fun (read, after) =>
      (((read.dropWhile (· = ' ')).reverse).dropWhile (· = ' '), after)
  | _ => none

/-! ### Titles -/

/-- The length of the title of an inline link, quotes included. Inside quotes a
backslash guards a punctuation character; a title in parentheses may not open
another. -/
def title? : Text → Option Nat
  | [] => none
  | opening :: t =>
    if opening = '"' || opening = '\'' then (closing opening opening 0 t).map (· + 1)
    else if opening = '(' then (closing '(' ')' 0 t).map (· + 1)
    else none
where
  /-- The length up to and including the closing character. -/
  closing (opening close : Char) : (skip : Nat) → Text → Option Nat
  | _, [] => none
  | skip + 1, _ :: t => (closing opening close skip t).map (· + 1)
  | 0, c :: t =>
    if c = close then some 1
    else if c = opening then none
    else if c = '\\' && t.head?.any Scan.isAsciiPunctuation then
      (closing opening close 1 t).map (· + 1)
    else (closing opening close 0 t).map (· + 1)

/-! ### Inline links -/

/-- Parentheses may nest this deep in the destination of an inline link. -/
def maxNesting : Nat := 5

/-- Pass over blanks and at most one end of a line. -/
def separator (nextLine : Cursor → Cursor) (c : Cursor) : Cursor :=
  let c := c.advance (Scan.countBlanks c.rest)
  let c := match Scan.lineEnd? c.rest with
    | some (n + 1) => nextLine (c.advance (n + 1))
    | _ => c
  c.advance (Scan.countBlanks c.rest)

/-- The part of an inline link in parentheses: its destination, and the cursor
after it. -/
def inlineTarget? (nextLine : Cursor → Cursor) (inTable : Bool) (c : Cursor) :
    Option (Text × Cursor) :=
  match c.rest with
  | '(' :: _ =>
    let c := separator nextLine (c.advance 1)
    (destination? maxNesting c.rest).bind fun (n, url) =>
      let c := separator nextLine (c.advance n)
      let c := match title? c.rest with
        | some n => separator nextLine (c.advance n)
        | none => c
      if Scan.startsWithChar ')' c.rest then some (Entity.decode inTable url, c.advance 1)
      else none
  | _ => none

end TelegramMarkdown.Markdown.Link
