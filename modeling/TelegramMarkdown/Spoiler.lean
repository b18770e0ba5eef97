import TelegramMarkdown.Document
import TelegramMarkdown.Markdown.Cursor

/-!
Spoilers: `||content||` in Markdown.

Spoilers are taken out of the text before it is read as Markdown, so that their
content stays as written whatever markup it holds, and a placeholder stands for
each of them meanwhile (`Spoiler.mark?`). In the literals that Markdown yields
the placeholders are replaced by their spoilers (`Spoiler.restore`).

A delimiter is `||`, not escaped by a backslash and not in verbatim source. A
spoiler goes from a delimiter to the next one on its line, and its content is not
empty and has no blank at its ends.
-/

namespace TelegramMarkdown.Spoiler

/-! ### Placeholders -/

/-- The character before the number of a placeholder. Private-use characters are
plain text to Markdown. -/
def placeholderOpen : Char := '\uE000'

/-- The character after the number of a placeholder. -/
def placeholderClose : Char := '\uE001'

/-- The placeholder with a number. -/
def placeholder (n : Nat) : Text :=
  placeholderOpen :: Text.ofNat n ++ [placeholderClose]

/-- What stands around the content of a spoiler. -/
def delimiter : Text := "||".toList

/-! ### Finding spoilers -/

/-- A part of a text: a character outside of spoilers, or a spoiler. -/
inductive Part where
  | plain (c : Char)
  | hidden (content : Text)
  deriving DecidableEq

/-- Whether a delimiter starts at a position; `escaped` tells whether an odd
number of backslashes stands before it. -/
def isDelimiter (verbatim : List Markdown.Span) (pos : Nat) (escaped : Bool) (t : Text) : Bool :=
  Text.startsWith t delimiter && !escaped &&
    !verbatim.any fun span => span.contains pos || span.contains (pos + 1)

/-- Whether an odd number of backslashes stands before the next character. -/
def escapes (escaped : Bool) (c : Char) : Bool :=
  c = '\\' && !escaped

/-- The text up to the first delimiter on this line. -/
def upToDelimiter? (verbatim : List Markdown.Span) (pos : Nat) (escaped : Bool) :
    Text → Option Text
  | [] => none
  | c :: cs =>
    if isDelimiter verbatim pos escaped (c :: cs) then some []
    else if c = '\n' then none
    else (upToDelimiter? verbatim (pos + 1) (escapes escaped c) cs).map (c :: ·)

/-- Whether a text may be hidden: it is not empty and has no blank at its
ends. -/
def isTight (content : Text) : Bool :=
  !content.isEmpty && !content.head?.any Text.isBlank && !content.getLast?.any Text.isBlank

/-- The content of a spoiler that starts at a position. -/
def contentAt? (verbatim : List Markdown.Span) (pos : Nat) (escaped : Bool) (t : Text) :
    Option Text :=
  if isDelimiter verbatim pos escaped t then
    (upToDelimiter? verbatim (pos + 2) false (t.drop 2)).filter isTight
  else none

/-- The parts of a text. The first number counts characters that belong to the
spoiler before. -/
def partsFrom (verbatim : List Markdown.Span) (pos : Nat) (escaped : Bool) :
    (skip : Nat) → Text → List Part
  | _, [] => []
  | skip + 1, c :: cs => partsFrom verbatim (pos + 1) (escapes escaped c) skip cs
  | 0, c :: cs =>
    match contentAt? verbatim pos escaped (c :: cs) with
    | some content =>
      .hidden content :: partsFrom verbatim (pos + 1) false (content.length + 3) cs
    | none => .plain c :: partsFrom verbatim (pos + 1) (escapes escaped c) 0 cs

/-- The parts of a text. -/
def parts (verbatim : List Markdown.Span) (t : Text) : List Part :=
  partsFrom verbatim 0 false 0 t

/-! ### Marking -/

/-- The contents of the spoilers among parts. -/
def contents (parts : List Part) : List Text :=
  parts.filterMap fun
    | .hidden content => some content
    | .plain _ => none

/-- The text of parts, with numbered placeholders for the spoilers. -/
def marked (n : Nat) : List Part → Text
  | [] => []
  | .plain c :: rest => c :: marked n rest
  | .hidden _ :: rest => placeholder n ++ marked (n + 1) rest

/-- The text with placeholders for its spoilers, and their contents; nothing if
there are none, or if the text holds characters of a placeholder already. -/
def mark? (verbatim : List Markdown.Span) (t : Text) : Option (Text × List Text) :=
  if t.any fun c => c = placeholderOpen || c = placeholderClose then none
  else
    let found := parts verbatim t
    match contents found with
    | [] => none
    | hidden => some (marked 0 found, hidden)

/-! ### Restoring -/

/-- The number written by decimal digits; a plus sign may stand before them. -/
def number? (t : Text) : Option Nat :=
  let digits := match t with
    | '+' :: digits => digits
    | digits => digits
  if digits.isEmpty || !digits.all Char.isDigit then none
  else some (digits.foldl (fun n c => 10 * n + (c.toNat - 48)) 0)

/-- What a placeholder stands for, given the text after its first character; and
the length of that text that belongs to it. -/
def resolve? (hidden : List Text) (t : Text) : Option (Text × Nat) :=
  let name := t.takeWhile (· ≠ placeholderClose)
  if name.length = t.length then none
  else ((number? name).bind (hidden[·]?)).map fun content => (content, name.length + 1)

/-- A literal, unless it is empty. -/
def literal (t : Text) : List Inline :=
  if t.isEmpty then [] else [.literal t]

/-- Put spoilers back for the placeholders of a text, from the start up to the
first one that stands for none. The first number counts characters of the
placeholder before; `read` holds the text that is in no inline yet, newest
character first. -/
def restoreFrom (hidden : List Text) : (skip : Nat) → (read : Text) → Text → List Inline
  | _, read, [] => literal read.reverse
  | skip + 1, read, _ :: cs => restoreFrom hidden skip read cs
  | 0, read, c :: cs =>
    if c = placeholderOpen then
      match resolve? hidden cs with
      | some (content, n) => literal read.reverse ++ .spoiler content :: restoreFrom hidden n [] cs
      | none => literal (read.reverse ++ c :: cs)
    else restoreFrom hidden 0 (c :: read) cs

/-- Put spoilers back for the placeholders of a text. -/
def restore (hidden : List Text) (t : Text) : List Inline :=
  restoreFrom hidden 0 [] t

end TelegramMarkdown.Spoiler
