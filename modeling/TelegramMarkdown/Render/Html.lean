import TelegramMarkdown.Render.Inline

/-!
Raw HTML as MarkdownV2.

The tag pairs `b`, `i`, `u`, `s` and `code` on one line become markers; every
other tag is dropped and the text is escaped. An opening tag is paired with the
nearest closing tag of its own name, and the inside is rendered the same way, so
the markers are nested whatever the HTML (`Html.render`).
-/

namespace TelegramMarkdown.Html

/-! ### Tags -/

/-- The elements that become markers. -/
inductive Element where
  | b | i | u | s | code
  deriving DecidableEq

namespace Element

/-- The name of the element, in small letters. -/
def name : Element → Text
  | b => ['b']
  | i => ['i']
  | u => ['u']
  | s => ['s']
  | code => ['c', 'o', 'd', 'e']

/-- The marker of the element. -/
def marker : Element → Text
  | b => Marker.bold
  | i => Marker.italic
  | u => Marker.underline
  | s => Marker.strikethrough
  | code => Marker.code

/-- Every element, in the order in which they are tried. -/
def all : List Element := [b, i, u, s, code]

end Element

/-- Whether a character is a given small letter in some case. The long s, whose
capital is `S`, counts as an `s`. -/
def sameLetter (small c : Char) : Bool :=
  c.toLower = small || (small = 's' && c = '\u017F')

/-- The text after a name, in any letter case, and a `>`. -/
def dropName? : (name t : Text) → Option Text
  | [], '>' :: t => some t
  | l :: ls, c :: cs => if sameLetter l c then dropName? ls cs else none
  | _, _ => none

/-- The text after a bare opening tag of the element. -/
def dropOpening? (e : Element) : Text → Option Text
  | '<' :: t => dropName? e.name t
  | _ => none

/-- The text after a closing tag of the element. -/
def dropClosing? (e : Element) : Text → Option Text
  | '<' :: '/' :: t => dropName? e.name t
  | _ => none

/-- The text up to the nearest closing tag of the element on this line, and the
text after that tag. -/
def upToClosing? (e : Element) : Text → Option (Text × Text)
  | [] => none
  | c :: cs =>
    match dropClosing? e (c :: cs) with
    | some rest => some ([], rest)
    | none =>
      if c = '\n' then none
      else (upToClosing? e cs).map fun (inside, rest) => (c :: inside, rest)

/-- An element that starts here: its name, its inside, and the text after it. -/
def pairHere? (t : Text) : Option (Element × Text × Text) :=
  Element.all.findSome? fun e =>
    (dropOpening? e t).bind fun inner =>
      (upToClosing? e inner).map fun (inside, rest) => (e, inside, rest)

/-- The first element in the text: the text before it, its name, its inside, and
the text after it. -/
def firstPair? : Text → Option (Text × Element × Text × Text)
  | [] => none
  | c :: cs =>
    match pairHere? (c :: cs) with
    | some (e, inside, rest) => some ([], e, inside, rest)
    | none => (firstPair? cs).map fun (before, found) => (c :: before, found)

/-! ### Stripping -/

/-- The text after the tag that starts here: `<`, at least one character other
than `>`, and `>`. -/
def dropTag? : Text → Option Text
  | '<' :: c :: cs =>
    if c = '>' then none
    else match cs.dropWhile (· ≠ '>') with
      | _ :: rest => some rest
      | [] => none
  | _ => none

/-- The text without its tags. The first argument bounds the number of steps;
the length of the text is enough. -/
def stripTagsWithin : Nat → Text → Text
  | 0, t => t
  | _, [] => []
  | n + 1, c :: cs =>
    match dropTag? (c :: cs) with
    | some rest => stripTagsWithin n rest
    | none => c :: stripTagsWithin n cs

/-- The text without its tags. -/
def stripTags (t : Text) : Text :=
  stripTagsWithin t.length t

/-! ### Rendering -/

/-- Raw HTML as MarkdownV2, by elements nested at most as deep, and at most as
many in a row, as the first argument says; the length of the text is enough. -/
def renderWithin : Nat → Text → Text
  | 0, t => Escape.prose (stripTags t)
  | n + 1, t =>
    match firstPair? t with
    | none => Escape.prose (stripTags t)
    | some (before, e, inside, rest) =>
      let body := match e with
        | .code => Escape.code (stripTags inside)
        | _ => renderWithin n inside
      Escape.prose (stripTags before) ++ e.marker ++ body ++ e.marker ++ renderWithin n rest

/-- Raw HTML as MarkdownV2. -/
def render (t : Text) : Text :=
  renderWithin t.length t

end TelegramMarkdown.Html
