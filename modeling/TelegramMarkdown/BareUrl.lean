import TelegramMarkdown.Document

/-!
Bare URLs: URLs that stand in text without any markup (`BareUrl.linkify`).

A URL starts with a scheme or with `www.`, at the start of the text or after a
blank, an opening parenthesis or a quote, and goes on to the next blank or angle
bracket. Punctuation at its end belongs to the sentence around it
(`BareUrl.trim`).
-/

namespace TelegramMarkdown.BareUrl

/-! ### Matching -/

/-- What a URL may start with, in small letters. -/
def leads : List Text :=
  ["https://", "http://", "ftp://", "mailto:", "www."].map String.toList

/-- The text after a lead, in any letter case. The long s counts as an `s`. -/
def dropLead? : (lead t : Text) → Option Text
  | [], t => some t
  | l :: ls, c :: cs =>
    if c.toLower = l || (l = 's' && c = '\u017F') then dropLead? ls cs else none
  | _ :: _, [] => none

/-- The characters of a URL. -/
def isUrlChar (c : Char) : Bool :=
  !(Text.isBlank c || c = '<' || c = '>')

/-- The length of a URL that starts here: a lead, and at least one character
more. -/
def matchHere? (t : Text) : Option Nat :=
  leads.findSome? fun lead =>
    (dropLead? lead t).bind fun rest =>
      match (rest.takeWhile isUrlChar).length with
      | 0 => none
      | n => some (lead.length + n)

/-- Whether a URL may stand after a character. -/
def mayFollow : Option Char → Bool
  | none => true
  | some c => Text.isBlank c || c = '(' || c = '"' || c = '\''

/-! ### Trimming -/

/-- The punctuation that ends a sentence rather than a URL. -/
def isTrailing (c : Char) : Bool :=
  ['.', ',', ':', ';', '!', '?', '"', '\''].contains c

/-- Drop the punctuation at the end, and then one closing parenthesis if more are
closed than opened. -/
def trimOnce (url : Text) : Text :=
  let trimmed := Text.dropEndWhile isTrailing url
  if trimmed.getLast? = some ')' && trimmed.count '(' < trimmed.count ')' then trimmed.dropLast
  else trimmed

/-- Trim at most so many times. -/
def trimWithin : Nat → Text → Text
  | 0, url => url
  | n + 1, url =>
    let trimmed := trimOnce url
    if trimmed.length = url.length then url else trimWithin n trimmed

/-- Drop punctuation and unbalanced closing parentheses at the end. -/
def trim (url : Text) : Text :=
  trimWithin url.length url

/-! ### Links -/

/-- The text after the first `//`. -/
def afterSlashes? : Text → Option Text
  | [] => none
  | c :: cs => match Text.dropLead? "//".toList (c :: cs) with
    | some host => some host
    | none => afterSlashes? cs

/-- Whether a trimmed URL has a host or an address, and looks like one. -/
def isComplete (url : Text) : Bool :=
  let hasHost := match afterSlashes? url with
    | some host => !host.isEmpty
    | none => 4 < url.length
  hasHost && (url.contains '.' || Text.startsWith url "mailto:".toList)

/-- Where a label leads: without a scheme the web is meant. -/
def target (label : Text) : Text :=
  if Text.startsWith (Text.toLower label) "www.".toList then "http://".toList ++ label else label

/-- A URL as a link that shows it. -/
def link (label : Text) : Inline :=
  .link (target label) false [.literal label]

/-- The text before some inlines, as one literal with the text that they start
with. -/
def prepend (t : Text) : List Inline → List Inline
  | .literal u :: rest => .literal (t ++ u) :: rest
  | rest => if t.isEmpty then rest else .literal t :: rest

/-- Make links of the URLs in a text that follows a character; the first number
bounds the steps. -/
def linkifyAfter : Nat → Option Char → Text → List Inline
  | 0, _, t => prepend t []
  | _, _, [] => []
  | n + 1, before, c :: cs =>
    match matchHere? (c :: cs) with
    | none => prepend [c] (linkifyAfter n (some c) cs)
    | some length =>
      let url := (c :: cs).take length
      let rest := linkifyAfter n url.getLast? ((c :: cs).drop length)
      let label := trim url
      if mayFollow before && isComplete label then
        link label :: prepend (url.drop label.length) rest
      else prepend url rest

/-- Make links of the URLs in a text. -/
def linkify (t : Text) : List Inline :=
  linkifyAfter t.length none t

end TelegramMarkdown.BareUrl
