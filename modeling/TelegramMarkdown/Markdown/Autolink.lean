import TelegramMarkdown.Markdown.Cursor

/-!
Autolinks: an absolute URI or an e-mail address between angle brackets.
-/

namespace TelegramMarkdown.Markdown.Autolink

/-- The characters of a URI scheme. -/
def isSchemeChar (c : Char) : Bool :=
  c.isAlphanum || c = '.' || c = '-' || c = '+'

/-- The characters that a URI may hold after its scheme. -/
def isUriChar (c : Char) : Bool :=
  !(c.toNat ≤ 0x20 || c = '<' || c = '>')

/-- The length of an absolute URI: a scheme of 2 to 32 characters, a colon, and
whatever an autolink may hold. -/
def uri? (t : Text) : Option Nat :=
  let scheme := Scan.countWhile isSchemeChar t
  let after := t.drop scheme
  if t.head?.any Char.isAlpha && 2 ≤ scheme && scheme ≤ 32 && Scan.startsWithChar ':' after then
    some (scheme + Scan.countWhile isUriChar after)
  else none

/-- The characters of an e-mail address before its `@`. -/
def isMailboxChar (c : Char) : Bool :=
  c.isAlphanum || ".!#$%&'*+/=?^_`\x7b|\x7d~-".toList.contains c

/-- The length of a domain: labels of at most 63 letters, digits and inner
hyphens, joined by dots. The first argument bounds the number of labels. -/
def domain? : Nat → Text → Option Nat
  | 0, _ => none
  | fuel + 1, t =>
    let n := Scan.countWhile (fun c => c.isAlphanum || c = '-') t
    let label := t.take n
    if n = 0 || 63 < n || label.head? = some '-' || label.getLast? = some '-' then none
    else
      match t.drop n with
      | '.' :: more => (domain? fuel more).map (n + 1 + ·)
      | _ => some n

/-- The length of an e-mail address. -/
def email? (t : Text) : Option Nat :=
  let n := Scan.countWhile isMailboxChar t
  match n, t.drop n with
  | 0, _ => none
  | n, '@' :: host => (domain? (host.length + 1) host).map (n + 1 + ·)
  | _, _ => none

/-- What an autolink holds, for the text after its `<`: the length of the URI or
address that a `>` follows. -/
def target? (t : Text) : Option Nat :=
  let closed (n : Nat) : Bool := Scan.startsWithChar '>' (t.drop n)
  match (uri? t).filter closed with
  | some n => some n
  | none => (email? t).filter closed

end TelegramMarkdown.Markdown.Autolink
