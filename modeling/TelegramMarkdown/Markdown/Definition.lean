import TelegramMarkdown.Markdown.Link
import TelegramMarkdown.Markdown.Opening

/-!
Link reference definitions: a label, a colon, a destination and perhaps a title.
A definition stands where a paragraph could start, and no line of it may be one
that would end the paragraph.
-/

namespace TelegramMarkdown.Markdown

/-- A link reference definition. -/
structure Definition where
  label : Text
  url : Text

namespace Definition

open Opening

/-- What the scans of a definition depend on. -/
structure Context where
  extensions : Extensions
  containers : List Container

namespace Context

/-- The margin of the next line behind the prefixes of the containers, and the
place where it stands. -/
def nextLine (k : Context) (c : Cursor) : Place × Margin :=
  let (continued, m) := Container.matching k.containers (Margin.ofLine c)
  (⟨k.extensions, k.containers, continued, .preamble⟩, m)

/-- Pass over what the next line starts with, unless it ends the paragraph or, on
condition, underlines it. -/
def goOn? (k : Context) (underlined : Place → Bool) (c : Cursor) : Option Margin :=
  let (place, m) := k.nextLine c
  let (missing, m) := m.useColumns 4
  let ends :=
    missing ≠ 0 && (interrupts place m.cursor || (underlined place && (underline? m.rest).isSome))
  if ends then none else some m

/-- Pass over what the next line starts with inside a label. -/
def goOnInLabel? (k : Context) (c : Cursor) : Option Cursor :=
  (k.goOn? Place.allContinued c).map Margin.cursor

end Context

/-- Pass over blanks and at most one end of a line; answers how many there were.
The first argument is that bound, and one. -/
def blanks? (k : Context) : (lines : Nat) → (ended : Nat) → Cursor → Option (Nat × Cursor)
  | 0, _, _ => none
  | lines + 1, ended, c =>
    let c := c.advance (Scan.countBlanks c.rest)
    match Scan.lineEnd? c.rest with
    | none => some (ended, c)
    | some n =>
      if lines = 0 then none
      else (k.goOn? (fun _ => true) (c.advance n)).bind fun m =>
        blanks? k lines (ended + 1) m.cursor

/-- The cursor after the closing character of a title. -/
def titleEnd? (k : Context) (close : Char) : Nat → Cursor → Option Cursor
  | 0, _ => none
  | fuel + 1, c =>
    match c.rest with
    | [] => none
    | '\n' :: _ | '\r' :: _ =>
      (k.goOn? (fun _ => true) (c.advance ((Scan.lineEnd? c.rest).getD 0))).bind fun m =>
        titleEnd? k close fuel m.skipBlanks.cursor
    | '\\' :: t =>
      let guarded := match t with
        | d :: _ => d ≠ '\n' && d ≠ '\r'
        | [] => false
      titleEnd? k close fuel (c.advance (if guarded then 2 else 1))
    | d :: _ =>
      if d = close then some (c.advance 1)
      else if close = ')' && d = '(' then none
      else titleEnd? k close fuel (c.advance 1)

/-- The cursor after a title. -/
def title? (k : Context) (c : Cursor) : Option Cursor :=
  match c.rest with
  | '\'' :: _ => titleEnd? k '\'' (c.rest.length + 1) (c.advance 1)
  | '"' :: _ => titleEnd? k '"' (c.rest.length + 1) (c.advance 1)
  | '(' :: _ => titleEnd? k ')' (c.rest.length + 1) (c.advance 1)
  | _ => none

/-- What follows the label and its colon: the destination, and the cursor after
the definition. What looks like a title but is none makes the definition end
before it, if it stands on a line of its own. -/
def body? (k : Context) (c : Cursor) : Option (Text × Cursor) :=
  (blanks? k 2 0 c).bind fun (_, c) =>
    (Link.destination? 1 c.rest).bind fun (n, written) =>
      if n = 0 then none
      else
        let url := Entity.decode false written
        let c := c.advance n
        match blanks? k 2 0 c with
        | none => some (url, c)
        | some (ended, after) =>
          if after.pos = c.pos && ended = 0 then none
          else
            let untitled := if ended = 0 then none else some (url, c)
            match title? k after with
            | some closed =>
              if Scan.isBlankLine closed.rest then some (url, closed) else untitled
            | none => untitled

/-- A definition that starts here, and the cursor after it and the blank rest of
its last line. -/
def read? (k : Context) (c : Cursor) : Option (Definition × Cursor) :=
  (Link.label? k.goOnInLabel? false c).bind fun (label, after) =>
    if Scan.startsWithChar ':' after.rest then
      (body? k (after.advance 1)).map fun (url, after) =>
        (⟨label, url⟩, after.advance ((Scan.blankLine? after.rest).getD 0))
    else none

end Definition

end TelegramMarkdown.Markdown
