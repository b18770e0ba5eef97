import TelegramMarkdown.Markdown.Autolink
import TelegramMarkdown.Markdown.BlockStructure
import TelegramMarkdown.Markdown.Emphasis

/-!
Inline structure: how the tokens of a leaf block make its events
(`Inlines.events`).

Tokens are read from left to right. Code spans, autolinks and raw HTML come
first, as what they cover holds no further markup. An opening bracket waits for
its closing one; then the text after it, or a definition, decides whether the two
are a link. Emphasis is found last, apart in each link and outside of links.
-/

namespace TelegramMarkdown.Markdown

namespace Inlines

/-- What reading inlines depends on. -/
structure Context where
  extensions : Extensions
  /-- The containers around the block. -/
  containers : List Container
  inTable : Bool
  /-- The position where the block ends. -/
  stop : Nat
  /-- What a label refers to. -/
  lookup? : Text → Option Text

namespace Context

/-- Pass over what a line starts with. -/
def nextLine (k : Context) (c : Cursor) : Cursor :=
  Container.skipPrefixes k.containers c

end Context

/-! ### Code spans -/

/-- The text of a code span from a cursor to a position: a character that ends a
line is a space, and in a table a pipe needs no backslash. The first argument
bounds the steps. -/
def codeText (k : Context) (stop : Nat) : Nat → Cursor → Text
  | 0, _ => []
  | n + 1, c =>
    if stop ≤ c.pos then []
    else
      match c.rest with
      | [] => []
      | d :: t =>
        if d = '\n' || d = '\r' then
          ' ' :: codeText k stop n (k.nextLine (c.advance 1))
        else if d = '\\' && k.inTable && Scan.startsWithChar '|' t && c.pos + 1 < stop then
          '|' :: codeText k stop n (c.advance 2)
        else d :: codeText k stop n (c.advance 1)

/-- One space is dropped on both sides, if there is one on both and anything but
spaces between. -/
def trimCode (t : Text) : Text :=
  if t.head? = some ' ' && t.getLast? = some ' ' && t.any (· ≠ ' ') then (t.drop 1).dropLast
  else t

/-- The next run of so many backticks, and the tokens after it. -/
def closingBackticks? (length : Nat) : List Token → Option (Token × List Token)
  | [] => none
  | token :: rest =>
    match token.kind with
    | .backticks n _ =>
      if n = length then some (token, rest) else closingBackticks? length rest
    | _ => closingBackticks? length rest

/-! ### Reading tokens -/

/-- An opening bracket that waits for its closing one. -/
structure Bracket where
  isImage : Bool
  /-- A link may not hold another: the brackets around one open no link. -/
  active : Bool
  token : Token
  /-- The pieces before the bracket, newest first. -/
  before : List Piece

/-- What is read so far. -/
structure State where
  /-- The brackets that are open, innermost first. -/
  brackets : List Bracket
  /-- The pieces after the innermost of them, newest first. -/
  pieces : List Piece

namespace Bracket

/-- The bracket as text. -/
def asText (b : Bracket) : Piece :=
  .events [.text (if b.isImage then ['!', '['] else ['['])]

end Bracket

namespace State

/-- Append a piece. -/
def append (s : State) (piece : Piece) : State :=
  { s with pieces := piece :: s.pieces }

/-- Append text. -/
def text (s : State) (t : Text) : State :=
  s.append (.events [.text t])

/-- All pieces, with the open brackets as text. -/
def allPieces (s : State) : List Piece :=
  (s.brackets.foldl (fun pieces b => pieces ++ b.asText :: b.before) s.pieces).reverse

/-- Drop the innermost open bracket, which is text. -/
def dropBracket (s : State) (b : Bracket) (outer : List Bracket) : State :=
  ⟨outer, s.pieces ++ b.asText :: b.before⟩

/-- Make a link of what is between the innermost open bracket and its closing
one. -/
def link (s : State) (b : Bracket) (outer : List Bracket) (url : Text) (stop : Nat) : State :=
  let span : Span := ⟨b.token.start.pos, stop⟩
  let tag := if b.isImage then Tag.image url span else .link url span
  let events := Event.element tag (Emphasis.resolve s.pieces.reverse)
  let outer := if b.isImage then outer
    else outer.map fun o => if o.isImage then o else { o with active := false }
  ⟨outer, .events events :: b.before⟩

end State

/-- Drop the tokens that end before a cursor, and what of the next one stands
before it. -/
def continueAt (c : Cursor) (tokens : List Token) : List Token :=
  match tokens.dropWhile fun token => token.stop ≤ c.pos with
  | token :: rest =>
    if token.start.pos < c.pos then { token with start := c } :: rest else token :: rest
  | [] => []

/-- The text that a token covers. -/
def tokenText (token : Token) : Text :=
  token.start.textTo token.stop

/-- An autolink or raw HTML after a `<`: its event or events, and the cursor after
it. -/
def angled? (k : Context) (less next : Token) : Option (List Event × Cursor) :=
  let after := next.start.endingAt k.stop
  match Autolink.target? after.rest with
  | some n =>
    let url := after.rest.take n
    let stop := next.start.advance (n + 1)
    let span : Span := ⟨less.start.pos, stop.pos⟩
    some (Event.element (.autolink url span) [.text url], stop)
  | none =>
    let opening : Cursor := ⟨after.pos - 1, '<' :: after.rest⟩
    (HtmlTag.inline? (fun c => some (k.nextLine c)) opening).map fun (raw, stop) =>
      ([.inlineHtml raw ⟨less.start.pos, stop.pos⟩], next.start.moveTo stop.pos)

/-- How the text after a closing bracket refers to a definition. -/
inductive Referral where
  /-- By a label of its own, which ends at a position. -/
  | full (label : Text) (stop : Nat)
  /-- By `[]`; the tokens after it. -/
  | collapsed (rest : List Token)
  /-- Not at all. -/
  | shortcut

/-- How the tokens after a closing bracket refer to a definition. -/
def referral (k : Context) : List Token → Referral
  | ⟨.linkOpen, start, _⟩ :: rest =>
    let c := start.endingAt k.stop
    match c.rest with
    | '[' :: ']' :: _ => .collapsed (rest.drop 1)
    | _ =>
      match Link.label? (fun c => some (k.nextLine c)) k.inTable c with
      | some (label, after) => .full label after.pos
      | none => .shortcut
  | _ => .shortcut

/-- Mark the token in which a position lies as a closing bracket that looks no
label up; answers the tokens after it too. -/
def closeLabel (pos : Nat) : List Token → Option (List Token × List Token)
  | [] => none
  | token :: rest =>
    if token.stop ≤ pos then
      (closeLabel pos rest).map fun (tokens, after) => (token :: tokens, after)
    else some ({ token with kind := .linkClose false } :: rest, rest)

/-- The label between an opening and a closing bracket. -/
def ownLabel? (k : Context) (b : Bracket) (close : Token) : Option Text :=
  let start := if b.isImage then b.token.start.advance 1 else b.token.start
  (Link.label? (fun c => some (k.nextLine c)) k.inTable (start.endingAt close.stop)).bind
    fun (label, after) => if after.pos = close.stop then some label else none

/-- Read a closing bracket; answers the tokens to go on with too. -/
def closeBracket (k : Context) (close : Token) (mayRefer : Bool) (rest : List Token)
    (s : State) : State × List Token :=
  match s.brackets with
  | [] => (s.text [']'], rest)
  | b :: outer =>
    let noLink (rest : List Token) : State × List Token :=
      ((s.dropBracket b outer).text [']'], rest)
    if !b.active then noLink rest
    else
      let after := (close.start.advance (close.stop - close.start.pos)).endingAt k.stop
      match Link.inlineTarget? k.nextLine k.inTable after with
      | some (url, stop) =>
        (s.link b outer url stop.pos, continueAt (close.start.moveTo stop.pos) rest)
      | none =>
        let refer (label? : Option Text) (stop : Nat) (after rest : List Token) :=
          match label?.bind k.lookup? with
          | some url => (s.link b outer url stop, after)
          | none => noLink rest
        match referral k rest with
        | .full label stop =>
          match closeLabel (stop - 1) rest with
          | some (marked, after) => refer (some label) stop after marked
          | none => noLink rest
        | .collapsed after =>
          if mayRefer then refer (ownLabel? k b close) close.stop after rest else noLink rest
        | .shortcut =>
          if mayRefer then refer (ownLabel? k b close) close.stop rest rest else noLink rest

/-- Read a run of backticks; answers the tokens to go on with too. The first
backtick is text when a backslash guards it. -/
def readBackticks (k : Context) (token : Token) (length : Nat) (guarded : Bool)
    (rest : List Token) (s : State) : State × List Token :=
  let opening := if guarded then length - 1 else length
  match if opening = 0 then none else closingBackticks? opening rest with
  | none => (s.text (tokenText token), rest)
  | some (closing, after) =>
    let s := if guarded then s.text ['`'] else s
    let start := token.start.moveTo token.stop
    let content := trimCode (codeText k closing.start.pos (closing.start.pos - start.pos) start)
    let span : Span := ⟨token.start.pos + if guarded then 1 else 0, closing.stop⟩
    (s.append (.events [.code content span]), after)

/-- Read one token; answers the tokens to go on with too. -/
def step (k : Context) (token : Token) (rest : List Token) (s : State) : State × List Token :=
  match token.kind with
  | .text => (s.text (tokenText token), rest)
  | .decoded t => (s.text t, rest)
  | .softBreak => (s.append (.events [.softBreak]), rest)
  | .hardBreak backslash => (s.append (.hardBreak backslash), rest)
  | .checkbox checked => (s.append (.events [.checkbox checked]), rest)
  | .run c n opens closes => (s.append (.run ⟨c, n, opens, closes⟩), rest)
  | .backticks n guarded => readBackticks k token n guarded rest s
  | .linkOpen => (⟨⟨false, true, token, s.pieces⟩ :: s.brackets, []⟩, rest)
  | .imageOpen => (⟨⟨true, true, token, s.pieces⟩ :: s.brackets, []⟩, rest)
  | .linkClose mayRefer => closeBracket k token mayRefer rest s
  | .less =>
    match rest.head?.bind (angled? k token) with
    | some (events, stop) => (s.append (.events events), continueAt stop rest)
    | none => (s.text ['<'], rest)

/-- Read tokens, at most as many as the first number says. -/
def readAll (k : Context) : Nat → List Token → State → State
  | 0, _, s => s
  | _, [], s => s
  | n + 1, token :: rest, s =>
    let (s, rest) := step k token rest s
    readAll k n rest s

/-- The events of tokens. -/
def events (k : Context) (tokens : List Token) : List Event :=
  Emphasis.resolve (readAll k tokens.length tokens ⟨[], []⟩).allPieces

end Inlines

end TelegramMarkdown.Markdown
