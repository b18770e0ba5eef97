import TelegramMarkdown.Markdown.Event

/-!
Emphasis: which delimiter runs of a text belong together (`Emphasis.resolve`).

Runs are read from left to right. One that may close emphasis looks back for the
nearest run of its kind that may open it; the runs in between become text. What
is left of a run may close further emphasis or open it, and what is left of
every run in the end is text.
-/

namespace TelegramMarkdown.Markdown

/-- A delimiter run. -/
structure Run where
  char : Char
  length : Nat
  opens : Bool
  closes : Bool

/-- A part of a text in which links and code are known but emphasis is not. -/
inductive Piece where
  | events (events : List Event)
  | run (run : Run)
  /-- A hard line break, made by a backslash or by blanks. -/
  | hardBreak (backslash : Bool)

namespace Emphasis

/-- A run that may open emphasis, with how many of its delimiters are left. -/
structure Opener where
  run : Run
  left : Nat
  /-- The events after the run, newest first. -/
  after : List Event

namespace Opener

/-- Whether the run may also close emphasis. -/
def both (o : Opener) : Bool :=
  o.run.opens && o.run.closes

/-- The opener as text, before what follows it; newest first. -/
def asText (o : Opener) : List Event :=
  o.after ++ [.text (List.replicate o.left o.run.char)]

/-- Whether the run may be closed by another. Runs of tildes have the same length.
For the others, when one of the two may both open and close, their lengths do
not add up to a multiple of three unless both are multiples of three. -/
def matchedBy (o : Opener) (r : Run) : Bool :=
  o.run.char = r.char &&
    if r.char = '~' then o.run.length = r.length
    else (!(r.opens && r.closes) && !o.both) || (r.length + o.run.length) % 3 ≠ 0 ||
      r.length % 3 = 0

end Opener

/-- The kinds of closing runs whose fruitless searches are remembered apart. -/
structure Kind where
  char : Char
  /-- The length modulo three, where it matters. -/
  residue : Option Nat
  deriving DecidableEq

/-- How many of the oldest openers a search need not look at, by kind of closing
run. -/
abbrev Bounds := List (Kind × Nat)

namespace Bounds

/-- The bound of a kind. -/
def get (b : Bounds) (k : Kind) : Nat :=
  (b.lookup k).getD 0

/-- Set the bound of a kind. -/
def set (b : Bounds) (k : Kind) (n : Nat) : Bounds :=
  (k, n) :: b.filter (·.1 ≠ k)

/-- The openers that a run need not look at. -/
def ofRun (b : Bounds) (r : Run) : Nat :=
  let exact := b.get ⟨r.char, some (r.length % 3)⟩
  let always := b.get ⟨r.char, none⟩
  if r.char = '~' then always
  else if r.opens && r.closes then exact
  else min exact always

/-- Remember that a run found nothing among `n` openers. -/
def failed (b : Bounds) (r : Run) (n : Nat) : Bounds :=
  let exact : Kind := ⟨r.char, some (r.length % 3)⟩
  let always : Kind := ⟨r.char, none⟩
  let both := r.opens && r.closes
  if r.char = '*' then
    let b := b.set exact n
    if both then b else b.set always n
  else if r.char = '_' && both then b.set exact n
  else b.set always n

/-- Only `n` openers are left. -/
def truncate (b : Bounds) (n : Nat) : Bounds :=
  b.map fun (k, bound) => (k, min bound n)

end Bounds

/-- What is read so far. -/
structure State where
  /-- The events before the first opener, newest first. -/
  before : List Event
  /-- The openers, newest first. -/
  openers : List Opener
  bounds : Bounds

namespace State

/-- Append events. -/
def append (s : State) (events : List Event) : State :=
  match s.openers with
  | o :: older => { s with openers := { o with after := events.reverse ++ o.after } :: older }
  | [] => { s with before := events.reverse ++ s.before }

/-- Put an opener on top, if anything of it is left. -/
def push (s : State) (run : Run) (left : Nat) : State :=
  if left = 0 then s else { s with openers := ⟨run, left, []⟩ :: s.openers }

/-- All events, with the openers as text. -/
def events (s : State) : List Event :=
  (s.openers.flatMap Opener.asText ++ s.before).reverse

end State

/-- The nearest opener that a run closes, among the `n` newest: the events after
it, with the openers between as text, the opener, and the older ones. -/
def find? (r : Run) (after : List Event) : Nat → List Opener → Option (List Event × Opener × List Opener)
  | 0, _ => none
  | _, [] => none
  | n + 1, o :: older =>
    if o.matchedBy r then some (after ++ o.after, o, older)
    else find? r (after ++ o.asText) n older

/-- Wrap events in emphasis by `n` delimiters, two at a time from the inside, and
a single one last. -/
def wrap (c : Char) : (n : Nat) → List Event → List Event
  | 0, events => events
  | 1, events => Event.element (.emphasis c 1) events
  | n + 2, events => wrap c n (Event.element (.emphasis c 2) events)

/-- Let a run close what it can with `left` of its delimiters; the first number
bounds the steps. -/
def close (r : Run) : (fuel left : Nat) → State → Nat × State
  | 0, left, s => (left, s)
  | fuel + 1, left, s =>
    if left = 0 then (0, s)
    else
      let bound := min s.openers.length (s.bounds.ofRun r)
      match find? r [] (s.openers.length - bound) s.openers with
      | none => (left, { s with bounds := s.bounds.failed r s.openers.length })
      | some (inner, o, older) =>
        let n := min left o.left
        let s : State := ⟨s.before, older, s.bounds.truncate older.length⟩
        let s := (s.push o.run (o.left - n)).append (wrap r.char n inner.reverse)
        close r fuel (left - n) s

/-- Read a run. -/
def readRun (r : Run) (s : State) : State :=
  let (left, s) := if r.closes then close r (r.length + 1) r.length s else (r.length, s)
  if r.opens then s.push r left
  else if left = 0 then s
  else s.append [.text (List.replicate left r.char)]

/-- Whether a piece is a delimiter run. -/
def isRun : Piece → Bool
  | .run _ => true
  | _ => false

/-- Read pieces. In a text with delimiter runs a backslash at its very end breaks
no line and is text. -/
def readAll (anyRun : Bool) : List Piece → State → State
  | [], s => s
  | .events events :: rest, s => readAll anyRun rest (s.append events)
  | .run r :: rest, s => readAll anyRun rest (readRun r s)
  | .hardBreak backslash :: rest, s =>
    let event := if anyRun && backslash && rest.isEmpty then Event.text ['\\'] else .hardBreak
    readAll anyRun rest (s.append [event])

/-- The events of a text. -/
def resolve (pieces : List Piece) : List Event :=
  (readAll (pieces.any isRun) pieces ⟨[], [], []⟩).events

end Emphasis

end TelegramMarkdown.Markdown
