import TelegramMarkdown.Text

/-!
TOML values, and how keys and headers build tables.

A table is known by how it came about (`Toml.Origin`), for that decides whether
it may be added to: by a header only once, by dotted keys only where dotted keys
made it, and to an inline table never.
-/

namespace TelegramMarkdown.Toml

/-- How a table came about. -/
inductive Origin where
  /-- It is the document itself, or has a header of its own. -/
  | header
  /-- It is on the path of a header. -/
  | path
  /-- It is on the path of a dotted key. -/
  | dotted
  /-- It is written between braces. -/
  | inline
  deriving DecidableEq

/-- A decimal number: digits, and a power of ten. -/
structure Decimal where
  digits : Nat
  exponent : Int

mutual

/-- A value. -/
inductive Value where
  | string (text : Text)
  | integer (n : Int)
  | float (magnitude : Decimal)
  /-- An infinity, or not a number. -/
  | special
  | boolean (b : Bool)
  | dateTime
  | array (elements : List Value)
  /-- Tables with a header of double brackets each, the last one first. -/
  | tables (elements : List Table)
  | table (table : Table)

/-- A table: keys and their values, in order. -/
inductive Table where
  | mk (origin : Origin) (entries : List (Text × Value))

end

namespace Table

/-- How the table came about. -/
def origin : Table → Origin
  | ⟨origin, _⟩ => origin

/-- The keys of the table and their values. -/
def entries : Table → List (Text × Value)
  | ⟨_, entries⟩ => entries

/-- A table without keys. -/
def empty (origin : Origin) : Table :=
  ⟨origin, []⟩

/-- The value of a key. -/
def get? (t : Table) (key : Text) : Option Value :=
  t.entries.lookup key

/-- Give a key a value, in place of the one that it has. -/
def set (t : Table) (key : Text) (value : Value) : Table :=
  let entries := t.entries
  if entries.any (·.1 = key) then
    ⟨t.origin, entries.map fun entry => if entry.1 = key then (key, value) else entry⟩
  else ⟨t.origin, entries ++ [(key, value)]⟩

/-- Change the table at the end of a path. Tables on the path are made where they
are missing; a path through an array of tables leads to its last one. A dotted
path leads through no table that has a header, and no path through an inline
table. -/
def modifyAt (dotted : Bool) (change : Table → Option Table) : List Text → Table → Option Table
  | [], t => change t
  | key :: path, t =>
    match t.get? key with
    | none =>
      let fresh := empty (if dotted then .dotted else .path)
      (modifyAt dotted change path fresh).map fun made => t.set key (.table made)
    | some (.table inner) =>
      if inner.origin = .inline || (dotted && inner.origin = .header) then none
      else (modifyAt dotted change path inner).map fun made => t.set key (.table made)
    | some (.tables (last :: before)) =>
      (modifyAt dotted change path last).map fun made => t.set key (.tables (made :: before))
    | some _ => none

/-- Give the last key of a dotted key its value. The key is new in its table, and
the table is the one at hand or made by dotted keys. -/
def insert (path : List Text) (key : Text) (value : Value) : Table → Option Table :=
  modifyAt true
    (fun t =>
      if decide (t.origin = .dotted) = path.isEmpty || (t.get? key).isSome then none
      else some (t.set key value))
    path

/-- Make the table of a header. It is new, or only on the path of other
headers. -/
def openTable (path : List Text) (key : Text) : Table → Option Table :=
  modifyAt false
    (fun t =>
      match t.get? key with
      | none => some (t.set key (.table (empty .header)))
      | some (.table ⟨.path, entries⟩) => some (t.set key (.table ⟨.header, entries⟩))
      | some _ => none)
    path

/-- Make one more table of a header in double brackets. -/
def openElement (path : List Text) (key : Text) : Table → Option Table :=
  modifyAt false
    (fun t =>
      match t.get? key with
      | none => some (t.set key (.tables [empty .header]))
      | some (.tables elements) => some (t.set key (.tables (empty .header :: elements)))
      | some _ => none)
    path

end Table

/-! ### Representable values -/

/-- Whether a number is one of 128 bits, with or without a sign. -/
def isRepresentableInteger (n : Int) : Bool :=
  -Int.pow 2 127 ≤ n && n < Int.pow 2 128

/-- Whether a number is not rounded to infinity in double precision: whether it
is less than the greatest double and half a unit. -/
def Decimal.isFinite (d : Decimal) : Bool :=
  let limit := Nat.pow 2 1024 - Nat.pow 2 970
  let size : Int := (Nat.toDigits 10 d.digits).length + d.exponent
  if d.digits = 0 || size < 309 then true
  else if 309 < size then false
  else if 0 ≤ d.exponent then d.digits * Nat.pow 10 d.exponent.toNat < limit
  else d.digits < limit * Nat.pow 10 (-d.exponent).toNat

mutual

/-- Whether all numbers in a value can be represented. -/
def Value.isRepresentable : Value → Bool
  | .integer n => isRepresentableInteger n
  | .float d => d.isFinite
  | .array elements => Value.areRepresentable elements
  | .tables elements => Table.areRepresentable elements
  | .table t => Table.isRepresentable t
  | _ => true

/-- Whether all numbers in values can be represented. -/
def Value.areRepresentable : List Value → Bool
  | [] => true
  | value :: rest => value.isRepresentable && Value.areRepresentable rest

/-- Whether all numbers in a table can be represented. -/
def Table.isRepresentable : Table → Bool
  | ⟨_, entries⟩ => Table.areEntriesRepresentable entries

/-- Whether all numbers in the values of keys can be represented. -/
def Table.areEntriesRepresentable : List (Text × Value) → Bool
  | [] => true
  | (_, value) :: rest => value.isRepresentable && Table.areEntriesRepresentable rest

/-- Whether all numbers in tables can be represented. -/
def Table.areRepresentable : List Table → Bool
  | [] => true
  | t :: rest => t.isRepresentable && Table.areRepresentable rest

end

end TelegramMarkdown.Toml
