import TelegramMarkdown.Settings
import TelegramMarkdown.Text.Utf8
import TelegramMarkdown.Toml.Read

/-!
Settings from a configuration file: a TOML document whose table `parser` switches
extensions on and off. What it does not name is on, and keys that mean nothing
are passed over.
-/

namespace TelegramMarkdown

namespace Settings

/-! ### From TOML -/

/-- The names of the flags, in order. -/
def flagNames : List Text :=
  ["tables", "task_lists", "strikethrough", "spoilers", "autolinks", "definition_lists",
    "alerts"].map String.toList

/-- The settings with the `n`-th flag set. -/
def setFlag (s : Settings) (n : Nat) (value : Bool) : Settings :=
  match n with
  | 0 => { s with tables := value }
  | 1 => { s with taskLists := value }
  | 2 => { s with strikethrough := value }
  | 3 => { s with spoilers := value }
  | 4 => { s with autolinks := value }
  | 5 => { s with definitionLists := value }
  | 6 => { s with alerts := value }
  | _ => s

/-- The settings with flags set by name. -/
def ofEntries? : List (Text × Toml.Value) → Settings → Option Settings
  | [], s => some s
  | (key, value) :: rest, s =>
    match flagNames.idxOf? key, value with
    | some n, .boolean b => ofEntries? rest (s.setFlag n b)
    | some _, _ => none
    | none, value => if value.isRepresentable then ofEntries? rest s else none

/-- The settings with flags set in order, from the `n`-th on. Values beyond the
last flag are not looked at. -/
def ofElements? (n : Nat) : List Toml.Value → Settings → Option Settings
  | [], s => some s
  | value :: rest, s =>
    if flagNames.length ≤ n then some s
    else match value with
      | .boolean b => ofElements? (n + 1) rest (s.setFlag n b)
      | _ => none

/-- The settings that a value describes: a table of flags, or an array of them in
order. A date counts as a table without flags. -/
def ofValue? : Toml.Value → Option Settings
  | .table t => ofEntries? t.entries default
  | .array elements => ofElements? 0 elements default
  | .dateTime => some default
  | _ => none

/-- The settings that a document describes. -/
def ofTable? (t : Toml.Table) : Option Settings :=
  let key := "parser".toList
  if t.entries.all fun entry => entry.1 = key || entry.2.isRepresentable then
    match t.get? key with
    | some value => ofValue? value
    | none => some default
  else none

/-- The settings that a configuration file describes. -/
def ofToml? (t : Text) : Option Settings :=
  (Toml.read? t).bind ofTable?

/-! ### The configuration that comes with the program -/

/-- The configuration file with every extension on. -/
def bundledToml : Text :=
  ("[parser]\ntables = true\ntask_lists = true\nstrikethrough = true\nspoilers = true\n" ++
    "autolinks = true\ndefinition_lists = true\nalerts = true\n").toList

/-- The settings used where there is no configuration file. -/
def bundled : Settings :=
  (ofToml? bundledToml).getD default

end Settings

/-! ### From files -/

/-- What comes of an attempt to read a file. -/
inductive Reading where
  | missing
  /-- The file is there but cannot be read. -/
  | unreadable
  | content (bytes : Utf8.Bytes)

/-- Why settings cannot be loaded. -/
inductive LoadError where
  /-- There is no such file. -/
  | missing
  /-- The file cannot be read, or is not text. -/
  | unreadable
  /-- The text is no valid configuration. -/
  | invalid
  deriving DecidableEq

namespace LoadError

/-- What is said of the error, where it is known beforehand. -/
def message? : LoadError → Option Text
  | missing => some "I/O error: No such file or directory (os error 2)".toList
  | _ => none

end LoadError

namespace Settings

/-- Load settings from a file. -/
def load : Reading → Except LoadError Settings
  | .missing => .error .missing
  | .unreadable => .error .unreadable
  | .content bytes =>
    match Utf8.decode? bytes with
    | none => .error .unreadable
    | some t =>
      match ofToml? t with
      | some s => .ok s
      | none => .error .invalid

/-- Load settings from a file, or take those that come with the program if there
is no such file. -/
def loadOrBundled (r : Reading) : Except LoadError Settings :=
  match load r with
  | .error .missing => .ok bundled
  | result => result

end Settings

end TelegramMarkdown
