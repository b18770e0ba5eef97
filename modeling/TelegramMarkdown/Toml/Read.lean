import TelegramMarkdown.Toml.Scalar

/-!
Reading a TOML document (`Toml.read?`).
-/

namespace TelegramMarkdown.Toml

/-! ### Blanks and comments -/

/-- The text after a comment, which goes up to the end of its line. -/
def comment? : Text → Option Text
  | [] => some []
  | c :: t =>
    if (newline? (c :: t)).isSome then some (c :: t)
    else if isForbidden c then none
    else comment? t

/-- The text after spaces, line ends and comments. The first argument bounds the
number of lines. -/
def blanks? : Nat → Text → Option Text
  | 0, _ => none
  | n + 1, t =>
    match skipSpaces t with
    | '#' :: t => (comment? t).bind (blanks? n)
    | t =>
      match newline? t with
      | some rest => blanks? n rest
      | none => some t

/-- The text after the rest of a line that holds nothing but a comment. -/
def lineEnd? (t : Text) : Option Text :=
  let ended (t : Text) : Option Text :=
    match t with
    | [] => some []
    | t => newline? t
  match skipSpaces t with
  | '#' :: t => (comment? t).bind ended
  | t => ended t

/-! ### Keys -/

/-- The characters of a key without quotes. -/
def isBareKeyChar (c : Char) : Bool :=
  c.isAlphanum || c = '_' || c = '-'

/-- Read one part of a key. -/
def keyPart? (t : Text) : Option (Text × Text) :=
  match t with
  | '"' :: rest => lineString '"' [] 0 rest
  | '\'' :: rest => lineString '\'' [] 0 rest
  | _ =>
    let bare := t.takeWhile isBareKeyChar
    if bare.isEmpty then none else some (bare, t.drop bare.length)

/-- Read a key: the parts before its last dot, the part after it, and the text
after the key and the spaces around it. The first argument bounds the number of
parts. -/
def key? : Nat → Text → Option (List Text × Text × Text)
  | 0, _ => none
  | n + 1, t =>
    (keyPart? (skipSpaces t)).bind fun (part, t) =>
      match skipSpaces t with
      | '.' :: t => (key? n t).map fun (path, last, t) => (part :: path, last, t)
      | t => some ([], part, t)

/-! ### Values -/

/-- How deep arrays and inline tables may be nested. -/
def maxNesting : Nat := 80

mutual

/-- Read a value. The first argument bounds the size of the value, the second says
how many more arrays and tables may be nested in it. -/
def value? : Nat → Nat → Text → Option (Value × Text)
  | n + 1, depth + 1, '[' :: t =>
    (elements? n depth [] t).map fun (elements, t) => (.array elements, t)
  | n + 1, depth + 1, '\x7b' :: t =>
    (pairs? n depth (Table.empty .inline) t).map fun (table, t) => (.table table, t)
  | _, _, t => scalar? t

/-- Read the elements of an array up to its closing bracket, after those read
before, newest first. -/
def elements? : Nat → Nat → List Value → Text → Option (List Value × Text)
  | 0, _, _, _ => none
  | n + 1, depth, read, t =>
    (blanks? (t.length + 1) t).bind fun t =>
      match t with
      | ']' :: t => some (read.reverse, t)
      | t =>
        (value? n depth t).bind fun (value, t) =>
          (blanks? (t.length + 1) t).bind fun t =>
            match t with
            | ',' :: t => elements? n depth (value :: read) t
            | ']' :: t => some ((value :: read).reverse, t)
            | _ => none

/-- Read the keys and values of an inline table up to its closing brace, into a
table. -/
def pairs? : Nat → Nat → Table → Text → Option (Table × Text)
  | 0, _, _, _ => none
  | n + 1, depth, table, t =>
    (blanks? (t.length + 1) t).bind fun t =>
      match t with
      | '\x7d' :: t => some (table, t)
      | t =>
        (pair? n depth table t).bind fun (table, t) =>
          (blanks? (t.length + 1) t).bind fun t =>
            match t with
            | ',' :: t => pairs? n depth table t
            | '\x7d' :: t => some (table, t)
            | _ => none

/-- Read a key, an equals sign and a value, into a table. -/
def pair? : Nat → Nat → Table → Text → Option (Table × Text)
  | 0, _, _, _ => none
  | n + 1, depth, table, t =>
    match key? (t.length + 1) t with
    | some (path, key, '=' :: t) =>
      (value? n depth (skipSpaces t)).bind fun (value, t) =>
        (table.insert path key value).map fun table => (table, t)
    | _ => none

end

/-! ### Documents -/

/-- Read a header in brackets: its path and its last key. -/
def header? (close t : Text) : Option (List Text × Text × Text) :=
  (key? (t.length + 1) t).bind fun (path, key, t) =>
    (Text.dropLead? close t).map fun t => (path, key, t)

/-- Read the lines of a document, into the table of the last header, which is at
a path. The first argument bounds the number of lines. -/
def lines? : Nat → (current : List Text) → Table → Text → Option Table
  | 0, _, _, _ => none
  | n + 1, current, root, t =>
    match skipSpaces t with
    | [] => some root
    | '#' :: t => (lineEnd? ('#' :: t)).bind (lines? n current root)
    | '[' :: '[' :: t =>
      (header? "]]".toList t).bind fun (path, key, t) =>
        (root.openElement path key).bind fun root =>
          (lineEnd? t).bind (lines? n (path ++ [key]) root)
    | '[' :: t =>
      (header? "]".toList t).bind fun (path, key, t) =>
        (root.openTable path key).bind fun root =>
          (lineEnd? t).bind (lines? n (path ++ [key]) root)
    | t =>
      match newline? t with
      | some rest => lines? n current root rest
      | none =>
        match key? (t.length + 1) t with
        | some (path, key, '=' :: t) =>
          (value? (3 * t.length + 3) maxNesting (skipSpaces t)).bind fun (value, t) =>
            (root.modifyAt false (Table.insert path key value) current).bind fun root =>
              (lineEnd? t).bind (lines? n current root)
        | _ => none

/-- The table that a document describes. A byte order mark may stand before
it. -/
def read? (t : Text) : Option Table :=
  let t := match t with
    | '\uFEFF' :: t => t
    | t => t
  lines? (t.length + 1) [] (Table.empty .header) t

end TelegramMarkdown.Toml
