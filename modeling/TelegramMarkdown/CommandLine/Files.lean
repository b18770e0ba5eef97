import TelegramMarkdown.Settings.Load

/-!
The files that a run reads and writes.

What a path leads to is not known: a run needs no more of files than `CommandLine.FileSystem`
says. The files of a single directory, by name, are one way to have them
(`CommandLine.Directory.system`).
-/

namespace TelegramMarkdown.CommandLine

/-! ### Reading and writing -/

/-- How the files of a directory are read and written. A write fails, or it replaces the
content of one file and leaves the others as they are. -/
structure FileSystem (Dir : Type) where
  /-- What comes of reading a path. -/
  read : Dir → (path : Text) → Reading
  /-- The directory after a path is written, unless that fails. -/
  write? : Dir → (path : Text) → Utf8.Bytes → Option Dir
  /-- Whether another path leads to the same file. -/
  Same : Dir → (path other : Text) → Prop
  same_self : ∀ d path, Same d path path
  read_of_same : ∀ {d path bytes after other}, write? d path bytes = some after →
    Same d path other → read after other = .content bytes
  read_of_not_same : ∀ {d path bytes after other}, write? d path bytes = some after →
    ¬ Same d path other → read after other = read d other

/-! ### A directory -/

/-- The files of a directory, by name. -/
abbrev Directory := List (Text × Utf8.Bytes)

namespace Directory

/-- The name of the file in the directory that a path leads to. -/
def name? (path : Text) : Option Text :=
  match (Text.splitAt (· = '/') path).reverse with
  | [] => none
  | name :: before =>
    let stays := match before.reverse with
      | [] => true
      | first :: more => first = ['.'] && more.all fun part => part.isEmpty || part = ['.']
    if stays && !name.isEmpty && name ≠ ['.'] && name ≠ ['.', '.'] then some name else none

/-- What comes of reading a path. -/
def read (d : Directory) (path : Text) : Reading :=
  match name? path with
  | none => .unreadable
  | some name =>
    match d.lookup name with
    | some bytes => .content bytes
    | none => .missing

/-- The directory with a file written; a path out of it leads nowhere. -/
def write? (d : Directory) (path : Text) (bytes : Utf8.Bytes) : Option Directory :=
  (name? path).map fun name => (name, bytes) :: d.filter (·.1 ≠ name)

theorem lookup_filter_ne (d : Directory) {name other : Text} (h : name ≠ other) :
    (d.filter (·.1 ≠ name)).lookup other = d.lookup other := by
  induction d with
  | nil => rfl
  | cons file files ih =>
    by_cases named : file.1 = name
    · have otherFile : (other == file.1) = false := beq_false_of_ne (named ▸ h.symm)
      rw [List.filter_cons_of_neg (by simpa using named), ih, List.lookup_cons, otherFile]
    · rw [List.filter_cons_of_pos (by simpa using named), List.lookup_cons, List.lookup_cons, ih]

theorem read_of_same {d after : Directory} {path other : Text} {bytes : Utf8.Bytes}
    (written : d.write? path bytes = some after) (same : name? path = name? other) :
    after.read other = .content bytes := by
  obtain ⟨name, leads, rfl⟩ := Option.map_eq_some_iff.mp written
  rw [read, ← same, leads]
  simp only [List.lookup_cons, beq_self_eq_true]

theorem read_of_not_same {d after : Directory} {path other : Text} {bytes : Utf8.Bytes}
    (written : d.write? path bytes = some after) (notSame : name? path ≠ name? other) :
    after.read other = d.read other := by
  obtain ⟨name, leads, rfl⟩ := Option.map_eq_some_iff.mp written
  rw [read, read]
  cases elsewhere : name? other with
  | none => rfl
  | some otherName =>
    have ne : name ≠ otherName := by
      rintro rfl
      exact notSame (leads.trans elsewhere.symm)
    simp only [List.lookup_cons, beq_false_of_ne ne.symm, lookup_filter_ne d ne]

/-- A directory is read and written by the names of its files. -/
def system : FileSystem Directory where
  read := read
  write? := write?
  Same _ path other := name? path = name? other
  same_self _ _ := rfl
  read_of_same := read_of_same
  read_of_not_same := read_of_not_same

end Directory

end TelegramMarkdown.CommandLine
