import TelegramMarkdown.Proofs.Escape
import TelegramMarkdown.Proofs.Text
import TelegramMarkdown.Render.Block

/-!
MarkdownV2 as a sequence of tokens: characters, markers of style, spans of code,
and the two ends of links.

`writeAll` writes tokens one after the other; `read` goes through a text from left
to right and tells the tokens it meets. Reading is the inverse of writing
(`read_writeAll`), for any tokens in any order: no token can run into the next
one. Rendering is a matter of choosing tokens, so all that is said of markup in
rendered text goes through this module.
-/

namespace TelegramMarkdown.Markup

/-! ### Tokens -/

/-- The markers of style. One marker opens a span and an equal one closes it. -/
inductive Mark where
  | bold
  | underline
  | italic
  | strikethrough
  | spoiler
  deriving DecidableEq

/-- How a marker is written. -/
def Mark.text : Mark → Text
  | bold => Marker.bold
  | underline => Marker.underline
  | italic => Marker.italic
  | strikethrough => Marker.strikethrough
  | spoiler => Marker.spoiler

/-- What MarkdownV2 consists of. -/
inductive Token where
  /-- A character that is shown. -/
  | char (c : Char)
  /-- A marker of style, opening or closing. -/
  | mark (m : Mark)
  /-- A span of code. -/
  | code (content : Text)
  /-- A block of code, with all that stands between its fences. -/
  | pre (content : Text)
  /-- The start of the label of a link. -/
  | openLink
  /-- The end of the label of a link, with the URL. -/
  | closeLink (url : Text)
  /-- The mark of a quoted line. -/
  | quote
  deriving DecidableEq

/-- The places where text is not prose. -/
inductive Context where
  | code
  | pre
  | url

namespace Context

/-- What ends the context. -/
def closing : Context → Text
  | code => Marker.code
  | pre => fence
  | url => [')']

/-- The character that a backslash must escape in the context, besides the
backslash. -/
def stop : Context → Char
  | code => '`'
  | pre => '`'
  | url => ')'

/-- The token that ends with the context. -/
def token : Context → Text → Token
  | code => .code
  | pre => .pre
  | url => .closeLink

theorem stop_ne_slash (context : Context) : context.stop ≠ '\\' := by
  cases context <;> decide

theorem closing_eq (context : Context) :
    ∃ more, context.closing = context.stop :: more := by
  cases context with
  | code => exact ⟨[], rfl⟩
  | pre => exact ⟨['`', '`'], rfl⟩
  | url => exact ⟨[], rfl⟩

end Context

/-- How a token is written. -/
def Token.write : Token → Text
  | char c => Escape.prose [c]
  | mark m => m.text
  | code content => Marker.code ++ Escape.code content ++ Marker.code
  | pre content => fence ++ Escape.code content ++ fence
  | openLink => ['[']
  | closeLink url => "](".toList ++ Escape.linkUrl url ++ [')']
  | quote => ['>']

/-- Tokens written one after the other. -/
def writeAll (tokens : List Token) : Text :=
  tokens.flatMap Token.write

/-- A text as tokens that show it. -/
def chars (t : Text) : List Token :=
  t.map .char

@[simp] theorem writeAll_nil : writeAll [] = [] := rfl

@[simp] theorem writeAll_cons (token : Token) (tokens : List Token) :
    writeAll (token :: tokens) = token.write ++ writeAll tokens := rfl

@[simp] theorem writeAll_append (a b : List Token) :
    writeAll (a ++ b) = writeAll a ++ writeAll b := by
  simp [writeAll]

@[simp] theorem writeAll_chars (t : Text) : writeAll (chars t) = Escape.prose t := by
  induction t with
  | nil => rfl
  | cons c cs ih =>
    have split : Escape.prose (c :: cs) = Escape.prose [c] ++ Escape.prose cs :=
      Escape.prose_append [c] cs
    rw [split, ← ih]
    rfl

/-! ### Reading -/

/-- Where a reader is. Outside of prose it knows what it has read of the context,
newest character first. -/
inductive Mode where
  | prose
  | inside (context : Context) (payload : Text)

/-- What a reader has to tell of a text. -/
structure Reading where
  /-- The tokens that end in the text. -/
  tokens : List Token
  /-- The reserved characters of prose that no backslash escapes and that belong
  to no marker. -/
  strays : List Char
  /-- What the text ends inside of. -/
  mode : Mode
  /-- Whether the text ends in a backslash that escapes nothing. -/
  dangling : Bool

/-- A token read before the rest. -/
def Reading.push (token : Token) (r : Reading) : Reading :=
  { r with tokens := token :: r.tokens }

/-- A reserved character read before the rest. -/
def Reading.stray (c : Char) (r : Reading) : Reading :=
  { r with strays := c :: r.strays }

/-- Read a text from left to right. A backslash takes the next character with it,
everywhere. A backtick opens code up to the next backtick, and if there are
`fences`, three of them open a block of code up to the next three; `](` opens a URL
up to the next `)`. -/
def read (fences : Bool) : Mode → Text → Reading
  | mode, [] => ⟨[], [], mode, false⟩
  | mode, ['\\'] => ⟨[], [], mode, true⟩
  | .prose, '\\' :: c :: t => (read fences .prose t).push (.char c)
  | .prose, '*' :: t => (read fences .prose t).push (.mark .bold)
  | .prose, '~' :: t => (read fences .prose t).push (.mark .strikethrough)
  | .prose, '_' :: '_' :: t => (read fences .prose t).push (.mark .underline)
  | .prose, '\u200B' :: '_' :: '\u200B' :: t => (read fences .prose t).push (.mark .italic)
  | .prose, '|' :: '|' :: t => (read fences .prose t).push (.mark .spoiler)
  | .prose, '[' :: t => (read fences .prose t).push .openLink
  | .prose, ']' :: '(' :: t => read fences (.inside .url []) t
  | .prose, '>' :: t => (read fences .prose t).push .quote
  | .prose, '`' :: t =>
    if fences && Text.startsWith t ['`', '`'] then read fences (.inside .pre []) (t.drop 2)
    else read fences (.inside .code []) t
  | .prose, c :: t =>
    if c ∈ Escape.reserved then (read fences .prose t).stray c
    else (read fences .prose t).push (.char c)
  | .inside context payload, '\\' :: c :: t => read fences (.inside context (c :: payload)) t
  | .inside context payload, c :: t =>
    if Text.startsWith (c :: t) context.closing then
      (read fences .prose (t.drop (context.closing.length - 1))).push
        (context.token payload.reverse)
    else read fences (.inside context (c :: payload)) t
termination_by _ t => t.length

/-! ### Reading what is written -/

/-- Whether a reader takes a token for what it is wherever it stands. A reader
with fences takes two backticks and one more for a fence, so code must not be
empty; one without them knows no blocks of code. -/
def Token.IsReadable (fences : Bool) : Token → Prop
  | .code content => fences = true → content ≠ []
  | .pre _ => fences = true
  | _ => True

section

variable (fences : Bool)

/-- A context is read up to its end, and the escapes in it are undone. -/
theorem read_inside (context : Context) (payload content rest : Text) :
    read fences (.inside context payload)
        (Escape.guarded context.stop content ++ (context.closing ++ rest)) =
      (read fences .prose rest).push (context.token (payload.reverse ++ content)) := by
  have noSlash := context.stop_ne_slash
  obtain ⟨more, hclosing⟩ := context.closing_eq
  induction content generalizing payload with
  | nil =>
    have ends : Text.startsWith (context.stop :: (more ++ rest)) context.closing = true := by
      rw [← List.cons_append, ← hclosing]
      exact Text.startsWith_append _ _
    rw [Escape.guarded_nil, List.nil_append, hclosing, List.cons_append, read, if_pos ends]
    · simp [hclosing]
    · intro h
      exact absurd h noSlash
    · intro _ _ h
      exact absurd h noSlash
  | cons c cs ih =>
    rw [Escape.guarded_cons noSlash]
    split
    · simp [read, ih]
    · rename_i plain
      obtain ⟨notSlash, notStop⟩ := not_or.mp plain
      simp only [List.cons_append, List.nil_append]
      have goesOn (t : Text) : Text.startsWith (c :: t) (context.stop :: more) = false :=
        Text.startsWith_eq_false (fun u e => notStop (List.cons.inj e).1) more
      rw [read, hclosing, if_neg (by simp [goesOn]), ← hclosing, ih]
      · simp
      · intro h
        exact absurd h notSlash
      · intro _ _ h
        exact absurd h notSlash

/-- A character is read as itself, escaped or not. A zero-width space must not
stand before the rest of an italic marker. -/
theorem read_char (c : Char) (rest : Text)
    (h : ∀ u, rest ≠ '_' :: '\u200B' :: u) :
    read fences .prose ((Token.char c).write ++ rest) =
      (read fences .prose rest).push (.char c) := by
  by_cases hc : Escape.IsMarkup c
  · rw [Token.write, Escape.prose_singleton_of_markup hc]
    simp [read]
  · rw [Token.write, Escape.prose_singleton_of_not_markup hc, List.singleton_append]
    obtain ⟨notSlash, notReserved⟩ := not_or.mp hc
    rw [read, if_neg notReserved]
    all_goals simp_all [Escape.reserved]

theorem read_mark (m : Mark) (rest : Text) :
    read fences .prose ((Token.mark m).write ++ rest) =
      (read fences .prose rest).push (.mark m) := by
  cases m <;> simp [Token.write, Mark.text, Marker.bold, Marker.underline, Marker.italic,
    Marker.strikethrough, Marker.spoiler, read]

/-- Code that is not empty does not start with a backtick, so its opening backtick
is none of three. -/
theorem read_code (content rest : Text) (h : fences = true → content ≠ []) :
    read fences .prose ((Token.code content).write ++ rest) =
      (read fences .prose rest).push (.code content) := by
  have single : (fences && Text.startsWith
      (Escape.guarded '`' content ++ (Context.code.closing ++ rest)) ['`', '`']) = false := by
    cases fences with
    | false => rfl
    | true =>
      exact Text.startsWith_eq_false (Escape.guarded_head_ne (by decide) (h rfl) _) _
  calc read fences .prose ((Token.code content).write ++ rest)
      = read fences .prose
          ('`' :: (Escape.guarded '`' content ++ (Context.code.closing ++ rest))) := by
        simp [Token.write, Marker.code, Escape.code_eq_guarded, Context.closing]
    _ = read fences (.inside .code [])
          (Escape.guarded '`' content ++ (Context.code.closing ++ rest)) := by
        rw [read, single, if_neg Bool.false_ne_true]
    _ = (read fences .prose rest).push (.code content) :=
        read_inside fences .code [] content rest

/-- A block of code, for a reader that knows fences. -/
theorem read_pre (content rest : Text) :
    read true .prose ((Token.pre content).write ++ rest) =
      (read true .prose rest).push (.pre content) := by
  calc read true .prose ((Token.pre content).write ++ rest)
      = read true .prose
          ('`' :: '`' :: '`' :: (Escape.guarded '`' content ++ (Context.pre.closing ++ rest))) := by
        simp [Token.write, fence, Escape.code_eq_guarded, Context.closing]
    _ = read true (.inside .pre [])
          (Escape.guarded '`' content ++ (Context.pre.closing ++ rest)) := by
        rw [read, if_pos (by rfl)]
        rfl
    _ = (read true .prose rest).push (.pre content) :=
        read_inside true .pre [] content rest

theorem read_closeLink (url rest : Text) :
    read fences .prose ((Token.closeLink url).write ++ rest) =
      (read fences .prose rest).push (.closeLink url) := by
  calc read fences .prose ((Token.closeLink url).write ++ rest)
      = read fences .prose
          (']' :: '(' :: (Escape.guarded ')' url ++ (Context.url.closing ++ rest))) := by
        simp [Token.write, Escape.linkUrl_eq_guarded, Context.closing]
    _ = read fences (.inside .url [])
          (Escape.guarded ')' url ++ (Context.url.closing ++ rest)) := by
        rw [read]
    _ = (read fences .prose rest).push (.closeLink url) :=
        read_inside fences .url [] url rest

end

/-- No token starts like the rest of an italic marker: of the unescaped underscores
only those of an underline marker are written without a space before. -/
theorem writeAll_append_ne_italic_rest {rest : Text} (h : ∀ u, rest ≠ '_' :: '\u200B' :: u)
    (tokens : List Token) : ∀ u, writeAll tokens ++ rest ≠ '_' :: '\u200B' :: u := by
  intro u
  cases tokens with
  | nil => exact h u
  | cons token others =>
    cases token with
    | char c =>
      by_cases hc : Escape.IsMarkup c
      · simp [Token.write, Escape.prose_singleton_of_markup hc]
      · rw [writeAll_cons, Token.write, Escape.prose_singleton_of_not_markup hc]
        intro e
        exact hc (Or.inr ((List.cons.inj e).1 ▸ by decide))
    | mark m =>
      cases m <;> simp [Token.write, Mark.text, Marker.bold, Marker.underline, Marker.italic,
        Marker.strikethrough, Marker.spoiler]
    | code content => simp [Token.write, Marker.code]
    | pre content => simp [Token.write, fence]
    | openLink => simp [Token.write]
    | closeLink url => simp [Token.write]
    | quote => simp [Token.write]

section

variable (fences : Bool)

theorem read_write {token : Token} (readable : token.IsReadable fences) {rest : Text}
    (h : ∀ u, rest ≠ '_' :: '\u200B' :: u) :
    read fences .prose (token.write ++ rest) = (read fences .prose rest).push token := by
  cases token with
  | char c => exact read_char fences c rest h
  | mark m => exact read_mark fences m rest
  | code content => exact read_code fences content rest readable
  | pre content =>
    obtain rfl : fences = true := readable
    exact read_pre content rest
  | openLink => simp [Token.write, read]
  | closeLink url => exact read_closeLink fences url rest
  | quote => simp [Token.write, read]

/-- What tokens write is read as these tokens, whatever comes after it. -/
theorem read_writeAll_append (tokens : List Token) (h : ∀ token ∈ tokens, token.IsReadable fences)
    {rest : Text} (noItalic : ∀ u, rest ≠ '_' :: '\u200B' :: u) :
    read fences .prose (writeAll tokens ++ rest) =
      { read fences .prose rest with tokens := tokens ++ (read fences .prose rest).tokens } := by
  induction tokens with
  | nil => rfl
  | cons token others ih =>
    obtain ⟨readable, othersReadable⟩ := List.forall_mem_cons.mp h
    have after := writeAll_append_ne_italic_rest noItalic others
    rw [writeAll_cons, List.append_assoc, read_write fences readable after, ih othersReadable]
    rfl

/-- What tokens write is read as these tokens, to its end. -/
theorem read_writeAll (tokens : List Token) (h : ∀ token ∈ tokens, token.IsReadable fences) :
    read fences .prose (writeAll tokens) = ⟨tokens, [], .prose, false⟩ := by
  have whole : read fences .prose (writeAll tokens ++ []) = _ :=
    read_writeAll_append fences tokens h nofun
  rw [List.append_nil] at whole
  rw [whole]
  simp [read]

end

end TelegramMarkdown.Markup
