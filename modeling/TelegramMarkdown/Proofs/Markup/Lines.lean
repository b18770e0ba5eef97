import TelegramMarkdown.Proofs.Markup

/-!
Quoting and trimming by tokens.

A quotation takes a text that is already escaped, cuts it into lines and puts `>`
before each of them; documents and nested lists are trimmed after they are written.
Neither step cuts a token: what it makes of the text of some tokens is the text of
other tokens (`quoteLines_writeAll`, `trim_writeAll`), which have the same markers
and links in the same order.
-/

namespace TelegramMarkdown.Markup

/-! ### Quoting in one pass -/

/-- Whether a quotation ends a line at the character. -/
def isLineEnd (c : Char) : Bool :=
  c = '\r' || c = '\n'

/-- What stands before the first character of a line, if the line is `fresh`. -/
def quoteLead (fresh : Bool) : Text :=
  if fresh then ['>'] else []

/-- What ends a line that has been started. -/
def quoteEnd (fresh : Bool) : Text :=
  if fresh then [] else ['\n']

/-- The quoted form of a part of a text, up to its last character. The lines are
`fresh` where nothing has been written of the line yet. -/
def quotePart : (fresh : Bool) → Text → Text
  | _, [] => []
  | fresh, c :: cs =>
    (if isLineEnd c then quoteEnd fresh else quoteLead fresh ++ [c]) ++
      quotePart (isLineEnd c) cs

/-- Whether the line is fresh after a part of a text. -/
def freshAfter : (fresh : Bool) → Text → Bool
  | fresh, [] => fresh
  | _, c :: cs => freshAfter (isLineEnd c) cs

theorem quotePart_append (fresh : Bool) (s t : Text) :
    quotePart fresh (s ++ t) = quotePart fresh s ++ quotePart (freshAfter fresh s) t := by
  induction s generalizing fresh with
  | nil => rfl
  | cons c cs ih => simp [quotePart, freshAfter, ih]

theorem freshAfter_append (fresh : Bool) (s t : Text) :
    freshAfter fresh (s ++ t) = freshAfter (freshAfter fresh s) t := by
  induction s generalizing fresh with
  | nil => rfl
  | cons c cs ih => simp [freshAfter, ih]

/-- A line of a quotation, if it is not empty. -/
def quoteLine (line : Text) : Text :=
  if line.isEmpty then [] else '>' :: line ++ ['\n']

/-- With `line :: lines` the lines of a text, quoting the text in one pass quotes
these lines. In the middle of a line its rest is `line`, which gets no mark. -/
theorem quotePart_eq_lines {t line : Text} {lines : List Text}
    (h : Text.splitAt isLineEnd t = line :: lines) :
    quotePart true t ++ quoteEnd (freshAfter true t) = (line :: lines).flatMap quoteLine ∧
      quotePart false t ++ quoteEnd (freshAfter false t) =
        line ++ '\n' :: lines.flatMap quoteLine := by
  induction t generalizing line lines with
  | nil =>
    obtain ⟨rfl, rfl⟩ : line = [] ∧ lines = [] := by simpa [Text.splitAt, eq_comm] using h
    exact ⟨rfl, rfl⟩
  | cons c cs ih =>
    obtain ⟨next, others, hcs⟩ := List.exists_cons_of_ne_nil (Text.splitAt_ne_nil isLineEnd cs)
    obtain ⟨atStart, inLine⟩ := ih hcs
    cases hc : isLineEnd c with
    | true =>
      rw [Text.splitAt_cons_of_cut hc, hcs] at h
      obtain ⟨rfl, rfl⟩ := List.cons.inj h
      constructor
      · simpa [quotePart, freshAfter, hc, quoteEnd, quoteLine] using atStart
      · simpa [quotePart, freshAfter, hc, quoteEnd] using atStart
    | false =>
      rw [Text.splitAt_cons_of_not_cut hc hcs] at h
      obtain ⟨rfl, rfl⟩ := List.cons.inj h
      constructor
      · simpa [quotePart, freshAfter, hc, quoteLead, quoteLine] using inLine
      · simpa [quotePart, freshAfter, hc, quoteLead] using inLine

theorem quoteLines_eq_quotePart (t : Text) :
    quoteLines t = quotePart true t ++ quoteEnd (freshAfter true t) := by
  obtain ⟨line, lines, h⟩ := List.exists_cons_of_ne_nil (Text.splitAt_ne_nil isLineEnd t)
  have quoted : quoteLines t = (Text.splitAt isLineEnd t).flatMap quoteLine := by
    unfold quoteLines
    change List.flatMap _ (List.filter _ (Text.splitAt isLineEnd t)) = _
    induction Text.splitAt isLineEnd t with
    | nil => rfl
    | cons line lines ih =>
      cases line with
      | nil => simpa [quoteLine] using ih
      | cons c cs => simpa [quoteLine] using ih
  rw [quoted, h]
  exact (quotePart_eq_lines h).1.symm

/-! ### Quoting tokens -/

/-- A text without line ends is quoted by what stands before it. -/
theorem quotePart_of_no_end {t : Text} (fresh : Bool) (h : t.any isLineEnd = false)
    (ne : t ≠ []) :
    quotePart fresh t = quoteLead fresh ++ t ∧ freshAfter fresh t = false := by
  induction t generalizing fresh with
  | nil => exact absurd rfl ne
  | cons c cs ih =>
    rw [List.any_cons, Bool.or_eq_false_iff] at h
    obtain ⟨hc, hcs⟩ := h
    cases cs with
    | nil => simp [quotePart, freshAfter, hc]
    | cons d ds =>
      obtain ⟨quoted, fresh⟩ := ih false hcs (by simp)
      rw [quotePart, freshAfter, hc, quoted, fresh]
      simp [quoteLead]

section

variable (context : Context)

theorem guarded_quoteLead (fresh : Bool) :
    Escape.guarded context.stop (quoteLead fresh) = quoteLead fresh := by
  cases context <;> cases fresh <;> rfl

theorem guarded_quoteEnd (fresh : Bool) :
    Escape.guarded context.stop (quoteEnd fresh) = quoteEnd fresh := by
  cases context <;> cases fresh <;> rfl

theorem isLineEnd_stop : isLineEnd context.stop = false := by
  cases context <;> rfl

/-- Escaping a text and quoting it can change places: a line end is never escaped,
and no mark is put between a backslash and the character it escapes. -/
theorem quotePart_guarded (fresh : Bool) (t : Text) :
    quotePart fresh (Escape.guarded context.stop t) =
        Escape.guarded context.stop (quotePart fresh t) ∧
      freshAfter fresh (Escape.guarded context.stop t) = freshAfter fresh t := by
  have escape := Escape.guarded_cons context.stop_ne_slash
  induction t generalizing fresh with
  | nil => exact ⟨rfl, rfl⟩
  | cons c cs ih =>
    obtain ⟨quoted, after⟩ := ih (isLineEnd c)
    by_cases special : c = '\\' ∨ c = context.stop
    · have noEnd : isLineEnd c = false := by
        rcases special with rfl | rfl
        · rfl
        · exact isLineEnd_stop context
      have slash : isLineEnd '\\' = false := rfl
      rw [noEnd] at quoted after
      constructor
      · calc quotePart fresh (Escape.guarded context.stop (c :: cs))
            = quoteLead fresh ++ '\\' :: c :: Escape.guarded context.stop (quotePart false cs) := by
              simp [escape, special, quotePart, noEnd, slash, quoted, quoteLead]
          _ = Escape.guarded context.stop (quotePart fresh (c :: cs)) := by
              simp [quotePart, noEnd, Escape.guarded_append, guarded_quoteLead, escape, special]
      · simp [escape, special, freshAfter, noEnd, after]
    · constructor
      · rw [escape, if_neg special, List.singleton_append, quotePart, quotePart, quoted,
          Escape.guarded_append]
        split
        · rw [guarded_quoteEnd]
        · rw [Escape.guarded_append, guarded_quoteLead, escape, if_neg special,
            Escape.guarded_nil, List.append_nil]
      · rw [escape, if_neg special]
        exact after

/-- A payload in a quotation. Its first line is that of what opens the context, and
if it ends with a line end, what closes the context starts a line. -/
def quotePayload (t : Text) : Text :=
  quotePart false t ++ quoteLead (freshAfter false t)

theorem quotePayload_ne_nil {t : Text} (h : t ≠ []) : quotePayload t ≠ [] := by
  obtain ⟨c, cs, rfl⟩ := List.exists_cons_of_ne_nil h
  cases hc : isLineEnd c <;> simp [quotePayload, quotePart, hc, quoteEnd, quoteLead]

/-- A context in a quotation, with what opens and closes it. -/
theorem quotePart_context (opening : Text) (fresh : Bool) (t : Text)
    (noEnd : opening.any isLineEnd = false) (ne : opening ≠ []) :
    let written (payload : Text) : Text :=
      opening ++ Escape.guarded context.stop payload ++ context.closing
    quotePart fresh (written t) = quoteLead fresh ++ written (quotePayload t) ∧
      freshAfter fresh (written t) = false := by
  intro written
  obtain ⟨opened, openedAfter⟩ := quotePart_of_no_end fresh noEnd ne
  obtain ⟨inside, insideAfter⟩ := quotePart_guarded context false t
  have closingNoEnd : context.closing.any isLineEnd = false := by
    cases context <;> decide
  have closingNe : context.closing ≠ [] := by
    cases context <;> decide
  obtain ⟨closed, closedAfter⟩ :=
    quotePart_of_no_end (freshAfter false t) closingNoEnd closingNe
  constructor
  · simp only [written, quotePart_append, opened, openedAfter, inside, insideAfter, closed,
      quotePayload, Escape.guarded_append, guarded_quoteLead,
      List.append_assoc]
  · simp only [written, freshAfter_append, openedAfter, insideAfter, closedAfter]

end

/-- Whether the token is the end of a line. -/
def Token.isLineEnd : Token → Bool
  | .char c => Markup.isLineEnd c
  | _ => false

/-- What a token becomes in a quotation. -/
def Token.quoted (fresh : Bool) : Token → List Token
  | .char c =>
    if Markup.isLineEnd c then chars (quoteEnd fresh) else lead ++ [.char c]
  | .code content => lead ++ [.code (quotePayload content)]
  | .pre content => lead ++ [.pre (quotePayload content)]
  | .closeLink url => lead ++ [.closeLink (quotePayload url)]
  | token => lead ++ [token]
where
  lead : List Token := if fresh then [.quote] else []

/-- Tokens in a quotation. -/
def quoteTokens : (fresh : Bool) → List Token → List Token
  | fresh, [] => chars (quoteEnd fresh)
  | fresh, token :: rest => token.quoted fresh ++ quoteTokens token.isLineEnd rest

@[simp] theorem writeAll_lead (fresh : Bool) :
    writeAll (Token.quoted.lead fresh) = quoteLead fresh := by
  cases fresh <;> rfl

/-- Any token but the end of a line is quoted by what stands before it. -/
theorem writeAll_lead_append (fresh : Bool) (token : Token) :
    writeAll (Token.quoted.lead fresh ++ [token]) = quoteLead fresh ++ token.write := by
  simp

@[simp] theorem prose_quoteEnd (fresh : Bool) : Escape.prose (quoteEnd fresh) = quoteEnd fresh := by
  cases fresh <;> rfl

theorem quotePart_write_char (fresh : Bool) (c : Char) :
    quotePart fresh (Token.char c).write = writeAll ((Token.char c).quoted fresh) ∧
      freshAfter fresh (Token.char c).write = isLineEnd c := by
  by_cases hc : Escape.IsMarkup c
  · have noEnd : isLineEnd c = false := hc.eq_false (by decide) (by decide)
    have slash : isLineEnd '\\' = false := rfl
    have noLead : quoteLead false = [] := rfl
    simp [Token.write, Token.quoted, Escape.prose_singleton_of_markup hc, quotePart, freshAfter,
      noEnd, slash, noLead]
  · cases hend : isLineEnd c <;>
      simp [Token.write, Token.quoted, Escape.prose_singleton_of_not_markup hc, quotePart,
        freshAfter, hend]

/-- Quoting the text of a token gives the text of its quoted form. -/
theorem quotePart_write (fresh : Bool) (token : Token) :
    quotePart fresh token.write = writeAll (token.quoted fresh) ∧
      freshAfter fresh token.write = token.isLineEnd := by
  cases token with
  | char c => exact quotePart_write_char fresh c
  | mark m =>
    have noEnd : m.text.any isLineEnd = false := by
      cases m <;> decide
    have ne : m.text ≠ [] := by
      cases m <;> decide
    obtain ⟨quoted, after⟩ := quotePart_of_no_end fresh noEnd ne
    exact ⟨quoted.trans (writeAll_lead_append fresh (.mark m)).symm, after⟩
  | code content =>
    obtain ⟨quoted, after⟩ :=
      quotePart_context .code Marker.code fresh content (by decide) (by decide)
    exact ⟨quoted.trans (writeAll_lead_append fresh (.code _)).symm, after⟩
  | pre content =>
    obtain ⟨quoted, after⟩ :=
      quotePart_context .pre fence fresh content (by decide) (by decide)
    exact ⟨quoted.trans (writeAll_lead_append fresh (.pre _)).symm, after⟩
  | closeLink url =>
    obtain ⟨quoted, after⟩ :=
      quotePart_context .url "](".toList fresh url (by decide) (by decide)
    exact ⟨quoted.trans (writeAll_lead_append fresh (.closeLink _)).symm, after⟩
  | openLink => cases fresh <;> exact ⟨rfl, rfl⟩
  | quote => cases fresh <;> exact ⟨rfl, rfl⟩

theorem quotePart_writeAll (fresh : Bool) (tokens : List Token) :
    quotePart fresh (writeAll tokens) ++ quoteEnd (freshAfter fresh (writeAll tokens)) =
      writeAll (quoteTokens fresh tokens) := by
  induction tokens generalizing fresh with
  | nil => simp [quotePart, freshAfter, quoteTokens]
  | cons token rest ih =>
    obtain ⟨quoted, after⟩ := quotePart_write fresh token
    rw [writeAll_cons, quotePart_append, freshAfter_append, quoted, after, List.append_assoc, ih,
      quoteTokens, writeAll_append]

theorem quoteLines_writeAll (tokens : List Token) :
    quoteLines (writeAll tokens) = writeAll (quoteTokens true tokens) := by
  rw [quoteLines_eq_quotePart, quotePart_writeAll]

/-! ### Trimming tokens -/

/-- Whether trimming takes the token away. -/
def Token.isBlank : Token → Bool
  | .char c => Text.isBlank c
  | _ => false

/-- Tokens without blanks at their end. -/
def trimTokensEnd (tokens : List Token) : List Token :=
  tokens.rdropWhile Token.isBlank

/-- Tokens without blanks at either end. -/
def trimTokens (tokens : List Token) : List Token :=
  trimTokensEnd (tokens.dropWhile Token.isBlank)

theorem isBlank_of_markup {c : Char} (h : Escape.IsMarkup c) : Text.isBlank c = false :=
  h.eq_false (by decide) (by decide)

/-- A blank is written as it is. -/
theorem write_of_blank {token : Token} (h : token.isBlank = true) :
    ∃ c, token.write = [c] ∧ Text.isBlank c = true := by
  cases token with
  | char c =>
    have notMarkup : ¬ Escape.IsMarkup c := by
      intro hc
      exact Bool.false_ne_true ((isBlank_of_markup hc).symm.trans h)
    exact ⟨c, Escape.prose_singleton_of_not_markup notMarkup, h⟩
  | mark _ | code _ | pre _ | openLink | closeLink _ | quote => nomatch h

/-- Any other token starts and ends with a character that is not blank, and only one that
shows a backslash ends with one. -/
theorem write_of_not_blank {token : Token} (h : token.isBlank = false) :
    (∃ c t, token.write = c :: t ∧ Text.isBlank c = false) ∧
      ∃ t c, token.write = t ++ [c] ∧ Text.isBlank c = false ∧ (c = '\\' → token = .char '\\') := by
  have other {c : Char} {p : Prop} (notSlash : c ≠ '\\') (same : c = '\\') : p :=
    absurd same notSlash
  cases token with
  | char c =>
    have shows : c = '\\' → Token.char c = .char '\\' := congrArg Token.char
    by_cases hc : Escape.IsMarkup c
    · have written := Escape.prose_singleton_of_markup hc
      exact ⟨⟨'\\', [c], written, rfl⟩, ['\\'], c, written, isBlank_of_markup hc, shows⟩
    · have written := Escape.prose_singleton_of_not_markup hc
      exact ⟨⟨c, [], written, h⟩, [], c, written, h, shows⟩
  | mark m =>
    cases m with
    | bold => exact ⟨⟨'*', [], rfl, rfl⟩, [], '*', rfl, rfl, other (by decide)⟩
    | underline => exact ⟨⟨'_', ['_'], rfl, rfl⟩, ['_'], '_', rfl, rfl, other (by decide)⟩
    | italic =>
      exact ⟨⟨'\u200B', ['_', '\u200B'], rfl, rfl⟩, ['\u200B', '_'], '\u200B', rfl, rfl,
        other (by decide)⟩
    | strikethrough => exact ⟨⟨'~', [], rfl, rfl⟩, [], '~', rfl, rfl, other (by decide)⟩
    | spoiler => exact ⟨⟨'|', ['|'], rfl, rfl⟩, ['|'], '|', rfl, rfl, other (by decide)⟩
  | code content =>
    exact ⟨⟨'`', Escape.code content ++ ['`'], rfl, rfl⟩, '`' :: Escape.code content, '`', rfl, rfl,
      other (by decide)⟩
  | pre content =>
    refine ⟨⟨'`', '`' :: '`' :: (Escape.code content ++ fence), rfl, rfl⟩,
      '`' :: '`' :: '`' :: (Escape.code content ++ ['`', '`']), '`', ?_, rfl, other (by decide)⟩
    simp [Token.write, fence]
  | openLink => exact ⟨⟨'[', [], rfl, rfl⟩, [], '[', rfl, rfl, other (by decide)⟩
  | closeLink url =>
    exact ⟨⟨']', '(' :: (Escape.linkUrl url ++ [')']), rfl, rfl⟩,
      ']' :: '(' :: Escape.linkUrl url, ')', rfl, rfl, other (by decide)⟩
  | quote => exact ⟨⟨'>', [], rfl, rfl⟩, [], '>', rfl, rfl, other (by decide)⟩

theorem trimEnd_writeAll (tokens : List Token) :
    Text.trimEnd (writeAll tokens) = writeAll (trimTokensEnd tokens) := by
  rw [Text.trimEnd_eq_rdropWhile, trimTokensEnd]
  induction tokens using List.reverseRecOn with
  | nil => rfl
  | append_singleton tokens token ih =>
    rw [writeAll_append, writeAll_cons, writeAll_nil, List.append_nil]
    cases h : token.isBlank with
    | true =>
      obtain ⟨c, written, blank⟩ := write_of_blank h
      rw [written, List.rdropWhile_concat_pos _ _ _ blank, ih, List.rdropWhile_concat_pos _ _ _ h]
    | false =>
      obtain ⟨-, t, c, written, notBlank, -⟩ := write_of_not_blank h
      rw [List.rdropWhile_concat_neg _ _ _ (by simp [h]), written, ← List.append_assoc,
        List.rdropWhile_concat_neg _ _ _ (by simp [notBlank])]
      simp [written]

theorem trimStart_writeAll (tokens : List Token) :
    Text.trimStart (writeAll tokens) = writeAll (tokens.dropWhile Token.isBlank) := by
  rw [Text.trimStart_eq_dropWhile]
  induction tokens with
  | nil => rfl
  | cons token rest ih =>
    rw [writeAll_cons]
    cases h : token.isBlank with
    | true =>
      obtain ⟨c, written, blank⟩ := write_of_blank h
      rw [written, List.singleton_append, List.dropWhile_cons_of_pos blank, ih,
        List.dropWhile_cons_of_pos h]
    | false =>
      obtain ⟨⟨c, t, written, notBlank⟩, -⟩ := write_of_not_blank h
      rw [List.dropWhile_cons_of_neg (by simp [h]), written, List.cons_append,
        List.dropWhile_cons_of_neg (by simp [notBlank])]
      simp [written]

theorem trim_writeAll (tokens : List Token) :
    Text.trim (writeAll tokens) = writeAll (trimTokens tokens) := by
  rw [Text.trim, trimStart_writeAll, trimEnd_writeAll, trimTokens]

end TelegramMarkdown.Markup
