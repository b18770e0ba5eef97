import TelegramMarkdown.Proofs.Text.Offsets
import TelegramMarkdown.Spoiler

/-!
The parts of a text: what is found where, and that the parts are the whole text.

The search for spoilers carries a position and whether the next character is escaped;
both are told by the text before. So the parts from a place on are a function of the
text before it and the text after it (`Spoiler.partsAfter`), and the search is
described by what it does where text without a delimiter, a delimiter or a spoiler
comes next.
-/

namespace TelegramMarkdown.Spoiler

open Text (Lacks startsWith)

/-! ### Escapes -/

/-- Whether the character after a text is escaped. -/
def escapesAfter (before : Text) : Bool :=
  before.foldl escapes false

@[simp] theorem escapesAfter_concat (before : Text) (c : Char) :
    escapesAfter (before ++ [c]) = escapes (escapesAfter before) c := by
  simp [escapesAfter]

/-- The backslashes that end a text, if they are oddly many, escape what follows. -/
theorem escapesAfter_eq (before : Text) :
    escapesAfter before = decide ((before.reverse.takeWhile (· = '\\')).length % 2 = 1) := by
  induction before using List.reverseRecOn with
  | nil => rfl
  | append_singleton before c ih =>
    rw [escapesAfter_concat, ih, List.reverse_concat]
    by_cases isBackslash : c = '\\'
    · subst isBackslash
      simp only [escapes, decide_true, Bool.true_and, List.takeWhile_cons, if_true,
        List.length_cons, ← decide_not, decide_eq_decide]
      omega
    · simp [escapes, isBackslash]

theorem escapesAfter_delimiter (before : Text) : escapesAfter (before ++ delimiter) = false := by
  have two : before ++ delimiter = before ++ ['|'] ++ ['|'] := by simp [delimiter]
  rw [two, escapesAfter_concat]
  rfl

/-! ### Delimiters -/

theorem delimiter_append (t : Text) : delimiter ++ t = '|' :: '|' :: t := by
  simp [delimiter]

theorem startsWith_delimiter_iff {t : Text} :
    startsWith t delimiter = true ↔ ∃ rest, t = delimiter ++ rest := by
  constructor
  · exact Text.eq_append_of_startsWith
  · rintro ⟨rest, rfl⟩
    exact Text.startsWith_append _ _

/-- A line that holds no delimiter holds none either where the next line follows. -/
theorem lacks_of_line {line rest : Text} (lacks : Lacks delimiter [] line)
    (ends : ∀ u, rest ≠ '|' :: u) : Lacks delimiter rest line := by
  induction line with
  | nil => trivial
  | cons c cs ih =>
    obtain ⟨here, after⟩ := lacks
    refine ⟨?_, ih after⟩
    cases cs with
    | cons d ds =>
      rw [List.append_nil] at here
      rw [← List.cons_append, Text.startsWith_append_of_le (by simp [delimiter])]
      exact here
    | nil =>
      rw [← Bool.not_eq_true, startsWith_delimiter_iff]
      rintro ⟨more, same⟩
      exact ends more (List.cons.inj same).2

section

variable (verbatim : List Markdown.Span)

theorem isDelimiter_of_not_startsWith {t : Text} (h : startsWith t delimiter = false) (pos : Nat)
    (escaped : Bool) : isDelimiter verbatim pos escaped t = false := by
  rw [isDelimiter, h]
  rfl

theorem exists_of_isDelimiter {t : Text} {pos : Nat} {escaped : Bool}
    (h : isDelimiter verbatim pos escaped t = true) : ∃ rest, t = delimiter ++ rest := by
  rw [isDelimiter, Bool.and_eq_true, Bool.and_eq_true] at h
  exact startsWith_delimiter_iff.mp h.1.1

/-! ### The end of a spoiler -/

/-- The text up to the first delimiter on this line, when a text stands before it. -/
def upToAfter? (before t : Text) : Option Text :=
  upToDelimiter? verbatim before.length (escapesAfter before) t

theorem upToAfter?_cons {before : Text} {c : Char} {cs : Text} (noBreak : c ≠ '\n')
    (h : isDelimiter verbatim before.length (escapesAfter before) (c :: cs) = false) :
    upToAfter? verbatim before (c :: cs) =
      (upToAfter? verbatim (before ++ [c]) cs).map (c :: ·) := by
  rw [upToAfter?, upToDelimiter?, h, upToAfter?, escapesAfter_concat, List.length_append]
  simp [noBreak]

theorem upToAfter?_delimiter {before t : Text}
    (h : isDelimiter verbatim before.length (escapesAfter before) (delimiter ++ t) = true) :
    upToAfter? verbatim before (delimiter ++ t) = some [] := by
  rw [delimiter_append] at h ⊢
  rw [upToAfter?, upToDelimiter?, if_pos h]

/-- Text in which no delimiter starts is passed over. -/
theorem upToAfter?_append {p : Text} {rest : Text} (lacks : Lacks delimiter rest p)
    (noBreak : '\n' ∉ p) (before : Text) :
    upToAfter? verbatim before (p ++ rest) =
      (upToAfter? verbatim (before ++ p) rest).map (p ++ ·) := by
  induction p generalizing before with
  | nil => simp
  | cons c cs ih =>
    obtain ⟨notBreak, noBreakAfter⟩ := not_or.mp (mt List.mem_cons.mpr noBreak)
    rw [List.cons_append, upToAfter?_cons verbatim (Ne.symm notBreak)
      (isDelimiter_of_not_startsWith verbatim lacks.1 _ _), ih lacks.2 noBreakAfter]
    simp [Function.comp_def]

theorem upToAfter?_endOfLine {t : Text} (h : ∀ c u, t = c :: u → c = '\n') (before : Text) :
    upToAfter? verbatim before t = none := by
  cases t with
  | nil => rfl
  | cons c cs =>
    obtain rfl := h c cs rfl
    have noBar : startsWith ('\n' :: cs) delimiter = false := by
      rw [← Bool.not_eq_true, startsWith_delimiter_iff]
      rintro ⟨rest, same⟩
      rw [delimiter_append] at same
      exact absurd (List.cons.inj same).1 (by decide)
    rw [upToAfter?, upToDelimiter?, isDelimiter_of_not_startsWith verbatim noBar]
    rfl

theorem eq_of_upToDelimiter? {t content : Text} {pos : Nat} {escaped : Bool}
    (h : upToDelimiter? verbatim pos escaped t = some content) :
    ∃ rest, t = content ++ (delimiter ++ rest) := by
  induction t generalizing pos escaped content with
  | nil => cases h
  | cons c cs ih =>
    rw [upToDelimiter?] at h
    split at h
    case isTrue here =>
      cases h
      exact exists_of_isDelimiter verbatim here
    case isFalse =>
      split at h
      case isTrue => cases h
      case isFalse =>
        obtain ⟨inCs, found, rfl⟩ := Option.map_eq_some_iff.mp h
        obtain ⟨rest, rfl⟩ := ih found
        exact ⟨rest, rfl⟩

/-- A spoiler is a text between two delimiters. -/
theorem eq_of_contentAt? {t content : Text} {pos : Nat} {escaped : Bool}
    (h : contentAt? verbatim pos escaped t = some content) :
    ∃ rest, t = delimiter ++ (content ++ (delimiter ++ rest)) := by
  rw [contentAt?] at h
  split at h
  case isFalse => cases h
  case isTrue here =>
    obtain ⟨inside, rfl⟩ := exists_of_isDelimiter verbatim here
    obtain ⟨found, _⟩ := Option.filter_eq_some_iff.mp h
    obtain ⟨rest, rfl⟩ := eq_of_upToDelimiter? verbatim found
    exact ⟨rest, rfl⟩

/-! ### Parts after a text -/

/-- The parts of a text, when a text stands before it. -/
def partsAfter (before t : Text) : List Part :=
  partsFrom verbatim before.length (escapesAfter before) 0 t

/-- The content of a spoiler that starts a text, when a text stands before it. -/
def contentAfter? (before t : Text) : Option Text :=
  contentAt? verbatim before.length (escapesAfter before) t

theorem contentAfter?_delimiter {before t : Text}
    (h : isDelimiter verbatim before.length (escapesAfter before) (delimiter ++ t) = true) :
    contentAfter? verbatim before (delimiter ++ t) =
      (upToAfter? verbatim (before ++ delimiter) t).filter isTight := by
  have two : (before ++ delimiter).length = before.length + 2 := by simp [delimiter]
  rw [contentAfter?, contentAt?, if_pos h, upToAfter?, escapesAfter_delimiter, two,
    delimiter_append]
  rfl

theorem partsAfter_cons {before : Text} {c : Char} {cs : Text}
    (h : contentAfter? verbatim before (c :: cs) = none) :
    partsAfter verbatim before (c :: cs) = .plain c :: partsAfter verbatim (before ++ [c]) cs := by
  rw [contentAfter?] at h
  rw [partsAfter, partsFrom, h, partsAfter, escapesAfter_concat, List.length_append]
  rfl

/-- Text in which no delimiter starts is outside of spoilers. -/
theorem partsAfter_append {p rest : Text} (lacks : Lacks delimiter rest p) (before : Text) :
    partsAfter verbatim before (p ++ rest) =
      p.map .plain ++ partsAfter verbatim (before ++ p) rest := by
  induction p generalizing before with
  | nil => simp
  | cons c cs ih =>
    have absent : contentAfter? verbatim before (c :: (cs ++ rest)) = none := by
      rw [contentAfter?, contentAt?, isDelimiter_of_not_startsWith verbatim lacks.1]
      rfl
    rw [List.cons_append, partsAfter_cons verbatim absent, ih lacks.2]
    simp

theorem partsFrom_skip (pos : Nat) (escaped : Bool) (p rest : Text) :
    partsFrom verbatim pos escaped p.length (p ++ rest) =
      partsFrom verbatim (pos + p.length) (p.foldl escapes escaped) 0 rest := by
  induction p generalizing pos escaped with
  | nil => rfl
  | cons c cs ih =>
    rw [List.length_cons, List.cons_append, partsFrom, ih, List.foldl_cons]
    congr 1
    omega

/-- Behind a spoiler the search goes on as it would from there. -/
theorem partsAfter_spoiler {before content rest : Text}
    (h : contentAfter? verbatim before (delimiter ++ (content ++ (delimiter ++ rest))) =
      some content) :
    partsAfter verbatim before (delimiter ++ (content ++ (delimiter ++ rest))) =
      .hidden content ::
        partsAfter verbatim (before ++ delimiter ++ content ++ delimiter) rest := by
  have skipped := partsFrom_skip verbatim (before.length + 1) false
    ('|' :: (content ++ delimiter)) rest
  have closed : ('|' :: (content ++ delimiter)).foldl escapes false = false := by
    rw [← List.cons_append]
    exact escapesAfter_delimiter ('|' :: content)
  have length : ('|' :: (content ++ delimiter)).length = content.length + 3 := by
    simp [delimiter]
  have shape : delimiter ++ (content ++ (delimiter ++ rest)) =
      '|' :: ('|' :: (content ++ delimiter) ++ rest) := by
    simp [delimiter]
  rw [closed, length] at skipped
  rw [contentAfter?, shape] at h
  rw [partsAfter, shape, partsFrom, h, partsAfter, escapesAfter_delimiter]
  dsimp only
  rw [skipped]
  congr 2
  simp [delimiter]
  omega

/-! ### Marked text and contents -/

theorem marked_plain_append (p : Text) (n : Nat) (rest : List Part) :
    marked n (p.map .plain ++ rest) = p ++ marked n rest := by
  induction p with
  | nil => rfl
  | cons c cs ih => rw [List.map_cons, List.cons_append, marked, ih, List.cons_append]

theorem contents_plain_append (p : Text) (rest : List Part) :
    contents (p.map .plain ++ rest) = contents rest := by
  simp [contents]

theorem contents_plain (p : Text) : contents (p.map .plain) = [] := by
  simp [contents]

theorem contents_hidden (content : Text) (rest : List Part) :
    contents (.hidden content :: rest) = content :: contents rest := rfl

/-! ### The parts are the text -/

/-- A part as it stands in the text. -/
def Part.written : Part → Text
  | plain c => [c]
  | hidden content => delimiter ++ content ++ delimiter

/-- Parts as they stand in the text. -/
def written (parts : List Part) : Text :=
  parts.flatMap Part.written

theorem written_partsFrom (t : Text) (pos : Nat) (escaped : Bool) (skip : Nat) :
    written (partsFrom verbatim pos escaped skip t) = t.drop skip := by
  induction t generalizing pos escaped skip with
  | nil => cases skip <;> rfl
  | cons c cs ih =>
    cases skip with
    | succ n => exact ih _ _ n
    | zero =>
      rw [partsFrom]
      cases found : contentAt? verbatim pos escaped (c :: cs) with
      | none =>
        have after := ih (pos + 1) (escapes escaped c) 0
        simp only [written, List.flatMap_cons, Part.written, List.singleton_append] at after ⊢
        rw [after]
        rfl
      | some content =>
        obtain ⟨rest, shape⟩ := eq_of_contentAt? verbatim found
        have after := ih (pos + 1) false (content.length + 3)
        rw [delimiter_append] at shape
        obtain ⟨rfl, rfl⟩ := List.cons.inj shape
        simp only [written, List.flatMap_cons, Part.written] at after ⊢
        rw [after]
        simp [delimiter, List.drop_append]

theorem written_parts (t : Text) : written (parts verbatim t) = t :=
  written_partsFrom verbatim t 0 false 0

end

end TelegramMarkdown.Spoiler
