import Mathlib.Algebra.Group.Nat.Even
import TelegramMarkdown.Proofs.Spoiler.Offsets

/-!
Which spans of a text are spoilers, by the offsets of their bytes.

What marking replaces is a list of spans (`Spoiler.spansFrom`). Each of them goes from a
delimiter to the next one, and every delimiter outside of them could not have opened a
spoiler (`Spoiler.spans_exact`). Delimiters, spoilers and delimiters that open nothing are
described without the search: a delimiter is a `||` at an offset, and the next one is the
least that starts behind it.
-/

namespace TelegramMarkdown

namespace Text

/-! ### Places by their offsets -/

theorem eq_nil_of_size_eq_zero {t : Text} (h : size t = 0) : t = [] := by
  cases t with
  | nil => rfl
  | cons c cs =>
    have positive := c.utf8Size_pos
    rw [size] at h
    omega

/-- Of two places in a text, the one with the greater offset comes behind the other. -/
theorem exists_append_of_size_le {a b x y : Text} (same : a ++ x = b ++ y)
    (h : size a ≤ size b) : ∃ between, b = a ++ between ∧ x = between ++ y := by
  obtain ⟨between, hb, hx⟩ | ⟨between, rfl, rfl⟩ := List.append_eq_append_iff.mp same
  · exact ⟨between, hb, hx⟩
  · rw [size_append] at h
    obtain rfl := eq_nil_of_size_eq_zero (t := between) (by omega)
    exact ⟨[], by simp, rfl⟩

/-- Places with the same offset are the same. -/
theorem append_inj_of_size_eq {a b x y : Text} (same : a ++ x = b ++ y)
    (h : size a = size b) : a = b ∧ x = y := by
  obtain ⟨between, rfl, rfl⟩ := exists_append_of_size_le same (Nat.le_of_eq h)
  rw [size_append] at h
  obtain rfl := eq_nil_of_size_eq_zero (t := between) (by omega)
  exact ⟨(List.append_nil a).symm, rfl⟩

end Text

namespace Spoiler

open Markdown (Span)
open Text (size slice? charSpan)

/-! ### Delimiters and spoilers -/

/-- Whether a `||` stands at an offset, after an even number of backslashes and with
neither of its bytes in a range. -/
def IsDelimiterAt (ranges : List Span) (t : Text) (pos : Nat) : Prop :=
  ∃ before after, t = before ++ (delimiter ++ after) ∧ pos = size before ∧
    Even (before.reverse.takeWhile (· = '\\')).length ∧
    ∀ range ∈ ranges, range.contains pos = false ∧ range.contains (pos + 1) = false

/-- The first delimiter that starts two bytes behind an offset or later. -/
structure IsNextDelimiter (ranges : List Span) (t : Text) (pos next : Nat) : Prop where
  isDelimiter : IsDelimiterAt ranges t next
  behind : pos + 2 ≤ next
  first : ∀ other, IsDelimiterAt ranges t other → pos + 2 ≤ other → next ≤ other

/-- A text that is not hidden: it is empty, or has a blank at an end. -/
def IsLoose (content : Text) : Prop :=
  content = [] ∨ content.head?.any Text.isBlank = true ∨ content.getLast?.any Text.isBlank = true

/-- A span from a delimiter to the end of the next one, and the text between them. -/
structure IsSpoiler (ranges : List Span) (t : Text) (span : Span) (content : Text) : Prop where
  opens : IsDelimiterAt ranges t span.start
  closes : ∃ closing, IsNextDelimiter ranges t span.start closing ∧ span.stop = closing + 2 ∧
    slice? t (span.start + 2) closing = some content
  oneLine : '\n' ∉ content
  tight : ¬ IsLoose content

/-- A delimiter that opens no spoiler: no other one follows on its line, or the text up to
the next one is not hidden. -/
def OpensNothing (ranges : List Span) (t : Text) (pos : Nat) : Prop :=
  (∀ next, IsDelimiterAt ranges t next → pos + 2 ≤ next →
    ∃ between, slice? t (pos + 2) next = some between ∧ '\n' ∈ between) ∨
  ∃ closing content, IsNextDelimiter ranges t pos closing ∧
    slice? t (pos + 2) closing = some content ∧ '\n' ∉ content ∧ IsLoose content

theorem isTight_iff (content : Text) : isTight content = true ↔ ¬ IsLoose content := by
  simp [isTight, IsLoose, not_or, and_assoc]

section

variable (verbatim : List Span)

/-- Whether a delimiter starts a text, when a text stands before it. -/
def delimits (before rest : Text) : Bool :=
  isDelimiter verbatim before.length (escapesAfter before) rest

/-! ### The next delimiter -/

theorem upToAfter?_spec_some {before q content : Text}
    (h : upToAfter? verbatim before q = some content) :
    '\n' ∉ content ∧
      (∃ rest, q = content ++ rest ∧ delimits verbatim (before ++ content) rest = true) ∧
      ∀ p rest, q = p ++ rest → delimits verbatim (before ++ p) rest = true →
        content.length ≤ p.length := by
  induction q generalizing before content with
  | nil => cases h
  | cons c cs ih =>
    cases here : delimits verbatim before (c :: cs) with
    | true =>
      obtain ⟨after, shape⟩ := exists_of_isDelimiter verbatim here
      rw [shape] at here h
      rw [upToAfter?_delimiter verbatim here, Option.some_inj] at h
      subst h
      refine ⟨List.not_mem_nil, ⟨c :: cs, rfl, ?_⟩, fun _ _ _ _ => Nat.zero_le _⟩
      rw [List.append_nil, shape]
      exact here
    | false =>
      by_cases lineEnds : c = '\n'
      · rw [upToAfter?_endOfLine] at h
        · cases h
        · intro d u same
          rw [← (List.cons.inj same).1]
          exact lineEnds
      · rw [upToAfter?_cons verbatim lineEnds here] at h
        obtain ⟨inside, found, rfl⟩ := Option.map_eq_some_iff.mp h
        obtain ⟨oneLine, ⟨rest, rfl, closes⟩, first⟩ := ih found
        refine ⟨?_, ⟨rest, rfl, ?_⟩, ?_⟩
        · exact List.not_mem_cons_of_ne_of_not_mem (Ne.symm lineEnds) oneLine
        · rw [List.append_cons]
          exact closes
        · intro p others shape other
          cases p with
          | nil =>
            rw [List.nil_append] at shape
            rw [List.append_nil, ← shape, here] at other
            exact absurd other Bool.false_ne_true
          | cons d p =>
            obtain ⟨rfl, inRest⟩ := List.cons.inj shape
            rw [List.append_cons] at other
            exact Nat.succ_le_succ (first p others inRest other)

theorem upToAfter?_spec_none {before q : Text} (h : upToAfter? verbatim before q = none)
    {p rest : Text} (shape : q = p ++ rest)
    (other : delimits verbatim (before ++ p) rest = true) : '\n' ∈ p := by
  induction q generalizing before p with
  | nil =>
    obtain ⟨rfl, rfl⟩ := List.append_eq_nil_iff.mp shape.symm
    cases other
  | cons c cs ih =>
    cases p with
    | nil =>
      rw [List.nil_append] at shape
      rw [List.append_nil, ← shape] at other
      obtain ⟨after, bars⟩ := exists_of_isDelimiter verbatim other
      rw [bars] at other h
      rw [upToAfter?_delimiter verbatim other] at h
      cases h
    | cons d p =>
      obtain ⟨rfl, inRest⟩ := List.cons.inj shape
      by_cases lineEnds : c = '\n'
      · rw [lineEnds]
        exact List.mem_cons_self
      · cases here : delimits verbatim before (c :: cs) with
        | true =>
          obtain ⟨after, bars⟩ := exists_of_isDelimiter verbatim here
          rw [bars] at here h
          rw [upToAfter?_delimiter verbatim here] at h
          cases h
        | false =>
          rw [upToAfter?_cons verbatim lineEnds here, Option.map_eq_none_iff] at h
          rw [List.append_cons] at other
          exact List.mem_cons_of_mem _ (ih h inRest other)

/-! ### Every part by itself -/

/-- What the search finds where a part starts. -/
def Part.content? : Part → Option Text
  | plain _ => none
  | hidden content => some content

theorem partsAfter_eq_cons {before t : Text} {part : Part} {more : List Part}
    (h : partsAfter verbatim before t = part :: more) :
    ∃ rest, t = part.written ++ rest ∧ contentAfter? verbatim before t = part.content? ∧
      more = partsAfter verbatim (before ++ part.written) rest := by
  cases t with
  | nil => cases h
  | cons c cs =>
    cases found : contentAfter? verbatim before (c :: cs) with
    | none =>
      rw [partsAfter_cons verbatim found] at h
      obtain ⟨rfl, rfl⟩ := List.cons.inj h
      exact ⟨cs, rfl, rfl, rfl⟩
    | some content =>
      obtain ⟨rest, shape⟩ := eq_of_contentAt? verbatim found
      rw [shape] at found h
      rw [partsAfter_spoiler verbatim found] at h
      obtain ⟨rfl, rfl⟩ := List.cons.inj h
      refine ⟨rest, ?_, rfl, ?_⟩
      · rw [shape]
        simp [Part.written]
      · simp [Part.written]

theorem partsAfter_eq_append {before t : Text} {front back : List Part}
    (h : partsAfter verbatim before t = front ++ back) :
    ∃ rest, t = written front ++ rest ∧
      back = partsAfter verbatim (before ++ written front) rest := by
  induction front generalizing before t with
  | nil => exact ⟨t, rfl, by rw [written, List.flatMap_nil, List.append_nil]; exact h.symm⟩
  | cons part front ih =>
    obtain ⟨rest, rfl, _, more⟩ := partsAfter_eq_cons verbatim h
    obtain ⟨last, rfl, rfl⟩ := ih more.symm
    exact ⟨last, by simp [written], by simp [written]⟩

/-- Where a part of a text starts, the search finds its content or nothing. -/
theorem contentAfter?_of_parts {t : Text} {front back : List Part} {part : Part}
    (h : parts verbatim t = front ++ part :: back) :
    ∃ rest, t = written front ++ (part.written ++ rest) ∧
      contentAfter? verbatim (written front) (part.written ++ rest) = part.content? := by
  have whole : partsAfter verbatim [] t = front ++ part :: back := h
  obtain ⟨inside, rfl, more⟩ := partsAfter_eq_append verbatim whole
  obtain ⟨rest, rfl, found, _⟩ := partsAfter_eq_cons verbatim more.symm
  exact ⟨rest, rfl, found⟩

end

/-! ### Spans -/

/-- The span of a part at an offset, if it is hidden. -/
def Part.spanAt (pos : Nat) : Part → List Span
  | plain _ => []
  | hidden content => [⟨pos, pos + size (hidden content).written⟩]

/-- The spans of the hidden ones among parts, of which the first starts at an offset. -/
def spansFrom : (pos : Nat) → List Part → List Span
  | _, [] => []
  | pos, part :: rest => part.spanAt pos ++ spansFrom (pos + size part.written) rest

/-- The text from an offset on with a placeholder for each of the spans in it. -/
def replaced (t : Text) : (n last : Nat) → List Span → Option Text
  | _, last, [] => slice? t last (size t)
  | n, last, span :: rest =>
    (slice? t last span.start).bind fun before =>
      (replaced t (n + 1) span.stop rest).map (before ++ placeholder n ++ ·)

theorem size_written_cons (part : Part) (rest : List Part) :
    size (written (part :: rest)) = size part.written + size (written rest) := by
  rw [written, List.flatMap_cons, Text.size_append]
  rfl

theorem spansFrom_append (pos : Nat) (front back : List Part) :
    spansFrom pos (front ++ back) =
      spansFrom pos front ++ spansFrom (pos + size (written front)) back := by
  induction front generalizing pos with
  | nil => rfl
  | cons part front ih =>
    rw [List.cons_append, spansFrom, ih, spansFrom, size_written_cons, Nat.add_assoc,
      List.append_assoc]

theorem spansFrom_isEmpty (pos : Nat) (parts : List Part) :
    (spansFrom pos parts).isEmpty = (contents parts).isEmpty := by
  induction parts generalizing pos with
  | nil => rfl
  | cons part rest ih =>
    cases part with
    | plain c => exact ih _
    | hidden content => rfl

/-- No span starts before the parts do. -/
theorem le_start_of_mem_spansFrom {pos : Nat} {parts : List Part} {span : Span}
    (h : span ∈ spansFrom pos parts) : pos ≤ span.start := by
  induction parts generalizing pos with
  | nil => cases h
  | cons part rest ih =>
    rw [spansFrom, List.mem_append] at h
    obtain here | behind := h
    · cases part with
      | plain c => cases here
      | hidden content =>
        obtain rfl := List.mem_singleton.mp here
        exact Nat.le_refl pos
    · exact Nat.le_trans (Nat.le_add_right _ _) (ih behind)

/-- The spans are in the order of the text, and none reaches into the next. -/
theorem spansFrom_pairwise (pos : Nat) (parts : List Part) :
    (spansFrom pos parts).Pairwise fun a b => a.stop ≤ b.start := by
  induction parts generalizing pos with
  | nil => exact List.Pairwise.nil
  | cons part rest ih =>
    cases part with
    | plain c => exact ih _
    | hidden content =>
      refine List.Pairwise.cons ?_ (ih _)
      intro span behind
      exact le_start_of_mem_spansFrom behind

/-- The text with its spans replaced is the marked text of the parts. -/
theorem replaced_spansFrom {t done kept : Text} {parts : List Part}
    (ht : t = done ++ kept ++ written parts) (n : Nat) :
    replaced t n (size done) (spansFrom (size (done ++ kept)) parts) =
      some (kept ++ marked n parts) := by
  induction parts generalizing done kept n with
  | nil =>
    obtain rfl : t = done ++ kept := by simpa [written] using ht
    rw [spansFrom, replaced, Text.slice?_rest, marked, List.append_nil]
  | cons part rest ih =>
    cases part with
    | plain c =>
      have text : t = done ++ (kept ++ [c]) ++ written rest := by
        rw [ht]
        simp [written, Part.written]
      have moved : size (done ++ kept) + size (Part.plain c).written =
          size (done ++ (kept ++ [c])) := by
        rw [← List.append_assoc, Text.size_append (done ++ kept)]
        rfl
      have behind := ih text n
      rw [spansFrom, Part.spanAt, List.nil_append, moved, behind, marked]
      simp
    | hidden content =>
      have text : t = (done ++ kept ++ (Part.hidden content).written) ++ [] ++ written rest := by
        rw [ht]
        simp [written]
      have before : slice? t (size done) (size (done ++ kept)) = some kept := by
        rw [ht]
        exact Text.slice?_append done kept _
      have behind := ih text (n + 1)
      rw [List.append_nil, Text.size_append (done ++ kept)] at behind
      rw [spansFrom, Part.spanAt, List.singleton_append, replaced, before, Option.bind_some,
        behind, marked]
      simp

/-- Every place of a text where a character follows is that of a part outside of spoilers,
or one within a hidden part. -/
theorem exists_part_at {parts : List Part} {before rest : Text} {c : Char}
    (h : written parts = before ++ c :: rest) :
    ∃ front part back, parts = front ++ part :: back ∧
      size (written front) ≤ size before ∧
      size before < size (written front) + size part.written ∧
      (∀ d, part = .plain d → written front = before) := by
  induction parts generalizing before with
  | nil =>
    rw [written, List.flatMap_nil] at h
    cases before <;> cases h
  | cons part others ih =>
    have split : part.written ++ written others = before ++ c :: rest := h
    by_cases inPart : size before < size part.written
    · refine ⟨[], part, others, rfl, Nat.zero_le _, by rw [written]; simpa [size], ?_⟩
      rintro d rfl
      obtain ⟨between, shape, _⟩ := Text.exists_append_of_size_le split.symm (Nat.le_of_lt inPart)
      cases before with
      | nil => rfl
      | cons b before =>
        obtain ⟨rfl, nothing⟩ := List.cons.inj shape
        obtain ⟨rfl, rfl⟩ := List.append_eq_nil_iff.mp nothing.symm
        exact absurd inPart (Nat.lt_irrefl _)
    · obtain ⟨between, rfl, inRest⟩ :=
        Text.exists_append_of_size_le split (Nat.le_of_not_lt inPart)
      obtain ⟨front, found, back, rfl, le, lt, plain⟩ := ih inRest
      refine ⟨part :: front, found, back, rfl, ?_, ?_, ?_⟩
      · rw [size_written_cons, Text.size_append]
        omega
      · rw [size_written_cons, Text.size_append]
        omega
      · intro d isPlain
        rw [← plain d isPlain]
        rfl

/-! ### What the search finds, by offsets -/

section

variable (ranges : List Span)

/-- A delimiter is the same by its offset and by the text before it. -/
theorem isDelimiterAt_iff {t before rest : Text} (ht : t = before ++ rest) :
    IsDelimiterAt ranges t (size before) ↔
      delimits (ranges.map (charSpan t)) before rest = true := by
  have agree : ∀ after, rest = delimiter ++ after →
      (delimits (ranges.map (charSpan t)) before rest = true ↔
        Even (before.reverse.takeWhile (· = '\\')).length ∧
          ∀ range ∈ ranges, range.contains (size before) = false ∧
            range.contains (size before + 1) = false) := by
    rintro after rfl
    have same := Offsets.isDelimiter?_eq ranges before after
    rw [← ht, Offsets.isDelimiter?, Offsets.isEscaped?, ht, Text.slice?_before, ← ht,
      Option.map_some, Option.map_some, Option.some_inj] at same
    rw [delimits, ← same]
    simp [Nat.even_iff]
  constructor
  · rintro ⟨front, after, shape, offset, even, free⟩
    obtain ⟨rfl, rest⟩ := Text.append_inj_of_size_eq (ht.symm.trans shape) offset
    exact (agree after rest).mpr ⟨even, free⟩
  · intro isDelim
    obtain ⟨after, shape⟩ := exists_of_isDelimiter _ isDelim
    obtain ⟨even, free⟩ := (agree after shape).mp isDelim
    exact ⟨before, after, by rw [ht, shape], rfl, even, free⟩

/-- The delimiters from a place on, by the text between. -/
theorem exists_of_isDelimiterAt {t a q : Text} {pos : Nat} (ht : t = a ++ q)
    (h : IsDelimiterAt ranges t pos) (le : size a ≤ pos) :
    ∃ p rest, q = p ++ rest ∧ pos = size (a ++ p) ∧
      delimits (ranges.map (charSpan t)) (a ++ p) rest = true := by
  have isDelim := h
  obtain ⟨before, after, shape, rfl, _⟩ := h
  obtain ⟨p, rfl, rfl⟩ := Text.exists_append_of_size_le (ht.symm.trans shape) le
  exact ⟨p, _, rfl, rfl, (isDelimiterAt_iff ranges shape).mp isDelim⟩

theorem slice?_between {t a p rest : Text} (ht : t = a ++ (p ++ rest)) :
    slice? t (size a) (size (a ++ p)) = some p := by
  rw [ht, ← List.append_assoc]
  exact Text.slice?_append a p rest

/-- Where the search finds the end of a spoiler, the next delimiter is. -/
theorem isNextDelimiter_of_upToAfter? {t before q content : Text}
    (ht : t = before ++ delimiter ++ q)
    (h : upToAfter? (ranges.map (charSpan t)) (before ++ delimiter) q = some content) :
    IsNextDelimiter ranges t (size before) (size (before ++ delimiter ++ content)) ∧
      slice? t (size before + 2) (size (before ++ delimiter ++ content)) = some content ∧
      '\n' ∉ content := by
  have two : size (before ++ delimiter) = size before + 2 := Text.size_append _ _
  obtain ⟨oneLine, ⟨rest, rfl, closes⟩, first⟩ := upToAfter?_spec_some _ h
  have text : t = before ++ delimiter ++ content ++ rest := by rw [ht]; simp
  refine ⟨⟨(isDelimiterAt_iff ranges text).mpr closes, ?_, ?_⟩, ?_, oneLine⟩
  · rw [Text.size_append _ content, two]
    omega
  · intro other isDelim behind
    obtain ⟨p, others, shape, rfl, delim⟩ :=
      exists_of_isDelimiterAt ranges ht isDelim (by omega)
    have shorter := first p others shape delim
    obtain ⟨more, rfl⟩ : content <+: p :=
      List.prefix_of_prefix_length_le ⟨rest, shape⟩ ⟨others, rfl⟩ shorter
    rw [← List.append_assoc, Text.size_append _ more]
    omega
  · rw [← two]
    exact slice?_between ht

/-- Where the search finds a content, its delimiters make a spoiler. -/
theorem isSpoiler_of_contentAfter? {t before content rest : Text}
    (ht : t = before ++ ((Part.hidden content).written ++ rest))
    (h : contentAfter? (ranges.map (charSpan t)) before ((Part.hidden content).written ++ rest) =
      some content) :
    IsSpoiler ranges t
      ⟨size before, size before + size (Part.hidden content).written⟩ content := by
  have opens : delimits (ranges.map (charSpan t)) before
      ((Part.hidden content).written ++ rest) = true := by
    rw [contentAfter?, contentAt?] at h
    split at h
    case isTrue here => exact here
    case isFalse => cases h
  have shape : (Part.hidden content).written ++ rest =
      delimiter ++ (content ++ (delimiter ++ rest)) := by
    simp [Part.written]
  have isDelim := (isDelimiterAt_iff ranges ht).mpr opens
  rw [shape] at opens h ht
  rw [contentAfter?_delimiter _ opens] at h
  obtain ⟨found, tight⟩ := Option.filter_eq_some_iff.mp h
  obtain ⟨next, inside, oneLine⟩ :=
    isNextDelimiter_of_upToAfter? ranges (by rw [ht, List.append_assoc]) found
  have stop : size before + size (Part.hidden content).written =
      size (before ++ delimiter ++ content) + 2 := by
    rw [Part.written, ← Text.size_append, ← List.append_assoc, ← List.append_assoc,
      Text.size_append _ delimiter]
    rfl
  exact ⟨isDelim, ⟨_, next, stop, inside⟩, oneLine, (isTight_iff content).mp tight⟩

/-- Where the search finds nothing at a delimiter, the delimiter opens nothing. -/
theorem opensNothing_of_contentAfter? {t before rest : Text} (ht : t = before ++ rest)
    (isDelim : IsDelimiterAt ranges t (size before))
    (h : contentAfter? (ranges.map (charSpan t)) before rest = none) :
    OpensNothing ranges t (size before) := by
  have opens := (isDelimiterAt_iff ranges ht).mp isDelim
  obtain ⟨q, rfl⟩ := exists_of_isDelimiter _ opens
  have two : size (before ++ delimiter) = size before + 2 := Text.size_append _ _
  have text : t = before ++ delimiter ++ q := by rw [ht, List.append_assoc]
  rw [contentAfter?_delimiter _ opens] at h
  cases found : upToAfter? (ranges.map (charSpan t)) (before ++ delimiter) q with
  | none =>
    left
    intro next isNext behind
    obtain ⟨p, others, shape, rfl, delim⟩ :=
      exists_of_isDelimiterAt ranges text isNext (by omega)
    refine ⟨p, ?_, upToAfter?_spec_none _ found shape delim⟩
    rw [← two]
    exact slice?_between (by rw [text, shape])
  | some content =>
    right
    obtain ⟨next, inside, oneLine⟩ := isNextDelimiter_of_upToAfter? ranges text found
    refine ⟨_, content, next, inside, oneLine, ?_⟩
    by_contra tight
    rw [← isTight_iff] at tight
    rw [found, Option.filter_some, if_pos tight] at h
    cases h

/-! ### Spoilers are found exactly -/

/-- The spans of the parts of a text are spoilers with the contents of these parts. -/
theorem forall₂_isSpoiler {t : Text} {front back : List Part}
    (h : parts (ranges.map (charSpan t)) t = front ++ back) :
    List.Forall₂ (IsSpoiler ranges t) (spansFrom (size (written front)) back) (contents back) := by
  induction back generalizing front with
  | nil => exact List.Forall₂.nil
  | cons part back ih =>
    have split : parts (ranges.map (charSpan t)) t = (front ++ [part]) ++ back := by rw [h]; simp
    have behind := ih split
    have moved : size (written (front ++ [part])) = size (written front) + size part.written := by
      rw [written, List.flatMap_append, List.flatMap_singleton, Text.size_append]
      rfl
    rw [moved] at behind
    cases part with
    | plain c => exact behind
    | hidden content =>
      obtain ⟨rest, text, found⟩ := contentAfter?_of_parts _ h
      exact List.Forall₂.cons (isSpoiler_of_contentAfter? ranges text found) behind

/-- The spoilers of a text are found exactly. Marking replaces certain spans, and there is
nothing to mark exactly if there are none. The spans are in order and disjoint. Each goes
from a delimiter to the end of the first delimiter behind that one, on the same line, and
its content is not empty and has no blank at its ends. Every delimiter that does not start
in one of the spans either is the last of its line or has a content that is not hidden. -/
theorem spans_exact (ranges : List Span) (t : Text)
    (free : ∀ c ∈ t, c ≠ placeholderOpen ∧ c ≠ placeholderClose) :
    let spans := spansFrom 0 (parts (ranges.map (charSpan t)) t)
    (∃ marked hidden,
      Offsets.mark? ranges t = some (if spans.isEmpty then none else some (marked, hidden)) ∧
      replaced t 0 0 spans = some marked ∧
      List.Forall₂ (IsSpoiler ranges t) spans hidden) ∧
    (spans.Pairwise fun a b => a.stop ≤ b.start) ∧
    ∀ pos, IsDelimiterAt ranges t pos → (∀ span ∈ spans, span.contains pos = false) →
      OpensNothing ranges t pos := by
  intro spans
  have text := written_parts (ranges.map (charSpan t)) t
  refine ⟨⟨marked 0 (parts (ranges.map (charSpan t)) t),
    contents (parts (ranges.map (charSpan t)) t), ?_, ?_, ?_⟩, spansFrom_pairwise _ _, ?_⟩
  · have noPlaceholder : (t.any fun c => c = placeholderOpen || c = placeholderClose) = false := by
      rw [List.any_eq_false]
      intro c inText
      simp [free c inText]
    rw [Offsets.mark?_eq, mark?, if_neg (by simp [noPlaceholder]), spansFrom_isEmpty]
    dsimp only
    cases contents (parts (ranges.map (charSpan t)) t) with
    | nil => rfl
    | cons _ _ => rfl
  · have whole : t = [] ++ [] ++ written (parts (ranges.map (charSpan t)) t) := text.symm
    exact replaced_spansFrom whole 0
  · have all : parts (ranges.map (charSpan t)) t =
        [] ++ parts (ranges.map (charSpan t)) t := rfl
    exact forall₂_isSpoiler ranges all
  · intro pos isDelim outside
    obtain ⟨before, after, shape, rfl, _⟩ := id isDelim
    have place : written (parts (ranges.map (charSpan t)) t) = before ++ '|' :: '|' :: after := by
      rw [text, shape, delimiter_append]
    obtain ⟨front, part, back, split, le, lt, plain⟩ := exists_part_at place
    cases part with
    | hidden content =>
      have inSpans : ⟨size (written front), size (written front) +
          size (Part.hidden content).written⟩ ∈ spans := by
        simp only [spans]
        rw [split, spansFrom_append, Nat.zero_add]
        exact List.mem_append_right _ (List.mem_append_left _ (List.mem_singleton_self _))
      have notIn := outside _ inSpans
      rw [Span.contains, Bool.and_eq_false_iff, decide_eq_false_iff_not,
        decide_eq_false_iff_not] at notIn
      dsimp only at notIn
      omega
    | plain c =>
      obtain ⟨rest, whole, found⟩ := contentAfter?_of_parts _ split
      obtain rfl := plain c rfl
      exact opensNothing_of_contentAfter? ranges whole isDelim found

/-- Bars in front of a spoiler and behind one, an escaped delimiter, a protected one between
two others, and one that is the last of its line. -/
theorem spans_exact_bars :
    let ranges : List Span := [⟨16, 20⟩]
    let t : Text := ['é', '|', '|', '|', 'a', '|', '|', ' ', '\\', '|', '|', ' ', '|', '|', 'b',
      '`', '|', '|', '`', ' ', 'c', '|', '|', '|', ' ', '|', '|', '\n', '|', '|']
    let spans : List Span := [⟨2, 8⟩, ⟨13, 24⟩]
    (∃ marked hidden,
      Offsets.mark? ranges t = some (if spans.isEmpty then none else some (marked, hidden)) ∧
      replaced t 0 0 spans = some marked ∧
      List.Forall₂ (IsSpoiler ranges t) spans hidden) ∧
    (spans.Pairwise fun a b => a.stop ≤ b.start) ∧
    ∀ pos, IsDelimiterAt ranges t pos → (∀ span ∈ spans, span.contains pos = false) →
      OpensNothing ranges t pos :=
  spans_exact [⟨16, 20⟩] _ (by simp [placeholderOpen, placeholderClose])

end

end Spoiler

end TelegramMarkdown
