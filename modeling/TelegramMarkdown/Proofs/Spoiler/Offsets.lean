import TelegramMarkdown.Proofs.Spoiler.Parts

/-!
Marking spoilers by byte offsets.

`Offsets.mark?` goes through a text with two offsets: `last`, up to where the text is
marked already, and `search`, from where the next delimiter is looked for. Every
piece of text that it takes is cut out between two offsets, and it gives up where
such an offset is not a boundary of the text. `Offsets.mark?_eq` shows that it never
does, and that it answers what `Spoiler.mark?` answers for the same characters.
-/

namespace TelegramMarkdown.Spoiler

open Markdown (Span)
open Text (size slice? find? charSpan Lacks)

namespace Offsets

/-! ### The search -/

/-- Whether the character at an offset is escaped. -/
def isEscaped? (t : Text) (pos : Nat) : Option Bool :=
  (slice? t 0 pos).map fun before => (before.reverse.takeWhile (· = '\\')).length % 2 = 1

/-- Whether the `||` at an offset is a delimiter. -/
def isDelimiter? (ranges : List Span) (t : Text) (pos : Nat) : Option Bool :=
  (isEscaped? t pos).map fun escaped =>
    !escaped && !ranges.any fun range => range.contains pos || range.contains (pos + 1)

/-- The offset of the delimiter before `stop` that ends a spoiler, if there is one. -/
def close? (ranges : List Span) (t : Text) (stop : Nat) : (fuel pos : Nat) → Option (Option Nat)
  | 0, _ => none
  | n + 1, pos =>
    (slice? t pos stop).bind fun line =>
      match find? delimiter line with
      | none => some none
      | some found =>
        (isDelimiter? ranges t (pos + found)).bind fun closes =>
          if closes then some (some (pos + found))
          else close? ranges t stop n (pos + found + 1)

/-- What the search knows: the text marked so far, the contents found in it, and its
two offsets. -/
structure State where
  marked : Text
  hidden : List Text
  last : Nat
  search : Nat

/-- The state with a spoiler marked, whose delimiters start at two offsets. -/
def State.hide? (s : State) (t : Text) (opening closing : Nat) : Option State :=
  (slice? t (opening + 2) closing).bind fun content =>
    if isTight content then
      (slice? t s.last opening).map fun before =>
        ⟨s.marked ++ before ++ placeholder s.hidden.length, s.hidden ++ [content],
          closing + 2, closing + 2⟩
    else some { s with search := opening + 1 }

/-- One turn of the search; nothing if no `||` is left. -/
def turn? (ranges : List Span) (t : Text) (s : State) : Option (Option State) :=
  (slice? t s.search (size t)).bind fun rest =>
    match find? delimiter rest with
    | none => some none
    | some found =>
      let opening := s.search + found
      let skipped := { s with search := opening + 1 }
      (isDelimiter? ranges t opening).bind fun opens =>
        if opens then
          (slice? t opening (size t)).bind fun rest =>
            let stop := ((find? ['\n'] rest).map (opening + ·)).getD (size t)
            (close? ranges t stop (t.length + 1) (opening + 2)).bind fun
              | none => some (some skipped)
              | some closing => (s.hide? t opening closing).map some
        else some (some skipped)

/-- The search until no `||` is left. -/
def run? (ranges : List Span) (t : Text) : (fuel : Nat) → State → Option State
  | 0, _ => none
  | n + 1, s =>
    (turn? ranges t s).bind fun
      | none => some s
      | some s => run? ranges t n s

/-- The text with placeholders for its spoilers, and their contents, if there are
any. -/
def mark? (ranges : List Span) (t : Text) : Option (Option (Text × List Text)) :=
  if (find? delimiter t).isNone || t.any fun c => c = placeholderOpen || c = placeholderClose then
    some none
  else
    (run? ranges t (t.length + 1) ⟨[], [], 0, 0⟩).bind fun s =>
      if s.hidden.isEmpty then some none
      else (slice? t s.last (size t)).map fun rest => some (s.marked ++ rest, s.hidden)

/-! ### Delimiters -/

section

variable (ranges : List Span)

/-- At a `||` both searches agree on whether it is a delimiter. -/
theorem isDelimiter?_eq (a b : Text) :
    isDelimiter? ranges (a ++ (delimiter ++ b)) (size a) =
      some (isDelimiter (ranges.map (charSpan (a ++ (delimiter ++ b)))) a.length (escapesAfter a)
        (delimiter ++ b)) := by
  have first : ∀ range, (charSpan (a ++ (delimiter ++ b)) range).contains a.length =
      range.contains (size a) := by
    intro range
    rw [delimiter_append]
    exact Text.charSpan_contains a '|' ('|' :: b) range
  have second : ∀ range, (charSpan (a ++ (delimiter ++ b)) range).contains (a.length + 1) =
      range.contains (size a + 1) := by
    intro range
    have next := Text.charSpan_contains (a ++ ['|']) '|' b range
    have bar : size ['|'] = 1 := rfl
    rw [List.length_append, Text.size_append, bar, List.append_assoc] at next
    rw [delimiter_append]
    exact next
  rw [isDelimiter?, isEscaped?, Text.slice?_before, isDelimiter, Text.startsWith_append,
    escapesAfter_eq]
  simp [List.any_map, Function.comp_def, first, second]

/-! ### The end of a spoiler -/

theorem close?_of_found {t line : Text} {stop pos offset : Nat} {closes : Bool}
    (cut : slice? t pos stop = some line) (found : find? delimiter line = some offset)
    (isDelim : isDelimiter? ranges t (pos + offset) = some closes) (n : Nat) :
    close? ranges t stop (n + 1) pos =
      if closes then some (some (pos + offset)) else close? ranges t stop n (pos + offset + 1) := by
  rw [close?, cut, Option.bind_some, found]
  dsimp only
  rw [isDelim, Option.bind_some]

/-- On the rest of a line both searches find the same end of a spoiler, or none. -/
theorem close?_spec {t tail : Text} (ends : ∀ c u, tail = c :: u → c = '\n') {n : Nat}
    {a line : Text} (ht : t = a ++ line ++ tail) (noBreak : '\n' ∉ line)
    (enough : line.length < n) :
    (close? ranges t (size (a ++ line)) n (size a) = some none ∧
      upToAfter? (ranges.map (charSpan t)) a (line ++ tail) = none) ∨
    ∃ content rest, line = content ++ (delimiter ++ rest) ∧
      close? ranges t (size (a ++ line)) n (size a) = some (some (size (a ++ content))) ∧
      upToAfter? (ranges.map (charSpan t)) a (line ++ tail) = some content := by
  induction n generalizing a line with
  | zero => exact absurd enough (Nat.not_lt_zero _)
  | succ n ih =>
    have cut : slice? t (size a) (size (a ++ line)) = some line := by
      rw [ht]
      exact Text.slice?_append a line tail
    cases found : find? delimiter line with
    | none =>
      left
      have lacks : Lacks delimiter tail line := by
        apply lacks_of_line (Text.lacks_of_find?_eq_none found)
        intro u bar
        exact absurd (ends _ _ bar) (by decide)
      constructor
      · rw [close?, cut, Option.bind_some, found]
      · rw [upToAfter?_append _ lacks noBreak, upToAfter?_endOfLine _ ends]
        rfl
    | some offset =>
      obtain ⟨p, rest, rfl, rfl, lacks⟩ := Text.exists_of_find?_eq_some found
      have ht' : t = a ++ p ++ (delimiter ++ (rest ++ tail)) := by rw [ht]; simp
      have same := isDelimiter?_eq ranges (a ++ p) (rest ++ tail)
      rw [← ht', Text.size_append] at same
      have passed := upToAfter?_append (ranges.map (charSpan t))
        (Lacks.append (by simp [delimiter]) tail lacks)
        (fun inP => noBreak (List.mem_append_left _ inP)) a
      rw [List.append_assoc delimiter] at passed
      rw [List.append_assoc p, List.append_assoc delimiter, passed]
      cases isDelim : isDelimiter (ranges.map (charSpan t)) (a ++ p).length (escapesAfter (a ++ p))
          (delimiter ++ (rest ++ tail)) with
      | true =>
        right
        refine ⟨p, rest, rfl, ?_, ?_⟩
        · rw [close?_of_found ranges cut found same, isDelim, if_pos rfl, Text.size_append a p]
        · rw [upToAfter?_delimiter _ isDelim]
          simp
      | false =>
        have again : close? ranges t (size (a ++ (p ++ (delimiter ++ rest)))) (n + 1) (size a) =
            close? ranges t (size (a ++ p ++ ['|'] ++ '|' :: rest)) n (size (a ++ p ++ ['|'])) := by
          have bar : size ['|'] = 1 := rfl
          have stop : a ++ (p ++ (delimiter ++ rest)) = a ++ p ++ ['|'] ++ '|' :: rest := by
            simp [delimiter]
          rw [close?_of_found ranges cut found same, isDelim, if_neg Bool.false_ne_true, stop,
            Text.size_append (a ++ p), Text.size_append a p, bar]
        have shorter : ('|' :: rest).length < n := by
          simp only [List.length_append, delimiter_append, List.length_cons] at enough ⊢
          omega
        have noBreak' : '\n' ∉ '|' :: rest := by
          intro inRest
          apply noBreak
          rw [delimiter_append]
          exact List.mem_append_right p (List.mem_cons_of_mem _ inRest)
        rw [delimiter_append] at isDelim
        rw [again, delimiter_append, delimiter_append, upToAfter?_cons _ (by decide) isDelim]
        have text : t = a ++ p ++ ['|'] ++ '|' :: rest ++ tail := by rw [ht']; simp [delimiter]
        have next := ih text noBreak' shorter
        obtain ⟨closes, content⟩ | ⟨content, more, shape, closes, same⟩ := next
        · left
          refine ⟨closes, ?_⟩
          rw [List.cons_append] at content
          rw [content]
          rfl
        · right
          refine ⟨p ++ '|' :: content, more, ?_, ?_, ?_⟩
          · rw [shape]; simp
          · rw [closes]; simp
          · rw [List.cons_append] at same
            rw [same]
            rfl

/-- Behind a delimiter both searches find the same end of a spoiler, or none. -/
theorem close?_delimiter {t a q : Text} (ht : t = a ++ (delimiter ++ q)) :
    (close? ranges t (size (a ++ delimiter ++ q.takeWhile (· ≠ '\n'))) (t.length + 1)
          (size (a ++ delimiter)) = some none ∧
      upToAfter? (ranges.map (charSpan t)) (a ++ delimiter) q = none) ∨
    ∃ content rest, q = content ++ (delimiter ++ rest) ∧
      close? ranges t (size (a ++ delimiter ++ q.takeWhile (· ≠ '\n'))) (t.length + 1)
          (size (a ++ delimiter)) = some (some (size (a ++ delimiter ++ content))) ∧
      upToAfter? (ranges.map (charSpan t)) (a ++ delimiter) q = some content := by
  have ends : ∀ c u, q.dropWhile (· ≠ '\n') = c :: u → c = '\n' := by
    intro c u shape
    have head := List.head?_dropWhile_not (· ≠ '\n') q
    rw [shape] at head
    simpa using head
  have noBreak : '\n' ∉ q.takeWhile (· ≠ '\n') := by
    intro inLine
    simpa using List.mem_takeWhile_imp inLine
  have text : t = a ++ delimiter ++ q.takeWhile (· ≠ '\n') ++ q.dropWhile (· ≠ '\n') := by
    rw [List.append_assoc (a ++ delimiter), List.takeWhile_append_dropWhile, ht,
      List.append_assoc a]
  have enough : (q.takeWhile (· ≠ '\n')).length < t.length + 1 := by
    have shorter := (List.takeWhile_sublist (· ≠ '\n') (l := q)).length_le
    rw [ht, List.length_append, List.length_append]
    omega
  have closes := close?_spec ranges ends text noBreak enough
  rw [List.takeWhile_append_dropWhile] at closes
  obtain closes | ⟨content, rest, shape, closes, upTo⟩ := closes
  · exact Or.inl closes
  · refine Or.inr ⟨content, rest ++ q.dropWhile (· ≠ '\n'), ?_, closes, upTo⟩
    rw [← List.append_assoc delimiter, ← List.append_assoc content, ← shape,
      List.takeWhile_append_dropWhile]

/-! ### Turns -/

/-- What holds of the search at every turn: `done` is marked, `kept` is gone through
since, and with the parts of what is left the result will be `answer`. -/
structure Reads (t : Text) (answer : Text × List Text) (s : State) (done kept left : Text) :
    Prop where
  text : t = done ++ kept ++ left
  last : s.last = size done
  search : s.search = size (done ++ kept)
  marked : s.marked ++ kept ++ Spoiler.marked s.hidden.length
    (partsAfter (ranges.map (charSpan t)) (done ++ kept) left) = answer.1
  hidden : s.hidden ++ contents
    (partsAfter (ranges.map (charSpan t)) (done ++ kept) left) = answer.2

theorem Reads.rest {t : Text} {answer : Text × List Text} {s : State} {done kept left : Text}
    (h : Reads ranges t answer s done kept left) : slice? t s.search (size t) = some left := by
  rw [h.search, h.text]
  exact Text.slice?_rest _ _

theorem Reads.opening {t : Text} {answer : Text × List Text} {s : State} {done kept left : Text}
    (h : Reads ranges t answer s done kept left) (p : Text) :
    s.search + size p = size (done ++ kept ++ p) := by
  rw [h.search, ← Text.size_append]

/-- Going on one character behind a `||` that starts no spoiler. -/
theorem Reads.skip {t : Text} {answer : Text × List Text} {s : State} {done kept p rest : Text}
    (h : Reads ranges t answer s done kept (p ++ (delimiter ++ rest)))
    (lacks : Lacks delimiter (delimiter ++ rest) p)
    (absent : contentAfter? (ranges.map (charSpan t)) (done ++ kept ++ p) (delimiter ++ rest) =
      none) :
    Reads ranges t answer { s with search := s.search + size p + 1 } done (kept ++ p ++ ['|'])
      ('|' :: rest) := by
  have next : partsAfter (ranges.map (charSpan t)) (done ++ kept) (p ++ (delimiter ++ rest)) =
      (p ++ ['|']).map .plain ++ partsAfter (ranges.map (charSpan t))
        (done ++ (kept ++ p ++ ['|'])) ('|' :: rest) := by
    rw [delimiter_append] at absent lacks ⊢
    rw [partsAfter_append _ lacks, partsAfter_cons _ absent]
    simp
  obtain ⟨text, last, search, marked, hidden⟩ := h
  rw [next, marked_plain_append] at marked
  rw [next, contents_plain_append] at hidden
  refine ⟨?_, last, ?_, ?_, hidden⟩
  · rw [text]; simp [delimiter]
  · have bar : size ['|'] = 1 := rfl
    simp only [search, Text.size_append, bar]
    omega
  · rw [← marked]; simp

/-- Going on behind a spoiler. -/
theorem Reads.hide {t : Text} {answer : Text × List Text} {s : State}
    {done kept p content rest : Text}
    (h : Reads ranges t answer s done kept (p ++ (delimiter ++ (content ++ (delimiter ++ rest)))))
    (lacks : Lacks delimiter (delimiter ++ (content ++ (delimiter ++ rest))) p)
    (found : contentAfter? (ranges.map (charSpan t)) (done ++ kept ++ p)
      (delimiter ++ (content ++ (delimiter ++ rest))) = some content) :
    Reads ranges t answer
      ⟨s.marked ++ (kept ++ p) ++ placeholder s.hidden.length, s.hidden ++ [content],
        size (done ++ kept ++ p ++ delimiter ++ content) + 2,
        size (done ++ kept ++ p ++ delimiter ++ content) + 2⟩
      (done ++ kept ++ p ++ delimiter ++ content ++ delimiter) [] rest := by
  have next : partsAfter (ranges.map (charSpan t)) (done ++ kept)
        (p ++ (delimiter ++ (content ++ (delimiter ++ rest)))) =
      p.map .plain ++ .hidden content :: partsAfter (ranges.map (charSpan t))
        (done ++ kept ++ p ++ delimiter ++ content ++ delimiter) rest := by
    rw [partsAfter_append _ lacks, partsAfter_spoiler _ found]
  obtain ⟨text, last, search, marked, hidden⟩ := h
  rw [next, marked_plain_append] at marked
  rw [next, contents_plain_append] at hidden
  have two : size delimiter = 2 := rfl
  refine ⟨?_, ?_, ?_, ?_, ?_⟩
  · rw [text]; simp
  · rw [Text.size_append _ delimiter, two]
  · rw [List.append_nil, Text.size_append _ delimiter, two]
  · rw [← marked, Spoiler.marked, List.append_nil]; simp
  · rw [← hidden, contents_hidden, List.append_nil]; simp

/-- The end of the line of a delimiter. -/
theorem lineEnd_eq (a b : Text) :
    ((find? ['\n'] (delimiter ++ b)).map (size a + ·)).getD (size (a ++ (delimiter ++ b))) =
      size (a ++ delimiter ++ b.takeWhile (· ≠ '\n')) := by
  rw [Text.find?_singleton, List.append_assoc a, delimiter_append, delimiter_append]
  by_cases inRest : '\n' ∈ b
  · have inLine : '\n' ∈ '|' :: '|' :: b :=
      List.mem_cons_of_mem _ (List.mem_cons_of_mem _ inRest)
    rw [if_pos inLine]
    simp [Text.size_append]
  · have noBreak : '\n' ∉ '|' :: '|' :: b := by simp [inRest]
    have all : b.takeWhile (· ≠ '\n') = b := by
      rw [List.takeWhile_eq_self_iff]
      intro c inB
      simp only [decide_eq_true_eq]
      rintro rfl
      exact inRest inB
    rw [if_neg noBreak, all]
    rfl

/-- A spoiler is marked if its content may be hidden; otherwise its first delimiter is
passed over. -/
theorem State.hide?_eq {t : Text} {answer : Text × List Text} {s : State}
    {done kept p content rest : Text}
    (h : Reads ranges t answer s done kept (p ++ (delimiter ++ (content ++ (delimiter ++ rest))))) :
    s.hide? t (s.search + size p) (size (done ++ kept ++ p ++ delimiter ++ content)) =
      some (if isTight content then
        ⟨s.marked ++ (kept ++ p) ++ placeholder s.hidden.length, s.hidden ++ [content],
          size (done ++ kept ++ p ++ delimiter ++ content) + 2,
          size (done ++ kept ++ p ++ delimiter ++ content) + 2⟩
      else { s with search := s.search + size p + 1 }) := by
  have two : size delimiter = 2 := rfl
  have opening := h.opening ranges p
  have inside : slice? t (s.search + size p + 2)
      (size (done ++ kept ++ p ++ delimiter ++ content)) = some content := by
    have cut := Text.slice?_append (done ++ kept ++ p ++ delimiter) content (delimiter ++ rest)
    rw [Text.size_append _ delimiter, two] at cut
    rw [opening, h.text, ← cut]
    simp
  have before : slice? t s.last (s.search + size p) = some (kept ++ p) := by
    have cut := Text.slice?_append done (kept ++ p)
      (delimiter ++ (content ++ (delimiter ++ rest)))
    rw [opening, h.last, h.text, List.append_assoc done, ← cut]
    simp
  rw [State.hide?, inside, Option.bind_some, before]
  split
  case isTrue => simp
  case isFalse => rfl

/-- What a turn does at the first `||` that it finds. -/
theorem turn?_eq {t : Text} {answer : Text × List Text} {s : State} {done kept p q : Text}
    (h : Reads ranges t answer s done kept (p ++ (delimiter ++ q)))
    (found : find? delimiter (p ++ (delimiter ++ q)) = some (size p)) :
    turn? ranges t s =
      if isDelimiter (ranges.map (charSpan t)) (done ++ kept ++ p).length
          (escapesAfter (done ++ kept ++ p)) (delimiter ++ q) then
        (close? ranges t (size (done ++ kept ++ p ++ delimiter ++ q.takeWhile (· ≠ '\n')))
            (t.length + 1) (size (done ++ kept ++ p ++ delimiter))).bind fun
          | none => some (some { s with search := s.search + size p + 1 })
          | some closing => (s.hide? t (s.search + size p) closing).map some
      else some (some { s with search := s.search + size p + 1 }) := by
  have ht : t = done ++ kept ++ p ++ (delimiter ++ q) := by rw [h.text]; simp
  have opening := h.opening ranges p
  have onLine : slice? t (s.search + size p) (size t) = some (delimiter ++ q) := by
    rw [opening, ht]
    exact Text.slice?_rest _ _
  have same := isDelimiter?_eq ranges (done ++ kept ++ p) q
  have stop := lineEnd_eq (done ++ kept ++ p) q
  rw [← ht, ← opening] at same stop
  have two : s.search + size p + 2 = size (done ++ kept ++ p ++ delimiter) := by
    rw [opening, Text.size_append _ delimiter]
    rfl
  rw [turn?, h.rest, Option.bind_some, found]
  dsimp only
  rw [same, Option.bind_some, onLine, Option.bind_some, stop, two]

/-- A turn keeps what holds of the search and leaves less; where no `||` is left, all
of the rest is outside of spoilers. -/
theorem turn?_spec {t : Text} {answer : Text × List Text} {s : State} {done kept left : Text}
    (h : Reads ranges t answer s done kept left) :
    (turn? ranges t s = some none ∧
      partsAfter (ranges.map (charSpan t)) (done ++ kept) left = left.map .plain) ∨
    ∃ s' done' kept' left', turn? ranges t s = some (some s') ∧
      Reads ranges t answer s' done' kept' left' ∧ left'.length < left.length := by
  cases found : find? delimiter left with
  | none =>
    left
    have plain := partsAfter_append (ranges.map (charSpan t))
      (Text.lacks_of_find?_eq_none found) (done ++ kept)
    constructor
    · rw [turn?, h.rest, Option.bind_some, found]
    · rw [List.append_nil] at plain
      rw [plain, partsAfter, partsFrom, List.append_nil]
  | some offset =>
    right
    obtain ⟨p, q, rfl, rfl, lacks⟩ := Text.exists_of_find?_eq_some found
    have turned := turn?_eq ranges h found
    -- Whatever keeps a `||` from starting a spoiler, the search goes on behind its first bar.
    have skip : contentAfter? (ranges.map (charSpan t)) (done ++ kept ++ p) (delimiter ++ q) =
          none →
        turn? ranges t s = some (some { s with search := s.search + size p + 1 }) →
        ∃ s' done' kept' left', turn? ranges t s = some (some s') ∧
          Reads ranges t answer s' done' kept' left' ∧
          left'.length < (p ++ (delimiter ++ q)).length := by
      intro absent turned
      refine ⟨_, _, _, _, turned, h.skip ranges lacks absent, ?_⟩
      simp only [delimiter_append, List.length_append, List.length_cons]
      omega
    cases opens : isDelimiter (ranges.map (charSpan t)) (done ++ kept ++ p).length
        (escapesAfter (done ++ kept ++ p)) (delimiter ++ q) with
    | false =>
      apply skip
      · rw [contentAfter?, contentAt?, opens]
        rfl
      · rw [turned, opens]
        rfl
    | true =>
      have content := contentAfter?_delimiter _ opens
      have ht : t = done ++ kept ++ p ++ (delimiter ++ q) := by rw [h.text]; simp
      rw [opens, if_pos rfl] at turned
      obtain ⟨closes, noContent⟩ | ⟨inner, rest, rfl, closes, upTo⟩ :=
        close?_delimiter ranges ht
      · apply skip
        · rw [content, noContent]
          rfl
        · rw [turned, closes]
          rfl
      · rw [closes, Option.bind_some] at turned
        dsimp only at turned
        rw [State.hide?_eq ranges h] at turned
        rw [upTo] at content
        cases tight : isTight inner with
        | false =>
          apply skip
          · rw [content, Option.filter_some, tight]
            rfl
          · rw [turned, tight]
            rfl
        | true =>
          refine ⟨_, _, _, _, turned.trans (by rw [tight]; rfl), h.hide ranges lacks ?_, ?_⟩
          · rw [content, Option.filter_some, tight]
            rfl
          · simp only [delimiter_append, List.length_append, List.length_cons]
            omega

/-! ### The whole search -/

theorem run?_spec {t : Text} {answer : Text × List Text} {n : Nat} {s : State}
    {done kept left : Text} (h : Reads ranges t answer s done kept left)
    (enough : left.length < n) :
    ∃ s', run? ranges t n s = some s' ∧ s'.hidden = answer.2 ∧
      (slice? t s'.last (size t)).map (s'.marked ++ ·) = some answer.1 := by
  induction n generalizing s done kept left with
  | zero => exact absurd enough (Nat.not_lt_zero _)
  | succ n ih =>
    obtain ⟨turned, plain⟩ | ⟨s', done', kept', left', turned, h', shorter⟩ := turn?_spec ranges h
    · obtain ⟨text, last, _, marked, hidden⟩ := h
      have rest : slice? t s.last (size t) = some (kept ++ left) := by
        rw [last, text, List.append_assoc]
        exact Text.slice?_rest _ _
      have unmarked := marked_plain_append left s.hidden.length []
      rw [plain, contents_plain, List.append_nil] at hidden
      rw [List.append_nil, Spoiler.marked, List.append_nil] at unmarked
      rw [plain, unmarked, List.append_assoc] at marked
      refine ⟨s, ?_, hidden, ?_⟩
      · rw [run?, turned]
        rfl
      · rw [rest, Option.map_some, marked]
    · obtain ⟨last, ran, result⟩ := ih h' (by omega)
      refine ⟨last, ?_, result⟩
      rw [run?, turned, Option.bind_some]
      exact ran

/-- Marking by offsets never cuts a text inside of a character or beyond its end, and
its result is that of marking by characters. -/
theorem mark?_eq (t : Text) :
    mark? ranges t = some (Spoiler.mark? (ranges.map (charSpan t)) t) := by
  have start : Reads ranges t (Spoiler.marked 0 (parts (ranges.map (charSpan t)) t),
      contents (parts (ranges.map (charSpan t)) t)) ⟨[], [], 0, 0⟩ [] [] t :=
    ⟨rfl, rfl, rfl, rfl, rfl⟩
  obtain ⟨last, ran, hidden, marked⟩ := run?_spec ranges start (Nat.lt_succ_self _)
  rw [mark?, Spoiler.mark?]
  by_cases taken : (t.any fun c => c = placeholderOpen || c = placeholderClose) = true
  · rw [taken, Bool.or_true]
    rfl
  · rw [Bool.not_eq_true] at taken
    rw [taken, Bool.or_false]
    dsimp only at hidden marked
    cases found : find? delimiter t with
    | none =>
      have plain := partsAfter_append (ranges.map (charSpan t))
        (Text.lacks_of_find?_eq_none found) []
      rw [List.append_nil] at plain
      have noContents : contents (parts (ranges.map (charSpan t)) t) = [] := by
        have same : parts (ranges.map (charSpan t)) t = t.map .plain ++ [] := plain
        rw [same, contents_plain_append]
        rfl
      simp [noContents]
    | some offset =>
      rw [Option.isNone_some, if_neg Bool.false_ne_true, ran, Option.bind_some, hidden,
        if_neg Bool.false_ne_true]
      obtain ⟨rest, cut, whole⟩ := Option.map_eq_some_iff.mp marked
      rw [cut, Option.map_some, whole]
      dsimp only
      cases contents (parts (ranges.map (charSpan t)) t) with
      | nil => rfl
      | cons _ _ => rfl

end

end Offsets

end TelegramMarkdown.Spoiler
