import TelegramMarkdown.Proofs.Markup.Html

/-!
What is left of raw HTML.

Whatever the tags, rendered HTML is text with every reserved character escaped, markers in
pairs with such text between them, and code (`Derives`), and what it shows is the HTML with
some of its tags deleted and nothing else (`TagsDeleted`). Rendering goes on with shorter
and shorter texts, so it needs no bound (`render_eq`). The main statement is
`render_derives`.
-/

namespace TelegramMarkdown

open Markup

namespace Html

/-! ### Deleting tags -/

/-- `left` is `raw` without some tags: each is a `<`, one or more characters other than
`>`, and a `>`, and no two overlap. -/
inductive TagsDeleted : (raw left : Text) → Prop where
  | nil : TagsDeleted [] []
  | keep {raw left : Text} (c : Char) : TagsDeleted raw left →
      TagsDeleted (c :: raw) (c :: left)
  | delete {inside raw left : Text} : inside ≠ [] → '>' ∉ inside → TagsDeleted raw left →
      TagsDeleted ('<' :: inside ++ '>' :: raw) left

namespace TagsDeleted

theorem refl (t : Text) : TagsDeleted t t := by
  induction t with
  | nil => exact .nil
  | cons c t ih => exact .keep c ih

theorem append {raw left raw' left' : Text} (h : TagsDeleted raw left)
    (h' : TagsDeleted raw' left') : TagsDeleted (raw ++ raw') (left ++ left') := by
  induction h with
  | nil => exact h'
  | keep c _ ih => exact .keep c ih
  | delete notEmpty unended _ ih => simpa using TagsDeleted.delete notEmpty unended ih

end TagsDeleted

theorem exists_of_dropTag? {t rest : Text} (h : dropTag? t = some rest) :
    ∃ inside, t = '<' :: inside ++ '>' :: rest ∧ inside ≠ [] ∧ '>' ∉ inside := by
  unfold dropTag? at h
  split at h
  case h_2 => cases h
  case h_1 c cs =>
    split at h
    case isTrue => cases h
    case isFalse first =>
      split at h
      case h_2 => cases h
      case h_1 stop after found =>
        obtain rfl : after = rest := Option.some.inj h
        obtain rfl : stop = '>' := by
          have stops := List.head?_dropWhile_not (· ≠ '>') cs
          rw [found] at stops
          simpa using stops
        refine ⟨c :: cs.takeWhile (· ≠ '>'), ?_, List.cons_ne_nil _ _, ?_⟩
        · have split : cs.takeWhile (· ≠ '>') ++ cs.dropWhile (· ≠ '>') = cs :=
            List.takeWhile_append_dropWhile
          rw [found] at split
          rw [List.cons_append, List.cons_append, split]
        · intro mem
          rcases List.mem_cons.mp mem with rfl | inside
          · exact first rfl
          · simpa using List.mem_takeWhile_imp inside

theorem stripTagsWithin_deletes (n : Nat) (t : Text) : TagsDeleted t (stripTagsWithin n t) := by
  induction n generalizing t with
  | zero => exact .refl t
  | succ n ih =>
    cases t with
    | nil => exact .nil
    | cons c cs =>
      rw [stripTagsWithin]
      split
      case h_1 rest found =>
        obtain ⟨inside, same, notEmpty, unended⟩ := exists_of_dropTag? found
        rw [same]
        exact .delete notEmpty unended (ih rest)
      case h_2 => exact .keep c (ih cs)

theorem stripTags_deletes (t : Text) : TagsDeleted t (stripTags t) :=
  stripTagsWithin_deletes t.length t

/-! ### Pairs of tags -/

theorem ne_end_of_sameLetter {small c : Char} (h : sameLetter small c = true)
    (notEnd : small ≠ '>') : c ≠ '>' := by
  rintro rfl
  have ends : '>' = small ∨ small = 's' ∧ '>' = '\u017F' := by simpa [sameLetter] using h
  rcases ends with same | ⟨-, longS⟩
  · exact notEnd same.symm
  · exact absurd longS (by decide)

theorem exists_of_dropName? {name t rest : Text} (noEnd : ∀ l ∈ name, l ≠ '>')
    (h : dropName? name t = some rest) :
    ∃ written, t = written ++ '>' :: rest ∧ written.length = name.length ∧ '>' ∉ written := by
  induction name generalizing t with
  | nil =>
    obtain ⟨cs, rfl⟩ : ∃ cs, t = '>' :: cs := by
      unfold dropName? at h
      split at h
      case h_1 cs _ => exact ⟨cs, rfl⟩
      case h_2 impossible => cases impossible
      case h_3 => cases h
    obtain rfl : cs = rest := Option.some.inj h
    exact ⟨[], rfl, rfl, List.not_mem_nil⟩
  | cons l ls ih =>
    obtain ⟨first, others⟩ := List.forall_mem_cons.mp noEnd
    cases t with
    | nil => cases h
    | cons c cs =>
      rw [dropName?] at h
      split at h
      case isFalse => cases h
      case isTrue same =>
        obtain ⟨written, rfl, length, unended⟩ := ih others h
        refine ⟨c :: written, rfl, congrArg (· + 1) length, ?_⟩
        intro mem
        rcases List.mem_cons.mp mem with isEnd | later
        · exact ne_end_of_sameLetter same first isEnd.symm
        · exact unended later

namespace Element

theorem name_ne_nil (e : Element) : e.name ≠ [] := by
  cases e <;> exact List.cons_ne_nil _ _

theorem ne_end_of_mem_name (e : Element) : ∀ l ∈ e.name, l ≠ '>' := by
  cases e <;> simp [name]

end Element

theorem exists_of_dropOpening? {e : Element} {t rest : Text}
    (h : dropOpening? e t = some rest) :
    ∃ inside, t = '<' :: inside ++ '>' :: rest ∧ inside ≠ [] ∧ '>' ∉ inside := by
  unfold dropOpening? at h
  split at h
  case h_2 => cases h
  case h_1 cs =>
    obtain ⟨written, rfl, length, unended⟩ := exists_of_dropName? e.ne_end_of_mem_name h
    refine ⟨written, rfl, ?_, unended⟩
    rintro rfl
    exact e.name_ne_nil (List.length_eq_zero_iff.mp length.symm)

theorem exists_of_dropClosing? {e : Element} {t rest : Text}
    (h : dropClosing? e t = some rest) :
    ∃ inside, t = '<' :: inside ++ '>' :: rest ∧ inside ≠ [] ∧ '>' ∉ inside := by
  unfold dropClosing? at h
  split at h
  case h_2 => cases h
  case h_1 cs =>
    obtain ⟨written, rfl, -, unended⟩ := exists_of_dropName? e.ne_end_of_mem_name h
    refine ⟨'/' :: written, rfl, List.cons_ne_nil _ _, ?_⟩
    intro mem
    rcases List.mem_cons.mp mem with isEnd | later
    · exact absurd isEnd (by decide)
    · exact unended later

theorem exists_of_upToClosing? {e : Element} {t inside rest : Text}
    (h : upToClosing? e t = some (inside, rest)) :
    ∃ closing, t = inside ++ closing ∧ dropClosing? e closing = some rest := by
  induction t generalizing inside with
  | nil => cases h
  | cons c cs ih =>
    rw [upToClosing?] at h
    split at h
    case h_1 after closes =>
      obtain ⟨rfl, rfl⟩ := Prod.mk.inj (Option.some.inj h)
      exact ⟨c :: cs, rfl, closes⟩
    case h_2 =>
      split at h
      case isTrue => cases h
      case isFalse =>
        obtain ⟨⟨inside, rest⟩, found, pair⟩ := Option.map_eq_some_iff.mp h
        obtain ⟨rfl, rfl⟩ := Prod.mk.inj pair
        obtain ⟨closing, rfl, closes⟩ := ih found
        exact ⟨closing, rfl, closes⟩

/-- A pair of tags is deleted as two tags. -/
theorem exists_of_pairHere? {t inside rest : Text} {e : Element}
    (h : pairHere? t = some (e, inside, rest)) :
    inside.length < t.length ∧ rest.length < t.length ∧
      ∀ {shown later : Text}, TagsDeleted inside shown → TagsDeleted rest later →
        TagsDeleted t (shown ++ later) := by
  obtain ⟨e', -, found⟩ := List.exists_of_findSome?_eq_some h
  obtain ⟨inner, opens, found⟩ := Option.bind_eq_some_iff.mp found
  obtain ⟨⟨inside', rest'⟩, upTo, pair⟩ := Option.map_eq_some_iff.mp found
  obtain ⟨rfl, rfl, rfl⟩ : e' = e ∧ inside' = inside ∧ rest' = rest := by simpa using pair
  obtain ⟨closing, rfl, closes⟩ := exists_of_upToClosing? upTo
  obtain ⟨opened, rfl, opening⟩ := exists_of_dropOpening? opens
  obtain ⟨closed, rfl, ending⟩ := exists_of_dropClosing? closes
  refine ⟨?_, ?_, ?_⟩
  · simp only [List.length_append, List.length_cons]
    omega
  · simp only [List.length_append, List.length_cons]
    omega
  · intro shown later within after
    exact .delete opening.1 opening.2 (within.append (.delete ending.1 ending.2 after))

theorem exists_of_firstPair? {t before inside rest : Text} {e : Element}
    (h : firstPair? t = some (before, e, inside, rest)) :
    ∃ pair, t = before ++ pair ∧ pairHere? pair = some (e, inside, rest) := by
  induction t generalizing before with
  | nil => cases h
  | cons c cs ih =>
    rw [firstPair?] at h
    split at h
    case h_1 here =>
      obtain ⟨rfl, same⟩ := Prod.mk.inj (Option.some.inj h)
      exact ⟨c :: cs, rfl, same ▸ here⟩
    case h_2 =>
      obtain ⟨⟨before', found'⟩, found, same⟩ := Option.map_eq_some_iff.mp h
      obtain ⟨rfl, rfl⟩ := Prod.mk.inj same
      obtain ⟨pair, rfl, here⟩ := ih found
      exact ⟨pair, rfl, here⟩

/-! ### Recursion -/

/-- The texts that rendering goes on with: the inside of the first pair of tags, and what
follows the pair. -/
def GoesOn (next t : Text) : Prop :=
  ∃ before e inside rest, firstPair? t = some (before, e, inside, rest) ∧
    (next = inside ∨ next = rest)

theorem GoesOn.length_lt {next t : Text} (h : GoesOn next t) : next.length < t.length := by
  obtain ⟨before, e, inside, rest, found, which⟩ := h
  obtain ⟨pair, rfl, here⟩ := exists_of_firstPair? found
  obtain ⟨shorter, shorter', -⟩ := exists_of_pairHere? here
  rw [List.length_append]
  rcases which with rfl | rfl <;> omega

theorem wellFounded_goesOn : WellFounded GoesOn :=
  Subrelation.wf GoesOn.length_lt (measure List.length).wf

/-- A pair of tags as MarkdownV2: its inside, which is `rendered` as HTML unless it is code,
between two markers. -/
def Element.wrap (e : Element) (inside rendered : Text) : Text :=
  let body := match e with
    | code => Escape.code (stripTags inside)
    | _ => rendered
  e.marker ++ body ++ e.marker

theorem renderWithin_of_none {t : Text} (found : firstPair? t = none) (n : Nat) :
    renderWithin n t = Escape.prose (stripTags t) := by
  cases n with
  | zero => rfl
  | succ n => rw [renderWithin, found]

theorem renderWithin_of_some {t before inside rest : Text} {e : Element}
    (found : firstPair? t = some (before, e, inside, rest)) (n : Nat) :
    renderWithin (n + 1) t =
      Escape.prose (stripTags before) ++ e.wrap inside (renderWithin n inside) ++
        renderWithin n rest := by
  rw [renderWithin, found]
  cases e <;> simp [Element.wrap]

/-- As many steps as the text is long are enough: more of them change nothing. -/
theorem renderWithin_eq {n m : Nat} {t : Text} (enough : t.length ≤ n) (enough' : t.length ≤ m) :
    renderWithin n t = renderWithin m t := by
  induction n generalizing m t with
  | zero =>
    obtain rfl := List.length_eq_zero_iff.mp (Nat.le_zero.mp enough)
    exact (renderWithin_of_none rfl m).symm
  | succ n ih =>
    cases found : firstPair? t with
    | none => rw [renderWithin_of_none found, renderWithin_of_none found]
    | some pair =>
      obtain ⟨before, e, inside, rest⟩ := pair
      have shorter := GoesOn.length_lt ⟨before, e, inside, rest, found, .inl rfl⟩
      have shorter' := GoesOn.length_lt ⟨before, e, inside, rest, found, .inr rfl⟩
      obtain ⟨m, rfl⟩ : ∃ k, m = k + 1 := ⟨m - 1, by omega⟩
      have within : renderWithin n inside = renderWithin m inside := ih (by omega) (by omega)
      have after : renderWithin n rest = renderWithin m rest := ih (by omega) (by omega)
      rw [renderWithin_of_some found, renderWithin_of_some found, within, after]

/-- Rendering, without a bound: the text before the first pair of tags, the pair as
markers around its rendered inside, and the rest rendered the same way. -/
theorem render_eq (raw : Text) :
    render raw = match firstPair? raw with
      | none => Escape.prose (stripTags raw)
      | some (before, e, inside, rest) =>
        Escape.prose (stripTags before) ++ e.wrap inside (render inside) ++ render rest := by
  have oneMore : render raw = renderWithin (raw.length + 1) raw :=
    renderWithin_eq (Nat.le_refl _) (Nat.le_succ _)
  rw [oneMore]
  cases found : firstPair? raw with
  | none => exact renderWithin_of_none found _
  | some pair =>
    obtain ⟨before, e, inside, rest⟩ := pair
    have shorter := GoesOn.length_lt ⟨before, e, inside, rest, found, .inl rfl⟩
    have shorter' := GoesOn.length_lt ⟨before, e, inside, rest, found, .inr rfl⟩
    have within : renderWithin raw.length inside = render inside :=
      renderWithin_eq (Nat.le_of_lt shorter) (Nat.le_refl _)
    have after : renderWithin raw.length rest = render rest :=
      renderWithin_eq (Nat.le_of_lt shorter') (Nat.le_refl _)
    rw [renderWithin_of_some found, within, after]

/-! ### Derivations -/

/-- `written` is `shown` with a backslash before every character that is `special`, and
before no other. -/
inductive Escaped (special : Char → Prop) : (written shown : Text) → Prop where
  | nil : Escaped special [] []
  | plain {c : Char} {written shown : Text} : ¬ special c → Escaped special written shown →
      Escaped special (c :: written) (c :: shown)
  | guarded {c : Char} {written shown : Text} : special c → Escaped special written shown →
      Escaped special ('\\' :: c :: written) (c :: shown)

/-- The characters that are special in code. -/
def IsCodeMarkup (c : Char) : Prop :=
  c = '\\' ∨ c = '`'

/-- What rendered HTML consists of, and what that shows without its markers and escapes:
escaped text, a marker around the same again, code, and any of these in a row. -/
inductive Derives : (written shown : Text) → Prop where
  | empty : Derives [] []
  | text {written shown : Text} : Escaped Escape.IsMarkup written shown → Derives written shown
  | span {written shown : Text} (m : Mark) : m ≠ .spoiler → Derives written shown →
      Derives (m.text ++ written ++ m.text) shown
  | code {written shown : Text} : Escaped IsCodeMarkup written shown →
      Derives ('`' :: written ++ ['`']) shown
  | append {written shown written' shown' : Text} : Derives written shown →
      Derives written' shown' → Derives (written ++ written') (shown ++ shown')

theorem escaped_prose (t : Text) : Escaped Escape.IsMarkup (Escape.prose t) t := by
  induction t with
  | nil => exact .nil
  | cons c t ih =>
    rw [Escape.prose_cons]
    split
    case isTrue special => exact .guarded special ih
    case isFalse plain => exact .plain plain ih

theorem escaped_code (t : Text) : Escaped IsCodeMarkup (Escape.code t) t := by
  rw [Escape.code_eq_guarded]
  induction t with
  | nil => exact .nil
  | cons c t ih =>
    rw [Escape.guarded_cons (by decide)]
    split
    case isTrue special => exact .guarded special ih
    case isFalse plain => exact .plain plain ih

/-- A pair of tags is derived from what its inside is derived from; what is in code is
stripped of its tags instead. -/
theorem exists_derives_wrap (e : Element) {inside rendered shown : Text}
    (derives : Derives rendered shown) (deletes : TagsDeleted inside shown) :
    ∃ within, Derives (e.wrap inside rendered) within ∧ TagsDeleted inside within := by
  cases e with
  | b => exact ⟨shown, .span .bold nofun derives, deletes⟩
  | i => exact ⟨shown, .span .italic nofun derives, deletes⟩
  | u => exact ⟨shown, .span .underline nofun derives, deletes⟩
  | s => exact ⟨shown, .span .strikethrough nofun derives, deletes⟩
  | code => exact ⟨stripTags inside, .code (escaped_code _), stripTags_deletes inside⟩

theorem renderWithin_derives (n : Nat) (t : Text) :
    ∃ shown, Derives (renderWithin n t) shown ∧ TagsDeleted t shown := by
  induction n generalizing t with
  | zero => exact ⟨stripTags t, .text (escaped_prose _), stripTags_deletes t⟩
  | succ n ih =>
    cases found : firstPair? t with
    | none =>
      rw [renderWithin_of_none found]
      exact ⟨stripTags t, .text (escaped_prose _), stripTags_deletes t⟩
    | some pair =>
      obtain ⟨before, e, inside, rest⟩ := pair
      rw [renderWithin_of_some found]
      obtain ⟨tags, rfl, here⟩ := exists_of_firstPair? found
      obtain ⟨-, -, deleted⟩ := exists_of_pairHere? here
      obtain ⟨shown, derivesShown, deletedShown⟩ := ih inside
      obtain ⟨later, derivesLater, deletedLater⟩ := ih rest
      obtain ⟨within, derivesWithin, deletedWithin⟩ :=
        exists_derives_wrap e derivesShown deletedShown
      have text : Derives (Escape.prose (stripTags before)) (stripTags before) :=
        .text (escaped_prose _)
      refine ⟨stripTags before ++ within ++ later, ?_, ?_⟩
      · exact (text.append derivesWithin).append derivesLater
      · rw [List.append_assoc]
        exact (stripTags_deletes before).append (deleted deletedWithin deletedLater)

/-- Raw HTML is safe and loses no text. Whatever the HTML, what is rendered of it is derived
from escaped text, equal markers around the same again, and code; what the derivation shows
is the HTML with some of its tags deleted. Rendering goes on with the inside of a pair of
tags and with what follows the pair, which cannot go on for ever. -/
theorem render_derives (raw : Text) :
    (∃ shown, Derives (render raw) shown ∧ TagsDeleted raw shown) ∧
      WellFounded GoesOn ∧
      render raw = match firstPair? raw with
        | none => Escape.prose (stripTags raw)
        | some (before, e, inside, rest) =>
          Escape.prose (stripTags before) ++ e.wrap inside (render inside) ++ render rest :=
  ⟨renderWithin_derives raw.length raw, wellFounded_goesOn, render_eq raw⟩

end Html

end TelegramMarkdown
