import TelegramMarkdown.Proofs.Escape
import TelegramMarkdown.Proofs.Markup.LineStart

/-!
Escaped prose, and which texts are that.

For a reader of prose a backslash makes the next character literal. From an escaped text it gets
the text back and meets no markup on the way, and behind it nothing is left of the escaping
(`Escape.Reader.run?_prose_append`). Whether a text is escaped prose shows in its backslashes: a
run of them is odd where a reserved character follows and nowhere else
(`Escape.exists_prose_eq_iff`).
-/

namespace TelegramMarkdown.Escape

open Markup (slashesAtEnd slashesAtEnd_concat slashesAtEnd_slash)

/-! ### Reading -/

/-- A reader somewhere in a text. -/
structure Reader where
  /-- What it has read so far. -/
  text : Text
  /-- Whether the last character was a backslash that escapes the next one. -/
  pending : Bool

namespace Reader

/-- A reader at the start of a text. -/
def start : Reader := ⟨[], false⟩

/-- Read one more character. At a reserved character that no backslash escapes the text ends,
and markup starts. -/
def step? (r : Reader) (c : Char) : Option Reader :=
  if r.pending then some ⟨r.text ++ [c], false⟩
  else if c = '\\' then some ⟨r.text, true⟩
  else if c ∈ reserved then none
  else some ⟨r.text ++ [c], false⟩

/-- Read a text to its end, if there is no markup in it. -/
def run? (r : Reader) (t : Text) : Option Reader :=
  t.foldlM step? r

theorem run?_escaped (read : Text) (c : Char) (t : Text) :
    run? ⟨read, false⟩ ('\\' :: c :: t) = run? ⟨read ++ [c], false⟩ t := rfl

theorem run?_plain (read : Text) {c : Char} (h : ¬ IsMarkup c) (t : Text) :
    run? ⟨read, false⟩ (c :: t) = run? ⟨read ++ [c], false⟩ t := by
  obtain ⟨notSlash, notReserved⟩ := not_or.mp h
  have step : step? ⟨read, false⟩ c = some ⟨read ++ [c], false⟩ := by
    rw [step?, if_neg Bool.false_ne_true, if_neg notSlash, if_neg notReserved]
  rw [run?, List.foldlM_cons, step]
  rfl

/-- Reading an escaped text adds the text to what has been read, and leads to what follows it
with no escape pending. -/
theorem run?_prose_append (read s t : Text) :
    run? ⟨read, false⟩ (prose s ++ t) = run? ⟨read ++ s, false⟩ t := by
  induction s generalizing read with
  | nil => rw [prose_nil, List.nil_append, List.append_nil]
  | cons c cs ih =>
    rw [prose_cons, List.append_assoc, List.append_cons read]
    split
    case isTrue =>
      rw [List.cons_append, List.singleton_append, run?_escaped]
      exact ih (read ++ [c])
    case isFalse plain =>
      rw [List.singleton_append, run?_plain read plain]
      exact ih (read ++ [c])

theorem run?_prose (s : Text) : start.run? (prose s) = some ⟨s, false⟩ := by
  have toEnd := run?_prose_append [] s []
  rwa [List.append_nil] at toEnd

end Reader

/-! ### How an escaped text starts -/

theorem exists_prose_eq_slash_cons_iff (c : Char) (u : Text) :
    (∃ s, prose s = '\\' :: c :: u) ↔ IsMarkup c ∧ ∃ s, prose s = u := by
  constructor
  · rintro ⟨s, written⟩
    cases s with
    | nil => cases written
    | cons d ds =>
      rw [prose_cons] at written
      split at written
      case isTrue special =>
        cases written
        exact ⟨special, ds, rfl⟩
      case isFalse plain => exact absurd (.inl (List.cons.inj written).1) plain
  · rintro ⟨special, s, rfl⟩
    refine ⟨c :: s, ?_⟩
    rw [prose_cons, if_pos special]
    rfl

theorem exists_prose_eq_cons_iff {c : Char} (notSlash : c ≠ '\\') (u : Text) :
    (∃ s, prose s = c :: u) ↔ c ∉ reserved ∧ ∃ s, prose s = u := by
  constructor
  · rintro ⟨s, written⟩
    cases s with
    | nil => cases written
    | cons d ds =>
      rw [prose_cons] at written
      split at written
      case isTrue => exact absurd (List.cons.inj written).1.symm notSlash
      case isFalse plain =>
        cases written
        exact ⟨(not_or.mp plain).2, ds, rfl⟩
  · rintro ⟨notReserved, s, rfl⟩
    have plain : ¬ IsMarkup c := not_or.mpr ⟨notSlash, notReserved⟩
    refine ⟨c :: s, ?_⟩
    rw [prose_cons, if_neg plain]
    rfl

theorem prose_ne_slash (s : Text) : prose s ≠ ['\\'] := by
  intro written
  have read := Reader.run?_prose s
  rw [written] at read
  cases read

/-! ### Runs of backslashes -/

/-- Whether the backslashes of a text stand as escaping puts them. -/
structure SlashesFit (u : Text) : Prop where
  /-- A reserved character directly follows an odd run of backslashes. -/
  reserved : ∀ before c after, u = before ++ c :: after → c ∈ Escape.reserved →
    Odd (slashesAtEnd before)
  /-- A run of backslashes, up to where it ends, is odd if a reserved character follows it, and
  even otherwise. -/
  runs : ∀ before after, u = before ++ after → 0 < slashesAtEnd before →
    after.head? ≠ some '\\' →
      (Odd (slashesAtEnd before) ↔ ∃ c ∈ after.head?, c ∈ Escape.reserved)

/-- Whether at each place of a text where no backslash follows, an odd number of them stands
before it just if a reserved character follows, when `done` stands before the text. -/
def FitsAfter (done u : Text) : Prop :=
  ∀ before after, u = before ++ after → after.head? ≠ some '\\' →
    (Odd (slashesAtEnd (done ++ before)) ↔ ∃ c ∈ after.head?, c ∈ reserved)

theorem slashesFit_iff_fitsAfter (u : Text) : SlashesFit u ↔ FitsAfter [] u := by
  constructor
  · intro fits before after whole ends
    rw [List.nil_append]
    obtain none | some := Nat.eq_zero_or_pos (slashesAtEnd before)
    · -- Where there is no run, a reserved character would have to follow an odd one.
      rw [none]
      refine iff_of_false Nat.not_odd_zero ?_
      rintro ⟨c, isNext, isReserved⟩
      obtain ⟨rest, rfl⟩ := List.head?_eq_some_iff.mp isNext
      have odd := fits.reserved before c rest whole isReserved
      rw [none] at odd
      exact Nat.not_odd_zero odd
    · exact fits.runs before after whole some ends
  · intro fits
    constructor
    · intro before c after whole isReserved
      have notSlash : c ≠ '\\' := by
        rintro rfl
        exact absurd isReserved (by decide)
      refine (fits before (c :: after) whole ?_).mpr ⟨c, rfl, isReserved⟩
      exact fun slash => notSlash (Option.some.inj slash)
    · exact fun before after whole _ ends => fits before after whole ends

theorem fitsAfter_nil (done : Text) : FitsAfter done [] ↔ ¬ Odd (slashesAtEnd done) := by
  constructor
  · intro fits odd
    rw [← List.append_nil done] at odd
    obtain ⟨c, isNext, -⟩ := (fits [] [] rfl nofun).mp odd
    cases isNext
  · intro even before after whole _
    obtain ⟨rfl, rfl⟩ := List.append_eq_nil_iff.mp whole.symm
    rw [List.append_nil]
    exact iff_of_false even (fun ⟨_, isNext, _⟩ => nomatch isNext)

theorem fitsAfter_cons (done : Text) (c : Char) (u : Text) :
    FitsAfter done (c :: u) ↔
      (c ≠ '\\' → (Odd (slashesAtEnd done) ↔ c ∈ reserved)) ∧ FitsAfter (done ++ [c]) u := by
  constructor
  · intro fits
    constructor
    · intro notSlash
      have here := fits [] (c :: u) rfl (fun slash => notSlash (Option.some.inj slash))
      simpa using here
    · intro before after whole ends
      rw [← List.append_cons]
      exact fits (c :: before) after (congrArg (c :: ·) whole) ends
  · rintro ⟨here, later⟩ before after whole ends
    cases before with
    | nil =>
      obtain rfl : c :: u = after := whole
      have notSlash : c ≠ '\\' := fun slash => ends (congrArg some slash)
      simpa using here notSlash
    | cons d before =>
      obtain ⟨rfl, rest⟩ := List.cons.inj whole
      rw [List.append_cons]
      exact later before after rest ends

/-- Behind an odd number of backslashes the text goes on as one that starts with a backslash. -/
theorem fitsAfter_iff (done u : Text) :
    FitsAfter done u ↔
      ∃ s, prose s = if Odd (slashesAtEnd done) then '\\' :: u else u := by
  induction u generalizing done with
  | nil =>
    rw [fitsAfter_nil]
    split
    case isTrue odd =>
      refine iff_of_false (not_not.mpr odd) ?_
      rintro ⟨s, written⟩
      exact prose_ne_slash s written
    case isFalse even => exact iff_of_true even ⟨[], rfl⟩
  | cons c u ih =>
    rw [fitsAfter_cons, ih]
    by_cases slash : c = '\\'
    · subst slash
      have special : IsMarkup '\\' := .inl rfl
      rw [slashesAtEnd_slash]
      by_cases odd : Odd (slashesAtEnd done)
      · have even : ¬ Odd (slashesAtEnd done + 1) := Nat.not_odd_iff_even.mpr odd.add_one
        rw [if_neg even, if_pos odd, exists_prose_eq_slash_cons_iff]
        exact and_congr_left' (iff_of_true (fun other => absurd rfl other) special)
      · rw [if_pos (Nat.odd_add_one.mpr odd), if_neg odd]
        exact and_iff_right fun other => absurd rfl other
    · rw [slashesAtEnd_concat done slash, if_neg Nat.not_odd_zero]
      by_cases odd : Odd (slashesAtEnd done)
      · rw [if_pos odd, exists_prose_eq_slash_cons_iff]
        refine and_congr_left' ?_
        rw [IsMarkup, or_iff_right slash]
        exact ⟨fun fits => (fits slash).mp odd, fun isReserved _ => iff_of_true odd isReserved⟩
      · rw [if_neg odd, exists_prose_eq_cons_iff slash]
        refine and_congr_left' ?_
        exact ⟨fun fits => mt (fits slash).mpr odd, fun plain _ => iff_of_false odd plain⟩

theorem exists_prose_eq_iff (u : Text) : (∃ s, prose s = u) ↔ SlashesFit u := by
  rw [slashesFit_iff_fitsAfter, fitsAfter_iff]
  exact Iff.rfl

/-! ### Prose as a whole -/

/-- Escaping prose is exact. What is escaped is read to its end without meeting markup, gives the
text back, and leads to whatever follows it with no escape pending; two texts can be escaped one
by one or as one; and a text is what escaping makes of some text just if its reserved characters
follow odd runs of backslashes and all its other runs are even. -/
theorem prose_exact :
    (∀ s t, Reader.start.run? (prose s) = some ⟨s, false⟩ ∧
      Reader.start.run? (prose s ++ t) = Reader.run? ⟨s, false⟩ t) ∧
    (∀ s t, prose (s ++ t) = prose s ++ prose t) ∧
    ∀ u, (∃ s, prose s = u) ↔ SlashesFit u := by
  refine ⟨?_, prose_append, exists_prose_eq_iff⟩
  intro s t
  exact ⟨Reader.run?_prose s, Reader.run?_prose_append [] s t⟩

-- Two backslashes are one that is escaped, so the underline is markup behind them.
example : Reader.start.run? "a\\\\_".toList = none := rfl

end TelegramMarkdown.Escape
