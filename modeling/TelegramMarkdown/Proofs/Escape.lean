import TelegramMarkdown.Escape

/-!
Escaping, one character at a time.

Code and URLs are escaped in two passes, first the backslash and then the
character that would end the context. `guarded_cons` reads the two passes as one,
so that a proof about an escaped text can go by induction on the text.
-/

namespace TelegramMarkdown.Escape

/-! ### Prose -/

/-- Whether a character gets a backslash in prose. -/
def IsMarkup (c : Char) : Prop :=
  c = '\\' ∨ c ∈ reserved

instance (c : Char) : Decidable (IsMarkup c) :=
  inferInstanceAs (Decidable (c = '\\' ∨ c ∈ reserved))

/-- What holds of neither the backslash nor a reserved character holds of none that
gets a backslash. -/
theorem IsMarkup.eq_false {c : Char} (h : IsMarkup c) {p : Char → Bool}
    (slash : p '\\' = false) (others : reserved.any p = false) : p c = false := by
  rcases h with rfl | isReserved
  · exact slash
  · exact (Bool.not_eq_true _).mp (List.any_eq_false.mp others c isReserved)

@[simp] theorem prose_nil : prose [] = [] := rfl

theorem prose_cons (c : Char) (t : Text) :
    prose (c :: t) = (if IsMarkup c then ['\\', c] else [c]) ++ prose t := rfl

theorem prose_singleton_of_markup {c : Char} (h : IsMarkup c) : prose [c] = ['\\', c] := by
  rw [prose_cons, if_pos h]
  rfl

theorem prose_singleton_of_not_markup {c : Char} (h : ¬ IsMarkup c) : prose [c] = [c] := by
  rw [prose_cons, if_neg h]
  rfl

/-! ### Code and URLs -/

/-- Both passes of the escaping of a context that `stop` ends. -/
def guarded (stop : Char) (t : Text) : Text :=
  guardChar stop (guardChar '\\' t)

theorem code_eq_guarded (t : Text) : code t = guarded '`' t := rfl

theorem linkUrl_eq_guarded (t : Text) : linkUrl t = guarded ')' t := rfl

@[simp] theorem guarded_nil (stop : Char) : guarded stop [] = [] := rfl

theorem guarded_append (stop : Char) (s t : Text) :
    guarded stop (s ++ t) = guarded stop s ++ guarded stop t := by
  simp only [guarded, guardChar_append]

theorem code_append (s t : Text) : code (s ++ t) = code s ++ code t :=
  guarded_append '`' s t

/-- Lines may be escaped one by one or all together. -/
theorem code_flatMap_lines (lines : List Text) :
    lines.flatMap (fun line => code line ++ ['\n']) = code (lines.flatMap (· ++ ['\n'])) := by
  have newline : code ['\n'] = ['\n'] := by decide
  induction lines with
  | nil => rfl
  | cons line lines ih => simp only [List.flatMap_cons, code_append, newline, ih]

/-- The two passes are one: the backslashes that the first pass adds are left
alone by the second. -/
theorem guarded_cons {stop : Char} (hstop : stop ≠ '\\') (c : Char) (t : Text) :
    guarded stop (c :: t) =
      (if c = '\\' ∨ c = stop then ['\\', c] else [c]) ++ guarded stop t := by
  by_cases hslash : c = '\\'
  · subst hslash
    simp [guarded, guardChar, hstop.symm]
  · by_cases hend : c = stop
    · simp [guarded, guardChar, hend, hstop]
    · simp [guarded, guardChar, hslash, hend]

/-- An escaped text does not start with the character that ends its context. -/
theorem guarded_head_ne {stop : Char} (hstop : stop ≠ '\\') {t : Text} (ht : t ≠ []) :
    ∀ rest u : Text, guarded stop t ++ rest ≠ stop :: u := by
  intro rest u h
  obtain ⟨c, cs, rfl⟩ := List.exists_cons_of_ne_nil ht
  rw [guarded_cons hstop] at h
  split at h
  · exact hstop (by simpa using (List.cons.inj h).1.symm)
  · rename_i hc
    exact hc (Or.inr (by simpa using (List.cons.inj h).1))

end TelegramMarkdown.Escape
