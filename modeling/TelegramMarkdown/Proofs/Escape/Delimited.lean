import TelegramMarkdown.Proofs.Escape.Reading

/-!
Where an escaped text ends.

Code and URLs are escaped in two passes, and come out as if each backslash and each character
that ends their context had got its backslash in one (`guarded_eq_slashed`). A reader gets an
escaped text back whatever stands behind the end of its context, and meets no end before that
(`SelfDelimiting.of_read`); so it is with code and with URLs (`code_linkUrl_selfDelimiting`).
-/

namespace TelegramMarkdown.Escape

/-- Put a backslash before each backslash and each `stop`. -/
def slashed (stop : Char) (t : Text) : Text :=
  t.flatMap fun c => if c = '\\' ∨ c = stop then ['\\', c] else [c]

/-- Whether texts that are escaped for a context show where they end in it. -/
structure SelfDelimiting (stop : Char) (escape : Text → Text) : Prop where
  /-- A text is read back, up to the end of the context behind it. -/
  read : ∀ t rest, readTo? [stop] (escape t ++ stop :: rest) = some (t, rest)
  /-- No part of a text ends the context. -/
  noEnd : ∀ t front, front <+: escape t → readTo? [stop] front = none
  /-- There is one text, with one rest behind it, that is written in a given way. -/
  unique : ∀ t t' rest rest', escape t ++ stop :: rest = escape t' ++ stop :: rest' →
    t = t' ∧ rest = rest'
  /-- Different texts are escaped differently. -/
  injective : Function.Injective escape

section

variable {stop : Char} (noSlash : stop ≠ '\\')

include noSlash

/-- The backslashes that the first pass puts in are left alone by the second, which looks for
another character. -/
theorem guarded_eq_slashed (t : Text) : guarded stop t = slashed stop t := by
  induction t with
  | nil => rfl
  | cons c cs ih =>
    rw [guarded_cons noSlash, ih]
    rfl

/-- A reader that has found the end of the context finds it there with more text behind. -/
theorem readTo?_append {front content rest : Text}
    (found : readTo? [stop] front = some (content, rest)) (more : Text) :
    readTo? [stop] (front ++ more) = some (content, rest ++ more) := by
  fun_induction readTo? [stop] front generalizing content rest with
  | case1 => cases found
  | case2 c t ih =>
    obtain ⟨⟨inside, behind⟩, read, same⟩ := Option.map_eq_some_iff.mp found
    cases same
    rw [List.cons_append, List.cons_append, readTo?, ih read]
    rfl
  | case3 c t _ behind ends =>
    cases found
    obtain ⟨rfl, rfl⟩ := List.cons.inj (Text.eq_append_of_dropLead? ends)
    rw [List.cons_append, readTo?_cons_of_ne _ noSlash]
    have atOnce : Text.dropLead? [c] (c :: (t ++ more)) = some (t ++ more) :=
      Text.dropLead?_append [c] (t ++ more)
    rw [atOnce]
  | case4 c t notPair goesOn ih =>
    obtain ⟨⟨inside, behind⟩, read, same⟩ := Option.map_eq_some_iff.mp found
    cases same
    -- A backslash with nothing behind it is read as itself, but then no end is found.
    have notSlash : c ≠ '\\' := by
      rintro rfl
      cases t with
      | nil => cases read
      | cons d ds => exact notPair d ds rfl rfl
    have notStop : c ≠ stop := by
      rintro rfl
      simp [Text.dropLead?] at goesOn
    rw [List.cons_append, readTo?_cons_of_ne _ notSlash, Text.dropLead?, if_neg notStop]
    dsimp only
    rw [ih read]
    rfl

/-- All else follows from what is read back. -/
theorem SelfDelimiting.of_read {escape : Text → Text}
    (read : ∀ t rest, readTo? [stop] (escape t ++ stop :: rest) = some (t, rest)) :
    SelfDelimiting stop escape := by
  have unique (t t' rest rest' : Text)
      (same : escape t ++ stop :: rest = escape t' ++ stop :: rest') : t = t' ∧ rest = rest' := by
    have alike := read t rest
    rw [same, read t' rest'] at alike
    cases alike
    exact ⟨rfl, rfl⟩
  refine ⟨read, ?_, unique, ?_⟩
  · rintro t front ⟨more, whole⟩
    -- An end inside the text would be the first one, with a rest that is not empty behind it.
    cases found : readTo? [stop] front with
    | none => rfl
    | some ends =>
      have early := readTo?_append noSlash found (more ++ [stop])
      rw [← List.append_assoc, whole, read t []] at early
      simp at early
  · intro t t' same
    exact (unique t t' [] [] (by rw [same])).1

theorem selfDelimiting_guarded : SelfDelimiting stop (guarded stop) :=
  .of_read noSlash fun t rest => readTo?_guarded noSlash [] t rest

end

/-- What is escaped as code, or as a URL, delimits itself. Two passes over the whole text put the
same backslashes as one. A reader that stops at the first backtick, or closing parenthesis, that
no backslash escapes gets the text back and stops right behind it, whatever comes after; within
the text it finds no end. So different texts are escaped differently. -/
theorem code_linkUrl_selfDelimiting :
    (∀ t, code t = slashed '`' t) ∧ SelfDelimiting '`' code ∧
      (∀ t, linkUrl t = slashed ')' t) ∧ SelfDelimiting ')' linkUrl := by
  have backtick : '`' ≠ '\\' := by decide
  have parenthesis : ')' ≠ '\\' := by decide
  refine ⟨?_, ?_, ?_, ?_⟩
  · intro t
    rw [code_eq_guarded, guarded_eq_slashed backtick]
  · exact selfDelimiting_guarded backtick
  · intro t
    rw [linkUrl_eq_guarded, guarded_eq_slashed parenthesis]
  · exact selfDelimiting_guarded parenthesis

-- The order of the passes matters: the other way round, a backtick would end the code.
example : readTo? ['`'] (guardChar '\\' (guardChar '`' "a`b".toList) ++ ['`']) =
    some ("a\\".toList, "b`".toList) := by decide

end TelegramMarkdown.Escape
