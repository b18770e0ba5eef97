import TelegramMarkdown.Proofs.BareUrl.Found

/-!
Searching again in what bare URLs leave of a text.

The text between links loses what stands before it and behind it when it stands alone, but the
search goes through it in the same steps: it starts with punctuation that was dropped, or where
the whole text starts, and it ends where a URL starts. So each URL that is found in it was found
in the whole text, in the same place (`BareUrl.Keeps`), and as it was no link then it is none now
(`BareUrl.linkify_stable`).
-/

namespace TelegramMarkdown.BareUrl

/-! ### Steps of the search -/

theorem not_finds_nil {before url after : Text} : ¬ Finds [] before url after := by
  generalize empty : ([] : Text) = t
  rintro (⟨isUrl, -⟩ | _ | ⟨isUrl, -, -⟩)
  · exact isUrl.1.ne_nil (List.append_eq_nil_iff.mp empty.symm).1
  · cases empty
  · exact isUrl.1.ne_nil (List.append_eq_nil_iff.mp empty.symm).1

/-- Behind a character that no URL starts at the search goes on. -/
theorem Finds.of_char {c : Char} {t before url after : Text} (found : Finds (c :: t) before url after)
    (noUrl : ¬ StartsUrl (c :: t)) : ∃ later, before = c :: later ∧ Finds t later url after := by
  generalize whole : c :: t = text at found
  cases found with
  | here isUrl _ => exact absurd (whole ▸ isUrl.1.append _) noUrl
  | char _ found =>
    cases whole
    exact ⟨_, rfl, found⟩
  | url isUrl _ _ => exact absurd (whole ▸ isUrl.1.append _) noUrl

/-- Two URLs that start a text, each up to the end of a word, are one. -/
theorem eq_of_isUrl {first second rest rest' : Text} (isUrl : IsUrl first) (isUrl' : IsUrl second)
    (ends : ∀ c ∈ rest.head?, isUrlChar c = false) (ends' : ∀ c ∈ rest'.head?, isUrlChar c = false)
    (same : first ++ rest = second ++ rest') : first = second ∧ rest = rest' := by
  have sameWord := congrArg (List.takeWhile isUrlChar) same
  rw [takeWhile_append_of_ends isUrl.2 ends, takeWhile_append_of_ends isUrl'.2 ends'] at sameWord
  subst sameWord
  exact ⟨rfl, List.append_cancel_left same⟩

/-- Where a URL starts a text the search finds it, and goes on behind it. -/
theorem Finds.of_url {word t before url after : Text} (found : Finds (word ++ t) before url after)
    (isUrl : IsUrl word) (ends : ∀ c ∈ t.head?, isUrlChar c = false) :
    (before = [] ∧ url = word ∧ after = t) ∨
      ∃ later, before = word ++ later ∧ Finds t later url after := by
  generalize whole : word ++ t = text at found
  cases found with
  | here isUrl' ends' =>
    obtain ⟨rfl, rfl⟩ := eq_of_isUrl isUrl isUrl' ends ends' whole
    exact .inl ⟨rfl, rfl, rfl⟩
  | char noUrl _ => exact absurd (whole ▸ isUrl.1.append t) noUrl
  | url isUrl' ends' found =>
    obtain ⟨rfl, rfl⟩ := eq_of_isUrl isUrl isUrl' ends ends' whole
    exact .inr ⟨_, rfl, found⟩

/-- No URL starts in what is dropped at the end of a URL. -/
theorem Finds.of_dropped {dropped t before url after : Text}
    (found : Finds (dropped ++ t) before url after)
    (drops : ∀ c ∈ dropped, isTrailing c = true ∨ c = ')') :
    ∃ later, before = dropped ++ later ∧ Finds t later url after := by
  induction dropped generalizing before with
  | nil => exact ⟨before, rfl, found⟩
  | cons c dropped ih =>
    obtain ⟨first, others⟩ := List.forall_mem_cons.mp drops
    obtain ⟨front, rfl, inRest⟩ := found.of_char (not_startsUrl_of_isTrailing first _)
    obtain ⟨later, rfl, inText⟩ := ih inRest others
    exact ⟨later, rfl, inText⟩

/-! ### The search in a part of the text -/

/-- Whether each URL that is found in a part of a text, when the part stands alone, is found in
the whole text, in the same place. -/
def FindsIn (whole done part behind : Text) : Prop :=
  ∀ before url after, Finds part before url after →
    Finds whole (done ++ before) url (after ++ behind)

/-- Whether the literals among inlines, which stand in a text behind `done`, are such parts. -/
def Keeps (whole : Text) : Text → List Inline → Prop
  | _, [] => True
  | done, piece :: rest =>
    (∀ u, piece = .literal u → FindsIn whole done u (Inline.plainAll rest)) ∧
      Keeps whole (done ++ piece.plain) rest

theorem Keeps.behind {t whole : Text} (p : Text)
    (later : ∀ before url after, Finds t before url after → Finds whole (p ++ before) url after)
    {done : Text} {pieces : List Inline} (h : Keeps t done pieces) :
    Keeps whole (p ++ done) pieces := by
  induction pieces generalizing done with
  | nil => trivial
  | cons piece rest ih =>
    refine ⟨?_, ?_⟩
    · intro u isLiteral before url after found
      rw [List.append_assoc]
      exact later _ _ _ (h.1 u isLiteral before url after found)
    · rw [List.append_assoc]
      exact ih h.2

/-- Text that goes to the front of inlines goes into the literal that they start with, or becomes
one. -/
theorem Keeps.prepend {whole front done more : Text} {pieces : List Inline}
    (h : Keeps whole front pieces) (split : front = done ++ more)
    (joins : ∀ u behind, u ++ behind = Inline.plainAll pieces →
      FindsIn whole front u behind → FindsIn whole done (more ++ u) behind) :
    Keeps whole done (BareUrl.prepend more pieces) := by
  subst split
  unfold BareUrl.prepend
  split
  case h_1 u rest =>
    refine ⟨?_, ?_⟩
    · rintro _ ⟨⟩
      exact joins u _ (by rw [Inline.plainAll, Inline.plain]) (h.1 u rfl)
    · rw [Inline.plain, ← List.append_assoc]
      exact h.2
  case h_2 =>
    split
    case isTrue isEmpty =>
      rw [List.isEmpty_iff.mp isEmpty, List.append_nil] at h
      exact h
    case isFalse =>
      refine ⟨?_, h⟩
      rintro _ ⟨⟩
      have alone := joins [] _ rfl fun _ _ _ found => absurd found not_finds_nil
      rwa [List.append_nil] at alone

theorem keeps_linkifyAfter (n : Nat) (before : Option Char) (t : Text) :
    Keeps t [] (linkifyAfter n before t) := by
  induction n, before, t using induction_steps with
  | zero before t =>
    refine @Keeps.prepend t t [] t [] trivial rfl ?_
    intro u behind same _ before url after found
    obtain ⟨rfl, rfl⟩ := List.append_eq_nil_iff.mp same
    rwa [List.append_nil] at found ⊢
  | nil n before =>
    rw [linkifyAfter_nil]
    trivial
  | char n before c rest noUrl ih =>
    rw [linkifyAfter_char before n noUrl]
    refine (ih.behind [c] fun _ _ _ => .char noUrl).prepend rfl ?_
    intro u behind same finds before url after found
    rw [plainAll_linkifyAfter] at same
    have noUrl' : ¬ StartsUrl (c :: u) := by
      intro starts
      have longer := starts.append behind
      rw [List.cons_append, same] at longer
      exact noUrl longer
    obtain ⟨later, rfl, inRest⟩ := found.of_char noUrl'
    exact finds later url after inRest
  | url n before word rest starts isUrl ends ih =>
    have keeps := ih.behind word fun _ _ _ => .url ⟨starts, isUrl⟩ ends
    rw [List.append_nil] at keeps
    rw [linkifyAfter_url before n starts isUrl ends]
    split
    case isTrue =>
      refine ⟨nofun, ?_⟩
      rw [plain_link, List.nil_append]
      refine keeps.prepend (trim_append_drop word).symm ?_
      intro u behind _ finds before url after found
      obtain ⟨later, rfl, inRest⟩ := found.of_dropped (isTrailing_of_mem_drop_trim word)
      rw [← List.append_assoc, trim_append_drop]
      exact finds later url after inRest
    case isFalse =>
      refine keeps.prepend rfl ?_
      intro u behind same finds before url after found
      rw [plainAll_linkifyAfter] at same
      subst same
      have ends' : ∀ c ∈ u.head?, isUrlChar c = false := by
        intro c isFirst
        refine ends c ?_
        rw [List.head?_append, Option.mem_def.mp isFirst]
        rfl
      obtain ⟨rfl, rfl, rfl⟩ | ⟨later, rfl, inRest⟩ := found.of_url ⟨starts, isUrl⟩ ends'
      · exact .here ⟨starts, isUrl⟩ ends
      · exact finds later url after inRest

theorem Keeps.findsIn {whole done u : Text} {front back : List Inline}
    (h : Keeps whole done (front ++ .literal u :: back)) :
    FindsIn whole (done ++ Inline.plainAll front) u (Inline.plainAll back) := by
  induction front generalizing done with
  | nil =>
    rw [Inline.plainAll, List.append_nil]
    exact h.1 u rfl
  | cons first rest ih =>
    rw [Inline.plainAll, ← List.append_assoc]
    exact ih h.2

/-! ### Searching again -/

/-- A link stays as it is, and so does the text between links. -/
theorem finishOne_of_mem_linkify {t : Text} {piece : Inline} (isIn : piece ∈ linkify t) :
    Builder.finishOne ⟨true, []⟩ 0 piece = [piece] := by
  cases piece with
  | literal u => simp [Builder.finishOne, linkify_literal_of_mem isIn]
  | _ => rfl

/-- Where bare URLs have been made links, searching again changes nothing. A literal between the
links, searched when it stands alone, is left as it is; each URL that is found in it then was found
in the whole text, in the same place, so none comes up because of what is cut off before it or
behind it. -/
theorem linkify_stable (t : Text) :
    (linkify t).flatMap (Builder.finishOne ⟨true, []⟩ 0) = linkify t ∧
      ∀ front u back, linkify t = front ++ .literal u :: back →
        linkify u = [.literal u] ∧ FindsIn t (Inline.plainAll front) u (Inline.plainAll back) := by
  constructor
  · calc (linkify t).flatMap (Builder.finishOne ⟨true, []⟩ 0)
        = (linkify t).flatMap (fun piece => [piece]) :=
          List.flatMap_congr fun _ isIn => finishOne_of_mem_linkify isIn
      _ = linkify t := List.flatMap_singleton' _
  · intro front u back whole
    have isIn : Inline.literal u ∈ linkify t := by
      rw [whole]
      exact List.mem_append_right front List.mem_cons_self
    have keeps := keeps_linkifyAfter t.length none t
    rw [← linkify, whole] at keeps
    exact ⟨linkify_literal_of_mem isIn, keeps.findsIn⟩

/-- The text after a link starts with what was dropped of its URL and holds a URL that was found
but may not stand where it does, as it goes on a word. -/
theorem linkify_stable_behind_link :
    linkify "(www.a.b.) xwww.c.d".toList =
        [.literal ['('], link "www.a.b".toList] ++ .literal ".) xwww.c.d".toList :: [] ∧
      linkify ".) xwww.c.d".toList = [.literal ".) xwww.c.d".toList] ∧
      Finds ".) xwww.c.d".toList ".) x".toList "www.c.d".toList [] ∧
      Finds "(www.a.b.) xwww.c.d".toList "(www.a.b.) x".toList "www.c.d".toList [] := by
  have whole : linkify "(www.a.b.) xwww.c.d".toList =
      [.literal ['('], link "www.a.b".toList] ++ .literal ".) xwww.c.d".toList :: [] := rfl
  obtain ⟨-, literals⟩ := linkify_stable "(www.a.b.) xwww.c.d".toList
  obtain ⟨stays, findsIn⟩ := literals _ _ _ whole
  have isUrl : IsUrl "www.c.d".toList := isUrl_iff_matchHere?.mpr (by decide +kernel)
  have letter : ¬ StartsUrl "xwww.c.d".toList := fun starts => absurd starts.matchHere? (by decide)
  have found : Finds ".) xwww.c.d".toList ".) x".toList "www.c.d".toList [] := by
    refine .char ?_ (.char ?_ (.char ?_ (.char letter (.whole isUrl))))
    · exact fun starts => absurd starts.isAlpha (by decide)
    · exact fun starts => absurd starts.isAlpha (by decide)
    · exact fun starts => absurd starts.isAlpha (by decide)
  exact ⟨whole, stays, found, findsIn _ _ _ found⟩

end TelegramMarkdown.BareUrl
