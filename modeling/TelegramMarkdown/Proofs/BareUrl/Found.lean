import TelegramMarkdown.Proofs.BareUrl.Pieces
import TelegramMarkdown.Proofs.Text.Offsets

/-!
Which of the URLs that are found in a text become links.

A URL that is found becomes a link where it may stand, if what is left of it when it is trimmed is
a URL that looks complete. Its letter case should make no difference, but an address without a dot
is known by `mailto:` in small letters only; nor should slashes at its end, but the first two of
them are taken for those of a scheme (`BareUrl.links_of_found`).
-/

namespace TelegramMarkdown.BareUrl

/-! ### URLs that are found, and links -/

/-- Whether a search from the start of a text finds a URL: in `before ++ url ++ after`, which is the
text, no other URL reaches into it. The search goes on behind each URL that it finds. -/
inductive Finds : (t before url after : Text) → Prop where
  | here {url after : Text} : IsUrl url → (∀ c ∈ after.head?, isUrlChar c = false) →
      Finds (url ++ after) [] url after
  | char {c : Char} {t before url after : Text} : ¬ StartsUrl (c :: t) →
      Finds t before url after → Finds (c :: t) (c :: before) url after
  | url {first t before url after : Text} : IsUrl first → (∀ c ∈ t.head?, isUrlChar c = false) →
      Finds t before url after → Finds (first ++ t) (first ++ before) url after

/-- The links among inlines that stand after a text, each by the text before it and the text that
it shows. -/
def linksAfter (before : Text) : List Inline → List (Text × Text)
  | [] => []
  | .link _ _ children :: rest =>
    (before, Inline.plainAll children) :: linksAfter (before ++ Inline.plainAll children) rest
  | inline :: rest => linksAfter (before ++ inline.plain) rest

/-- The links that are made in a text, each by the text before it and its label. -/
def links (t : Text) : List (Text × Text) :=
  linksAfter [] (linkify t)

/-- The span of bytes of a link. -/
def byteSpan (link : Text × Text) : Markdown.Span :=
  ⟨Text.size link.1, Text.size (link.1 ++ link.2)⟩

theorem Finds.whole {url : Text} (isUrl : IsUrl url) : Finds url [] url [] := by
  have found := @Finds.here url [] isUrl nofun
  rwa [List.append_nil] at found

theorem Finds.isUrl {t before url after : Text} (h : Finds t before url after) : IsUrl url := by
  induction h with
  | here isUrl _ => exact isUrl
  | char _ _ ih => exact ih
  | url _ _ _ ih => exact ih

theorem linksAfter_prepend (before t : Text) (rest : List Inline) :
    linksAfter before (prepend t rest) = linksAfter (before ++ t) rest := by
  unfold prepend
  split
  case h_1 u rest => simp [linksAfter, Inline.plain]
  case h_2 =>
    split
    case isTrue isEmpty => rw [List.isEmpty_iff.mp isEmpty, List.append_nil]
    case isFalse => simp [linksAfter, Inline.plain]

theorem linksAfter_link (before label : Text) (rest : List Inline) :
    linksAfter before (link label :: rest) =
      (before, label) :: linksAfter (before ++ label) rest := by
  simp [link, linksAfter, Inline.plain, Inline.plainAll]

theorem isPrefix_of_mem_linksAfter {before : Text} {inlines : List Inline} {l : Text × Text}
    (h : l ∈ linksAfter before inlines) : before <+: l.1 := by
  fun_induction linksAfter before inlines with
  | case1 => cases h
  | case2 before url isImage children rest ih =>
    obtain rfl | later := List.mem_cons.mp h
    · exact List.prefix_refl _
    · exact (List.prefix_append _ _).trans (ih later)
  | case3 before inline rest _ ih => exact (List.prefix_append _ _).trans (ih h)

/-! ### What becomes of a URL that is found -/

/-- The links of a text, one by one. -/
theorem linksAfter_linkifyAfter_url (before : Option Char) (n : Nat) (p : Text) {url after : Text}
    (isUrl : IsUrl url) (ends : ∀ c ∈ after.head?, isUrlChar c = false) :
    linksAfter p (linkifyAfter (n + 1) before (url ++ after)) =
      (if mayFollow before && isComplete (trim url) then [(p, trim url)] else []) ++
        linksAfter (p ++ url) (linkifyAfter n url.getLast? after) := by
  rw [linkifyAfter_url before n isUrl.1 isUrl.2 ends]
  split
  · rw [linksAfter_link, linksAfter_prepend, List.append_assoc, trim_append_drop]
    rfl
  · rw [linksAfter_prepend]
    rfl

/-- No link after more of a text stands earlier. -/
theorem not_mem_linksAfter {more : Text} (notEmpty : more ≠ []) (before label : Text)
    (inlines : List Inline) : (before, label) ∉ linksAfter (before ++ more) inlines := by
  intro isIn
  have isPrefix : before ++ more <+: before := isPrefix_of_mem_linksAfter isIn
  have same := isPrefix.eq_of_length_le (List.prefix_append before more).length_le
  exact notEmpty (List.append_right_eq_self.mp same)

theorem mem_linksAfter_iff {t before url after : Text} (found : Finds t before url after) :
    ∀ (previous : Option Char) (p : Text) (n : Nat), t.length ≤ n →
      ((p ++ before, trim url) ∈ linksAfter p (linkifyAfter n previous t) ↔
        mayFollow (before.getLast?.or previous) = true ∧ isComplete (trim url) = true) := by
  induction found with
  | here isUrl ends =>
    intro previous p n enough
    have notEmpty := List.length_pos_of_ne_nil isUrl.1.ne_nil
    rw [List.length_append] at enough
    obtain ⟨n, rfl⟩ : ∃ m, n = m + 1 := ⟨n - 1, by omega⟩
    rw [linksAfter_linkifyAfter_url previous n p isUrl ends, List.append_nil, List.mem_append]
    rw [or_iff_left (not_mem_linksAfter isUrl.1.ne_nil p _ _), List.getLast?_nil, Option.none_or,
      ← Bool.and_eq_true]
    split
    case isTrue isLink => exact iff_of_true List.mem_cons_self isLink
    case isFalse noLink => exact iff_of_false List.not_mem_nil noLink
  | @char c t before url after noUrl _ ih =>
    intro previous p n enough
    obtain ⟨n, rfl⟩ : ∃ m, n = m + 1 := ⟨n - 1, by simp at enough; omega⟩
    have later := ih (some c) (p ++ [c]) n (Nat.le_of_succ_le_succ enough)
    have last : (c :: before).getLast?.or previous = before.getLast?.or (some c) := by
      cases before <;> simp [List.getLast?_cons]
    rw [linkifyAfter_char previous n noUrl, linksAfter_prepend, last, ← later]
    simp
  | @url first t before url after isUrl ends _ ih =>
    intro previous p n enough
    have notEmpty := List.length_pos_of_ne_nil isUrl.1.ne_nil
    rw [List.length_append] at enough
    obtain ⟨n, rfl⟩ : ∃ m, n = m + 1 := ⟨n - 1, by omega⟩
    have later := ih first.getLast? (p ++ first) n (by omega)
    have last : (first ++ before).getLast?.or previous = before.getLast?.or first.getLast? := by
      rw [List.getLast?_append, Option.or_assoc, List.getLast?_eq_some_getLast isUrl.1.ne_nil,
        Option.some_or]
    rw [linksAfter_linkifyAfter_url previous n p isUrl ends, last, ← later, List.append_assoc,
      List.mem_append, or_iff_right]
    intro isIn
    split at isIn
    · have sooner : p ++ (first ++ before) = p :=
        congrArg Prod.fst (List.mem_singleton.mp isIn)
      have none := List.append_right_eq_self.mp sooner
      exact isUrl.1.ne_nil (List.append_eq_nil_iff.mp none).1
    · cases isIn

/-- What becomes of a text that is a URL as a whole. -/
theorem links_of_isUrl {url : Text} (isUrl : IsUrl url) :
    links url = if isComplete (trim url) then [([], trim url)] else [] := by
  have positive := List.length_pos_of_ne_nil isUrl.1.ne_nil
  obtain ⟨n, length⟩ : ∃ n, url.length = n + 1 := ⟨url.length - 1, by omega⟩
  have made := @linksAfter_linkifyAfter_url none n [] url [] isUrl nofun
  rw [List.append_nil, linkifyAfter_nil, linksAfter, List.append_nil, mayFollow,
    Bool.true_and] at made
  rw [links, linkify, length, made]

theorem mayFollow_iff (before : Option Char) :
    mayFollow before = true ↔
      ∀ c ∈ before, Text.isBlank c = true ∨ c = '(' ∨ c = '"' ∨ c = '\'' := by
  cases before with
  | none => simp [mayFollow]
  | some c => simp [mayFollow, or_assoc]

/-! ### Letter case -/

/-- A text in capitals, as far as they are ASCII letters. -/
def capitals (t : Text) : Text :=
  t.map Char.toUpper

@[simp] theorem capitals_nil : capitals [] = [] := rfl

@[simp] theorem capitals_cons (c : Char) (t : Text) :
    capitals (c :: t) = c.toUpper :: capitals t := rfl

@[simp] theorem capitals_append (t u : Text) : capitals (t ++ u) = capitals t ++ capitals u :=
  List.map_append

@[simp] theorem length_capitals (t : Text) : (capitals t).length = t.length :=
  List.length_map _

section

variable (c : Char)

theorem isUrlChar_toUpper : isUrlChar c.toUpper = isUrlChar c :=
  Text.toUpper_congr c isUrlChar fun _ => isUrlChar_of_isAlpha

theorem isTrailing_toUpper : isTrailing c.toUpper = isTrailing c := by
  refine Text.toUpper_congr c isTrailing (a := false) fun d isAlpha => ?_
  have signs : ∀ e ∈ ['.', ',', ':', ';', '!', '?', '"', '\''], e.isAlpha = false := by simp
  rw [isTrailing, List.contains_eq_mem, decide_eq_false_iff_not]
  exact fun isIn => Text.ne_of_isAlpha isAlpha (signs d isIn) rfl

theorem agrees_toUpper_iff {l : Char} : Agrees l c.toUpper ↔ Agrees l c := by
  have long : c.toUpper = '\u017F' ↔ c = '\u017F' := Text.toUpper_eq_iff c (by simp)
  rw [Agrees, Agrees, Text.toLower_toUpper, long]

end

theorem mayFollow_toUpper (before : Option Char) :
    mayFollow (before.map Char.toUpper) = mayFollow before := by
  cases before with
  | none => rfl
  | some c => simp [mayFollow, Text.isBlank_toUpper, Text.toUpper_eq_iff]

theorem mem_capitals_iff {d : Char} (sign : d.isAlpha = false) (t : Text) :
    d ∈ capitals t ↔ d ∈ t := by
  simp [capitals, Text.toUpper_eq_iff _ sign]

theorem size_capitals (t : Text) : Text.size (capitals t) = Text.size t := by
  induction t with
  | nil => rfl
  | cons c cs ih => rw [capitals_cons, Text.size, Text.size, Text.utf8Size_toUpper, ih]

theorem startsUrl_capitals_iff (t : Text) : StartsUrl (capitals t) ↔ StartsUrl t := by
  have agree_iff (lead spelled : Text) :
      List.Forall₂ Agrees lead (spelled.map Char.toUpper) ↔ List.Forall₂ Agrees lead spelled := by
    simp only [List.forall₂_map_right_iff, agrees_toUpper_iff]
  constructor
  · generalize whole : capitals t = text
    rintro ⟨rest, isLead, agree, isUrl⟩
    obtain ⟨spelled, rest, rfl, rfl, more⟩ := List.map_eq_append_iff.mp whole
    obtain ⟨c, rest, rfl, rfl, rfl⟩ := List.map_eq_cons_iff.mp more
    rw [isUrlChar_toUpper] at isUrl
    exact ⟨rest, isLead, (agree_iff _ _).mp agree, isUrl⟩
  · rintro @⟨lead, spelled, c, rest, isLead, agree, isUrl⟩
    rw [← isUrlChar_toUpper] at isUrl
    rw [capitals_append, capitals_cons]
    exact ⟨_, isLead, (agree_iff _ _).mpr agree, isUrl⟩

theorem trimOnce_capitals (url : Text) : trimOnce (capitals url) = capitals (trimOnce url) := by
  have same : isTrailing ∘ Char.toUpper = isTrailing := funext isTrailing_toUpper
  have ends : Text.dropEndWhile isTrailing (capitals url) =
      capitals (Text.dropEndWhile isTrailing url) := by
    rw [capitals, Text.dropEndWhile, ← List.map_reverse, List.dropWhile_map, same,
      ← List.map_reverse]
    rfl
  have count (d : Char) (sign : d.isAlpha = false) (t : Text) :
      (capitals t).count d = t.count d := by
    rw [List.count_eq_countP, List.count_eq_countP, capitals, List.countP_map]
    refine List.countP_congr fun c _ => ?_
    simp [Text.toUpper_eq_iff c sign]
  have closes (t : Text) : (capitals t).getLast? = some ')' ↔ t.getLast? = some ')' := by
    simp [capitals, List.getLast?_map, Text.toUpper_eq_iff]
  unfold trimOnce
  dsimp only
  simp only [ends, count '(' (by simp), count ')' (by simp), closes]
  split
  · exact List.map_dropLast.symm
  · rfl

theorem trimWithin_capitals (n : Nat) (url : Text) :
    trimWithin n (capitals url) = capitals (trimWithin n url) := by
  induction n generalizing url with
  | zero => rfl
  | succ n ih =>
    rw [trimWithin, trimWithin, trimOnce_capitals, ih, length_capitals, length_capitals]
    split
    · rfl
    · rfl

theorem trim_capitals (url : Text) : trim (capitals url) = capitals (trim url) := by
  rw [trim, length_capitals, trimWithin_capitals, trim]

/-- In capitals an address is complete only if it holds a dot. -/
theorem isComplete_capitals (url : Text) :
    isComplete (capitals url) = (isComplete url && decide ('.' ∈ url)) := by
  have alike : List.Forall₂ (fun c c' => c' = c.toUpper) url (capitals url) := by
    simp [capitals, List.forall₂_map_right_iff]
  have slash (c c' : Char) (same : c' = c.toUpper) : c' = '/' ↔ c = '/' := by
    rw [same, Text.toUpper_eq_iff c (by simp)]
  have noAddress : ¬ "mailto:".toList <+: capitals url := by
    intro starts
    obtain ⟨c, -, isM⟩ := List.mem_map.mp (starts.subset (List.mem_cons_self : 'm' ∈ _))
    have capital := Text.toNat_toUpper c
    rw [isM, show 'm'.toNat = 109 from rfl] at capital
    split at capital <;> omega
  rw [Bool.eq_iff_iff, Bool.and_eq_true, decide_eq_true_eq]
  rw [isComplete_iff, isComplete_iff, ← afterSlashes?_eq_nil_iff, ← afterSlashes?_eq_nil_iff,
    afterSlashes?_eq_nil_iff_of_alike slash alike, afterSlashes?_eq_none_iff_of_alike slash alike,
    ← alike.length_eq, mem_capitals_iff (by simp), or_iff_left noAddress]
  constructor
  · rintro ⟨notAtEnd, long, dot⟩
    exact ⟨⟨notAtEnd, long, .inl dot⟩, dot⟩
  · rintro ⟨⟨notAtEnd, long, -⟩, dot⟩
    exact ⟨notAtEnd, long, dot⟩

theorem linksAfter_capitals (n : Nat) (before : Option Char) (t p : Text) :
    linksAfter (capitals p) (linkifyAfter n (before.map Char.toUpper) (capitals t)) =
      ((linksAfter p (linkifyAfter n before t)).filter ('.' ∈ ·.2)).map
        (Prod.map capitals capitals) := by
  induction n, before, t using induction_steps generalizing p with
  | zero before t =>
    rw [linkifyAfter, linkifyAfter, linksAfter_prepend, linksAfter_prepend]
    rfl
  | nil n before =>
    rw [linkifyAfter_nil, capitals_nil, linkifyAfter_nil]
    rfl
  | char n before c rest noUrl ih =>
    have noUrl' : ¬ StartsUrl (c.toUpper :: capitals rest) :=
      (startsUrl_capitals_iff (c :: rest)).not.mpr noUrl
    rw [linkifyAfter_char before n noUrl, linksAfter_prepend, ← ih, capitals_cons,
      linkifyAfter_char _ n noUrl', linksAfter_prepend, capitals_append]
    rfl
  | url n before word rest starts isUrl ends ih =>
    have wordIsUrl : IsUrl (capitals word) := by
      refine ⟨(startsUrl_capitals_iff word).mpr starts, ?_⟩
      simpa [capitals, isUrlChar_toUpper] using isUrl
    have ends' : ∀ c ∈ (capitals rest).head?, isUrlChar c = false := by
      simpa [capitals, List.head?_map, isUrlChar_toUpper] using ends
    have last : (capitals word).getLast? = word.getLast?.map Char.toUpper := List.getLast?_map
    rw [capitals_append, linksAfter_linkifyAfter_url _ n _ wordIsUrl ends',
      linksAfter_linkifyAfter_url before n p ⟨starts, isUrl⟩ ends, mayFollow_toUpper,
      trim_capitals, isComplete_capitals, last, List.filter_append, List.map_append, ← ih,
      capitals_append, ← Bool.and_assoc]
    congr 1
    generalize (mayFollow before && isComplete (trim word)) = isLink
    by_cases dot : '.' ∈ trim word
    · cases isLink <;> simp [dot]
    · cases isLink <;> simp [dot]

theorem byteSpan_capitals (l : Text × Text) :
    byteSpan (Prod.map capitals capitals l) = byteSpan l := by
  rw [byteSpan, byteSpan, Prod.map_fst, Prod.map_snd, ← capitals_append, size_capitals,
    size_capitals]

/-- A URL that is found becomes a link just if it stands at the start or after a blank, an
opening parenthesis or a quote, and what is left of it when it is trimmed is a URL that holds a
dot or starts with `mailto:` in small letters, and that does not end at its first two slashes in a
row. In capitals a text has links at the same bytes, but for those without a dot. -/
theorem links_of_found (t : Text) :
    (∀ before url after, Finds t before url after →
      ((before, trim url) ∈ links t ↔
        (∀ c ∈ before.getLast?, Text.isBlank c = true ∨ c = '(' ∨ c = '"' ∨ c = '\'') ∧
          IsUrl (trim url) ∧ ¬ EndsAtSlashes (trim url) ∧
            ('.' ∈ trim url ∨ "mailto:".toList <+: trim url))) ∧
      (links (capitals t)).map byteSpan = ((links t).filter ('.' ∈ ·.2)).map byteSpan := by
  constructor
  · intro before url after found
    have isLink := mem_linksAfter_iff found none [] t.length (Nat.le_refl _)
    rw [List.nil_append, Option.or_none, mayFollow_iff] at isLink
    refine isLink.trans (and_congr_right' ?_)
    exact isComplete_trim_iff found.isUrl.1 found.isUrl.2
  · have same := linksAfter_capitals t.length none t []
    rw [links, linkify, length_capitals]
    rw [capitals_nil, Option.map_none] at same
    rw [same, List.map_map, links, linkify]
    congr 1
    exact funext byteSpan_capitals

/-- In `(www.a.b.)` the URL that is found is a link without its last two characters. -/
theorem links_of_found_in_parentheses :
    Finds "(www.a.b.)".toList ['('] "www.a.b.)".toList [] ∧
      (['('], "www.a.b".toList) ∈ links "(www.a.b.)".toList ∧
      (links (capitals "(www.a.b.)".toList)).map byteSpan =
        ((links "(www.a.b.)".toList).filter ('.' ∈ ·.2)).map byteSpan := by
  have isUrl : IsUrl "www.a.b.)".toList := isUrl_iff_matchHere?.mpr (by decide +kernel)
  have isLabel : IsUrl "www.a.b".toList := isUrl_iff_matchHere?.mpr (by decide +kernel)
  have trimmed : trim "www.a.b.)".toList = "www.a.b".toList := by decide +kernel
  have found : Finds "(www.a.b.)".toList ['('] "www.a.b.)".toList [] :=
    .char (fun starts => absurd starts.isAlpha (by decide)) (.whole isUrl)
  obtain ⟨becomes, sameSpans⟩ := links_of_found "(www.a.b.)".toList
  refine ⟨found, ?_, sameSpans⟩
  have notAtEnd : ¬ EndsAtSlashes "www.a.b".toList := by
    rw [← afterSlashes?_eq_nil_iff]
    decide
  rw [← trimmed, becomes _ _ _ found, trimmed]
  exact ⟨by simp, isLabel, notAtEnd, .inl (by decide)⟩

/-- An address in capitals is no link, though it is one in small letters. -/
theorem no_link_of_address_in_capitals :
    Finds "MAILTO:a@b".toList [] "MAILTO:a@b".toList [] ∧
      trim "MAILTO:a@b".toList = "MAILTO:a@b".toList ∧ IsUrl "MAILTO:a@b".toList ∧
      "mailto:".toList <+: Text.toLower "MAILTO:a@b".toList ∧
      links "MAILTO:a@b".toList = [] ∧
      links "mailto:a@b".toList = [([], "mailto:a@b".toList)] := by
  have isUrl : IsUrl "MAILTO:a@b".toList := isUrl_iff_matchHere?.mpr (by decide +kernel)
  have trimmed : trim "MAILTO:a@b".toList = "MAILTO:a@b".toList := by decide +kernel
  have incomplete : isComplete "MAILTO:a@b".toList = false := by decide +kernel
  refine ⟨.whole isUrl, trimmed, isUrl, ⟨"a@b".toList, by decide +kernel⟩, ?_, by decide +kernel⟩
  rw [links_of_isUrl isUrl, trimmed, incomplete, if_neg Bool.false_ne_true]

end TelegramMarkdown.BareUrl
