import TelegramMarkdown.Document.OfEvents
import TelegramMarkdown.Markdown.HtmlTag
import TelegramMarkdown.Proofs.Text.Case
import TelegramMarkdown.Render.Inline

/-!
The names of raw HTML tags, and the markers that they have.

A tag is what CommonMark takes for one (`HtmlTag.IsTag`). The name that is kept of it goes up to
the first hyphen only, so the marker of a tag is that of the part of its name before the hyphen;
an opening and a closing tag of one name have the same (`HtmlTag.marker_of_isTag`).
-/

namespace TelegramMarkdown.Markdown.HtmlTag

open Builder (tagName)

/-! ### Tags -/

/-- The name of an element: a letter, and letters, digits and hyphens after it. -/
inductive IsName : Text → Prop where
  | intro {c : Char} {t : Text} : c.isAlpha = true → (∀ d ∈ t, isNameChar d = true) → IsName (c :: t)

/-- Blanks and ends of lines between the parts of a tag. -/
def IsSpace (t : Text) : Prop :=
  ∀ c ∈ t, Scan.isAsciiBlank c = true

/-- The value of an attribute, in quotes or without. -/
inductive IsValue : Text → Prop where
  | bare {t : Text} : t ≠ [] → (∀ c ∈ t, isBareValueChar c = true) → IsValue t
  | quoted {quote : Char} {t : Text} : quote = '"' ∨ quote = '\'' → quote ∉ t →
      IsValue (quote :: t ++ [quote])

/-- The name of an attribute. -/
inductive IsAttributeName : Text → Prop where
  | intro {c : Char} {t : Text} : c.isAlpha = true ∨ c = '_' ∨ c = ':' →
      (∀ d ∈ t, isAttributeNameChar d = true) → IsAttributeName (c :: t)

/-- An attribute, with the space before it. -/
inductive IsAttribute : Text → Prop where
  | name {space name : Text} : space ≠ [] → IsSpace space → IsAttributeName name →
      IsAttribute (space ++ name)
  | value {space name before after value : Text} : space ≠ [] → IsSpace space →
      IsAttributeName name → IsSpace before → IsSpace after → IsValue value →
      IsAttribute (space ++ name ++ before ++ '=' :: after ++ value)

/-- An opening or a closing tag, with its name. -/
inductive IsTag : (closing : Bool) → (name raw : Text) → Prop where
  | opening {name space slash : Text} {attributes : List Text} : IsName name →
      (∀ a ∈ attributes, IsAttribute a) → IsSpace space → slash = [] ∨ slash = ['/'] →
      IsTag false name ('<' :: name ++ attributes.flatten ++ space ++ slash ++ ['>'])
  | closing {name space : Text} : IsName name → IsSpace space →
      IsTag true name ('<' :: '/' :: name ++ space ++ ['>'])

/-- A name, as the name of a closing tag is kept. -/
def slashIf (closing : Bool) (name : Text) : Text :=
  if closing then '/' :: name else name

/-- The part of a name before its first hyphen. -/
def beforeHyphen (name : Text) : Text :=
  name.takeWhile (· ≠ '-')

/-- The names of the elements that stand for formatting. -/
def formatting : List Text :=
  ["b", "strong", "i", "em", "u", "s", "strike", "code"].map String.toList

/-! ### Where the name of a tag ends -/

theorem IsName.isNameChar {name : Text} (h : IsName name) : ∀ c ∈ name, isNameChar c = true := by
  obtain ⟨isAlpha, others⟩ := h
  refine List.forall_mem_cons.mpr ⟨?_, others⟩
  rw [HtmlTag.isNameChar, Char.isAlphanum, isAlpha]
  rfl

theorem not_isNameChar_of_isAsciiBlank {c : Char} (h : Scan.isAsciiBlank c = true) :
    isNameChar c = false := by
  simp only [Scan.isAsciiBlank, Scan.isInlineBlank, Bool.or_eq_true, decide_eq_true_eq] at h
  obtain ((((rfl | rfl) | rfl) | rfl) | rfl) | rfl := h <;> rfl

/-- Space in front of what does not go on a name does not go on one either. -/
theorem IsSpace.head_append {space t : Text} (isSpace : IsSpace space)
    (ends : ∀ c ∈ t.head?, isNameChar c = false) :
    ∀ c ∈ (space ++ t).head?, isNameChar c = false := by
  cases space with
  | nil => exact ends
  | cons d ds =>
    rintro _ ⟨⟩
    exact not_isNameChar_of_isAsciiBlank (isSpace d List.mem_cons_self)

theorem IsAttribute.exists_isAsciiBlank {t : Text} (h : IsAttribute t) :
    ∃ c rest, t = c :: rest ∧ Scan.isAsciiBlank c = true := by
  have first {space : Text} (notEmpty : space ≠ []) (isSpace : IsSpace space) (u : Text) :
      ∃ c rest, space ++ u = c :: rest ∧ Scan.isAsciiBlank c = true := by
    obtain ⟨c, cs, rfl⟩ := List.exists_cons_of_ne_nil notEmpty
    exact ⟨c, cs ++ u, rfl, isSpace c List.mem_cons_self⟩
  cases h with
  | name notEmpty isSpace _ => exact first notEmpty isSpace _
  | value notEmpty isSpace _ _ _ _ =>
    simp only [List.append_assoc]
    exact first notEmpty isSpace _

/-- What stands behind the name of a tag does not go on with it. -/
theorem IsTag.exists_tail {closing : Bool} {name raw : Text} (h : IsTag closing name raw) :
    ∃ tail, raw = '<' :: slashIf closing (name ++ tail) ∧
      ∀ c ∈ tail.head?, isNameChar c = false := by
  cases h with
  | @opening _ space slash attributes _ areAttributes isSpace isSlash =>
    refine ⟨attributes.flatten ++ (space ++ (slash ++ ['>'])), by simp [slashIf], ?_⟩
    cases attributes with
    | nil =>
      refine isSpace.head_append ?_
      obtain rfl | rfl := isSlash
      · rintro c ⟨⟩
        rfl
      · rintro c ⟨⟩
        rfl
    | cons a others =>
      obtain ⟨d, rest, rfl, isBlank⟩ := (areAttributes a List.mem_cons_self).exists_isAsciiBlank
      rintro c ⟨⟩
      exact not_isNameChar_of_isAsciiBlank isBlank
  | @closing _ space _ isSpace =>
    refine ⟨space ++ ['>'], by simp [slashIf], isSpace.head_append ?_⟩
    rintro c ⟨⟩
    rfl

theorem IsTag.isName {closing : Bool} {name raw : Text} (h : IsTag closing name raw) :
    IsName name := by
  cases h with
  | opening isName => exact isName
  | closing isName => exact isName

/-- A tag starts and ends with angle brackets, so there is nothing to trim around it. -/
theorem IsTag.trim_eq {closing : Bool} {name raw : Text} (h : IsTag closing name raw) :
    Text.trim raw = raw := by
  have ends : raw.getLast? = some '>' := by
    cases h with
    | opening _ _ _ _ => exact List.getLast?_concat
    | closing _ _ => exact List.getLast?_concat
  obtain ⟨tail, rfl, -⟩ := h.exists_tail
  rw [Text.trim, Text.trimStart_eq_dropWhile, List.dropWhile_cons_of_neg (by decide)]
  apply Text.trimEnd_eq_self
  rw [ends]
  rintro c ⟨⟩
  rfl

theorem beforeHyphen_cons_of_ne {c : Char} (h : c ≠ '-') (t : Text) :
    beforeHyphen (c :: t) = c :: beforeHyphen t :=
  List.takeWhile_cons_of_pos (decide_eq_true h)

/-- Letters and digits are read up to the first hyphen of a name. -/
theorem takeWhile_isAlphanum {name tail : Text} (isName : ∀ c ∈ name, isNameChar c = true)
    (ends : ∀ c ∈ tail.head?, isNameChar c = false) :
    (name ++ tail).takeWhile Char.isAlphanum = beforeHyphen name := by
  induction name with
  | nil =>
    cases tail with
    | nil => rfl
    | cons c cs =>
      have other := ends c rfl
      rw [isNameChar, Bool.or_eq_false_iff] at other
      rw [List.nil_append, List.takeWhile_cons_of_neg (by simp [other.1])]
      rfl
  | cons c cs ih =>
    obtain ⟨first, others⟩ := List.forall_mem_cons.mp isName
    rw [isNameChar, Bool.or_eq_true, decide_eq_true_eq] at first
    by_cases hyphen : c = '-'
    · subst hyphen
      rfl
    · rw [List.cons_append, List.takeWhile_cons_of_pos (first.resolve_right hyphen), ih others,
        beforeHyphen_cons_of_ne hyphen]

/-- The name that is kept of a tag: a `/` if the tag closes, and its name up to the first
hyphen. -/
theorem IsTag.tagName_eq {closing : Bool} {name raw : Text} (h : IsTag closing name raw) :
    tagName raw = slashIf closing (beforeHyphen name) := by
  have isName := h.isName
  obtain ⟨tail, whole, ends⟩ := h.exists_tail
  have kept := takeWhile_isAlphanum isName.isNameChar ends
  unfold tagName
  rw [h.trim_eq, whole]
  cases closing with
  | true =>
    have opened : ('<' :: '/' :: (name ++ tail)).dropWhile (· = '<') = '/' :: (name ++ tail) := rfl
    simp only [slashIf, if_true, opened, kept]
  | false =>
    obtain @⟨c, t, isAlpha, -⟩ := isName
    have notOpening : c ≠ '<' := Text.ne_of_isAlpha isAlpha rfl
    have notSlash : c ≠ '/' := Text.ne_of_isAlpha isAlpha rfl
    have opened : ('<' :: c :: (t ++ tail)).dropWhile (· = '<') = c :: (t ++ tail) := by
      rw [List.dropWhile_cons_of_pos (by decide), List.dropWhile_cons_of_neg (by simpa)]
    simp only [slashIf, Bool.false_eq_true, if_false, List.cons_append, opened]
    split
    case h_1 slash => exact absurd (List.cons.inj slash).1 notSlash
    case h_2 => exact kept

theorem slashIf_inj {closing : Bool} {s t : Text} : slashIf closing s = slashIf closing t ↔ s = t := by
  cases closing with
  | true => exact List.cons_inj_right '/'
  | false => exact Iff.rfl

theorem beforeHyphen_eq_self_iff (name : Text) : beforeHyphen name = name ↔ '-' ∉ name := by
  rw [beforeHyphen, List.takeWhile_eq_self_iff]
  constructor
  · intro noHyphen isIn
    exact of_decide_eq_true (noHyphen '-' isIn) rfl
  · intro noHyphen c isIn
    exact decide_eq_true fun hyphen => noHyphen (hyphen ▸ isIn)

/-! ### Markers -/

theorem toLower_beforeHyphen (name : Text) :
    Text.toLower (beforeHyphen name) = beforeHyphen (Text.toLower name) := by
  have hyphen : '-'.isAlpha = false := by decide
  rw [beforeHyphen, beforeHyphen, Text.toLower, Text.toLower, List.takeWhile_map]
  simp only [Function.comp_def, ne_eq, Text.toLower_eq_iff _ hyphen]

theorem hyphen_mem_toLower_iff (name : Text) : '-' ∈ Text.toLower name ↔ '-' ∈ name := by
  simp [Text.toLower, Text.toLower_eq_iff]

/-- The names of formatting have no hyphen. -/
theorem hyphen_notMem_of_mem_formatting : ∀ name ∈ formatting, '-' ∉ name := by
  decide

theorem lookup_elements_ne_nil_iff (name : Text) :
    (Marker.elements.lookup name).getD [] ≠ [] ↔ name ∈ formatting := by
  have marked : ∀ known ∈ formatting, (Marker.elements.lookup known).getD [] ≠ [] := by
    decide
  refine ⟨?_, marked name⟩
  intro marker
  by_contra unknown
  have none : Marker.elements.lookup name = none := by
    rw [List.lookup_eq_none_iff]
    intro element isIn
    simp only [bne_iff_ne]
    rintro rfl
    exact unknown (List.mem_map_of_mem isIn)
  rw [none] at marker
  exact marker rfl

/-- A tag has the marker of the part of its name before the first hyphen, whether it opens or
closes. -/
theorem IsTag.render_eq {closing : Bool} {name raw : Text} (h : IsTag closing name raw) :
    (Inline.htmlTag (tagName raw)).render =
      (Marker.elements.lookup (beforeHyphen (Text.toLower name))).getD [] := by
  rw [Inline.render, h.tagName_eq, ← toLower_beforeHyphen]
  unfold Marker.ofTag?
  cases closing with
  | true => rfl
  | false =>
    obtain @⟨c, t, isAlpha, -⟩ := h.isName
    have noHyphen : c ≠ '-' := Text.ne_of_isAlpha isAlpha (by decide)
    have noSlash : c ≠ '/' := Text.ne_of_isAlpha isAlpha (by decide)
    rw [slashIf, if_neg Bool.false_ne_true, beforeHyphen_cons_of_ne noHyphen]
    split
    case h_1 slash => exact absurd (List.cons.inj slash).1 noSlash
    case h_2 => rfl

/-- The name that is kept of a tag ends at its first hyphen, and the tag has a marker just if that
part is the name of a formatting element in some letter case. A tag that opens and one that closes
an element have the same marker, or both none. The whole name is kept if it has no hyphen; a tag
has a marker just if its whole name is one of formatting, unless it only begins with such a name
and a hyphen. -/
theorem marker_of_isTag {closing : Bool} {name raw : Text} (isTag : IsTag closing name raw) :
    tagName raw = slashIf closing (beforeHyphen name) ∧
      ((Inline.htmlTag (tagName raw)).render ≠ [] ↔
        Text.toLower (beforeHyphen name) ∈ formatting) ∧
      (∀ closing' name' raw', IsTag closing' name' raw' → Text.toLower name' = Text.toLower name →
        (Inline.htmlTag (tagName raw')).render = (Inline.htmlTag (tagName raw)).render) ∧
      (tagName raw = slashIf closing name ↔ '-' ∉ name) ∧
      (((Inline.htmlTag (tagName raw)).render ≠ [] ↔ Text.toLower name ∈ formatting) ↔
        ('-' ∈ name → Text.toLower (beforeHyphen name) ∉ formatting)) := by
  have marked : (Inline.htmlTag (tagName raw)).render ≠ [] ↔
      Text.toLower (beforeHyphen name) ∈ formatting := by
    rw [isTag.render_eq, lookup_elements_ne_nil_iff, toLower_beforeHyphen]
  refine ⟨isTag.tagName_eq, marked, ?_, ?_, ?_⟩
  · intro closing' name' raw' isTag' same
    rw [isTag'.render_eq, isTag.render_eq, same]
  · rw [isTag.tagName_eq, slashIf_inj, beforeHyphen_eq_self_iff]
  · rw [marked]
    by_cases hyphen : '-' ∈ name
    · have unknown : Text.toLower name ∉ formatting := fun known =>
        hyphen_notMem_of_mem_formatting _ known ((hyphen_mem_toLower_iff name).mpr hyphen)
      simp [hyphen, unknown]
    · have whole := (beforeHyphen_eq_self_iff name).mpr hyphen
      simp [hyphen, whole]

/-- A closing tag in capitals, with space in it, and an opening one with an angle bracket in the
value of an attribute. -/
theorem marker_of_isTag_strong :
    IsTag true "STRONG".toList "</STRONG\n>".toList ∧
      IsTag false "strong".toList "<strong a='>'/>".toList ∧
      tagName "</STRONG\n>".toList = "/STRONG".toList ∧
      (Inline.htmlTag (tagName "<strong a='>'/>".toList)).render =
        (Inline.htmlTag (tagName "</STRONG\n>".toList)).render := by
  have closes : IsTag true "STRONG".toList "</STRONG\n>".toList := by
    refine @IsTag.closing ['S', 'T', 'R', 'O', 'N', 'G'] ['\n'] ?_ ?_
    · exact .intro (by decide) (by simp [isNameChar])
    · simp [IsSpace, Scan.isAsciiBlank]
  have quoted : IsValue ['\'', '>', '\''] := @IsValue.quoted '\'' ['>'] (.inr rfl) (by decide)
  have withValue : IsAttribute [' ', 'a', '=', '\'', '>', '\''] := by
    refine @IsAttribute.value [' '] ['a'] [] [] _ (by decide) ?_ ?_ nofun nofun quoted
    · simp [IsSpace, Scan.isAsciiBlank, Scan.isInlineBlank]
    · exact .intro (.inl (by decide)) nofun
  have opens : IsTag false "strong".toList "<strong a='>'/>".toList := by
    refine @IsTag.opening ['s', 't', 'r', 'o', 'n', 'g'] [] ['/'] [_] ?_
      (List.forall_mem_singleton.mpr withValue) nofun (.inr rfl)
    exact .intro (by decide) (by simp [isNameChar])
  obtain ⟨-, -, sameMarker, whole, -⟩ := marker_of_isTag closes
  exact ⟨closes, opens, whole.mpr (by decide), sameMarker _ _ _ opens (by decide)⟩

/-- The tag of an element that is not formatting is taken for bold, as its name begins with a `b`
and a hyphen. -/
theorem bold_of_hyphenated_name :
    IsTag false "b-x".toList "<b-x>".toList ∧ Text.toLower "b-x".toList ∉ formatting ∧
      tagName "<b-x>".toList = ['b'] ∧
      (Inline.htmlTag (tagName "<b-x>".toList)).render = Marker.bold := by
  refine ⟨?_, by decide, by decide, by decide⟩
  refine @IsTag.opening ['b', '-', 'x'] [] [] [] ?_ nofun nofun (.inl rfl)
  exact .intro (by decide) (by simp [isNameChar])

end TelegramMarkdown.Markdown.HtmlTag
