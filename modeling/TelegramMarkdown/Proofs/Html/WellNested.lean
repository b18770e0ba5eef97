import Mathlib.Data.List.Forall2
import TelegramMarkdown.Proofs.Html
import TelegramMarkdown.Proofs.Text.Case

/-!
Well-nested HTML on one line.

HTML is written from nodes: texts, elements that become markers, and tags of other names. The
rules for raw HTML know nothing of nodes, they look for the nearest closing tag of the same
name. Where no element stands in one of its own name, that tag is the element's own, whatever
else is nested in it (`passes_sourceAll`), so what is written from nodes is rendered node by
node (`render_sourceAll`).
-/

namespace TelegramMarkdown.Html

/-! ### Names -/

/-- How an element's name may be written: in any letter case. -/
structure Spelling (e : Element) where
  text : Text
  toLower_text : Text.toLower text = e.name

/-- The opening tag of an element. -/
def Spelling.openingTag {e : Element} (spelling : Spelling e) : Text :=
  '<' :: spelling.text ++ ['>']

/-- The closing tag of an element. -/
def Spelling.closingTag {e : Element} (spelling : Spelling e) : Text :=
  '<' :: '/' :: spelling.text ++ ['>']

/-- The characters of a tag's name. -/
def isNameChar (c : Char) : Bool :=
  !(Text.isBlank c || c = '/' || c = '<' || c = '>')

/-- A tag of another name than those of the elements: an opening tag, or a closing one. The
attributes are all that stands between the name and the end of the tag. -/
structure OtherTag where
  closes : Bool
  name : Text
  attributes : Text
  name_ne_nil : name ≠ []
  isNameChar_name : ∀ c ∈ name, isNameChar c = true
  isAscii_name : ∀ c ∈ name, c.toNat < 128
  isOther : ∀ e : Element, Text.toLower name ≠ e.name
  ends_name : ∀ c ∈ attributes.head?, isNameChar c = false
  isInside : ∀ c ∈ attributes, c ≠ '<' ∧ c ≠ '>'

/-- What stands between the angle brackets of a tag. -/
def OtherTag.markup (tag : OtherTag) : Text :=
  (if tag.closes then ['/'] else []) ++ (tag.name ++ tag.attributes)

/-! ### Nodes -/

/-- A node of well-nested HTML. -/
inductive Node where
  /-- Text, in which no tag starts. -/
  | text (t : Text) (noTag : '<' ∉ t)
  /-- An element that becomes a marker, with both spellings of its name. -/
  | element (e : Element) (opening closing : Spelling e) (children : List Node)
  /-- A tag that is dropped. -/
  | tag (tag : OtherTag)

mutual

/-- A node as HTML. -/
def Node.source : Node → Text
  | .text t _ => t
  | .element _ opening closing children =>
    opening.openingTag ++ sourceAll children ++ closing.closingTag
  | .tag tag => '<' :: tag.markup ++ ['>']

/-- Nodes as HTML. -/
def sourceAll : List Node → Text
  | [] => []
  | node :: rest => node.source ++ sourceAll rest

end

mutual

/-- The text in a node, without any tags. -/
def Node.shown : Node → Text
  | .text t _ => t
  | .element _ _ _ children => shownAll children
  | .tag _ => []

/-- The text in nodes, without any tags. -/
def shownAll : List Node → Text
  | [] => []
  | node :: rest => node.shown ++ shownAll rest

end

mutual

/-- A node as MarkdownV2: text is escaped, an element is its children between two of its
markers, or code, and other tags are dropped. -/
def Node.rendered : Node → Text
  | .text t _ => Escape.prose t
  | .element .code _ _ children => Marker.code ++ Escape.code (shownAll children) ++ Marker.code
  | .element e _ _ children => e.marker ++ renderedAll children ++ e.marker
  | .tag _ => []

/-- Nodes as MarkdownV2. -/
def renderedAll : List Node → Text
  | [] => []
  | node :: rest => node.rendered ++ renderedAll rest

end

mutual

/-- The elements of a node: it and those in it. -/
def Node.elements : Node → List Element
  | .element e _ _ children => e :: elementsAll children
  | _ => []

/-- The elements of nodes. -/
def elementsAll : List Node → List Element
  | [] => []
  | node :: rest => node.elements ++ elementsAll rest

end

mutual

/-- Whether no element in a node stands in one of its own name. -/
def Node.NoneInItself : Node → Prop
  | .element e _ _ children => e ∉ elementsAll children ∧ NoneInItselfAll children
  | _ => True

/-- Whether no element in nodes stands in one of its own name. -/
def NoneInItselfAll : List Node → Prop
  | [] => True
  | node :: rest => node.NoneInItself ∧ NoneInItselfAll rest

end

/-! ### Reading names -/

/-- Whether each character stands for its letter of a name. -/
abbrev ReadAs (name written : Text) : Prop :=
  List.Forall₂ (fun l c => sameLetter l c = true) name written

theorem Element.eq_of_name_eq {e e' : Element} : e.name = e'.name → e = e' := by
  cases e <;> cases e' <;> decide

theorem dropName?_eq_some_iff {name t rest after : Text} (noEnd : ∀ l ∈ name, l ≠ '>')
    (unended : '>' ∉ t) :
    dropName? name (t ++ '>' :: rest) = some after ↔ ReadAs name t ∧ after = rest := by
  induction name generalizing t with
  | nil =>
    cases t with
    | nil =>
      simp only [dropName?, List.nil_append, Option.some.injEq, eq_comm,
        List.forall₂_nil_left_iff, true_and]
    | cons c cs =>
      have notEnd : c ≠ '>' := fun same => unended (same ▸ List.mem_cons_self)
      simp [dropName?, notEnd]
  | cons l ls ih =>
    obtain ⟨first, others⟩ := List.forall_mem_cons.mp noEnd
    cases t with
    | nil =>
      have other : sameLetter l '>' = false :=
        (Bool.not_eq_true _).mp fun same => ne_end_of_sameLetter same first rfl
      simp [dropName?, other]
    | cons c cs =>
      rw [List.cons_append, dropName?, ReadAs, List.forall₂_cons, and_assoc,
        ← ih others (List.not_mem_of_not_mem_cons unended)]
      split
      case isTrue same => exact (and_iff_right same).symm
      case isFalse other => simp [other]

/-- Where no long s stands for an `s`, a name that is recognised is that name in some letter
case. -/
theorem toLower_eq_of_readAs {name written : Text} (short : '\u017F' ∉ written)
    (agree : ReadAs name written) : Text.toLower written = name := by
  induction agree with
  | nil => rfl
  | @cons l c ls cs first _ ih =>
    have notLong : c ≠ '\u017F' := fun same => short (same ▸ List.mem_cons_self)
    have same : c.toLower = l := by
      simpa [sameLetter, notLong] using first
    rw [Text.toLower, List.map_cons, same, ← ih (List.not_mem_of_not_mem_cons short)]
    rfl

theorem readAs_toLower (written : Text) : ReadAs (Text.toLower written) written := by
  rw [ReadAs, Text.toLower, List.forall₂_map_left_iff]
  exact List.forall₂_same.mpr fun c _ => by simp [sameLetter]

theorem isAlpha_of_mem_name (e : Element) : ∀ l ∈ e.name, l.isAlpha = true := by
  cases e <;> simp [Element.name]

/-- A character that stands for a letter belongs to a name. -/
theorem isNameChar_of_sameLetter {l c : Char} (letter : l.isAlpha = true)
    (same : sameLetter l c = true) : isNameChar c = true := by
  have reads : c.toLower = l ∨ l = 's' ∧ c = '\u017F' := by simpa [sameLetter] using same
  obtain rfl | ⟨-, rfl⟩ := reads
  · have isAlpha := (Text.isAlpha_toLower c).symm.trans letter
    simp [isNameChar, Text.not_isBlank_of_isAlpha isAlpha, Text.ne_of_isAlpha isAlpha]
  · decide

theorem isNameChar_of_readAs {name written : Text} (letters : ∀ l ∈ name, l.isAlpha = true)
    (agree : ReadAs name written) : ∀ c ∈ written, isNameChar c = true := by
  induction agree with
  | nil => exact List.forall_mem_nil _
  | cons first _ ih =>
    obtain ⟨letter, others⟩ := List.forall_mem_cons.mp letters
    exact List.forall_mem_cons.mpr ⟨isNameChar_of_sameLetter letter first, ih others⟩

namespace Spelling

variable {e : Element} (spelling : Spelling e)

theorem isAlpha_toLower_of_mem : ∀ c ∈ spelling.text, c.toLower.isAlpha = true := by
  intro c isIn
  apply isAlpha_of_mem_name e
  rw [← spelling.toLower_text]
  exact List.mem_map_of_mem isIn

theorem notMem {c : Char} (other : c.toLower.isAlpha = false) : c ∉ spelling.text := by
  intro isIn
  rw [spelling.isAlpha_toLower_of_mem c isIn] at other
  cases other

/-- A name is recognised as that of its own element and of no other. -/
theorem dropName?_eq (e' : Element) (rest : Text) :
    dropName? e'.name (spelling.text ++ '>' :: rest) = if e' = e then some rest else none := by
  have unended : '>' ∉ spelling.text := spelling.notMem (by decide)
  split
  case isTrue same =>
    subst same
    have agree := readAs_toLower spelling.text
    rw [spelling.toLower_text] at agree
    exact (dropName?_eq_some_iff e'.ne_end_of_mem_name unended).mpr ⟨agree, rfl⟩
  case isFalse other =>
    rw [Option.eq_none_iff_forall_ne_some]
    intro after found
    obtain ⟨agree, -⟩ := (dropName?_eq_some_iff e'.ne_end_of_mem_name unended).mp found
    have reads := toLower_eq_of_readAs (spelling.notMem (by decide)) agree
    exact other (Element.eq_of_name_eq (reads.symm.trans spelling.toLower_text))

end Spelling

namespace OtherTag

variable (tag : OtherTag)

theorem notMem_markup {c : Char} (isBracket : c = '<' ∨ c = '>') : c ∉ tag.markup := by
  have notName : isNameChar c = false := by obtain rfl | rfl := isBracket <;> decide
  have inName : c ∉ tag.name := fun isIn => by simp [tag.isNameChar_name c isIn] at notName
  have inside : c ∉ tag.attributes := fun isIn => by
    obtain rfl | rfl := isBracket
    · exact (tag.isInside _ isIn).1 rfl
    · exact (tag.isInside _ isIn).2 rfl
  have notSlash : c ≠ '/' := by obtain rfl | rfl := isBracket <;> decide
  unfold markup
  split <;> simp [inName, inside, notSlash]

/-- A name that starts with another tag's is not an element's. -/
theorem dropName?_eq_none (e : Element) (rest : Text) :
    dropName? e.name (tag.name ++ tag.attributes ++ '>' :: rest) = none := by
  have unended : '>' ∉ tag.name ++ tag.attributes := by
    have inside := tag.notMem_markup (.inr rfl)
    unfold markup at inside
    exact fun isIn => inside (List.mem_append_right _ isIn)
  rw [Option.eq_none_iff_forall_ne_some]
  intro after found
  obtain ⟨agree, -⟩ := (dropName?_eq_some_iff e.ne_end_of_mem_name unended).mp found
  have isName := isNameChar_of_readAs (isAlpha_of_mem_name e) agree
  have noAttributes : tag.attributes = [] := by
    cases same : tag.attributes with
    | nil => rfl
    | cons c cs =>
      have notName := tag.ends_name c (by rw [same]; rfl)
      rw [isName c (by simp [same])] at notName
      cases notName
  have short : '\u017F' ∉ tag.name := by
    intro isIn
    exact absurd (tag.isAscii_name _ isIn) (by decide)
  rw [noAttributes, List.append_nil] at agree
  exact tag.isOther e (toLower_eq_of_readAs short agree)

theorem dropOpening?_eq_none (e : Element) (rest : Text) :
    dropOpening? e ('<' :: tag.markup ++ '>' :: rest) = none := by
  unfold markup
  split
  case isTrue => cases e <;> rfl
  case isFalse => exact tag.dropName?_eq_none e rest

theorem dropClosing?_eq_none (e : Element) (rest : Text) :
    dropClosing? e ('<' :: tag.markup ++ '>' :: rest) = none := by
  unfold markup
  split
  case isTrue => exact tag.dropName?_eq_none e rest
  case isFalse =>
    obtain ⟨c, cs, isName⟩ := List.exists_cons_of_ne_nil tag.name_ne_nil
    have notSlash : c ≠ '/' := by
      rintro rfl
      exact absurd (tag.isNameChar_name '/' (isName ▸ List.mem_cons_self)) (by decide)
    rw [isName, dropClosing?]
    intro _ same
    exact notSlash (List.cons.inj (List.cons.inj same).2).1

end OtherTag

/-! ### Stripping -/

/-- As many steps as the text is long are enough: more of them change nothing. -/
theorem stripTagsWithin_eq {n m : Nat} {t : Text} (enough : t.length ≤ n)
    (enough' : t.length ≤ m) : stripTagsWithin n t = stripTagsWithin m t := by
  induction n generalizing m t with
  | zero =>
    obtain rfl := List.length_eq_zero_iff.mp (Nat.le_zero.mp enough)
    cases m <;> rfl
  | succ n ih =>
    cases t with
    | nil => cases m <;> rfl
    | cons c cs =>
      obtain ⟨m, rfl⟩ : ∃ k, m = k + 1 := ⟨m - 1, by simp at enough'; omega⟩
      rw [stripTagsWithin, stripTagsWithin]
      cases found : dropTag? (c :: cs) with
      | none =>
        have others : stripTagsWithin n cs = stripTagsWithin m cs :=
          ih (Nat.le_of_succ_le_succ enough) (Nat.le_of_succ_le_succ enough')
        exact congrArg (c :: ·) others
      | some rest =>
        obtain ⟨inside, whole, -, -⟩ := exists_of_dropTag? found
        have shorter : rest.length < (c :: cs).length := by
          rw [whole]
          simp only [List.length_append, List.length_cons]
          omega
        exact ih (by omega) (by omega)

theorem stripTags_cons {c : Char} {cs : Text} (h : dropTag? (c :: cs) = none) :
    stripTags (c :: cs) = c :: stripTags cs := by
  rw [stripTags, List.length_cons, stripTagsWithin, h]
  rfl

/-- Text in which no tag starts stays. -/
theorem stripTags_append {t : Text} (noTag : '<' ∉ t) (rest : Text) :
    stripTags (t ++ rest) = t ++ stripTags rest := by
  induction t with
  | nil => rfl
  | cons c cs ih =>
    have other : dropTag? (c :: (cs ++ rest)) = none := by
      rw [dropTag?]
      intro _ _ same
      exact noTag ((List.cons.inj same).1 ▸ List.mem_cons_self)
    rw [List.cons_append, stripTags_cons other, ih (List.not_mem_of_not_mem_cons noTag)]
    rfl

/-- A tag is deleted. -/
theorem stripTags_tag {inside : Text} (notEmpty : inside ≠ []) (unended : '>' ∉ inside)
    (rest : Text) : stripTags ('<' :: inside ++ '>' :: rest) = stripTags rest := by
  have found : dropTag? ('<' :: (inside ++ '>' :: rest)) = some rest := by
    obtain ⟨c, cs, rfl⟩ := List.exists_cons_of_ne_nil notEmpty
    have notEnd : c ≠ '>' := fun same => unended (same ▸ List.mem_cons_self)
    have others : ∀ d ∈ cs, decide (d ≠ '>') = true :=
      fun d isIn => decide_eq_true fun same => unended (same ▸ List.mem_cons_of_mem c isIn)
    rw [List.cons_append, dropTag?, if_neg notEnd, List.dropWhile_append_of_pos others]
    rfl
  have shorter : rest.length ≤ (inside ++ '>' :: rest).length := by
    rw [List.length_append, List.length_cons]
    omega
  rw [stripTags, List.cons_append, List.length_cons, stripTagsWithin, found]
  exact stripTagsWithin_eq shorter (Nat.le_refl _)

/-! ### Looking for pairs -/

/-- Whether a search for a closing tag goes on behind a text, whatever follows. -/
def Passes (e : Element) (t : Text) : Prop :=
  ∀ rest, upToClosing? e (t ++ rest) =
    (upToClosing? e rest).map fun (inside, after) => (t ++ inside, after)

namespace Passes

variable {e : Element} {t t' : Text}

theorem nil : Passes e [] := by
  intro rest
  simp

theorem append (h : Passes e t) (h' : Passes e t') : Passes e (t ++ t') := by
  intro rest
  rw [List.append_assoc, h, h', Option.map_map]
  simp only [Function.comp_def, List.append_assoc]

theorem cons {c : Char} (noClosing : ∀ rest, dropClosing? e (c :: t ++ rest) = none)
    (sameLine : c ≠ '\n') (h : Passes e t) : Passes e (c :: t) := by
  intro rest
  have here := noClosing rest
  rw [List.cons_append] at here ⊢
  rw [upToClosing?, here]
  dsimp only
  rw [if_neg sameLine, h, Option.map_map]
  rfl

theorem of_noTag (noTag : '<' ∉ t) (sameLine : '\n' ∉ t) : Passes e t := by
  induction t with
  | nil => exact nil
  | cons c cs ih =>
    refine cons ?_ ?_ (ih (List.not_mem_of_not_mem_cons noTag)
      (List.not_mem_of_not_mem_cons sameLine))
    · intro rest
      rw [List.cons_append, dropClosing?]
      intro _ same
      exact noTag ((List.cons.inj same).1 ▸ List.mem_cons_self)
    · rintro rfl
      exact sameLine List.mem_cons_self

theorem tag {inside : Text}
    (noClosing : ∀ rest, dropClosing? e ('<' :: inside ++ '>' :: rest) = none)
    (noTag : '<' ∉ inside) (sameLine : '\n' ∉ inside) : Passes e ('<' :: inside ++ ['>']) := by
  refine cons ?_ (by decide) (of_noTag ?_ ?_)
  · intro rest
    have here := noClosing rest
    simpa using here
  · simp [noTag]
  · simp [sameLine]

end Passes

/-- Whether a search for the first pair of tags goes on behind a text, whatever follows. -/
def Skips (t : Text) : Prop :=
  ∀ rest, firstPair? (t ++ rest) =
    (firstPair? rest).map fun (before, found) => (t ++ before, found)

namespace Skips

variable {t : Text}

theorem cons {c : Char} (noOpening : ∀ e rest, dropOpening? e (c :: t ++ rest) = none)
    (h : Skips t) : Skips (c :: t) := by
  intro rest
  have noPair : pairHere? (c :: (t ++ rest)) = none := by
    rw [pairHere?, List.findSome?_eq_none_iff]
    intro e _
    have here := noOpening e rest
    rw [List.cons_append] at here
    rw [here]
    rfl
  rw [List.cons_append, firstPair?, noPair, h]
  dsimp only
  rw [Option.map_map]
  rfl

theorem of_noTag (noTag : '<' ∉ t) : Skips t := by
  induction t with
  | nil =>
    intro rest
    simp
  | cons c cs ih =>
    refine cons ?_ (ih (List.not_mem_of_not_mem_cons noTag))
    intro e rest
    rw [List.cons_append, dropOpening?]
    intro _ same
    exact noTag ((List.cons.inj same).1 ▸ List.mem_cons_self)

theorem tag {inside : Text} (noTag : '<' ∉ inside)
    (noOpening : ∀ e rest, dropOpening? e ('<' :: inside ++ '>' :: rest) = none) :
    Skips ('<' :: inside ++ ['>']) := by
  refine cons ?_ (of_noTag ?_)
  · intro e rest
    have here := noOpening e rest
    simpa using here
  · simp [noTag]

end Skips

/-! ### Tags of elements -/

namespace Spelling

variable {e : Element} (spelling : Spelling e)

theorem dropOpening?_eq (e' : Element) (rest : Text) :
    dropOpening? e' (spelling.openingTag ++ rest) = if e' = e then some rest else none := by
  rw [← spelling.dropName?_eq e' rest, openingTag]
  simp [dropOpening?]

theorem dropClosing?_eq (e' : Element) (rest : Text) :
    dropClosing? e' (spelling.closingTag ++ rest) = if e' = e then some rest else none := by
  rw [← spelling.dropName?_eq e' rest, closingTag]
  simp [dropClosing?]

theorem text_ne_nil : spelling.text ≠ [] := by
  intro empty
  have isName := spelling.toLower_text
  rw [empty] at isName
  exact e.name_ne_nil isName.symm

theorem passes_openingTag (e' : Element) (sameLine : '\n' ∉ spelling.openingTag) :
    Passes e' spelling.openingTag := by
  refine .tag ?_ (spelling.notMem (by decide)) (fun isIn => sameLine (by simp [openingTag, isIn]))
  intro rest
  obtain ⟨c, cs, isName⟩ := List.exists_cons_of_ne_nil spelling.text_ne_nil
  have notSlash : '/' ∉ spelling.text := spelling.notMem (by decide)
  rw [isName, dropClosing?]
  intro _ same
  exact notSlash (isName ▸ (List.cons.inj (List.cons.inj same).2).1 ▸ List.mem_cons_self)

theorem passes_closingTag {e' : Element} (other : e' ≠ e) (sameLine : '\n' ∉ spelling.closingTag) :
    Passes e' spelling.closingTag := by
  have noTag : '<' ∉ spelling.text := spelling.notMem (by decide)
  refine .tag ?_ (by simp [noTag]) (fun isIn => sameLine (by simpa [closingTag] using isIn))
  intro rest
  have found := spelling.dropClosing?_eq e' rest
  rw [if_neg other] at found
  simpa [closingTag] using found

theorem stripTags_openingTag (rest : Text) :
    stripTags (spelling.openingTag ++ rest) = stripTags rest := by
  rw [openingTag, List.append_assoc]
  exact stripTags_tag spelling.text_ne_nil (spelling.notMem (by decide)) rest

theorem stripTags_closingTag (rest : Text) :
    stripTags (spelling.closingTag ++ rest) = stripTags rest := by
  have unended : '>' ∉ spelling.text := spelling.notMem (by decide)
  rw [closingTag, List.append_assoc]
  exact stripTags_tag (List.cons_ne_nil _ _) (by simp [unended]) rest

end Spelling

/-! ### Node by node -/

mutual

theorem stripTags_source : ∀ (node : Node) (rest : Text),
    stripTags (node.source ++ rest) = node.shown ++ stripTags rest
  | .text t noTag, rest => stripTags_append noTag rest
  | .element e opening closing children, rest => by
    rw [Node.source, List.append_assoc, List.append_assoc, opening.stripTags_openingTag,
      stripTags_sourceAll_append, closing.stripTags_closingTag, Node.shown]
  | .tag tag, rest => by
    have notEmpty : tag.markup ≠ [] :=
      List.append_ne_nil_of_right_ne_nil _ (List.append_ne_nil_of_left_ne_nil tag.name_ne_nil _)
    rw [Node.source, List.append_assoc]
    exact stripTags_tag notEmpty (tag.notMem_markup (.inr rfl)) rest

theorem stripTags_sourceAll_append : ∀ (nodes : List Node) (rest : Text),
    stripTags (sourceAll nodes ++ rest) = shownAll nodes ++ stripTags rest
  | [], _ => rfl
  | node :: nodes, rest => by
    rw [sourceAll, List.append_assoc, stripTags_source, stripTags_sourceAll_append, shownAll,
      List.append_assoc]

end

theorem stripTags_sourceAll (nodes : List Node) : stripTags (sourceAll nodes) = shownAll nodes := by
  have all := stripTags_sourceAll_append nodes []
  rwa [List.append_nil, show stripTags [] = [] from rfl, List.append_nil] at all

mutual

/-- In a node without an element, the search for its closing tag goes on. -/
theorem passes_source {e : Element} : ∀ (node : Node), e ∉ node.elements → '\n' ∉ node.source →
    Passes e node.source
  | .text _ noTag, _, sameLine => .of_noTag noTag sameLine
  | .element e' opening closing children, notIn, sameLine => by
    rw [Node.elements, List.mem_cons, not_or] at notIn
    simp only [Node.source, List.mem_append, not_or] at sameLine
    obtain ⟨⟨inOpening, inChildren⟩, inClosing⟩ := sameLine
    exact ((opening.passes_openingTag e inOpening).append
      (passes_sourceAll children notIn.2 inChildren)).append
        (closing.passes_closingTag notIn.1 inClosing)
  | .tag tag, _, sameLine => by
    refine .tag (tag.dropClosing?_eq_none e) (tag.notMem_markup (.inl rfl)) ?_
    exact fun isIn => sameLine (by simp [Node.source, isIn])

theorem passes_sourceAll {e : Element} : ∀ (nodes : List Node), e ∉ elementsAll nodes →
    '\n' ∉ sourceAll nodes → Passes e (sourceAll nodes)
  | [], _, _ => .nil
  | node :: nodes, notIn, sameLine => by
    rw [elementsAll, List.mem_append, not_or] at notIn
    rw [sourceAll, List.mem_append, not_or] at sameLine
    exact (passes_source node notIn.1 sameLine.1).append
      (passes_sourceAll nodes notIn.2 sameLine.2)

end

/-- The pair of tags that starts where an element starts is the element's own. -/
theorem firstPair?_element {e : Element} (opening closing : Spelling e) {children : List Node}
    (notIn : e ∉ elementsAll children) (sameLine : '\n' ∉ sourceAll children) (rest : Text) :
    firstPair? (opening.openingTag ++ (sourceAll children ++ (closing.closingTag ++ rest))) =
      some ([], e, sourceAll children, rest) := by
  have closes : upToClosing? e (closing.closingTag ++ rest) = some ([], rest) := by
    have found := closing.dropClosing?_eq e rest
    rw [if_pos rfl] at found
    rw [Spelling.closingTag, List.cons_append, List.cons_append] at found ⊢
    rw [upToClosing?, found]
  have upTo : upToClosing? e (sourceAll children ++ (closing.closingTag ++ rest)) =
      some (sourceAll children, rest) := by
    rw [passes_sourceAll children notIn sameLine, closes]
    exact congrArg (fun inside => some (inside, rest)) (List.append_nil _)
  have pair :
      pairHere? (opening.openingTag ++ (sourceAll children ++ (closing.closingTag ++ rest))) =
        some (e, sourceAll children, rest) := by
    rw [pairHere?]
    simp only [opening.dropOpening?_eq]
    cases e <;> simp [Element.all, upTo]
  rw [Spelling.openingTag, List.cons_append, List.cons_append] at pair ⊢
  rw [firstPair?, pair]

theorem render_nil : render [] = [] := rfl

/-- Text that a search skips is rendered by itself. -/
theorem render_append {t shown : Text} (skips : Skips t)
    (strips : ∀ rest, stripTags (t ++ rest) = shown ++ stripTags rest) (rest : Text) :
    render (t ++ rest) = Escape.prose shown ++ render rest := by
  rw [render_eq (t ++ rest), render_eq rest, skips rest]
  cases firstPair? rest with
  | none => exact (congrArg Escape.prose (strips rest)).trans (Escape.prose_append _ _)
  | some pair =>
    obtain ⟨before, e, inside, after⟩ := pair
    simp only [Option.map_some, strips, Escape.prose_append, List.append_assoc]

mutual

theorem render_source_append : ∀ (node : Node), node.NoneInItself → '\n' ∉ node.source →
    ∀ rest, render (node.source ++ rest) = node.rendered ++ render rest
  | .text _ noTag, _, _, rest => render_append (.of_noTag noTag) (stripTags_append noTag) rest
  | .element e opening closing children, noneInItself, sameLine, rest => by
    obtain ⟨notIn, inChildren⟩ := noneInItself
    have sameLine : '\n' ∉ sourceAll children :=
      fun isIn => sameLine (by simp [Node.source, isIn])
    have inside := render_sourceAll_append children inChildren sameLine []
    rw [List.append_nil, render_nil, List.append_nil] at inside
    have before : Escape.prose (stripTags []) = [] := rfl
    rw [render_eq, Node.source, List.append_assoc, List.append_assoc,
      firstPair?_element opening closing notIn sameLine]
    dsimp only
    rw [inside, before, List.nil_append]
    cases e with
    | code =>
      rw [Element.wrap, stripTags_sourceAll]
      rfl
    | _ => rfl
  | .tag tag, _, _, rest => by
    have skips : Skips (Node.source (.tag tag)) :=
      .tag (tag.notMem_markup (.inl rfl)) tag.dropOpening?_eq_none
    exact render_append skips (stripTags_source (.tag tag)) rest

theorem render_sourceAll_append : ∀ (nodes : List Node), NoneInItselfAll nodes →
    '\n' ∉ sourceAll nodes → ∀ rest,
      render (sourceAll nodes ++ rest) = renderedAll nodes ++ render rest
  | [], _, _, _ => rfl
  | node :: nodes, noneInItself, sameLine, rest => by
    rw [sourceAll, List.mem_append, not_or] at sameLine
    rw [sourceAll, List.append_assoc, render_source_append node noneInItself.1 sameLine.1,
      render_sourceAll_append nodes noneInItself.2 sameLine.2, renderedAll, List.append_assoc]

end

/-- Well-nested HTML on one line is rendered by its structure, if no element stands in one of
its own name. -/
theorem render_sourceAll {nodes : List Node} (noneInItself : NoneInItselfAll nodes)
    (sameLine : '\n' ∉ sourceAll nodes) : render (sourceAll nodes) = renderedAll nodes := by
  have all := render_sourceAll_append nodes noneInItself sameLine []
  rwa [List.append_nil, render_nil, List.append_nil] at all

/-- Code in bold in italics, with tags in the code and around it, and signs that end tags in
the text. -/
theorem render_sourceAll_code_in_bold :
    let anchor : OtherTag := {
      closes := false, name := ['a'], attributes := " b=c".toList, name_ne_nil := by decide,
      isNameChar_name := by simp [isNameChar, Text.isBlank], isAscii_name := by simp,
      isOther := by intro e; cases e <;> decide,
      ends_name := by simp [isNameChar, Text.isBlank], isInside := by simp }
    let nodes : List Node := [.text "x>y".toList (by decide),
      .element .i ⟨['I'], rfl⟩ ⟨['i'], rfl⟩ [.tag anchor,
        .element .b ⟨['b'], rfl⟩ ⟨['B'], rfl⟩ [
          .element .code ⟨"cOde".toList, rfl⟩ ⟨"code".toList, rfl⟩ [
            .element .u ⟨['u'], rfl⟩ ⟨['u'], rfl⟩ [.text ['`', '>'] (by decide)]],
          .tag anchor]]]
    NoneInItselfAll nodes ∧ '\n' ∉ sourceAll nodes ∧
      sourceAll nodes =
        "x>y<I><a b=c><b><cOde><u>`></u></code><a b=c></B></i>".toList ∧
      render (sourceAll nodes) = "x\\>y\u200B_\u200B*`\\`>`*\u200B_\u200B".toList := by
  intro anchor nodes
  have noneInItself : NoneInItselfAll nodes := by
    simp [nodes, NoneInItselfAll, Node.NoneInItself, elementsAll, Node.elements]
  have sameLine : '\n' ∉ sourceAll nodes := by decide
  exact ⟨noneInItself, sameLine, rfl, render_sourceAll noneInItself sameLine⟩

end TelegramMarkdown.Html
