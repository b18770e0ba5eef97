import TelegramMarkdown.Proofs.BareUrl.Labels
import TelegramMarkdown.Proofs.NormalForm

/-!
What a text is cut into where bare URLs are made links.

Nothing of the text is lost, and each piece is as it should be where it stands: a literal is not
empty, and the label of a link is a trimmed URL that looks like one, after a character that a URL
may follow (`BareUrl.linkify_pieces`).
-/

namespace TelegramMarkdown.BareUrl

open Spoiler (Alternate)

/-- Whether a URL may be the label of a link, after a character or at the start of a text, and
that the link leads to it. -/
structure IsLabel (before : Option Char) (url label : Text) : Prop where
  isUrl : IsUrl label
  trim_eq : trim label = label
  looks : '.' ∈ label ∨ "mailto:".toList <+: label
  follows : ∀ c ∈ before, Text.isBlank c = true ∨ c = '(' ∨ c = '"' ∨ c = '\''
  url_eq : url = if "www.".toList <+: Text.toLower label then "http://".toList ++ label else label

/-- Whether an inline may stand after a character, or at the start, where URLs are made links. -/
inductive IsPiece (before : Option Char) : Inline → Prop where
  | literal {t : Text} : t ≠ [] → IsPiece before (.literal t)
  | link {url label : Text} : IsLabel before url label →
      IsPiece before (.link url false [.literal label])

/-- Whether each inline may stand after the text of those before it. -/
def ArePieces : Option Char → List Inline → Prop
  | _, [] => True
  | before, piece :: rest =>
    IsPiece before piece ∧ ArePieces (piece.plain.getLast?.or before) rest

/-! ### The text of the pieces -/

theorem plainAll_prepend (t : Text) (rest : List Inline) :
    Inline.plainAll (prepend t rest) = t ++ Inline.plainAll rest := by
  unfold prepend
  split
  case h_1 u rest =>
    rw [Inline.plainAll, Inline.plainAll, Inline.plain, Inline.plain, List.append_assoc]
  case h_2 =>
    split
    case isTrue isEmpty => rw [List.isEmpty_iff.mp isEmpty, List.nil_append]
    case isFalse => rfl

theorem plain_link (label : Text) : (link label).plain = label := by
  simp [link, Inline.plain, Inline.plainAll]

theorem plainAll_linkifyAfter (n : Nat) (before : Option Char) (t : Text) :
    Inline.plainAll (linkifyAfter n before t) = t := by
  induction n, before, t using induction_steps with
  | zero before t => rw [linkifyAfter, plainAll_prepend, Inline.plainAll, List.append_nil]
  | nil n before => rw [linkifyAfter_nil, Inline.plainAll]
  | char n before c rest noUrl ih =>
    rw [linkifyAfter_char before n noUrl, plainAll_prepend, ih, List.singleton_append]
  | url n before word rest starts isUrl ends ih =>
    rw [linkifyAfter_url before n starts isUrl ends]
    split
    · rw [Inline.plainAll, plain_link, plainAll_prepend, ih, ← List.append_assoc,
        trim_append_drop]
    · rw [plainAll_prepend, ih]

/-! ### The pieces -/

theorem ArePieces.prepend {before : Option Char} {t : Text} {pieces : List Inline}
    (h : ArePieces (t.getLast?.or before) pieces) : ArePieces before (prepend t pieces) := by
  unfold BareUrl.prepend
  split
  case h_1 u rest =>
    obtain ⟨first, others⟩ := h
    cases first with
    | literal notEmpty =>
      refine ⟨.literal (List.append_ne_nil_of_right_ne_nil t notEmpty), ?_⟩
      rw [Inline.plain, List.getLast?_append, Option.or_assoc]
      exact others
  case h_2 =>
    split
    case isTrue isEmpty =>
      rw [List.isEmpty_iff.mp isEmpty] at h
      exact h
    case isFalse notEmpty =>
      exact ⟨.literal fun isEmpty => notEmpty (List.isEmpty_iff.mpr isEmpty), h⟩

theorem isPiece_of_mayFollow {before : Option Char} {word : Text} (starts : StartsUrl word)
    (isUrl : ∀ c ∈ word, isUrlChar c = true) (follows : mayFollow before = true)
    (complete : isComplete (trim word) = true) : IsPiece before (link (trim word)) := by
  obtain ⟨isLabel, -, looks⟩ := (isComplete_trim_iff starts isUrl).mp complete
  refine .link ⟨isLabel, trim_trim word, looks, ?_, ?_⟩
  · rintro c rfl
    simpa [mayFollow, or_assoc] using follows
  · rw [target, if_congr Text.startsWith_iff rfl rfl]

theorem arePieces_linkifyAfter (n : Nat) (before : Option Char) (t : Text) :
    ArePieces before (linkifyAfter n before t) := by
  induction n, before, t using induction_steps with
  | zero before t => exact ArePieces.prepend trivial
  | nil n before =>
    rw [linkifyAfter_nil]
    trivial
  | char n before c rest noUrl ih =>
    rw [linkifyAfter_char before n noUrl]
    exact ArePieces.prepend ih
  | url n before word rest starts isUrl ends ih =>
    have last : word.getLast?.or before = word.getLast? := by
      rw [List.getLast?_eq_some_getLast starts.ne_nil, Option.some_or]
    rw [linkifyAfter_url before n starts isUrl ends]
    split
    case isTrue isLink =>
      obtain ⟨follows, complete⟩ := (Bool.and_eq_true _ _).mp isLink
      refine ⟨isPiece_of_mayFollow starts isUrl follows complete, ArePieces.prepend ?_⟩
      rw [plain_link, ← Option.or_assoc, ← List.getLast?_append, trim_append_drop, last]
      exact ih
    case isFalse =>
      refine ArePieces.prepend ?_
      rw [last]
      exact ih

theorem ArePieces.isPiece {before : Option Char} {front back : List Inline} {piece : Inline}
    (h : ArePieces before (front ++ piece :: back)) :
    IsPiece ((Inline.plainAll front).getLast?.or before) piece := by
  induction front generalizing before with
  | nil => exact h.1
  | cons first rest ih =>
    have after := ih h.2
    rwa [← Option.or_assoc, ← List.getLast?_append] at after

/-- Where bare URLs are made links, the pieces of a text are the text again. No literal is empty
and no two are side by side; the label of a link is a URL as a whole of which nothing is to be
trimmed, it holds a dot or starts with `mailto:`, and it stands at the start of the text or after
a blank, an opening parenthesis or a quote. The link leads to its label, with a scheme before it
if it starts with `www.`. -/
theorem linkify_pieces (t : Text) :
    Inline.plainAll (linkify t) = t ∧ Alternate (linkify t) ∧
      ∀ front piece back, linkify t = front ++ piece :: back →
        IsPiece (Inline.plainAll front).getLast? piece := by
  refine ⟨plainAll_linkifyAfter t.length none t, alternate_linkify t, ?_⟩
  intro front piece back whole
  have pieces := arePieces_linkifyAfter t.length none t
  rw [← linkify, whole] at pieces
  have isPiece := pieces.isPiece
  rwa [Option.or_none] at isPiece

end TelegramMarkdown.BareUrl
