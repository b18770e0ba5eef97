import TelegramMarkdown.Proofs.Everywhere
import TelegramMarkdown.Proofs.Markup

/-!
Inlines as tokens of MarkdownV2.

`Inline.tokens` says of each inline what it shows and which markers it puts around
that; rendering writes these tokens (`Inline.renderAll_eq_writeAll`), so a reader of
the rendered text gets them back (`renderAll_uniquely_readable`). The only inline
that is no sequence of tokens is the HTML tag `code`, whose marker is one backtick.
-/

namespace TelegramMarkdown

namespace Markup

/-! ### Which inlines have which marker -/

/-- The marker of emphasis by a delimiter run. -/
def Mark.ofDelimiter? (delimiter : Char) (count : Nat) : Option Mark :=
  if delimiter = '*' ∧ count = 2 then some bold
  else if delimiter = '_' ∧ count = 2 then some underline
  else if (delimiter = '*' ∨ delimiter = '_') ∧ count = 1 then some italic
  else if delimiter = '~' then some strikethrough
  else none

/-- The HTML elements that have the marker. -/
def Mark.elements : Mark → List Text
  | bold => ["b".toList, "strong".toList]
  | underline => ["u".toList]
  | italic => ["i".toList, "em".toList]
  | strikethrough => ["s".toList, "strike".toList]
  | spoiler => []

/-- The name of the element that a tag opens or closes, in small letters. -/
def elementName (tag : Text) : Text :=
  Text.toLower (match tag with
    | '/' :: name => name
    | name => name)

/-- The marker of an HTML tag, opening or closing. -/
def Mark.ofTag? (tag : Text) : Option Mark :=
  [bold, underline, italic, strikethrough].find? fun m => elementName tag ∈ m.elements

/-- The tag whose marker is a backtick. -/
def IsCodeTag (tag : Text) : Prop :=
  elementName tag = "code".toList

theorem ofDelimiter?_eq_map_text (delimiter : Char) (count : Nat) :
    Marker.ofDelimiter? delimiter count = (Mark.ofDelimiter? delimiter count).map Mark.text := by
  unfold Marker.ofDelimiter? Mark.ofDelimiter?
  split
  case h_6 other => grind
  all_goals rfl

theorem ofTag?_eq_map_text {tag : Text} (h : ¬ IsCodeTag tag) :
    Marker.ofTag? tag = (Mark.ofTag? tag).map Mark.text := by
  have lookup : Marker.ofTag? tag = Marker.elements.lookup (elementName tag) := rfl
  rw [lookup, Mark.ofTag?]
  unfold IsCodeTag at h
  generalize elementName tag = name at h
  by_cases known : name ∈ Marker.elements.map Prod.fst
  · simp only [Marker.elements, List.map_cons, List.map_nil, List.mem_cons, List.not_mem_nil,
      or_false] at known
    rcases known with rfl | rfl | rfl | rfl | rfl | rfl | rfl | rfl
    all_goals first | rfl | exact absurd rfl h
  · have noMark : ∀ m : Mark, name ∉ m.elements := by
      intro m
      cases m <;> simp_all [Marker.elements, Mark.elements]
    have noMarker : Marker.elements.lookup name = none := by
      rw [List.lookup_eq_none_iff]
      intro element mem
      simpa using fun e => known (List.mem_map.mpr ⟨element, mem, e.symm⟩)
    simp [noMarker, noMark]

end Markup

open Markup

/-! ### The tokens of inlines -/

mutual

/-- What an inline shows, and the markers around that. -/
def Inline.tokens : Inline → List Token
  | .literal text => chars text
  | .emphasis delimiter count children =>
    match Mark.ofDelimiter? delimiter count with
    | some m => .mark m :: Inline.tokensAll children ++ [.mark m]
    | none => Inline.tokensAll children
  | .link url isImage children =>
    .openLink :: Inline.tokensAll children ++
      chars (if isImage && children.isEmpty then imageLabel else []) ++ [.closeLink url]
  | .codeSpan content => [.code content]
  | .lineBreak => [.char '\n']
  | .htmlTag tag => (Mark.ofTag? tag).toList.map .mark
  | .autolink url => .openLink :: chars url ++ [.closeLink url]
  | .spoiler content => .mark .spoiler :: chars content ++ [.mark .spoiler]
  | .container children => Inline.tokensAll children

/-- The tokens of inlines, one after the other. -/
def Inline.tokensAll : List Inline → List Token
  | [] => []
  | inline :: rest => inline.tokens ++ Inline.tokensAll rest

end

/-- An inline other than the HTML tag `code`. -/
def Inline.IsNoCodeTag : Inline → Prop
  | .htmlTag tag => ¬ IsCodeTag tag
  | _ => True

theorem Inline.isNoCodeTag_of_not_isHtml {inline : Inline} (h : ¬ inline.IsHtml) :
    inline.IsNoCodeTag := by
  cases inline with
  | htmlTag _ => exact absurd trivial h
  | _ => trivial

theorem prose_imageLabel : Escape.prose imageLabel = imageLabel := by
  decide

mutual

theorem Inline.render_eq_writeAll :
    ∀ inline : Inline, inline.Everywhere IsNoCodeTag → inline.render = writeAll inline.tokens
  | .literal text, _ => by simp [Inline.render, Inline.tokens]
  | .emphasis delimiter count children, h => by
    have ih := Inline.renderAll_eq_writeAll children h.2
    rw [Inline.render, Inline.tokens, ofDelimiter?_eq_map_text]
    cases Mark.ofDelimiter? delimiter count with
    | none => simpa using ih
    | some m => simp [ih, Token.write]
  | .link url isImage children, h => by
    have ih := Inline.renderAll_eq_writeAll children h.2
    rw [Inline.render, Inline.tokens]
    split <;> simp [renderLink, ih, Token.write, prose_imageLabel]
  | .codeSpan content, _ => by simp [Inline.render, Inline.tokens, Token.write]
  | .lineBreak, _ => by simp [Inline.render, Inline.tokens, Token.write]; rfl
  | .htmlTag tag, h => by
    rw [Inline.render, Inline.tokens, ofTag?_eq_map_text h]
    cases Mark.ofTag? tag <;> simp [Token.write]
  | .autolink url, _ => by simp [Inline.render, Inline.tokens, renderLink, Token.write]
  | .spoiler content, _ => by simp [Inline.render, Inline.tokens, Token.write, Mark.text]
  | .container children, h => by
    rw [Inline.render, Inline.tokens]
    exact Inline.renderAll_eq_writeAll children h.2

theorem Inline.renderAll_eq_writeAll :
    ∀ inlines : List Inline, Inline.AllEverywhere IsNoCodeTag inlines →
      Inline.renderAll inlines = writeAll (Inline.tokensAll inlines)
  | [], _ => rfl
  | inline :: rest, h => by
    rw [Inline.renderAll, Inline.tokensAll, writeAll_append,
      Inline.render_eq_writeAll inline h.1, Inline.renderAll_eq_writeAll rest h.2]

end

/-! ### Reading rendered inlines -/

/-- An inline other than a span of code without content. -/
def Inline.IsNoEmptyCode : Inline → Prop
  | .codeSpan content => content ≠ []
  | _ => True

theorem chars_readable {fences : Bool} {t : Text} {token : Token} (mem : token ∈ chars t) :
    token.IsReadable fences := by
  obtain ⟨c, -, rfl⟩ := List.mem_map.mp mem
  trivial

/-- Tokens between two that are readable. -/
theorem readable_between {fences : Bool} {first last : Token} {inner : List Token}
    (hfirst : first.IsReadable fences) (hlast : last.IsReadable fences)
    (h : ∀ token ∈ inner, token.IsReadable fences) :
    ∀ token ∈ first :: inner ++ [last], token.IsReadable fences := by
  intro token mem
  rw [List.cons_append, List.mem_cons, List.mem_append, List.mem_singleton] at mem
  rcases mem with rfl | mem | rfl
  · exact hfirst
  · exact h token mem
  · exact hlast

section

variable (fences : Bool)

mutual

/-- Every token of an inline is readable; to a reader with fences, if no code in it
is empty. -/
theorem Inline.tokens_readable :
    ∀ inline : Inline, inline.Everywhere (fun i => fences = true → i.IsNoEmptyCode) →
      ∀ token ∈ inline.tokens, token.IsReadable fences
  | .literal _, _ => fun _ mem => chars_readable mem
  | .emphasis delimiter count children, h => by
    have ih := Inline.tokensAll_readable children h.2
    rw [Inline.tokens]
    cases Mark.ofDelimiter? delimiter count with
    | none => exact ih
    | some m => exact readable_between trivial trivial ih
  | .link url isImage children, h => by
    have ih := Inline.tokensAll_readable children h.2
    rw [Inline.tokens]
    refine readable_between trivial trivial ?_
    exact List.forall_mem_append.mpr ⟨ih, fun _ mem => chars_readable mem⟩
  | .codeSpan content, h => by
    intro token mem
    obtain rfl : token = .code content := by simpa [Inline.tokens] using mem
    exact h
  | .lineBreak, _ => by
    intro token mem
    obtain rfl : token = .char '\n' := by simpa [Inline.tokens] using mem
    trivial
  | .htmlTag tag, _ => by
    intro token mem
    obtain ⟨m, -, rfl⟩ := List.mem_map.mp mem
    trivial
  | .autolink url, _ => readable_between trivial trivial fun _ mem => chars_readable mem
  | .spoiler content, _ => readable_between trivial trivial fun _ mem => chars_readable mem
  | .container children, h => by
    rw [Inline.tokens]
    exact Inline.tokensAll_readable children h.2

theorem Inline.tokensAll_readable :
    ∀ inlines : List Inline,
      Inline.AllEverywhere (fun i => fences = true → i.IsNoEmptyCode) inlines →
      ∀ token ∈ Inline.tokensAll inlines, token.IsReadable fences
  | [], _, token, mem => nomatch mem
  | inline :: rest, h, token, mem => by
    rw [Inline.tokensAll] at mem
    rcases List.mem_append.mp mem with mem | mem
    · exact Inline.tokens_readable inline h.1 token mem
    · exact Inline.tokensAll_readable rest h.2 token mem

end

end

/-- To a reader without fences, rendered inlines are their tokens. -/
theorem Inline.read_renderAll {inlines : List Inline}
    (h : Inline.AllEverywhere IsNoCodeTag inlines) :
    read false .prose (Inline.renderAll inlines) =
      ⟨Inline.tokensAll inlines, [], .prose, false⟩ := by
  have readable := Inline.tokensAll_readable false inlines
    (Inline.AllEverywhere.mono (fun _ _ => nofun) inlines h)
  rw [Inline.renderAll_eq_writeAll inlines h, read_writeAll false _ readable]

/-- Rendered inlines are read in one way only: however literals, markers, code and
links stand next to each other and in each other, the reader gets exactly their
tokens. So inlines that are rendered alike have the same tokens. -/
theorem renderAll_uniquely_readable (inlines : List Inline)
    (h : Inline.AllEverywhere Inline.IsNoCodeTag inlines) :
    read false .prose (Inline.renderAll inlines) =
        ⟨Inline.tokensAll inlines, [], .prose, false⟩ ∧
      ∀ others, Inline.AllEverywhere Inline.IsNoCodeTag others →
        Inline.renderAll others = Inline.renderAll inlines →
        Inline.tokensAll others = Inline.tokensAll inlines := by
  refine ⟨Inline.read_renderAll h, ?_⟩
  intro others hothers same
  have alike := congrArg (fun t => (read false .prose t).tokens) same
  simpa only [Inline.read_renderAll hothers, Inline.read_renderAll h] using alike

/-- Italic in underline next to a literal of zero-width spaces and underscores, code
without content next to code, and a tag without its end. -/
theorem renderAll_uniquely_readable_adjacent :
    read false .prose (Inline.renderAll [
        .emphasis '_' 2 [.emphasis '*' 1 [.literal ['\u200B', '_']], .literal ['\u200B']],
        .codeSpan [], .codeSpan ['`'], .htmlTag ['/', 'U'], .link [')'] true []]) =
      ⟨[.mark .underline, .mark .italic, .char '\u200B', .char '_', .mark .italic,
        .char '\u200B', .mark .underline, .code [], .code ['`'], .mark .underline,
        .openLink, .char 'I', .char 'm', .char 'a', .char 'g', .char 'e', .closeLink [')']],
        [], .prose, false⟩ :=
  (renderAll_uniquely_readable _ (by
    simp [Inline.AllEverywhere, Inline.Everywhere, Inline.IsNoCodeTag, IsCodeTag]
    decide)).1

end TelegramMarkdown
