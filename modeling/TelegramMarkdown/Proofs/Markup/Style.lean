import Mathlib.Algebra.Ring.Parity
import TelegramMarkdown.Proofs.Markup.Block

/-!
The styles in which a rendered document shows its literals.

A marker switches its style on or off, whichever it is not, so a reader has to count.
`Document.traced` goes along with the tokens of a document and notes, for every character
of a literal, what the literal lies under. A character is shown in a style exactly if an
odd number of the elements that it lies under ask for that style (`literals_styled`): a
style inside of itself is lost, as in bold text of a heading.
-/

namespace TelegramMarkdown

namespace Markup

/-! ### Styles -/

/-- Which styles are on. -/
abbrev Style := Mark → Bool

/-- No style is on. -/
def Style.none : Style := fun _ => false

/-- The styles that are on behind a token: a marker switches its own. -/
def Token.switch (on : Style) : Token → Style
  | .mark m => fun n => on n ^^ decide (n = m)
  | _ => on

/-- The styles that are on behind tokens. -/
def styleAfter (on : Style) (tokens : List Token) : Style :=
  tokens.foldl Token.switch on

/-- An element that a literal lies under and that may ask for a style. -/
inductive Ancestor where
  | heading
  | emphasis (delimiter : Char) (count : Nat)

/-- Whether what lies under an element is meant to be shown in a style. -/
def Ancestor.asksFor : Mark → Ancestor → Bool
  | .bold, heading => true
  | .bold, emphasis delimiter count => delimiter = '*' && count = 2
  | .underline, emphasis delimiter count => delimiter = '_' && count = 2
  | .italic, emphasis delimiter count => (delimiter = '*' || delimiter = '_') && count = 1
  | .strikethrough, emphasis delimiter _ => delimiter = '~'
  | _, _ => false

/-- How many elements ask for a style. -/
def timesAsked (path : List Ancestor) (m : Mark) : Nat :=
  path.countP (Ancestor.asksFor m)

/-- The styles that an odd number of elements ask for. -/
def askedOdd (path : List Ancestor) : Style :=
  fun m => decide (Odd (timesAsked path m))

theorem askedOdd_nil : askedOdd [] = Style.none := by
  funext m
  simp [askedOdd, timesAsked, Style.none]

theorem askedOdd_cons (a : Ancestor) (path : List Ancestor) (m : Mark) :
    askedOdd (a :: path) m = (askedOdd path m ^^ a.asksFor m) := by
  have times : timesAsked (a :: path) m =
      timesAsked path m + if a.asksFor m then 1 else 0 := List.countP_cons
  rw [Bool.eq_iff_iff]
  cases asks : a.asksFor m with
  | false =>
    rw [asks, if_neg Bool.false_ne_true, Nat.add_zero] at times
    simp [askedOdd, times]
  | true =>
    rw [asks, if_pos rfl] at times
    simp [askedOdd, times, Nat.odd_add_one]

/-- Emphasis asks for the style whose markers it is rendered with. -/
theorem asksFor_emphasis (delimiter : Char) (count : Nat) (m : Mark) :
    (Ancestor.emphasis delimiter count).asksFor m =
      decide (Mark.ofDelimiter? delimiter count = some m) := by
  unfold Mark.ofDelimiter?
  cases m <;> simp only [Ancestor.asksFor] <;> grind

theorem askedOdd_heading :
    askedOdd [.heading] = (Token.mark .bold).switch Style.none := by
  funext m
  rw [askedOdd_cons, askedOdd_nil]
  cases m <;> rfl

@[simp] theorem styleAfter_nil (on : Style) : styleAfter on [] = on := rfl

@[simp] theorem styleAfter_cons (on : Style) (token : Token) (tokens : List Token) :
    styleAfter on (token :: tokens) = styleAfter (token.switch on) tokens := rfl

@[simp] theorem styleAfter_append (on : Style) (a b : List Token) :
    styleAfter on (a ++ b) = styleAfter (styleAfter on a) b := by
  simp [styleAfter]

@[simp] theorem styleAfter_chars (on : Style) (t : Text) : styleAfter on (chars t) = on := by
  induction t with
  | nil => rfl
  | cons c cs ih => exact ih

theorem switch_switch (on : Style) (m : Mark) :
    (Token.mark m).switch ((Token.mark m).switch on) = on := by
  funext n
  simp [Token.switch]

/-! ### Tokens with what they come from -/

/-- A token, and for a character of a literal what the literal lies under, innermost
first. -/
structure Traced where
  token : Token
  path? : Option (List Ancestor)

/-- Tokens that come from no literal. -/
def untraced (tokens : List Token) : List Traced :=
  tokens.map (⟨·, none⟩)

/-- The characters of a literal. -/
def traceLiteral (path : List Ancestor) (t : Text) : List Traced :=
  t.map fun c => ⟨.char c, some path⟩

/-- Traced tokens in a quotation. -/
def quoteTraced : (fresh : Bool) → List Traced → List Traced
  | fresh, [] => untraced (chars (quoteEnd fresh))
  | fresh, x :: rest =>
    (x.token.quoted fresh).map (⟨·, x.path?⟩) ++ quoteTraced x.token.isLineEnd rest

/-- Traced tokens without blanks at their end. -/
def trimTracedEnd (l : List Traced) : List Traced :=
  l.rdropWhile (·.token.isBlank)

/-- Traced tokens without blanks at either end. -/
def trimTraced (l : List Traced) : List Traced :=
  trimTracedEnd (l.dropWhile (·.token.isBlank))

/-- Whether each literal lies under what asks oddly often for the styles that are on
where it stands. -/
def Follows : (on : Style) → List Traced → Prop
  | _, [] => True
  | on, x :: rest => (∀ path, x.path? = some path → on = askedOdd path) ∧
      Follows (x.token.switch on) rest

theorem follows_append (on : Style) (a b : List Traced) :
    Follows on (a ++ b) ↔
      Follows on a ∧ Follows (styleAfter on (a.map Traced.token)) b := by
  induction a generalizing on with
  | nil => simp [Follows]
  | cons x a ih => simp [Follows, ih, and_assoc]

theorem follows_untraced (on : Style) (tokens : List Token) : Follows on (untraced tokens) := by
  induction tokens generalizing on with
  | nil => trivial
  | cons token tokens ih => exact ⟨nofun, ih _⟩

/-- Traced tokens of something under a path: its tokens, which leave the styles as they
are, and in which the literals are shown in the styles that are asked for oddly often. -/
structure Traces (path : List Ancestor) (tokens : List Token) (l : List Traced) : Prop where
  erases : l.map Traced.token = tokens
  follows : Follows (askedOdd path) l
  closes : styleAfter (askedOdd path) tokens = askedOdd path

namespace Traces

variable {path : List Ancestor} {tokens : List Token} {l : List Traced}

theorem append {others : List Token} {more : List Traced} (ha : Traces path tokens l)
    (hb : Traces path others more) : Traces path (tokens ++ others) (l ++ more) where
  erases := by rw [List.map_append, ha.erases, hb.erases]
  follows := by
    rw [follows_append, ha.erases, ha.closes]
    exact ⟨ha.follows, hb.follows⟩
  closes := by rw [styleAfter_append, ha.closes, hb.closes]

theorem untraced (h : styleAfter (askedOdd path) tokens = askedOdd path) :
    Traces path tokens (untraced tokens) where
  erases := by simp [Markup.untraced, Function.comp_def]
  closes := h
  follows := follows_untraced _ tokens

theorem chars (path : List Ancestor) (t : Text) :
    Traces path (chars t) (Markup.untraced (Markup.chars t)) :=
  untraced (styleAfter_chars _ t)

theorem literal (path : List Ancestor) (t : Text) :
    Traces path (Markup.chars t) (traceLiteral path t) where
  erases := by simp [traceLiteral, Markup.chars]
  closes := styleAfter_chars _ t
  follows := by
    induction t with
    | nil => trivial
    | cons c cs ih =>
      refine ⟨?_, ih⟩
      intro other same
      rw [Option.some.inj same]

theorem under {outer : List Ancestor} (same : askedOdd path = askedOdd outer)
    (h : Traces path tokens l) : Traces outer tokens l :=
  ⟨h.erases, same ▸ h.follows, same ▸ h.closes⟩

/-- Between two markers of a style stands what lies under one element more that asks for
it. -/
theorem span {outer : List Ancestor} (m : Mark)
    (switched : askedOdd path = (Token.mark m).switch (askedOdd outer))
    (h : Traces path tokens l) :
    Traces outer (.mark m :: tokens ++ [.mark m])
      (Markup.untraced [.mark m] ++ l ++ Markup.untraced [.mark m]) where
  erases := by simp [Markup.untraced, h.erases]
  closes := by
    rw [List.cons_append, styleAfter_cons, styleAfter_append, ← switched, h.closes, switched,
      styleAfter_cons, styleAfter_nil, switch_switch]
  follows := by
    have inside : Follows ((Token.mark m).switch (askedOdd outer))
        (l ++ Markup.untraced [.mark m]) := by
      rw [← switched, follows_append]
      exact ⟨h.follows, nofun, trivial⟩
    exact ⟨nofun, inside⟩

/-! ### Quoting -/

theorem styleAfter_quoted (on : Style) (fresh : Bool) (token : Token) :
    styleAfter on (token.quoted fresh) = token.switch on := by
  have led (last : Token) :
      styleAfter on (Token.quoted.lead fresh ++ [last]) = last.switch on := by
    cases fresh <;> rfl
  cases token with
  | char c =>
    rw [Token.quoted]
    split
    · exact styleAfter_chars _ _
    · exact led _
  | mark _ | code _ | pre _ | openLink | closeLink _ | quote => exact led _

theorem follows_quoted {on : Style} {path? : Option (List Ancestor)}
    (h : ∀ path, path? = some path → on = askedOdd path) (fresh : Bool) (token : Token) :
    Follows on ((token.quoted fresh).map (⟨·, path?⟩)) := by
  have led (last : Token) :
      Follows on ((Token.quoted.lead fresh ++ [last]).map (⟨·, path?⟩)) := by
    cases fresh with
    | false => exact ⟨h, trivial⟩
    | true => exact ⟨h, h, trivial⟩
  cases token with
  | char c =>
    rw [Token.quoted]
    split
    · cases fresh with
      | false => exact ⟨h, trivial⟩
      | true => trivial
    · exact led _
  | mark _ | code _ | pre _ | openLink | closeLink _ | quote => exact led _

theorem styleAfter_quoteTokens (on : Style) (fresh : Bool) (tokens : List Token) :
    styleAfter on (quoteTokens fresh tokens) = styleAfter on tokens := by
  induction tokens generalizing on fresh with
  | nil => exact styleAfter_chars _ _
  | cons token rest ih =>
    rw [quoteTokens, styleAfter_append, styleAfter_quoted, ih, styleAfter_cons]

theorem map_token_quoteTraced (fresh : Bool) (l : List Traced) :
    (quoteTraced fresh l).map Traced.token = quoteTokens fresh (l.map Traced.token) := by
  induction l generalizing fresh with
  | nil => simp [quoteTraced, quoteTokens, Markup.untraced, Function.comp_def]
  | cons x rest ih => simp [quoteTraced, quoteTokens, ih, Function.comp_def]

theorem follows_quoteTraced {on : Style} {l : List Traced} (h : Follows on l) (fresh : Bool) :
    Follows on (quoteTraced fresh l) := by
  induction l generalizing on fresh with
  | nil => exact follows_untraced on _
  | cons x rest ih =>
    have first : ((x.token.quoted fresh).map (Traced.mk · x.path?)).map Traced.token =
        x.token.quoted fresh := by
      simp [Function.comp_def]
    rw [quoteTraced, follows_append, first, styleAfter_quoted]
    exact ⟨follows_quoted h.1 fresh x.token, ih h.2 _⟩

theorem quoted (h : Traces path tokens l) (fresh : Bool) :
    Traces path (quoteTokens fresh tokens) (quoteTraced fresh l) where
  erases := by rw [map_token_quoteTraced, h.erases]
  follows := follows_quoteTraced h.follows fresh
  closes := by rw [styleAfter_quoteTokens, h.closes]

/-! ### Trimming -/

theorem switch_of_blank (on : Style) {token : Token} (h : token.isBlank = true) :
    token.switch on = on := by
  cases token with
  | char c => rfl
  | mark _ | code _ | pre _ | openLink | closeLink _ | quote => nomatch h

theorem styleAfter_of_blank (on : Style) {blanks : List Token}
    (h : ∀ token ∈ blanks, token.isBlank = true) : styleAfter on blanks = on := by
  induction blanks with
  | nil => rfl
  | cons token rest ih =>
    obtain ⟨blank, others⟩ := List.forall_mem_cons.mp h
    rw [styleAfter_cons, switch_of_blank on blank, ih others]

theorem dropBlanks (h : Traces path tokens l) :
    Traces path (tokens.dropWhile Token.isBlank) (l.dropWhile (·.token.isBlank)) := by
  obtain ⟨rfl, follows, closes⟩ := h
  have blank : ∀ token ∈ (l.takeWhile (·.token.isBlank)).map Traced.token,
      token.isBlank = true := by
    rw [List.forall_mem_map]
    intro x mem
    have blank := List.mem_takeWhile_imp mem
    exact blank
  have split : l.takeWhile (·.token.isBlank) ++ l.dropWhile (·.token.isBlank) = l :=
    List.takeWhile_append_dropWhile
  have rest : (l.map Traced.token).dropWhile Token.isBlank =
      (l.dropWhile (·.token.isBlank)).map Traced.token := List.dropWhile_map
  rw [← split, List.map_append, styleAfter_append, styleAfter_of_blank _ blank] at closes
  rw [← split, follows_append, styleAfter_of_blank _ blank] at follows
  exact ⟨rest.symm, follows.2, by rw [rest, closes]⟩

theorem trimmedEnd (h : Traces path tokens l) :
    Traces path (trimTokensEnd tokens) (trimTracedEnd l) := by
  obtain ⟨rfl, follows, closes⟩ := h
  have blank : ∀ token ∈ (l.rtakeWhile (·.token.isBlank)).map Traced.token,
      token.isBlank = true := by
    rw [List.forall_mem_map]
    intro x mem
    have blank := List.mem_rtakeWhile_imp mem
    exact blank
  have split : trimTracedEnd l ++ l.rtakeWhile (·.token.isBlank) = l :=
    List.rdropWhile_append_rtakeWhile
  have rest : trimTokensEnd (l.map Traced.token) = (trimTracedEnd l).map Traced.token := by
    rw [trimTokensEnd, trimTracedEnd, List.rdropWhile, List.rdropWhile, ← List.map_reverse,
      List.dropWhile_map, List.map_reverse]
    rfl
  rw [← split, List.map_append, styleAfter_append, styleAfter_of_blank _ blank] at closes
  rw [← split, follows_append] at follows
  exact ⟨rest.symm, follows.1, by rw [rest, closes]⟩

theorem trimmed (h : Traces path tokens l) : Traces path (trimTokens tokens) (trimTraced l) :=
  h.dropBlanks.trimmedEnd

end Traces

end Markup

open Markup

/-! ### Inlines -/

mutual

/-- The tokens of an inline under a path, with what they come from. -/
def Inline.traced (path : List Ancestor) : Inline → List Traced
  | .literal text => traceLiteral path text
  | .emphasis delimiter count children =>
    let inside := Inline.tracedAll (.emphasis delimiter count :: path) children
    match Mark.ofDelimiter? delimiter count with
    | some m => untraced [.mark m] ++ inside ++ untraced [.mark m]
    | none => inside
  | .link url isImage children =>
    untraced [.openLink] ++ Inline.tracedAll path children ++
      untraced (chars (if isImage && children.isEmpty then imageLabel else []) ++ [.closeLink url])
  | .container children => Inline.tracedAll path children
  | inline => untraced inline.tokens

/-- The tokens of inlines under a path, with what they come from. -/
def Inline.tracedAll (path : List Ancestor) : List Inline → List Traced
  | [] => []
  | inline :: rest => inline.traced path ++ Inline.tracedAll path rest

end

theorem askedOdd_emphasis (path : List Ancestor) (delimiter : Char) (count : Nat) :
    askedOdd (.emphasis delimiter count :: path) =
      match Mark.ofDelimiter? delimiter count with
      | some m => (Token.mark m).switch (askedOdd path)
      | none => askedOdd path := by
  funext n
  rw [askedOdd_cons, asksFor_emphasis]
  cases Mark.ofDelimiter? delimiter count with
  | none => simp
  | some m => simp [Token.switch, eq_comm]

mutual

theorem Inline.traced_traces (path : List Ancestor) :
    ∀ inline : Inline, inline.Everywhere (fun i => ¬ i.IsHtml) →
      Traces path inline.tokens (inline.traced path)
  | .literal text, _ => Traces.literal path text
  | .emphasis delimiter count children, h => by
    have inside := Inline.tracedAll_traces (.emphasis delimiter count :: path) children h.2
    have asked := askedOdd_emphasis path delimiter count
    rw [Inline.tokens, Inline.traced]
    cases found : Mark.ofDelimiter? delimiter count with
    | some m =>
      rw [found] at asked
      exact inside.span m asked
    | none =>
      rw [found] at asked
      exact inside.under asked
  | .link url isImage children, h => by
    have inside := Inline.tracedAll_traces path children h.2
    have opening : Traces path [.openLink] (untraced [.openLink]) := .untraced rfl
    rw [Inline.tokens, Inline.traced, List.append_assoc]
    exact (opening.append inside).append (.untraced (by simp [Token.switch]))
  | .codeSpan _, _ => .untraced rfl
  | .lineBreak, _ => .untraced rfl
  | .htmlTag _, h => absurd trivial h
  | .autolink url, _ => .untraced (by simp [Inline.tokens, Token.switch])
  | .spoiler content, _ => .untraced (by
    rw [Inline.tokens, List.cons_append, styleAfter_cons, styleAfter_append, styleAfter_chars,
      styleAfter_cons, styleAfter_nil, switch_switch])
  | .container children, h => by
    rw [Inline.tokens, Inline.traced]
    exact Inline.tracedAll_traces path children h.2

theorem Inline.tracedAll_traces (path : List Ancestor) :
    ∀ inlines : List Inline, Inline.AllEverywhere (fun i => ¬ i.IsHtml) inlines →
      Traces path (Inline.tokensAll inlines) (Inline.tracedAll path inlines)
  | [], _ => Traces.chars path []
  | inline :: rest, h =>
    (Inline.traced_traces path inline h.1).append (Inline.tracedAll_traces path rest h.2)

end

/-! ### Blocks -/

mutual

/-- The tokens of a block, with what they come from. Tables and tasks show no literals. -/
def Block.traced : Block → List Traced
  | .heading _ inlines =>
    untraced [.mark .bold] ++ Inline.tracedAll [.heading] inlines ++ untraced [.mark .bold] ++
      untraced (chars ['\n', '\n'])
  | .paragraph inlines => Inline.tracedAll [] inlines ++ untraced (chars ['\n', '\n'])
  | .list ordered items => Block.itemsTraced ordered [] 1 items ++ untraced (chars ['\n'])
  | .quote blocks => Block.quotedTraced blocks ++ untraced (chars ['\n'])
  | .container blocks => Block.tracedAll blocks
  | block => untraced block.tokens

/-- The tokens of blocks, with what they come from. -/
def Block.tracedAll : List Block → List Traced
  | [] => []
  | block :: rest => block.traced ++ Block.tracedAll rest

/-- The tokens of the blocks of a quotation, with what they come from. -/
def Block.quotedTraced : List Block → List Traced
  | [] => []
  | block :: rest => quoteTraced true block.traced ++ Block.quotedTraced rest

/-- The tokens of the items of a list, with what they come from. -/
def Block.itemsTraced (ordered : Bool) (indent : Text) (number : Nat) :
    List ListItem → List Traced
  | [] => []
  | item :: rest =>
    item.traced ordered indent number ++ Block.itemsTraced ordered indent (number + 1) rest

/-- The tokens of an item of a list, with what they come from. -/
def ListItem.traced (ordered : Bool) (indent : Text) (number : Nat) : ListItem → List Traced
  | { isTask, checked, taskText, blocks } =>
    if !ordered && isTask then
      untraced (chars indent ++ checkboxTokens checked ++ chars taskText ++ chars ['\n'])
    else
      untraced (chars indent ++ bulletTokens ordered number) ++ Block.tracedInItem indent blocks ++
        untraced (chars ['\n'])

/-- The tokens of the blocks of a list item, with what they come from. -/
def Block.tracedInItem (indent : Text) : List Block → List Traced
  | [] => []
  | .paragraph inlines :: rest => Inline.tracedAll [] inlines ++ Block.tracedInItem indent rest
  | .list ordered items :: rest =>
    untraced (chars ['\n']) ++
      trimTracedEnd (Block.itemsTraced ordered (indent ++ [' ', ' ']) 1 items) ++
      Block.tracedInItem indent rest
  | block :: rest => block.traced ++ Block.tracedInItem indent rest

end

/-- The tokens of a document, with what they come from. -/
def Document.traced (document : Document) : List Traced :=
  trimTraced (Block.tracedAll document.blocks)

theorem codeTokens_traces (info : Text) (lines : List Text) :
    Traces [] (codeTokens info lines) (untraced (codeTokens info lines)) :=
  .untraced (styleAfter_chars _ _)

mutual

theorem Block.traced_traces :
    ∀ block : Block, block.Everywhere (fun i => ¬ i.IsHtml) (¬ ·.IsHtml) →
      Traces [] block.tokens block.traced
  | .heading _ inlines, h => by
    have switched : askedOdd [.heading] = (Token.mark .bold).switch (askedOdd []) := by
      rw [askedOdd_heading, askedOdd_nil]
    exact ((Inline.tracedAll_traces [.heading] inlines h.2).span .bold switched).append
      (.chars _ _)
  | .paragraph inlines, h => (Inline.tracedAll_traces [] inlines h.2).append (.chars _ _)
  | .list ordered items, h =>
    (Block.itemsTraced_traces ordered [] 1 items h.2).append (.chars _ _)
  | .quote blocks, h => (Block.quotedTraced_traces blocks h.2).append (.chars _ _)
  | .codeBlock _ _, _ => codeTokens_traces _ _
  | .table _, _ => codeTokens_traces _ _
  | .rule, _ => .chars _ _
  | .html _, h => absurd trivial h
  | .container blocks, h => Block.tracedAll_traces blocks h.2

theorem Block.tracedAll_traces :
    ∀ blocks : List Block, Block.AllEverywhere (fun i => ¬ i.IsHtml) (¬ ·.IsHtml) blocks →
      Traces [] (Block.tokensAll blocks) (Block.tracedAll blocks)
  | [], _ => .chars _ []
  | block :: rest, h => (Block.traced_traces block h.1).append (Block.tracedAll_traces rest h.2)

theorem Block.quotedTraced_traces :
    ∀ blocks : List Block, Block.AllEverywhere (fun i => ¬ i.IsHtml) (¬ ·.IsHtml) blocks →
      Traces [] (Block.quotedTokens blocks) (Block.quotedTraced blocks)
  | [], _ => .chars _ []
  | block :: rest, h =>
    ((Block.traced_traces block h.1).quoted true).append (Block.quotedTraced_traces rest h.2)

theorem Block.itemsTraced_traces (ordered : Bool) (indent : Text) (number : Nat) :
    ∀ items : List ListItem, Block.ItemsEverywhere (fun i => ¬ i.IsHtml) (¬ ·.IsHtml) items →
      Traces [] (Block.itemTokens ordered indent number items)
        (Block.itemsTraced ordered indent number items)
  | [], _ => .chars _ []
  | item :: rest, h =>
    (ListItem.traced_traces ordered indent number item h.1).append
      (Block.itemsTraced_traces ordered indent (number + 1) rest h.2)

theorem ListItem.traced_traces (ordered : Bool) (indent : Text) (number : Nat) :
    ∀ item : ListItem, item.Everywhere (fun i => ¬ i.IsHtml) (¬ ·.IsHtml) →
      Traces [] (item.tokens ordered indent number) (item.traced ordered indent number)
  | { isTask, checked, taskText, blocks }, h => by
    have inside := Block.tracedInItem_traces indent blocks h
    rw [ListItem.tokens, ListItem.traced]
    split
    · exact .untraced (by
      simp only [checkboxTokens, styleAfter_append, styleAfter_chars])
    · have bullet : Traces [] (chars indent ++ bulletTokens ordered number)
          (untraced (chars indent ++ bulletTokens ordered number)) :=
        .untraced (by simp only [bulletTokens, styleAfter_append, styleAfter_chars])
      exact (bullet.append inside).append (.chars _ _)

theorem Block.tracedInItem_traces (indent : Text) :
    ∀ blocks : List Block, Block.AllEverywhere (fun i => ¬ i.IsHtml) (¬ ·.IsHtml) blocks →
      Traces [] (Block.tokensInItem indent blocks) (Block.tracedInItem indent blocks)
  | [], _ => .chars _ []
  | .paragraph inlines :: rest, h =>
    (Inline.tracedAll_traces [] inlines h.1.2).append (Block.tracedInItem_traces indent rest h.2)
  | .list ordered items :: rest, h =>
    ((Traces.chars _ _).append
      (Block.itemsTraced_traces ordered (indent ++ [' ', ' ']) 1 items h.1.2).trimmedEnd).append
      (Block.tracedInItem_traces indent rest h.2)
  | .heading _ _ :: rest, h | .quote _ :: rest, h | .codeBlock _ _ :: rest, h
  | .table _ :: rest, h | .rule :: rest, h | .html _ :: rest, h | .container _ :: rest, h =>
    (Block.traced_traces _ h.1).append (Block.tracedInItem_traces indent rest h.2)

end

/-- A rendered document has its tokens, and its literals are where they were traced. -/
theorem Document.traced_traces {document : Document}
    (h : document.Everywhere (fun i => ¬ i.IsHtml) (¬ ·.IsHtml)) :
    Traces [] document.tokens document.traced :=
  (Block.tracedAll_traces document.blocks h).trimmed

/-! ### Reading -/

namespace Markup

/-- What a reader takes a token for. To one without fences a block of code is code, with
empty code on either side. -/
def Token.readAs (fences : Bool) : Token → List Token
  | .pre content => if fences then [.pre content] else [.code [], .code content, .code []]
  | token => [token]

theorem writeAll_readAs (fences : Bool) (token : Token) :
    writeAll (token.readAs fences) = token.write := by
  cases token with
  | pre content =>
    cases fences with
    | true => simp [Token.readAs]
    | false =>
      have empty : Escape.code [] = [] := rfl
      simp [Token.readAs, Token.write, empty, Marker.code, fence]
  | char _ | mark _ | code _ | openLink | closeLink _ | quote => simp [Token.readAs]

theorem readAs_readable {fences : Bool} {token : Token}
    (h : fences = true → token.IsReadable true) :
    ∀ other ∈ token.readAs fences, other.IsReadable fences := by
  cases fences with
  | true => cases token <;> simpa [Token.readAs] using h rfl
  | false => cases token <;> simp [Token.readAs, Token.IsReadable]

theorem styleAfter_readAs (fences : Bool) (on : Style) (tokens : List Token) :
    styleAfter on (tokens.flatMap (Token.readAs fences)) = styleAfter on tokens := by
  induction tokens generalizing on with
  | nil => rfl
  | cons token rest ih =>
    have here : styleAfter on (token.readAs fences) = token.switch on := by
      cases fences <;> cases token <;> rfl
    rw [List.flatMap_cons, styleAfter_append, here, ih, styleAfter_cons]

/-- A reader gets what it takes the tokens for. -/
theorem read_writeAll_as (fences : Bool) {tokens : List Token}
    (h : fences = true → ∀ token ∈ tokens, token.IsReadable true) :
    read fences .prose (writeAll tokens) =
      ⟨tokens.flatMap (Token.readAs fences), [], .prose, false⟩ := by
  have same : writeAll (tokens.flatMap (Token.readAs fences)) = writeAll tokens := by
    simp only [writeAll, List.flatMap_assoc]
    congr 1
    funext token
    exact writeAll_readAs fences token
  rw [← same]
  apply read_writeAll
  intro other mem
  obtain ⟨token, inTokens, inRead⟩ := List.mem_flatMap.mp mem
  exact readAs_readable (fun hasFences => h hasFences token inTokens) other inRead

end Markup

/-- How the styles of a document are read: every character of a literal is met where it
was traced, and a style is on there exactly if `shown` says so of what the literal lies
under. -/
def Document.ReadsStyles (fences : Bool) (shown : List Ancestor → Mark → Prop)
    (document : Document) : Prop :=
  ∀ before c path after, document.traced = before ++ ⟨.char c, some path⟩ :: after →
    ∃ prior later, (read fences .prose document.render).tokens = prior ++ .char c :: later ∧
      prior = (before.map Traced.token).flatMap (Token.readAs fences) ∧
      ∀ m, styleAfter .none prior m = true ↔ shown path m

/-- Whether a literal lies under an element that asks for the style. -/
def IsUnder (path : List Ancestor) (m : Mark) : Prop :=
  ∃ a ∈ path, a.asksFor m = true

theorem isUnder_iff (path : List Ancestor) (m : Mark) :
    IsUnder path m ↔ 0 < timesAsked path m :=
  List.countP_pos_iff.symm

section

variable {fences : Bool} {document : Document}

/-- A reader of a rendered document takes it for its tokens. -/
theorem Document.tokens_read (h : document.Everywhere
    (fun i => ¬ i.IsHtml ∧ (fences = true → i.IsNoEmptyCode)) (¬ ·.IsHtml)) :
    (read fences .prose document.render).tokens =
      document.tokens.flatMap (Token.readAs fences) := by
  have noCodeTag : document.Everywhere Inline.IsNoCodeTag fun _ => True :=
    Block.AllEverywhere.mono (fun _ hi => Inline.isNoCodeTag_of_not_isHtml hi.1)
      (fun _ _ => trivial) document.blocks h
  have readable : fences = true → ∀ token ∈ document.tokens, token.IsReadable true := by
    intro hasFences
    have noEmptyCode : document.Everywhere (fun i => ¬ i.IsHtml ∧ i.IsNoEmptyCode) (¬ ·.IsHtml) :=
      Block.AllEverywhere.mono (fun _ hi => ⟨hi.1, hi.2 hasFences⟩) (fun _ hb => hb)
        document.blocks h
    exact (Block.tokensAll_sound document.blocks noEmptyCode).trimTokens.readable
  rw [Document.render_eq_writeAll noCodeTag, read_writeAll_as fences readable]

/-- The styles that are read are those that are asked for an odd number of times. -/
theorem Document.readsStyles_iff (h : document.Everywhere
    (fun i => ¬ i.IsHtml ∧ (fences = true → i.IsNoEmptyCode)) (¬ ·.IsHtml))
    (shown : List Ancestor → Mark → Prop) :
    document.ReadsStyles fences shown ↔
      ∀ c path, ⟨.char c, some path⟩ ∈ document.traced →
        ∀ m, Odd (timesAsked path m) ↔ shown path m := by
  have noHtml : document.Everywhere (fun i => ¬ i.IsHtml) (¬ ·.IsHtml) :=
    Block.AllEverywhere.mono (fun _ hi => hi.1) (fun _ hb => hb) document.blocks h
  obtain ⟨erases, follows, -⟩ := Document.traced_traces noHtml
  have styled : ∀ before c path after, document.traced = before ++ ⟨.char c, some path⟩ :: after →
      ∀ m, styleAfter .none ((before.map Traced.token).flatMap (Token.readAs fences)) m = true ↔
        Odd (timesAsked path m) := by
    intro before c path after split m
    rw [split, follows_append, askedOdd_nil] at follows
    have here := follows.2.1 path rfl
    rw [styleAfter_readAs, here, askedOdd, decide_eq_true_iff]
  constructor
  · intro reads c path mem m
    obtain ⟨before, after, split⟩ := List.append_of_mem mem
    obtain ⟨prior, later, -, rfl, shows⟩ := reads before c path after split
    rw [← shows m, styled before c path after split m]
  · intro odd before c path after split
    refine ⟨_, (after.map Traced.token).flatMap (Token.readAs fences), ?_, rfl, ?_⟩
    · rw [Document.tokens_read h, ← erases, split]
      simp [Token.readAs]
    · intro m
      rw [styled before c path after split m]
      exact odd c path (by rw [split]; simp) m

end

/-- Every character of a literal is read in exactly the styles that an odd number of the
elements asks for that the literal lies under. So the styles of a document are kept, every
character being shown in the styles that it lies under, exactly if no literal lies under a
style an even number of times. -/
theorem literals_styled (fences : Bool) (document : Document)
    (h : document.Everywhere (fun i => ¬ i.IsHtml ∧ (fences = true → i.IsNoEmptyCode))
      (¬ ·.IsHtml)) :
    document.ReadsStyles fences (fun path m => Odd (timesAsked path m)) ∧
      (document.ReadsStyles fences IsUnder ↔
        ∀ c path, ⟨.char c, some path⟩ ∈ document.traced →
          ∀ m, ¬ (0 < timesAsked path m ∧ Even (timesAsked path m))) := by
  rw [Document.readsStyles_iff h, Document.readsStyles_iff h]
  constructor
  · exact fun _ _ _ _ => Iff.rfl
  · refine forall_congr' fun c => forall_congr' fun path => forall_congr' fun _ =>
      forall_congr' fun m => ?_
    rw [isUnder_iff, Nat.odd_iff, Nat.even_iff]
    omega

/-- Underline in italic in a quoted heading, next to empty code and in front of a task: the
styles are kept. -/
theorem literals_styled_quoted_heading :
    let document : Document := ⟨[.quote [.heading 2 [.codeSpan [], .emphasis '*' 1
      [.literal ['a', '\n'], .emphasis '_' 2 [.link ['u'] false [.literal ['b']]]]]],
      .list false [⟨true, true, ['c'], []⟩]]⟩
    document.ReadsStyles false IsUnder := by
  intro document
  have paths : document.traced.filterMap Traced.path? =
      [[.emphasis '*' 1, .heading], [.emphasis '*' 1, .heading],
        [.emphasis '_' 2, .emphasis '*' 1, .heading]] := rfl
  refine (literals_styled false document (by
    simp [document, Document.Everywhere, Block.AllEverywhere, Block.Everywhere,
      Block.ItemsEverywhere, ListItem.Everywhere, Inline.AllEverywhere, Inline.Everywhere,
      Inline.IsHtml, Block.IsHtml])).2.mpr ?_
  intro c path mem m
  have inPaths : path ∈ document.traced.filterMap Traced.path? :=
    List.mem_filterMap.mpr ⟨_, mem, rfl⟩
  rw [paths] at inPaths
  simp only [List.mem_cons, List.not_mem_nil, or_false] at inPaths
  rcases inPaths with rfl | rfl | rfl <;> cases m <;> decide

/-- Bold text in a heading is not shown as bold. -/
theorem bold_lost_in_heading :
    ¬ Document.ReadsStyles true IsUnder ⟨[.heading 1 [.literal ['a', ' '],
      .emphasis '*' 2 [.literal ['b']], .literal [' ', 'c']]]⟩ := by
  intro reads
  obtain ⟨prior, later, -, rfl, shows⟩ := reads
    [⟨.mark .bold, none⟩, ⟨.char 'a', some [.heading]⟩, ⟨.char ' ', some [.heading]⟩,
      ⟨.mark .bold, none⟩] 'b' [.emphasis '*' 2, .heading]
    [⟨.mark .bold, none⟩, ⟨.char ' ', some [.heading]⟩, ⟨.char 'c', some [.heading]⟩,
      ⟨.mark .bold, none⟩] rfl
  have isUnder : IsUnder [.emphasis '*' 2, .heading] .bold := ⟨.heading, by simp, rfl⟩
  exact absurd ((shows .bold).mpr isUnder) (by decide)

end TelegramMarkdown
