import TelegramMarkdown.Proofs.Markup.Block
import TelegramMarkdown.Proofs.Markup.LineStart

/-!
Which quotations of a document are marked where a line starts.

A quotation puts its first mark right behind what stands before it. Between blocks that is
the end of a line, but in an item of a list it may be the bullet or the text of the item,
and in another quotation it is the mark of that one. Nothing else can go wrong
(`Document.quoteMarksLead_iff`).
-/

namespace TelegramMarkdown

open Markup

/-! ### Quotations -/

mutual

/-- Of every quotation in a block that shows something, whether its first mark starts a
line. `fresh` tells whether one starts before the block. -/
def Block.quoteStarts (fresh : Bool) : Block → List Bool
  | .list ordered items => Block.itemsQuoteStarts ordered items
  | .quote blocks =>
    -- What is quoted again stands behind another mark.
    if (Block.renderQuoted blocks).isEmpty then []
    else fresh :: (Block.allQuoteStarts false blocks).map fun _ => false
  | .container blocks => Block.allQuoteStarts fresh blocks
  | _ => []

/-- The same for blocks. -/
def Block.allQuoteStarts (fresh : Bool) : List Block → List Bool
  | [] => []
  | block :: rest =>
    block.quoteStarts fresh ++ Block.allQuoteStarts (lineStart fresh block.render) rest

/-- The same for the items of a list. -/
def Block.itemsQuoteStarts (ordered : Bool) : List ListItem → List Bool
  | [] => []
  | item :: rest => item.quoteStarts ordered ++ Block.itemsQuoteStarts ordered rest

/-- The same for an item of a list, whose blocks stand behind its bullet. -/
def ListItem.quoteStarts (ordered : Bool) : ListItem → List Bool
  | { isTask, checked := _, taskText := _, blocks } =>
    if !ordered && isTask then [] else Block.quoteStartsInItem false blocks

/-- The same for the blocks of a list item. -/
def Block.quoteStartsInItem (fresh : Bool) : List Block → List Bool
  | [] => []
  | .paragraph inlines :: rest =>
    Block.quoteStartsInItem (lineStart fresh (Inline.renderAll inlines)) rest
  | .list ordered items :: rest =>
    -- A nested list goes without the line feed at its end.
    Block.itemsQuoteStarts ordered items ++ Block.quoteStartsInItem items.isEmpty rest
  | block :: rest =>
    block.quoteStarts fresh ++ Block.quoteStartsInItem (lineStart fresh block.render) rest

end

/-- Of every quotation in a document that shows something, whether its first mark starts a
line. -/
def Document.quoteStarts (document : Document) : List Bool :=
  Block.allQuoteStarts true document.blocks

/-! ### Marks among tokens -/

namespace Markup

theorem quote_notMem_chars (t : Text) : .quote ∉ chars t := by
  simp [chars]

theorem quote_notMem_of_blank {blanks : List Token} (h : ∀ token ∈ blanks, token.isBlank = true) :
    .quote ∉ blanks :=
  fun isIn => Bool.false_ne_true (h .quote isIn)

/-- Trimming takes no mark from the end. -/
theorem exists_trimTokensEnd_append (tokens : List Token) :
    ∃ blanks, trimTokensEnd tokens ++ blanks = tokens ∧ .quote ∉ blanks :=
  ⟨tokens.rtakeWhile Token.isBlank, List.rdropWhile_append_rtakeWhile,
    quote_notMem_of_blank fun _ isIn => List.mem_rtakeWhile_imp isIn⟩

theorem quotesLead_trimTokensEnd {fresh : Bool} {tokens : List Token} :
    QuotesLead fresh (trimTokensEnd tokens) ↔ QuotesLead fresh tokens := by
  obtain ⟨blanks, whole, noMark⟩ := exists_trimTokensEnd_append tokens
  conv_rhs => rw [← whole, quotesLead_append]
  exact (and_iff_left (quotesLead_of_notMem noMark _)).symm

theorem mem_trimTokensEnd_iff {tokens : List Token} :
    .quote ∈ trimTokensEnd tokens ↔ .quote ∈ tokens := by
  obtain ⟨blanks, whole, noMark⟩ := exists_trimTokensEnd_append tokens
  conv_rhs => rw [← whole, List.mem_append]
  exact (or_iff_left noMark).symm

/-- What is not blank stays at the end, and ends no line. -/
theorem startAfter_trimTokensEnd {tokens : List Token} (h : ∃ token ∈ tokens, token.isBlank = false)
    (fresh : Bool) : startAfter fresh (trimTokensEnd tokens) = false := by
  have notNil : trimTokensEnd tokens ≠ [] := by
    intro isNil
    obtain ⟨token, isIn, notBlank⟩ := h
    have blank := List.rdropWhile_eq_nil_iff.mp isNil token isIn
    exact Bool.false_ne_true (notBlank.symm.trans blank)
  have notBlank := List.rdropWhile_last_not Token.isBlank tokens notNil
  rw [← List.dropLast_append_getLast notNil, startAfter_append, startAfter, startAfter]
  exact endsLine_of_not_blank (Bool.eq_false_iff.mpr notBlank)

/-! ### Quoting marks again -/

theorem startAfter_quoteEnd {fresh start : Bool} (h : fresh = true → start = true) :
    startAfter start (chars (quoteEnd fresh)) = true := by
  cases fresh with
  | true => exact h rfl
  | false => rfl

/-- A token that ends no line is put behind the mark of its line. -/
theorem quoted_eq (fresh : Bool) {token : Token} (inLine : token.isLineEnd = false) :
    ∃ other, token.quoted fresh = Token.quoted.lead fresh ++ [other] ∧ other.endsLine = false ∧
      (other = .quote ↔ token = .quote) := by
  cases token with
  | char c =>
    have noEnd : isLineEnd c = false := inLine
    refine ⟨.char c, by simp [Token.quoted, noEnd], ?_, by simp⟩
    rw [Token.endsLine, decide_eq_false_iff_not]
    rintro rfl
    exact absurd noEnd (by decide)
  | code content => exact ⟨.code (quotePayload content), rfl, rfl, by simp⟩
  | pre content => exact ⟨.pre (quotePayload content), rfl, rfl, by simp⟩
  | closeLink url => exact ⟨.closeLink (quotePayload url), rfl, rfl, by simp⟩
  | mark m => exact ⟨.mark m, rfl, rfl, by simp⟩
  | openLink => exact ⟨.openLink, rfl, rfl, by simp⟩
  | quote => exact ⟨.quote, rfl, rfl, by simp⟩

theorem quoted_of_isLineEnd (fresh : Bool) {token : Token} (ends : token.isLineEnd = true) :
    token.quoted fresh = chars (quoteEnd fresh) ∧ token ≠ .quote := by
  cases token with
  | char c => exact ⟨if_pos ends, nofun⟩
  | _ => nomatch ends

/-- Quoted lines are ended. -/
theorem startAfter_quoteTokens (tokens : List Token) {fresh start : Bool}
    (h : fresh = true → start = true) : startAfter start (quoteTokens fresh tokens) = true := by
  induction tokens generalizing fresh start with
  | nil => exact startAfter_quoteEnd h
  | cons token rest ih =>
    rw [quoteTokens, startAfter_append]
    apply ih
    intro ends
    rw [(quoted_of_isLineEnd fresh ends).1]
    exact startAfter_quoteEnd h

/-- A quotation that shows something starts with its mark. -/
theorem quoteTokens_eq (tokens : List Token) :
    quoteTokens true tokens = [] ∨ ∃ rest, quoteTokens true tokens = .quote :: rest := by
  induction tokens with
  | nil => exact .inl rfl
  | cons token rest ih =>
    rw [quoteTokens]
    cases ends : token.isLineEnd with
    | true =>
      rw [(quoted_of_isLineEnd true ends).1]
      exact ih
    | false =>
      obtain ⟨other, quoted, -, -⟩ := quoted_eq true ends
      rw [quoted]
      exact .inr ⟨_, rfl⟩

/-- The marks of a quotation start its lines, if no marks are quoted with it. -/
theorem quotesLead_quoteTokens {tokens : List Token} (none : .quote ∉ tokens)
    {fresh start : Bool} (h : fresh = true → start = true) :
    QuotesLead start (quoteTokens fresh tokens) := by
  induction tokens generalizing fresh start with
  | nil => exact quotesLead_of_notMem (quote_notMem_chars _) _
  | cons token rest ih =>
    obtain ⟨noQuote, others⟩ := not_or.mp (mt List.mem_cons.mpr none)
    rw [quoteTokens, quotesLead_append]
    cases ends : token.isLineEnd with
    | true =>
      rw [(quoted_of_isLineEnd fresh ends).1]
      exact ⟨quotesLead_of_notMem (quote_notMem_chars _) _,
        ih others fun _ => startAfter_quoteEnd h⟩
    | false =>
      obtain ⟨other, quoted, -, same⟩ := quoted_eq fresh ends
      have noMark : other = .quote → False := fun isQuote => noQuote (same.mp isQuote).symm
      refine ⟨?_, ih others fun marked => absurd marked Bool.false_ne_true⟩
      rw [quoted]
      cases fresh with
      | true => exact ⟨fun _ => h rfl, fun isQuote => (noMark isQuote).elim, trivial⟩
      | false => exact ⟨fun isQuote => (noMark isQuote).elim, trivial⟩

/-- A mark that is quoted stands behind another one, or in the middle of a line. -/
theorem not_quotesLead_quoteTokens {tokens : List Token} (some : .quote ∈ tokens)
    {fresh start : Bool} (h : fresh = false → start = false) :
    ¬ QuotesLead start (quoteTokens fresh tokens) := by
  induction tokens generalizing fresh start with
  | nil => exact absurd some List.not_mem_nil
  | cons token rest ih =>
    rw [quoteTokens, quotesLead_append]
    rintro ⟨here, after⟩
    cases ends : token.isLineEnd with
    | true =>
      obtain ⟨quoted, noQuote⟩ := quoted_of_isLineEnd fresh ends
      rw [ends] at after
      obtain isQuote | inRest := List.mem_cons.mp some
      · exact noQuote isQuote.symm
      · exact absurd after (ih inRest fun unmarked => absurd unmarked.symm Bool.false_ne_true)
    | false =>
      obtain ⟨other, quoted, noEnd, same⟩ := quoted_eq fresh ends
      rw [ends, quoted, startAfter_append, startAfter, startAfter, noEnd] at after
      obtain isQuote | inRest := List.mem_cons.mp some
      · rw [quoted, same.mpr isQuote.symm] at here
        cases fresh with
        | true => exact Bool.false_ne_true (here.2.1 rfl)
        | false => exact Bool.false_ne_true ((h rfl).symm.trans (here.1 rfl))
      · exact absurd after (ih inRest fun _ => rfl)

end Markup

/-! ### The marks of a quotation -/

section

variable (blocks : List Block)

theorem Block.quotedTokens_eq :
    Block.quotedTokens blocks = [] ∨ ∃ rest, Block.quotedTokens blocks = .quote :: rest := by
  induction blocks with
  | nil => exact .inl rfl
  | cons block rest ih =>
    rw [quotedTokens]
    obtain empty | ⟨more, starts⟩ := quoteTokens_eq block.tokens
    · rw [empty]
      exact ih
    · rw [starts]
      exact .inr ⟨_, rfl⟩

theorem Block.quotesLead_quotedTokens :
    QuotesLead true (Block.quotedTokens blocks) ↔ .quote ∉ Block.tokensAll blocks := by
  induction blocks with
  | nil => exact iff_of_true trivial List.not_mem_nil
  | cons block rest ih =>
    have first : QuotesLead true (quoteTokens true block.tokens) ↔ .quote ∉ block.tokens := by
      constructor
      · intro lead isIn
        exact absurd lead (not_quotesLead_quoteTokens isIn nofun)
      · intro none
        exact quotesLead_quoteTokens none fun _ => rfl
    rw [quotedTokens, quotesLead_append, startAfter_quoteTokens block.tokens fun _ => rfl, first, ih,
      tokensAll, List.mem_append, not_or]

end

/-! ### Marks and quotations -/

namespace Markup

/-- Whether some tokens have the marks of the quotations of which `starts` tells. -/
structure Marked (fresh : Bool) (tokens : List Token) (starts : List Bool) : Prop where
  some_iff : .quote ∈ tokens ↔ starts ≠ []
  lead_iff : QuotesLead fresh tokens ↔ ∀ start ∈ starts, start = true

namespace Marked

variable {fresh : Bool} {tokens : List Token} {starts : List Bool}

theorem of_notMem (h : .quote ∉ tokens) (fresh : Bool) : Marked fresh tokens [] where
  some_iff := iff_of_false h fun ne => ne rfl
  lead_iff := iff_of_true (quotesLead_of_notMem h fresh) (List.forall_mem_nil _)

theorem append {others : List Token} {more : List Bool} (ha : Marked fresh tokens starts)
    (hb : Marked (startAfter fresh tokens) others more) :
    Marked fresh (tokens ++ others) (starts ++ more) where
  some_iff := by
    rw [List.mem_append, ha.some_iff, hb.some_iff, ne_eq, ne_eq, ne_eq, List.append_eq_nil_iff,
      not_and_or]
  lead_iff := by rw [quotesLead_append, ha.lead_iff, hb.lead_iff, List.forall_mem_append]

theorem append_chars (h : Marked fresh tokens starts) (t : Text) :
    Marked fresh (tokens ++ chars t) starts := by
  have whole := h.append (of_notMem (quote_notMem_chars t) _)
  rw [List.append_nil] at whole
  exact whole

theorem trimmedEnd (h : Marked fresh tokens starts) :
    Marked fresh (trimTokensEnd tokens) starts where
  some_iff := mem_trimTokensEnd_iff.trans h.some_iff
  lead_iff := quotesLead_trimTokensEnd.trans h.lead_iff

end Marked

theorem quote_notMem_mark_between {inner : List Token} (h : .quote ∉ inner) (m : Mark) :
    .quote ∉ .mark m :: inner ++ [.mark m] := by
  simp [h]

theorem quote_notMem_htmlTokens (n : Nat) (t : Text) : .quote ∉ Html.tokensWithin n t := by
  induction n generalizing t with
  | zero => exact quote_notMem_chars _
  | succ n ih =>
    rw [Html.tokensWithin]
    split
    · exact quote_notMem_chars _
    · simp only [List.mem_append, not_or]
      refine ⟨⟨quote_notMem_chars _, ?_⟩, ih _⟩
      split
      · exact quote_notMem_mark_between (ih _) _
      · simp

end Markup

mutual

theorem Inline.quote_notMem_tokens : ∀ inline : Inline, .quote ∉ inline.tokens
  | .literal t => quote_notMem_chars t
  | .emphasis delimiter count children => by
    have inside := Inline.quote_notMem_tokensAll children
    rw [tokens]
    split
    · exact quote_notMem_mark_between inside _
    · exact inside
  | .link url isImage children => by
    simp [tokens, Inline.quote_notMem_tokensAll children, quote_notMem_chars]
  | .codeSpan _ | .lineBreak => by simp [tokens]
  | .htmlTag _ => by simp [tokens]
  | .autolink url => by simp [tokens, quote_notMem_chars]
  | .spoiler content => quote_notMem_mark_between (quote_notMem_chars content) .spoiler
  | .container children => by
    rw [tokens]
    exact Inline.quote_notMem_tokensAll children

theorem Inline.quote_notMem_tokensAll : ∀ inlines : List Inline, .quote ∉ Inline.tokensAll inlines
  | [] => List.not_mem_nil
  | inline :: rest => by
    rw [tokensAll, List.mem_append, not_or]
    exact ⟨Inline.quote_notMem_tokens inline, Inline.quote_notMem_tokensAll rest⟩

end

theorem startAfter_bulletTokens (fresh ordered : Bool) (number : Nat) :
    startAfter fresh (bulletTokens ordered number) = false := by
  cases ordered with
  | true =>
    have split : bulletTokens true number = chars (Text.ofNat number) ++ chars ['.', ' '] := by
      simp [bulletTokens, chars]
    rw [split, startAfter_append]
    rfl
  | false => rfl

/-- The first thing that an item shows is not blank. -/
theorem exists_not_blank_item (ordered : Bool) (indent : Text) (number : Nat) (item : ListItem) :
    ∃ token ∈ item.tokens ordered indent number, token.isBlank = false := by
  obtain ⟨isTask, checked, taskText, blocks⟩ := item
  rw [ListItem.tokens]
  split
  · refine ⟨.char '-', ?_, rfl⟩
    cases checked <;> simp [checkboxTokens, chars]
  · cases ordered with
    | true => exact ⟨.char '.', by simp [bulletTokens, chars], rfl⟩
    | false => exact ⟨.char '•', by simp [bulletTokens, chars], rfl⟩

theorem startAfter_nestedTokens (fresh ordered : Bool) (indent : Text) (items : List ListItem) :
    startAfter fresh (chars ['\n'] ++ trimTokensEnd (Block.itemTokens ordered indent 1 items)) =
      items.isEmpty := by
  rw [startAfter_append]
  cases items with
  | nil => rfl
  | cons item rest =>
    apply startAfter_trimTokensEnd
    obtain ⟨token, isIn, notBlank⟩ := exists_not_blank_item ordered indent 1 item
    exact ⟨token, List.mem_append_left _ isIn, notBlank⟩

theorem quote_notMem_codeTokens (info : Text) (lines : List Text) :
    .quote ∉ codeTokens info lines := by
  simp [codeTokens, chars]

/-- A quotation has its first mark where it starts, and those of what is quoted with it
behind others. -/
theorem Block.marked_quotedTokens {blocks : List Block} {inner : List Bool}
    (h : Block.AllEverywhere Inline.IsNoCodeTag (fun _ => True) blocks)
    (inside : Marked false (Block.tokensAll blocks) inner) (fresh : Bool) :
    Marked fresh (Block.quotedTokens blocks)
      (if (Block.renderQuoted blocks).isEmpty then [] else fresh :: inner.map fun _ => false) := by
  rw [Block.renderQuoted_eq_writeAll blocks h]
  obtain empty | ⟨rest, starts⟩ := Block.quotedTokens_eq blocks
  · rw [empty]
    exact .of_notMem List.not_mem_nil fresh
  · have notEmpty : ((writeAll (Block.quotedTokens blocks)).isEmpty = true) = False := by
      rw [starts]
      simp [Token.write]
    rw [if_neg (by simp [notEmpty])]
    have noneInside : (∀ start ∈ inner.map (fun _ => false), start = true) ↔
        .quote ∉ Block.tokensAll blocks := by
      rw [inside.some_iff, not_not]
      cases inner <;> simp
    constructor
    · rw [starts]
      exact iff_of_true List.mem_cons_self (List.cons_ne_nil _ _)
    · rw [List.forall_mem_cons, noneInside]
      cases fresh with
      | true => exact (Block.quotesLead_quotedTokens blocks).trans (and_iff_right rfl).symm
      | false =>
        rw [starts]
        exact iff_of_false (fun lead => Bool.false_ne_true (lead.1 rfl))
          (fun lead => Bool.false_ne_true lead.1)

mutual

theorem Block.marked (fresh : Bool) :
    ∀ block : Block, block.Everywhere Inline.IsNoCodeTag (fun _ => True) →
      Marked fresh block.tokens (block.quoteStarts fresh)
  | .heading _ inlines, _ => by
    have inside := Inline.quote_notMem_tokensAll inlines
    exact (Marked.of_notMem (quote_notMem_mark_between inside .bold) fresh).append_chars _
  | .paragraph inlines, _ =>
    (Marked.of_notMem (Inline.quote_notMem_tokensAll inlines) fresh).append_chars _
  | .list ordered items, h => (Block.marked_items fresh ordered [] 1 items h.2).append_chars _
  | .quote blocks, h =>
    (Block.marked_quotedTokens h.2 (Block.marked_all false blocks h.2) fresh).append_chars _
  | .codeBlock _ _, _ => .of_notMem (quote_notMem_codeTokens _ _) fresh
  | .table _, _ => .of_notMem (quote_notMem_codeTokens _ _) fresh
  | .rule, _ => .of_notMem (quote_notMem_chars _) fresh
  | .html raw, _ => (Marked.of_notMem (quote_notMem_htmlTokens _ raw) fresh).append_chars _
  | .container blocks, h => Block.marked_all fresh blocks h.2

theorem Block.marked_all (fresh : Bool) :
    ∀ blocks : List Block, Block.AllEverywhere Inline.IsNoCodeTag (fun _ => True) blocks →
      Marked fresh (Block.tokensAll blocks) (Block.allQuoteStarts fresh blocks)
  | [], _ => .of_notMem List.not_mem_nil fresh
  | block :: rest, h => by
    rw [Block.tokensAll, Block.allQuoteStarts, Block.render_eq_writeAll block h.1,
      lineStart_writeAll]
    exact (Block.marked fresh block h.1).append (Block.marked_all _ rest h.2)

theorem Block.marked_items (fresh ordered : Bool) (indent : Text) (number : Nat) :
    ∀ items : List ListItem, Block.ItemsEverywhere Inline.IsNoCodeTag (fun _ => True) items →
      Marked fresh (Block.itemTokens ordered indent number items)
        (Block.itemsQuoteStarts ordered items)
  | [], _ => .of_notMem List.not_mem_nil fresh
  | item :: rest, h =>
    (ListItem.marked fresh ordered indent number item h.1).append
      (Block.marked_items _ ordered indent (number + 1) rest h.2)

theorem ListItem.marked (fresh ordered : Bool) (indent : Text) (number : Nat) :
    ∀ item : ListItem, item.Everywhere Inline.IsNoCodeTag (fun _ => True) →
      Marked fresh (item.tokens ordered indent number) (item.quoteStarts ordered)
  | { isTask, checked, taskText, blocks }, h => by
    have inside := Block.marked_inItem false indent blocks h
    rw [ListItem.tokens, ListItem.quoteStarts]
    split
    · have checkbox : .quote ∉ checkboxTokens checked := quote_notMem_chars _
      apply Marked.of_notMem
      simp [checkbox, quote_notMem_chars]
    · apply Marked.append_chars
      have bullet : .quote ∉ chars indent ++ bulletTokens ordered number := by
        simp [bulletTokens, quote_notMem_chars]
      apply (Marked.of_notMem bullet fresh).append
      rw [startAfter_append, startAfter_bulletTokens]
      exact inside

theorem Block.marked_inItem (fresh : Bool) (indent : Text) :
    ∀ blocks : List Block, Block.AllEverywhere Inline.IsNoCodeTag (fun _ => True) blocks →
      Marked fresh (Block.tokensInItem indent blocks) (Block.quoteStartsInItem fresh blocks)
  | [], _ => .of_notMem List.not_mem_nil fresh
  | .paragraph inlines :: rest, h => by
    rw [Block.tokensInItem, Block.quoteStartsInItem, Inline.renderAll_eq_writeAll inlines h.1.2,
      lineStart_writeAll]
    exact (Marked.of_notMem (Inline.quote_notMem_tokensAll inlines) fresh).append
      (Block.marked_inItem _ indent rest h.2)
  | .list ordered items :: rest, h => by
    have nested := Block.marked_items true ordered (indent ++ [' ', ' ']) 1 items h.1.2
    rw [Block.tokensInItem, Block.quoteStartsInItem]
    apply Marked.append
    · exact (Marked.of_notMem (quote_notMem_chars ['\n']) fresh).append nested.trimmedEnd
    · rw [startAfter_nestedTokens]
      exact Block.marked_inItem _ indent rest h.2
  | (.heading _ _) :: rest, h | (.quote _) :: rest, h
  | (.codeBlock _ _) :: rest, h | (.table _) :: rest, h | .rule :: rest, h
  | (.html _) :: rest, h | (.container _) :: rest, h => by
    rw [Block.tokensInItem, Block.quoteStartsInItem, Block.render_eq_writeAll _ h.1,
      lineStart_writeAll]
    · exact (Block.marked fresh _ h.1).append (Block.marked_inItem _ indent rest h.2)
    all_goals simp

end

/-! ### Trimmed documents -/

namespace Markup

/-- Whether a line starts at the first mark, if nothing but blanks stands before it. -/
def FirstLeads (tokens : List Token) : Prop :=
  ∀ blanks rest, tokens = blanks ++ .quote :: rest → (∀ token ∈ blanks, token.isBlank = true) →
    startAfter true blanks = true

namespace FirstLeads

variable {tokens : List Token}

theorem of_notMem (h : .quote ∉ tokens) : FirstLeads tokens := by
  rintro blanks rest rfl
  exact absurd (List.mem_append_right blanks List.mem_cons_self) h

theorem cons {token : Token} (notBlank : token.isBlank = false) : FirstLeads (token :: tokens) := by
  intro blanks rest same areBlank
  cases blanks with
  | nil => rfl
  | cons blank blanks =>
    obtain ⟨rfl, -⟩ := List.cons.inj same
    exact absurd (areBlank token List.mem_cons_self) (by simp [notBlank])

theorem append {others : List Token} (ha : FirstLeads tokens)
    (ends : startAfter true tokens = true) (hb : FirstLeads others) :
    FirstLeads (tokens ++ others) := by
  intro blanks rest same areBlank
  obtain ⟨more, rfl, inOthers⟩ | ⟨more, rfl, mark⟩ := List.append_eq_append_iff.mp same
  · rw [startAfter_append, ends]
    exact hb more rest inOthers (List.forall_mem_append.mp areBlank).2
  · cases more with
    | nil => rwa [List.append_nil] at ends
    | cons token more =>
      obtain ⟨rfl, -⟩ := List.cons.inj mark
      exact ha blanks more rfl areBlank

end FirstLeads

theorem quotesLead_trimTokens {tokens : List Token} (h : FirstLeads tokens) :
    QuotesLead true (trimTokens tokens) ↔ QuotesLead true tokens := by
  rw [trimTokens, quotesLead_trimTokensEnd]
  have areBlank : ∀ token ∈ tokens.takeWhile Token.isBlank, token.isBlank = true :=
    fun token isIn => List.mem_takeWhile_imp isIn
  have blanks := quotesLead_of_notMem (quote_notMem_of_blank areBlank) true
  have whole : tokens.takeWhile Token.isBlank ++ tokens.dropWhile Token.isBlank = tokens :=
    List.takeWhile_append_dropWhile
  conv_rhs => rw [← whole, quotesLead_append, and_iff_right blanks]
  cases shown : tokens.dropWhile Token.isBlank with
  | nil => exact Iff.rfl
  | cons token rest =>
    rw [shown] at whole
    apply and_congr_left'
    apply forall_congr'
    rintro rfl
    rw [h _ rest whole.symm areBlank]

end Markup

/-- An item of a list that is not nested starts with something that is not blank. -/
theorem firstLeads_itemTokens (ordered : Bool) (items : List ListItem) :
    FirstLeads (Block.itemTokens ordered [] 1 items ++ chars ['\n']) := by
  cases items with
  | nil => exact .of_notMem (quote_notMem_chars _)
  | cons item rest =>
    obtain ⟨isTask, checked, taskText, blocks⟩ := item
    cases ordered with
    | true => exact .cons rfl
    | false =>
      cases isTask with
      | true =>
        cases checked with
        | true => exact .cons rfl
        | false => exact .cons rfl
      | false => exact .cons rfl

mutual

/-- A block ends its last line. -/
theorem Block.ends_line :
    ∀ block : Block, startAfter true block.tokens = true ∧ FirstLeads block.tokens
  | .heading _ inlines => by
    constructor
    · rw [Block.tokens, startAfter_append]
      rfl
    · exact .cons rfl
  | .paragraph inlines => by
    constructor
    · rw [Block.tokens, startAfter_append]
      rfl
    · apply FirstLeads.of_notMem
      simp [Block.tokens, Inline.quote_notMem_tokensAll inlines, quote_notMem_chars]
  | .list ordered items => by
    constructor
    · rw [Block.tokens, startAfter_append]
      rfl
    · exact firstLeads_itemTokens ordered items
  | .quote blocks => by
    constructor
    · rw [Block.tokens, startAfter_append]
      rfl
    · rw [Block.tokens]
      obtain empty | ⟨rest, starts⟩ := Block.quotedTokens_eq blocks
      · rw [empty]
        exact .of_notMem (quote_notMem_chars _)
      · rw [starts]
        exact .cons rfl
  | .codeBlock _ _ => ⟨rfl, .cons rfl⟩
  | .table _ => ⟨rfl, .cons rfl⟩
  | .rule => ⟨rfl, .of_notMem (quote_notMem_chars _)⟩
  | .html raw => by
    constructor
    · rw [Block.tokens, startAfter_append]
      rfl
    · apply FirstLeads.of_notMem
      simp [Block.tokens, Html.tokens, quote_notMem_htmlTokens, quote_notMem_chars]
  | .container blocks => by
    rw [Block.tokens]
    exact Block.ends_line_all blocks

theorem Block.ends_line_all :
    ∀ blocks : List Block,
      startAfter true (Block.tokensAll blocks) = true ∧ FirstLeads (Block.tokensAll blocks)
  | [] => ⟨rfl, .of_notMem List.not_mem_nil⟩
  | block :: rest => by
    obtain ⟨ends, leads⟩ := Block.ends_line block
    obtain ⟨endsRest, leadsRest⟩ := Block.ends_line_all rest
    rw [Block.tokensAll]
    exact ⟨by rw [startAfter_append, ends, endsRest], leads.append ends leadsRest⟩

end

/-! ### Rendered documents -/

/-- The marks of quoted lines stand where lines start, in the rendered text of a document
without raw HTML and empty code, exactly if every quotation that shows something starts a
line: if it is in no other quotation, and in an item of a list only behind text that ends
with a line feed. -/
theorem Document.quoteMarksLead_iff (document : Document)
    (h : document.Everywhere (fun i => ¬ i.IsHtml ∧ i.IsNoEmptyCode) (¬ ·.IsHtml)) :
    QuoteMarksLead document.render ↔ ∀ start ∈ document.quoteStarts, start = true := by
  have noCodeTag : document.Everywhere Inline.IsNoCodeTag fun _ => True :=
    Block.AllEverywhere.mono (fun _ hi => Inline.isNoCodeTag_of_not_isHtml hi.1)
      (fun _ _ => trivial) document.blocks h
  have readable := (Document.read_render h).2.readable
  have marked := Block.marked_all true document.blocks noCodeTag
  rw [Document.render_eq_writeAll noCodeTag, quoteMarksLead_writeAll readable, Document.tokens,
    quotesLead_trimTokens (Block.ends_line_all document.blocks).2, marked.lead_iff,
    Document.quoteStarts]

/-- A quotation behind a group that ends with a line break, in an item of a nested list,
with `>` in its text, in its code and in a URL; and one that shows nothing in another. -/
theorem Document.quoteMarksLead_behind_line_break :
    QuoteMarksLead (Document.render ⟨[
      .list true [⟨false, false, [], [.list false [⟨false, false, [], [
        .paragraph [.literal ['a', '>'], .lineBreak],
        .quote [.paragraph [.literal ['\\', '>'], .codeSpan ['>'], .link ['>'] false []],
          .quote [.container []]]]⟩]]⟩]]⟩) :=
  (Document.quoteMarksLead_iff _ (by
    simp [Document.Everywhere, Block.AllEverywhere, Block.Everywhere, Block.ItemsEverywhere,
      ListItem.Everywhere, Inline.AllEverywhere, Inline.Everywhere, Inline.IsHtml,
      Inline.IsNoEmptyCode, Block.IsHtml])).mpr (by decide)

/-- A quotation that an item starts with stands behind its bullet. -/
theorem Document.quote_mark_behind_bullet :
    let document : Document := ⟨[
      .list false [⟨false, false, [], [.quote [.paragraph [.literal ['q']]]]⟩]]⟩
    document.Everywhere (fun i => ¬ i.IsHtml ∧ i.IsNoEmptyCode) (¬ ·.IsHtml) ∧
      ¬ QuoteMarksLead document.render := by
  intro document
  constructor
  · simp [document, Document.Everywhere, Block.AllEverywhere, Block.Everywhere,
      Block.ItemsEverywhere, ListItem.Everywhere, Inline.AllEverywhere, Inline.Everywhere,
      Inline.IsHtml, Inline.IsNoEmptyCode, Block.IsHtml]
  · intro lead
    have rendered : document.render = ['•', ' '] ++ '>' :: ['q'] := by decide
    have inProse : (Markup.read true .prose ['•', ' ']).mode = .prose := by
      simp [Markup.read, Reading.push, Escape.reserved]
    exact absurd (lead _ _ rendered (by decide) inProse) (by decide)

end TelegramMarkdown
