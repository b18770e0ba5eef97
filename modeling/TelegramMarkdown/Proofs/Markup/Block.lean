import TelegramMarkdown.Proofs.Markup.Html
import TelegramMarkdown.Proofs.Markup.Nesting

/-!
Blocks and documents as tokens of MarkdownV2.

`Block.tokens` goes through a block like rendering does, but puts tokens together
instead of text: quoting and trimming are done on tokens. Rendering writes these
tokens (`Document.render_eq_writeAll`). From this follows that the markup of a
rendered document is safe (`render_markup_safe`).
-/

namespace TelegramMarkdown

open Markup

/-! ### The tokens of blocks -/

/-- Lines of code between fences. -/
def codeTokens (info : Text) (lines : List Text) : List Token :=
  .pre (info ++ '\n' :: lines.flatMap (· ++ ['\n'])) :: chars ['\n', '\n']

/-- What a list item starts with. -/
def bulletTokens (ordered : Bool) (number : Nat) : List Token :=
  chars (if ordered then Text.ofNat number ++ ". ".toList else "• ".toList)

/-- What a task starts with. -/
def checkboxTokens (checked : Bool) : List Token :=
  chars (if checked then "- [x] ".toList else "- [ ] ".toList)

mutual

/-- The tokens of a block. -/
def Block.tokens : Block → List Token
  | .heading _ inlines =>
    .mark .bold :: Inline.tokensAll inlines ++ [.mark .bold] ++ chars ['\n', '\n']
  | .paragraph inlines => Inline.tokensAll inlines ++ chars ['\n', '\n']
  | .list ordered items => Block.itemTokens ordered [] 1 items ++ chars ['\n']
  | .quote blocks => Block.quotedTokens blocks ++ chars ['\n']
  | .codeBlock info lines => codeTokens (info.getD []) lines
  | .table rows => codeTokens [] (rows.map rowText)
  | .rule => chars "\n---\n\n".toList
  | .html raw => Html.tokens raw ++ chars ['\n', '\n']
  | .container blocks => Block.tokensAll blocks

/-- The tokens of blocks, one after the other. -/
def Block.tokensAll : List Block → List Token
  | [] => []
  | block :: rest => block.tokens ++ Block.tokensAll rest

/-- The tokens of the blocks of a quotation. -/
def Block.quotedTokens : List Block → List Token
  | [] => []
  | block :: rest => quoteTokens true block.tokens ++ Block.quotedTokens rest

/-- The tokens of the items of a list, from a given number on. -/
def Block.itemTokens (ordered : Bool) (indent : Text) (number : Nat) :
    List ListItem → List Token
  | [] => []
  | item :: rest =>
    item.tokens ordered indent number ++ Block.itemTokens ordered indent (number + 1) rest

/-- The tokens of an item of a list. -/
def ListItem.tokens (ordered : Bool) (indent : Text) (number : Nat) : ListItem → List Token
  | { isTask, checked, taskText, blocks } =>
    if !ordered && isTask then
      chars indent ++ checkboxTokens checked ++ chars taskText ++ chars ['\n']
    else
      chars indent ++ bulletTokens ordered number ++ Block.tokensInItem indent blocks ++
        chars ['\n']

/-- The tokens of the blocks of a list item. -/
def Block.tokensInItem (indent : Text) : List Block → List Token
  | [] => []
  | .paragraph inlines :: rest => Inline.tokensAll inlines ++ Block.tokensInItem indent rest
  | .list ordered items :: rest =>
    chars ['\n'] ++ trimTokensEnd (Block.itemTokens ordered (indent ++ [' ', ' ']) 1 items) ++
      Block.tokensInItem indent rest
  | block :: rest => block.tokens ++ Block.tokensInItem indent rest

end

/-- The tokens of a document. -/
def Document.tokens (document : Document) : List Token :=
  trimTokens (Block.tokensAll document.blocks)

/-! ### Rendering writes the tokens -/

@[simp] theorem prose_newline : Escape.prose ['\n'] = ['\n'] := by decide

@[simp] theorem prose_newlines : Escape.prose ['\n', '\n'] = ['\n', '\n'] := by decide

theorem prose_eq_self {t : Text} (h : ∀ c ∈ t, ¬ Escape.IsMarkup c) : Escape.prose t = t := by
  induction t with
  | nil => rfl
  | cons c cs ih =>
    obtain ⟨hc, hcs⟩ := List.forall_mem_cons.mp h
    rw [Escape.prose_cons, if_neg hc, ih hcs]
    rfl

theorem prose_ofNat (n : Nat) : Escape.prose (Text.ofNat n) = Text.ofNat n := by
  apply prose_eq_self
  intro c mem
  have digit := Text.isDigit_of_mem_ofNat mem
  intro isMarkup
  rw [isMarkup.eq_false (p := Char.isDigit) (by decide) (by decide)] at digit
  exact Bool.false_ne_true digit

theorem bullet_eq_writeAll (ordered : Bool) (number : Nat) :
    bullet ordered number = writeAll (bulletTokens ordered number) := by
  cases ordered with
  | true =>
    have point : Escape.prose ". ".toList = "\\. ".toList := by decide
    simp only [bullet, bulletTokens, if_true, writeAll_chars, Escape.prose_append, prose_ofNat,
      point]
  | false =>
    have dot : Escape.prose "• ".toList = "• ".toList := by decide
    rw [bulletTokens, if_neg Bool.false_ne_true, writeAll_chars, dot]
    rfl

theorem checkbox_eq_writeAll (checked : Bool) :
    "\\- ".toList ++ checkbox checked = writeAll (checkboxTokens checked) := by
  rw [checkboxTokens, writeAll_chars]
  cases checked <;> decide

theorem renderCode_eq_writeAll (info : Text) (lines : List Text) :
    renderCode info lines = writeAll (codeTokens info lines) := by
  have newline : Escape.code ['\n'] = ['\n'] := by decide
  have content : Escape.code (info ++ '\n' :: lines.flatMap (· ++ ['\n'])) =
      Escape.code info ++ ['\n'] ++ Escape.code (lines.flatMap (· ++ ['\n'])) := by
    rw [← List.singleton_append, Escape.code_append, Escape.code_append, newline,
      List.append_assoc]
  rw [renderCode, codeTokens, Escape.code_flatMap_lines, writeAll_cons, writeAll_chars,
    prose_newlines, Token.write, content]
  simp

mutual

theorem Block.render_eq_writeAll :
    ∀ block : Block, block.Everywhere Inline.IsNoCodeTag (fun _ => True) →
      block.render = writeAll block.tokens
  | .heading _ inlines, h => by
    rw [Block.render, Block.tokens, Inline.renderAll_eq_writeAll inlines h.2]
    simp [Token.write, Mark.text]
  | .paragraph inlines, h => by
    rw [Block.render, Block.tokens, Inline.renderAll_eq_writeAll inlines h.2]
    simp
  | .list ordered items, h => by
    rw [Block.render, Block.tokens, Block.renderItems_eq_writeAll ordered rfl 1 items h.2]
    simp
  | .quote blocks, h => by
    rw [Block.render, Block.tokens, Block.renderQuoted_eq_writeAll blocks h.2]
    simp
  | .codeBlock info lines, _ => by
    rw [Block.render, Block.tokens, renderCode_eq_writeAll]
  | .table rows, _ => by
    rw [Block.render, Block.tokens, renderCode_eq_writeAll]
  | .rule, _ => by
    rw [Block.render, Block.tokens, writeAll_chars]
    exact (by decide : ruleText = Escape.prose "\n---\n\n".toList)
  | .html raw, _ => by
    rw [Block.render, Block.tokens, Html.render_eq_writeAll]
    simp
  | .container blocks, h => by
    rw [Block.render, Block.tokens]
    exact Block.renderAll_eq_writeAll blocks h.2

theorem Block.renderAll_eq_writeAll :
    ∀ blocks : List Block, Block.AllEverywhere Inline.IsNoCodeTag (fun _ => True) blocks →
      Block.renderAll blocks = writeAll (Block.tokensAll blocks)
  | [], _ => rfl
  | block :: rest, h => by
    rw [Block.renderAll, Block.tokensAll, writeAll_append, Block.render_eq_writeAll block h.1,
      Block.renderAll_eq_writeAll rest h.2]

theorem Block.renderQuoted_eq_writeAll :
    ∀ blocks : List Block, Block.AllEverywhere Inline.IsNoCodeTag (fun _ => True) blocks →
      Block.renderQuoted blocks = writeAll (Block.quotedTokens blocks)
  | [], _ => rfl
  | block :: rest, h => by
    rw [Block.renderQuoted, Block.quotedTokens, writeAll_append,
      Block.render_eq_writeAll block h.1, quoteLines_writeAll,
      Block.renderQuoted_eq_writeAll rest h.2]

theorem Block.renderItems_eq_writeAll (ordered : Bool) {indent : Text}
    (spaces : Escape.prose indent = indent) (number : Nat) :
    ∀ items : List ListItem, Block.ItemsEverywhere Inline.IsNoCodeTag (fun _ => True) items →
      Block.renderItems ordered indent number items =
        writeAll (Block.itemTokens ordered indent number items)
  | [], _ => rfl
  | item :: rest, h => by
    rw [Block.renderItems, Block.itemTokens, writeAll_append,
      ListItem.render_eq_writeAll ordered spaces number item h.1,
      Block.renderItems_eq_writeAll ordered spaces (number + 1) rest h.2]

theorem ListItem.render_eq_writeAll (ordered : Bool) {indent : Text}
    (spaces : Escape.prose indent = indent) (number : Nat) :
    ∀ item : ListItem, item.Everywhere Inline.IsNoCodeTag (fun _ => True) →
      item.render ordered indent number = writeAll (item.tokens ordered indent number)
  | { isTask, checked, taskText, blocks }, h => by
    have task := checkbox_eq_writeAll checked
    have bulleted := bullet_eq_writeAll ordered number
    have inside := Block.renderInItem_eq_writeAll spaces blocks h
    rw [ListItem.render, ListItem.tokens]
    split
    · simp only [writeAll_append, writeAll_chars, spaces, prose_newline, ← task, List.append_assoc]
    · simp only [writeAll_append, writeAll_chars, spaces, prose_newline, ← bulleted, inside,
        List.append_assoc]

theorem Block.renderInItem_eq_writeAll {indent : Text} (spaces : Escape.prose indent = indent) :
    ∀ blocks : List Block, Block.AllEverywhere Inline.IsNoCodeTag (fun _ => True) blocks →
      Block.renderInItem indent blocks = writeAll (Block.tokensInItem indent blocks)
  | [], _ => rfl
  | .paragraph inlines :: rest, h => by
    rw [Block.renderInItem, Block.tokensInItem, writeAll_append,
      Inline.renderAll_eq_writeAll inlines h.1.2, Block.renderInItem_eq_writeAll spaces rest h.2]
  | .list ordered items :: rest, h => by
    have deeper : Escape.prose (indent ++ [' ', ' ']) = indent ++ [' ', ' '] := by
      rw [Escape.prose_append, spaces]
      rfl
    rw [Block.renderInItem, Block.tokensInItem,
      Block.renderItems_eq_writeAll ordered deeper 1 items h.1.2, trimEnd_writeAll,
      Block.renderInItem_eq_writeAll spaces rest h.2]
    simp
  | (.heading _ _) :: rest, h | (.quote _) :: rest, h
  | (.codeBlock _ _) :: rest, h | (.table _) :: rest, h | .rule :: rest, h
  | (.html _) :: rest, h | (.container _) :: rest, h => by
    rw [Block.renderInItem, Block.tokensInItem, writeAll_append,
      Block.render_eq_writeAll _ h.1, Block.renderInItem_eq_writeAll spaces rest h.2]
    all_goals simp

end

/-- Rendering a document writes its tokens. -/
theorem Document.render_eq_writeAll {document : Document}
    (h : document.Everywhere Inline.IsNoCodeTag fun _ => True) :
    document.render = writeAll document.tokens := by
  rw [Document.render, Document.tokens, Block.renderAll_eq_writeAll _ h, trim_writeAll]

/-! ### The tokens are sound -/

theorem codeTokens_sound (info : Text) (lines : List Text) : Sound (codeTokens info lines) :=
  (Sound.pre _).append (Sound.chars _)

mutual

theorem Block.tokens_sound :
    ∀ block : Block, block.Everywhere (fun i => ¬ i.IsHtml ∧ i.IsNoEmptyCode) (¬ ·.IsHtml) →
      Sound block.tokens
  | .heading _ _, h =>
    ((Inline.tokensAll_sound h.2).span .bold).append (Sound.chars _)
  | .paragraph _, h => (Inline.tokensAll_sound h.2).append (Sound.chars _)
  | .list ordered items, h =>
    (Block.itemTokens_sound ordered [] 1 items h.2).append (Sound.chars _)
  | .quote blocks, h => (Block.quotedTokens_sound blocks h.2).append (Sound.chars _)
  | .codeBlock _ _, _ => codeTokens_sound _ _
  | .table _, _ => codeTokens_sound _ _
  | .rule, _ => Sound.chars _
  | .html _, h => absurd trivial h
  | .container blocks, h => Block.tokensAll_sound blocks h.2

theorem Block.tokensAll_sound :
    ∀ blocks : List Block,
      Block.AllEverywhere (fun i => ¬ i.IsHtml ∧ i.IsNoEmptyCode) (¬ ·.IsHtml) blocks →
      Sound (Block.tokensAll blocks)
  | [], _ => Sound.chars []
  | block :: rest, h => (Block.tokens_sound block h.1).append (Block.tokensAll_sound rest h.2)

theorem Block.quotedTokens_sound :
    ∀ blocks : List Block,
      Block.AllEverywhere (fun i => ¬ i.IsHtml ∧ i.IsNoEmptyCode) (¬ ·.IsHtml) blocks →
      Sound (Block.quotedTokens blocks)
  | [], _ => Sound.chars []
  | block :: rest, h =>
    ((Block.tokens_sound block h.1).quoteTokens true).append (Block.quotedTokens_sound rest h.2)

theorem Block.itemTokens_sound (ordered : Bool) (indent : Text) (number : Nat) :
    ∀ items : List ListItem,
      Block.ItemsEverywhere (fun i => ¬ i.IsHtml ∧ i.IsNoEmptyCode) (¬ ·.IsHtml) items →
      Sound (Block.itemTokens ordered indent number items)
  | [], _ => Sound.chars []
  | item :: rest, h =>
    (ListItem.tokens_sound ordered indent number item h.1).append
      (Block.itemTokens_sound ordered indent (number + 1) rest h.2)

theorem ListItem.tokens_sound (ordered : Bool) (indent : Text) (number : Nat) :
    ∀ item : ListItem,
      item.Everywhere (fun i => ¬ i.IsHtml ∧ i.IsNoEmptyCode) (¬ ·.IsHtml) →
      Sound (item.tokens ordered indent number)
  | { isTask, checked, taskText, blocks }, h => by
    have inside := Block.tokensInItem_sound indent blocks h
    rw [ListItem.tokens]
    split
    · exact (((Sound.chars _).append (Sound.chars _)).append (Sound.chars _)).append
        (Sound.chars _)
    · exact (((Sound.chars _).append (Sound.chars _)).append inside).append (Sound.chars _)

theorem Block.tokensInItem_sound (indent : Text) :
    ∀ blocks : List Block,
      Block.AllEverywhere (fun i => ¬ i.IsHtml ∧ i.IsNoEmptyCode) (¬ ·.IsHtml) blocks →
      Sound (Block.tokensInItem indent blocks)
  | [], _ => Sound.chars []
  | .paragraph _ :: rest, h =>
    (Inline.tokensAll_sound h.1.2).append (Block.tokensInItem_sound indent rest h.2)
  | .list ordered items :: rest, h =>
    ((Sound.chars _).append
      (Block.itemTokens_sound ordered (indent ++ [' ', ' ']) 1 items h.1.2).trimTokensEnd).append
      (Block.tokensInItem_sound indent rest h.2)
  | .heading _ _ :: rest, h | .quote _ :: rest, h | .codeBlock _ _ :: rest, h
  | .table _ :: rest, h | .rule :: rest, h | .html _ :: rest, h | .container _ :: rest, h =>
    (Block.tokens_sound _ h.1).append (Block.tokensInItem_sound indent rest h.2)

end

/-! ### Rendered documents -/

/-- A reader with fences gets the tokens of a document back from its rendered
text. -/
theorem Document.read_render {document : Document}
    (h : document.Everywhere (fun i => ¬ i.IsHtml ∧ i.IsNoEmptyCode) (¬ ·.IsHtml)) :
    read true .prose document.render = ⟨document.tokens, [], .prose, false⟩ ∧
      Sound document.tokens := by
  have sound : Sound document.tokens := (Block.tokensAll_sound document.blocks h).trimTokens
  have noCodeTag : document.Everywhere Inline.IsNoCodeTag fun _ => True :=
    Block.AllEverywhere.mono (fun _ hi => Inline.isNoCodeTag_of_not_isHtml hi.1)
      (fun _ _ => trivial) document.blocks h
  rw [Document.render_eq_writeAll noCodeTag, read_writeAll true _ sound.readable]
  exact ⟨rfl, sound⟩

/-- The markup of a rendered document is safe. Without raw HTML and empty code in the
document, a reader that goes through the text from left to right ends in prose, with
no escape open; it meets no reserved character in prose that is neither escaped nor
part of a marker; every marker occurs an even number of times; and markers and the
ends of links are well nested. -/
theorem render_markup_safe (document : Document)
    (h : document.Everywhere (fun i => ¬ i.IsHtml ∧ i.IsNoEmptyCode) (¬ ·.IsHtml)) :
    let reading := read true .prose document.render
    reading.mode = .prose ∧ reading.dangling = false ∧ reading.strays = [] ∧
      (∀ m : Mark, Even (reading.tokens.count (.mark m))) ∧
      WellNested (signs reading.tokens) := by
  obtain ⟨same, sound⟩ := Document.read_render h
  intro reading
  have tokens : reading = ⟨document.tokens, [], .prose, false⟩ := same
  refine ⟨by rw [tokens], by rw [tokens], by rw [tokens], ?_, by rw [tokens]; exact sound.nested⟩
  intro m
  rw [tokens, ← count_mark_signs]
  exact sound.nested.even_count m

/-- Code, a URL and a label that are cut into lines by a quotation, in a nested list
with nothing after them. -/
theorem render_markup_safe_cut_in_quote :
    let document : Document := ⟨[.quote [.list false [⟨false, false, [], [.list true
      [⟨false, false, [], [.paragraph [
        .link ['\n', ')'] false [.literal ['a', '\r', '#'], .lineBreak],
        .emphasis '_' 2 [.emphasis '_' 1 [.codeSpan ['\n', '`']]]]]⟩]]⟩]]]⟩
    let reading := read true .prose document.render
    reading.mode = .prose ∧ reading.dangling = false ∧ reading.strays = [] ∧
      (∀ m : Mark, Even (reading.tokens.count (.mark m))) ∧
      WellNested (signs reading.tokens) :=
  render_markup_safe _ (by
    simp [Document.Everywhere, Block.AllEverywhere, Block.Everywhere, Block.ItemsEverywhere,
      ListItem.Everywhere, Inline.AllEverywhere, Inline.Everywhere, Inline.IsHtml,
      Inline.IsNoEmptyCode, Block.IsHtml])

end TelegramMarkdown
