import TelegramMarkdown.Proofs.CodeBlock
import TelegramMarkdown.Proofs.Markup.Inline

/-!
What a reader sees of rendered inlines, and of a table.

A cell of a table shows the text of its inlines without any markup. For literals, code, emphasis
and links that is what a reader of the rendered inlines is left with when the markers and the
URLs are taken away (`Inline.visible_renderAll`). So a table shows, row by row, what its cells
would show as prose (`Block.table_shows_prose`).
-/

namespace TelegramMarkdown

open Markup

/-- What is seen of a token: its characters, but neither markers nor URLs. -/
def Markup.Token.seen : Token → Text
  | .char c => [c]
  | .code content | .pre content => content
  | .mark _ | .openLink | .closeLink _ | .quote => []

/-- What is seen of a text, to a reader that takes a backtick for the start of code. -/
def Markup.visible (t : Text) : Text :=
  (read false .prose t).tokens.flatMap Token.seen

/-- Whether an inline shows nothing but its text: a literal, code, emphasis, or a link that has a
label of its own if it is an image. -/
def Inline.IsTextual : Inline → Prop
  | .literal _ | .codeSpan _ | .emphasis _ _ _ => True
  | .link _ isImage children => isImage = true → children ≠ []
  | .lineBreak | .htmlTag _ | .autolink _ | .spoiler _ | .container _ => False

/-- A table whose cells are single paragraphs. -/
def Block.tableOf (rows : List (List (List Inline))) : Block :=
  .table (rows.map fun row => row.map fun inlines => [.paragraph inlines])

theorem Inline.IsTextual.isNoCodeTag {inline : Inline} (h : inline.IsTextual) :
    inline.IsNoCodeTag := by
  cases inline with
  | htmlTag _ => exact h.elim
  | _ => trivial

/-! ### Inlines -/

theorem seen_chars (t : Text) : (chars t).flatMap Token.seen = t := by
  induction t with
  | nil => rfl
  | cons c cs ih => exact congrArg (c :: ·) ih

mutual

/-- Markers and the ends of links show nothing, so of an inline its text is seen. -/
theorem Inline.seen_tokens :
    ∀ inline : Inline, inline.Everywhere IsTextual → inline.tokens.flatMap Token.seen = inline.plain
  | .literal text, _ => seen_chars text
  | .codeSpan content, _ => List.append_nil content
  | .emphasis delimiter count children, h => by
    have ih := Inline.seen_tokensAll children h.2
    rw [Inline.tokens, Inline.plain]
    cases Mark.ofDelimiter? delimiter count with
    | none => exact ih
    | some m => simp [Token.seen, ih]
  | .link url isImage children, h => by
    have ih := Inline.seen_tokensAll children h.2
    have noLabel : (isImage && children.isEmpty) = false := by
      cases isImage with
      | false => rfl
      | true => simpa using h.1 rfl
    rw [Inline.tokens, Inline.plain, noLabel]
    simp [Token.seen, chars, ih]

/-- The same for inlines. -/
theorem Inline.seen_tokensAll :
    ∀ inlines : List Inline, Inline.AllEverywhere IsTextual inlines →
      (Inline.tokensAll inlines).flatMap Token.seen = Inline.plainAll inlines
  | [], _ => rfl
  | inline :: rest, h => by
    rw [Inline.tokensAll, Inline.plainAll, List.flatMap_append, Inline.seen_tokens inline h.1,
      Inline.seen_tokensAll rest h.2]

end

/-- Of rendered inlines their plain text is seen. -/
theorem Inline.visible_renderAll {inlines : List Inline}
    (h : Inline.AllEverywhere IsTextual inlines) :
    visible (Inline.renderAll inlines) = Inline.plainAll inlines := by
  have noCodeTag := Inline.AllEverywhere.mono (fun _ => IsTextual.isNoCodeTag) inlines h
  rw [visible, Inline.read_renderAll noCodeTag, Inline.seen_tokensAll inlines h]

/-! ### Tables -/

theorem rowText_paragraphs (row : List (List Inline)) :
    rowText (row.map fun inlines => [.paragraph inlines]) =
      Text.join " | ".toList (row.map Inline.plainAll) := by
  have cell (inlines : List Inline) : cellText [.paragraph inlines] = Inline.plainAll inlines :=
    List.append_nil _
  rw [rowText, List.map_map]
  congr 1
  apply List.map_congr_left
  intro inlines _
  exact cell inlines

/-- A reader of a table gets its rows back, each on a line, with the plain text of the cells. -/
theorem Block.readFenced?_tableOf (rows : List (List (List Inline))) (after : Text) :
    readFenced? ((tableOf rows).render ++ after) =
      some ([], rows.flatMap (fun row =>
        Text.join " | ".toList (row.map Inline.plainAll) ++ ['\n']), "\n\n".toList ++ after) := by
  rw [tableOf, Block.render, readFenced?_renderCode List.not_mem_nil, List.map_map,
    List.flatMap_map]
  simp only [Function.comp_apply, rowText_paragraphs]

/-- Cells show what prose would show. The plain text of literals, code, emphasis and links, in
each other to any depth, is what is seen of them when they are rendered, and a table of such
inlines is read back as its rows, each with what is seen of its cells and a line feed behind it,
whatever comes after the table. -/
theorem Block.table_shows_prose :
    (∀ inlines, Inline.AllEverywhere Inline.IsTextual inlines →
      Inline.plainAll inlines = visible (Inline.renderAll inlines)) ∧
    ∀ rows : List (List (List Inline)),
      (∀ row ∈ rows, ∀ inlines ∈ row, Inline.AllEverywhere Inline.IsTextual inlines) →
      ∀ after, readFenced? ((tableOf rows).render ++ after) =
        some ([], rows.flatMap (fun row =>
          Text.join " | ".toList (row.map fun inlines => visible (Inline.renderAll inlines)) ++
            ['\n']), "\n\n".toList ++ after) := by
  constructor
  · intro inlines textual
    exact (Inline.visible_renderAll textual).symm
  · intro rows textual after
    have sameCells : ∀ row ∈ rows, row.map Inline.plainAll =
        row.map fun inlines => visible (Inline.renderAll inlines) := by
      intro row isRow
      apply List.map_congr_left
      intro inlines isCell
      exact (Inline.visible_renderAll (textual row isRow inlines isCell)).symm
    have sameRows : rows.flatMap (fun row =>
          Text.join " | ".toList (row.map Inline.plainAll) ++ ['\n']) =
        rows.flatMap fun row =>
          Text.join " | ".toList (row.map fun inlines => visible (Inline.renderAll inlines)) ++
            ['\n'] := by
      apply List.flatMap_congr
      intro row isRow
      rw [sameCells row isRow]
    rw [Block.readFenced?_tableOf, sameRows]

/-- A row of bold code that is a backtick and of an image in a link, and one of a lone backslash:
the markers, the URLs and the three kinds of backslashes are gone on both sides. -/
theorem Block.table_shows_prose_escapes :
    visible (Inline.renderAll [.emphasis '*' 2 [.literal "a.".toList, .codeSpan ['`']]]) =
        "a.`".toList ∧
      readFenced? ((tableOf [
          [[.emphasis '*' 2 [.literal "a.".toList, .codeSpan ['`']]],
            [.link ")".toList false [.link "u".toList true [.literal "b_".toList]]]],
          [[.literal ['\\']]]]).render ++ "```".toList) =
        some ([], "a.` | b_\n\\\n".toList, "\n\n```".toList) := by
  obtain ⟨prose, table⟩ := Block.table_shows_prose
  have bold : Inline.AllEverywhere Inline.IsTextual
      [.emphasis '*' 2 [.literal "a.".toList, .codeSpan ['`']]] := by
    simp [Inline.AllEverywhere, Inline.Everywhere, Inline.IsTextual]
  have image : Inline.AllEverywhere Inline.IsTextual
      [.link ")".toList false [.link "u".toList true [.literal "b_".toList]]] := by
    simp [Inline.AllEverywhere, Inline.Everywhere, Inline.IsTextual]
  have slash : Inline.AllEverywhere Inline.IsTextual [.literal ['\\']] := by
    simp [Inline.AllEverywhere, Inline.Everywhere, Inline.IsTextual]
  constructor
  · rw [← prose _ bold]
    rfl
  · have firstRow := List.forall_mem_cons.mpr ⟨bold, List.forall_mem_singleton.mpr image⟩
    have lastRow := List.forall_mem_singleton.mpr slash
    rw [table _ (List.forall_mem_cons.mpr ⟨firstRow, List.forall_mem_singleton.mpr lastRow⟩)]
    simp only [List.flatMap_cons, List.flatMap_nil, List.map_cons, List.map_nil, ← prose _ bold,
      ← prose _ image, ← prose _ slash]
    rfl

end TelegramMarkdown
