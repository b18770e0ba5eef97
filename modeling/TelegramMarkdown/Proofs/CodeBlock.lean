import TelegramMarkdown.Proofs.Builder
import TelegramMarkdown.Proofs.Escape.Reading
import TelegramMarkdown.Proofs.Markup.Block

/-!
Blocks of code, from the events of their text to the text that is sent.

The text of a block is cut into lines when it is read and put together again when it is
written (`Text.flatMap_lines`), and escaped line by line in between. A reader of what is
written gets the info string and the text back, and knows where the block ends
(`Builder.code_block_arrives`).
-/

namespace TelegramMarkdown

/-! ### Lines -/

namespace Text

/-- A text with a line feed at its end, unless it has one or is empty. -/
def ended (t : Text) : Text :=
  if t = [] ∨ t.getLast? = some '\n' then t else t ++ ['\n']

/-- A text is its lines, with line feeds between them. -/
theorem exists_splitAt_line_feed (t : Text) :
    ∃ init last, splitAt (· = '\n') t = init ++ [last] ∧
      t = init.flatMap (· ++ ['\n']) ++ last ∧ '\n' ∉ last := by
  induction t with
  | nil => exact ⟨[], [], rfl, rfl, List.not_mem_nil⟩
  | cons c cs ih =>
    obtain ⟨init, last, pieces, whole, noEnd⟩ := ih
    by_cases cuts : c = '\n'
    · refine ⟨[] :: init, last, ?_, ?_, noEnd⟩
      · rw [splitAt_cons_of_cut (by simpa using cuts), pieces, List.cons_append]
      · rw [List.flatMap_cons, List.append_assoc, ← whole, cuts]
        rfl
    · cases init with
      | nil =>
        refine ⟨[], c :: last, ?_, congrArg (c :: ·) whole, ?_⟩
        · exact splitAt_cons_of_not_cut (by simpa using cuts) pieces
        · exact List.not_mem_cons_of_ne_of_not_mem (Ne.symm cuts) noEnd
      | cons piece more =>
        refine ⟨(c :: piece) :: more, last, ?_, congrArg (c :: ·) whole, noEnd⟩
        exact splitAt_cons_of_not_cut (by simpa using cuts) pieces

theorem ended_flatMap (init : List Text) : ended (init.flatMap (· ++ ['\n'])) =
    init.flatMap (· ++ ['\n']) := by
  apply if_pos
  cases init using List.reverseRecOn with
  | nil => exact .inl rfl
  | append_singleton init line =>
    right
    rw [List.flatMap_append, List.flatMap_singleton, ← List.append_assoc, List.getLast?_concat]

theorem ended_append {last : Text} (t : Text) (notEmpty : last ≠ []) (noEnd : '\n' ∉ last) :
    ended (t ++ last) = t ++ last ++ ['\n'] := by
  apply if_neg
  rintro (isEmpty | isEnded)
  · exact notEmpty (List.append_eq_nil_iff.mp isEmpty).2
  · rw [List.getLast?_append_of_ne_nil _ notEmpty] at isEnded
    exact noEnd (List.mem_of_getLast? isEnded)

/-- Without carriage returns a text is its lines, each with a line feed behind it; the last
one may get one that was not there. -/
theorem flatMap_lines {t : Text} (noReturn : '\r' ∉ t) :
    (lines t).flatMap (· ++ ['\n']) = ended t := by
  obtain ⟨init, last, pieces, whole, noEnd⟩ := exists_splitAt_line_feed t
  have kept : ∀ line ∈ init, line.getLast? ≠ some '\r' := by
    intro line isLine returns
    apply noReturn
    rw [whole]
    apply List.mem_append_left
    exact List.mem_flatMap.mpr ⟨line, isLine, List.mem_append_left _ (List.mem_of_getLast? returns)⟩
  rw [lines, pieces, List.reverse_append, List.reverse_singleton, List.singleton_append]
  dsimp only
  rw [List.reverse_reverse, map_dropReturn kept, whole]
  cases last with
  | nil => rw [List.append_nil, ended_flatMap]; rfl
  | cons c cs =>
    rw [ended_append _ (List.cons_ne_nil c cs) noEnd, List.isEmpty_cons, if_neg Bool.false_ne_true,
      List.flatMap_append, List.flatMap_singleton, List.append_assoc]

end Text

/-! ### Reading what is written -/

/-- A block of code as a reader takes it: the info string up to the end of the line, the
content up to the next fence that no backslash escapes, and what stands behind. -/
def readFenced? (t : Text) : Option (Text × Text × Text) :=
  (Text.dropLead? fence t).bind fun opened =>
    let info := opened.takeWhile (· ≠ '\n')
    let code := (opened.dropWhile (· ≠ '\n')).tail
    (Escape.readTo? fence code).map fun (content, rest) => (Escape.unescape info, content, rest)

theorem line_feed_notMem_code {t : Text} (h : '\n' ∉ t) : '\n' ∉ Escape.code t := by
  induction t with
  | nil => exact h
  | cons c cs ih =>
    rw [List.mem_cons, not_or] at h
    rw [Escape.code_eq_guarded, Escape.guarded_cons (by decide), List.mem_append, not_or]
    refine ⟨?_, ih h.2⟩
    split
    · simpa using h.1
    · simpa using h.1

theorem readFenced?_renderCode {info : Text} (oneLine : '\n' ∉ info) (lines : List Text)
    (after : Text) :
    readFenced? (renderCode info lines ++ after) =
      some (info, lines.flatMap (· ++ ['\n']), "\n\n".toList ++ after) := by
  have sameLine : ∀ c ∈ Escape.code info, decide (c ≠ '\n') = true := by
    intro c isIn
    exact decide_eq_true fun ends => line_feed_notMem_code oneLine (ends ▸ isIn)
  have noSlash : '`' ≠ '\\' := by decide
  have content := Escape.readTo?_guarded noSlash "``".toList
    (lines.flatMap (· ++ ['\n'])) ("\n\n".toList ++ after)
  have written : renderCode info lines ++ after =
      fence ++ (Escape.code info ++ '\n' ::
        (Escape.code (lines.flatMap (· ++ ['\n'])) ++ (fence ++ ("\n\n".toList ++ after)))) := by
    simp only [renderCode, Escape.code_flatMap_lines, List.append_assoc, List.cons_append,
      List.nil_append]
  rw [readFenced?, written, Text.dropLead?_append, Option.bind_some]
  dsimp only
  rw [List.takeWhile_append_of_pos sameLine, List.dropWhile_append_of_pos sameLine,
    List.takeWhile_cons_of_neg (by decide), List.dropWhile_cons_of_neg (by decide),
    List.append_nil, List.tail_cons, Escape.code_eq_guarded info,
    Escape.unescape_guarded noSlash]
  exact congrArg (Option.map _) content

/-! ### From events to the reader -/

namespace Builder

open Markdown (Event Span)

/-- The text of an event in a block of code. -/
def rawOf : Event → Text
  | .text t | .html t _ => t
  | _ => []

theorem rawText_plain {inner : List Event} (plain : ∀ e ∈ inner, e.IsPlain) (rest : List Event) :
    rawText (inner ++ .exit :: rest) = (inner.flatMap rawOf, rest) := by
  induction inner with
  | nil => rfl
  | cons e others ih =>
    obtain ⟨first, more⟩ := List.forall_mem_cons.mp plain
    have read := ih more
    cases e with
    | enter _ | exit => exact first.elim
    | text t | html t _ => simp only [List.cons_append, rawText, read, List.flatMap_cons, rawOf]
    | _ => simpa [rawText, rawOf] using read

/-- A block of code arrives unchanged. Whatever its text is cut into, and whatever comes
after the block, a reader of the block that is built and rendered gets back the info string
and the text, with a line feed at its end, and stops right behind the closing fence. -/
theorem code_block_arrives (k : Context) (info : Option Text) (span : Span) (inner : List Event)
    (plain : ∀ e ∈ inner, e.IsPlain) (noReturn : '\r' ∉ inner.flatMap rawOf)
    (oneLine : '\n' ∉ info.getD []) (n : Nat) (rest : List Event) (task : Option Bool)
    (depth : Nat) (after : Text) :
    ∃ info' lines,
      blockElement k (n + 1) (.codeBlock info span) ⟨inner ++ .exit :: rest, task, depth⟩ =
        (.codeBlock info' lines, ⟨rest, task, depth⟩) ∧
      readFenced? ((Block.codeBlock info' lines).render ++ after) =
        some (info.getD [], Text.ended (inner.flatMap rawOf), "\n\n".toList ++ after) := by
  have sameInfo : (info.filter (!·.isEmpty)).getD [] = info.getD [] := by
    cases info with
    | none => rfl
    | some t => cases t <;> rfl
  refine ⟨_, _, by simp only [blockElement, rawText_plain plain]; rfl, ?_⟩
  rw [Block.render, sameInfo, readFenced?_renderCode oneLine, Text.flatMap_lines noReturn]

/-- A block whose info string and text hold fences and end in backslashes, with text behind
it that starts with a fence. -/
theorem code_block_arrives_fences_inside :
    ∃ info' lines,
      blockElement ⟨true, []⟩ 1 (.codeBlock (some "a`\\".toList) ⟨0, 9⟩)
          ⟨[.text "``".toList, .text "`\n\n\\".toList, .exit, .softBreak], none, 0⟩ =
        (.codeBlock info' lines, ⟨[.softBreak], none, 0⟩) ∧
      readFenced? ((Block.codeBlock info' lines).render ++ "```".toList) =
        some ("a`\\".toList, "```\n\n\\\n".toList, "\n\n```".toList) :=
  code_block_arrives ⟨true, []⟩ (some "a`\\".toList) ⟨0, 9⟩
    [.text "``".toList, .text "`\n\n\\".toList] (by simp [Event.IsPlain]) (by decide) (by decide)
    0 [.softBreak] none 0 "```".toList

end Builder

end TelegramMarkdown
