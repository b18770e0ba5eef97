import TelegramMarkdown.Proofs.Builder
import TelegramMarkdown.Proofs.Builder.Readers

/-!
Invariants of the builder.

What every step of the builder keeps holds of all that it builds
(`Builder.Invariant.document`). The events may be any: an element that never ends, or one
that ends without having been entered, is read by the same steps.
-/

namespace TelegramMarkdown.Builder

open Markdown (Event Tag)

/-- Whether the builder makes such items: a task shows the text that its blocks start
with, and other items have neither a checkbox nor a text for it. -/
inductive MakesItem : ListItem → Prop where
  | task (checked : Bool) (children : List Block) :
    MakesItem ⟨true, checked, taskText children, children⟩
  | plain (children : List Block) : MakesItem ⟨false, false, [], children⟩

/-- Properties of what the builder has at hand, each kept by the steps that make it. -/
structure Invariant (k : Context) where
  /-- Of inlines that are being read, newest first. -/
  Reading : List Inline → Prop
  /-- Of inlines that are complete: the content of a block, or of an inline element. -/
  Run : List Inline → Prop
  /-- Of an inline that is put to those being read. -/
  OfInline : Inline → Prop
  /-- Of a block. -/
  OfBlock : Block → Prop
  nothing : Reading []
  push : ∀ {read inline}, Reading read → OfInline inline → Reading (push read inline)
  finish : ∀ {read}, Reading read → ∀ s, Run (finish k s read)
  literal : ∀ t, OfInline (.literal t)
  codeSpan : ∀ content, OfInline (.codeSpan content)
  lineBreak : OfInline .lineBreak
  htmlTag : ∀ raw, OfInline (.htmlTag (tagName raw))
  emphasis : ∀ delimiter count {children}, Run children →
    OfInline (.emphasis delimiter count children)
  link : ∀ url isImage {children}, Run children → OfInline (.link url isImage children)
  autolink : ∀ url, OfInline (.autolink url)
  group : ∀ {children}, Run children → OfInline (.container children)
  paragraph : ∀ {content}, Run content → OfBlock (.paragraph content)
  heading : ∀ level {content}, Run content → OfBlock (.heading level content)
  rule : OfBlock .rule
  codeBlock : ∀ (info : Option Text) text,
    OfBlock (.codeBlock (info.filter (!·.isEmpty)) (Text.lines text))
  html : ∀ raw, OfBlock (.html (Text.dropEndWhile (fun c => c = '\r' || c = '\n') raw))
  quote : ∀ {children}, (∀ b ∈ children, OfBlock b) → OfBlock (.quote children)
  container : ∀ {children}, (∀ b ∈ children, OfBlock b) → OfBlock (.container children)
  list : ∀ ordered {items : List ListItem},
    (∀ item ∈ items, MakesItem item ∧ ∀ b ∈ item.blocks, OfBlock b) →
      OfBlock (.list ordered items)
  table : ∀ {rows : List (List (List Block))},
    (∀ row ∈ rows, ∀ cell ∈ row, ∃ content, Run content ∧ cell = [.paragraph content]) →
      OfBlock (.table rows)

namespace Invariant

variable {k : Context} (inv : Invariant k)

/-! ### Inlines -/

theorem readEvent (e : Event) {read : List Inline} (h : inv.Reading read) (s : Stream) :
    inv.Reading (readEvent e read s).1 := by
  cases e with
  | text t => exact inv.push h (inv.literal t)
  | code content _ => exact inv.push h (inv.codeSpan content)
  | softBreak | hardBreak => exact inv.push h inv.lineBreak
  | inlineHtml raw _ | html raw _ => exact inv.push h (inv.htmlTag raw)
  | checkbox _ | enter _ | exit | rule => exact h

-- By induction on the steps that are allowed: where they run out, and where the events do,
-- the inlines read so far are finished as at an exit.

mutual

theorem inlines : ∀ (n : Nat) {read : List Inline} (s : Stream), inv.Reading read →
    inv.Run (inlines k n read s).1
  | 0, _, s, h => inv.finish h s
  | n + 1, _, ⟨[], _, _⟩, h => inv.finish h _
  | n + 1, _, ⟨e :: rest, task, depth⟩, h => by
    by_cases plain : e.IsPlain
    · have kept := inv.readEvent e h ⟨rest, task, depth⟩
      rw [inlines_plain k plain]
      exact inlines n _ kept
    · cases e with
      | exit => exact inv.finish h _
      | enter tag => exact inlines n _ (inv.push h (inlineElement n tag _))
      | _ => exact absurd trivial plain

theorem inlineElement : ∀ (n : Nat) (tag : Tag) (s : Stream),
    inv.OfInline (inlineElement k n tag s).1
  | 0, _, s => inv.group (inv.finish inv.nothing s)
  | n + 1, tag, s => by
    have children := inlines n s inv.nothing
    cases tag with
    | emphasis c count => exact inv.emphasis c count children
    | link url _ => exact inv.link url false (label n s)
    | image url _ => exact inv.link url true (label n s)
    | autolink url _ => exact inv.autolink url
    | _ => exact inv.group children

theorem label : ∀ (n : Nat) (s : Stream), inv.Run (label k n s).1
  | 0, s => inv.finish inv.nothing s
  | n + 1, _ => inlines n _ inv.nothing

end

/-! ### Blocks -/

theorem flush {read : List Inline} (h : inv.Reading read) (s : Stream) :
    ∀ b ∈ flush k s read, inv.OfBlock b := by
  intro b isIn
  rw [Builder.flush] at isIn
  split at isIn
  · exact absurd isIn List.not_mem_nil
  · obtain rfl := List.mem_singleton.mp isIn
    exact inv.paragraph (inv.finish h s)

theorem cells (n : Nat) (s : Stream) :
    ∀ cell ∈ (cells k n s).1, ∃ content, inv.Run content ∧ cell = [.paragraph content] :=
  (cells_keepsOnly k).forall_mem (fun n s => ⟨_, inv.inlines n s inv.nothing, rfl⟩) n s

theorem rows (n : Nat) (s : Stream) :
    ∀ row ∈ (rows k n s).1, ∀ cell ∈ row,
      ∃ content, inv.Run content ∧ cell = [.paragraph content] :=
  (rows_keepsOnly k).forall_mem inv.cells n s

mutual

theorem blocks : ∀ (n : Nat) {read : List Inline} (s : Stream), inv.Reading read →
    ∀ b ∈ (blocks k n read s).1, inv.OfBlock b
  | 0, _, s, h => inv.flush h s
  | n + 1, _, ⟨[], _, _⟩, h => inv.flush h _
  | n + 1, read, ⟨e :: rest, task, depth⟩, h => by
    have flushed := inv.flush h ⟨rest, task, depth⟩
    by_cases plain : e.IsPlain ∧ e ≠ .rule
    · have kept := inv.readEvent e h ⟨rest, task, depth⟩
      rw [blocks_plain k plain.1 plain.2]
      exact blocks n _ kept
    · cases e with
      | exit => exact flushed
      | rule =>
        have more := blocks n ⟨rest, task, depth⟩ inv.nothing
        exact List.forall_mem_append.mpr ⟨flushed, List.forall_mem_cons.mpr ⟨inv.rule, more⟩⟩
      | enter tag =>
        unfold Builder.blocks
        dsimp only
        split
        · exact blocks n _ (inv.push h (inv.inlineElement n tag _))
        · have element := blockElement n tag ⟨rest, task, depth⟩
          have more := blocks n (Builder.blockElement k n tag ⟨rest, task, depth⟩).2 inv.nothing
          exact List.forall_mem_append.mpr ⟨flushed, List.forall_mem_cons.mpr ⟨element, more⟩⟩
      | _ => exact absurd ⟨trivial, nofun⟩ plain

theorem blockElement : ∀ (n : Nat) (tag : Tag) (s : Stream),
    inv.OfBlock (blockElement k n tag s).1
  | 0, _, _ => inv.container (List.forall_mem_nil _)
  | n + 1, tag, s => by
    have content := inv.inlines n s inv.nothing
    have children := blocks n s inv.nothing
    cases tag with
    | paragraph | term => exact inv.paragraph content
    | heading level => exact inv.heading level content
    | quote => exact inv.quote children
    | codeBlock info _ => exact inv.codeBlock info _
    | htmlBlock _ => exact inv.html _
    | list ordered => exact inv.list ordered (items n s)
    | table => exact inv.table (inv.rows n s)
    | _ => exact inv.container children

theorem items : ∀ (n : Nat) (s : Stream),
    ∀ item ∈ (items k n s).1, MakesItem item ∧ ∀ b ∈ item.blocks, inv.OfBlock b
  | 0, _ => List.forall_mem_nil _
  | n + 1, s => (items_keepsOnly k).forall_mem_succ (item n) (items n) s

theorem item : ∀ (n : Nat) (s : Stream),
    MakesItem (item k n s).1 ∧ ∀ b ∈ (item k n s).1.blocks, inv.OfBlock b
  | 0, _ => ⟨.plain [], List.forall_mem_nil _⟩
  | n + 1, s => by
    have children := blocks n { s with task := none } inv.nothing
    unfold Builder.item
    dsimp only
    split
    · exact ⟨.task _ _, children⟩
    · exact ⟨.plain _, children⟩

end

/-- What every step keeps holds of the blocks of every document. -/
theorem document (events : List Event) :
    ∀ b ∈ (Document.ofEvents k.autolinks k.hidden events).blocks, inv.OfBlock b :=
  inv.blocks _ _ inv.nothing

end Invariant

end TelegramMarkdown.Builder
