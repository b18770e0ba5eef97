import TelegramMarkdown.Markdown.InlineStructure
import TelegramMarkdown.Proofs.Forest

/-!
The events of a leaf block.

However brackets, backticks and delimiter runs are matched, what comes out are plain events
and inline elements, side by side or one inside the other (`IsText`). And whatever is
matched, the block has something to show exactly if one of its tokens has. Both are said at
once of each stage of reading (`Reads`), and in the end of the events (`Inlines.isText_events`,
`Inlines.shows_events`).
-/

namespace TelegramMarkdown.Markdown

/-! ### Text -/

/-- The events of text: plain events and inline elements. -/
inductive IsText : List Event → Prop where
  | nil : IsText []
  | plain {event : Event} (isPlain : event.IsPlain) (noRule : event ≠ .rule) : IsText [event]
  | element {tag : Tag} {inner : List Event} (isInline : tag.isInline = true) :
      IsText inner → IsText (Event.element tag inner)
  | append {a b : List Event} : IsText a → IsText b → IsText (a ++ b)

theorem IsText.text (t : Text) : IsText [.text t] :=
  .plain trivial (by simp)

/-- Whether an event of text stands for an inline. A checkbox does not. -/
def Event.shows : Event → Bool
  | checkbox _ => false
  | _ => true

/-- Whether events of text stand for any inline. -/
def shows (events : List Event) : Bool :=
  events.any Event.shows

@[simp] theorem shows_append (a b : List Event) : shows (a ++ b) = (shows a || shows b) :=
  List.any_append

@[simp] theorem shows_reverse (events : List Event) : shows events.reverse = shows events :=
  List.any_reverse

@[simp] theorem shows_text (t : Text) : shows [.text t] = true := rfl

@[simp] theorem shows_element (tag : Tag) (inner : List Event) :
    shows (Event.element tag inner) = true := rfl

namespace Piece

/-- Whether the events of a piece are those of text. -/
def IsText : Piece → Prop
  | events inner => Markdown.IsText inner
  | run _ | hardBreak _ => True

/-- Whether a piece has something to show. -/
def shows : Piece → Bool
  | events inner => Markdown.shows inner
  | run r => r.length != 0
  | hardBreak _ => true

end Piece

/-! ### Emphasis -/

namespace Emphasis

/-- A state has read text, and whether that has something to show. -/
structure State.Reads (s : State) (shown : Bool) : Prop where
  before : IsText s.before.reverse
  after : ∀ o ∈ s.openers, IsText o.after.reverse
  left : ∀ o ∈ s.openers, o.left ≠ 0
  shown : (shows s.before || !s.openers.isEmpty) = shown

theorem Opener.isText_asText {o : Opener} (h : IsText o.after.reverse) :
    IsText o.asText.reverse := by
  rw [asText, List.reverse_append]
  exact (IsText.text _).append h

theorem isText_flatMap_asText {openers : List Opener}
    (h : ∀ o ∈ openers, IsText o.after.reverse) :
    IsText (openers.flatMap Opener.asText).reverse := by
  induction openers with
  | nil => exact .nil
  | cons o older ih =>
    obtain ⟨first, others⟩ := List.forall_mem_cons.mp h
    rw [List.flatMap_cons, List.reverse_append]
    exact (ih others).append (Opener.isText_asText first)

theorem shows_flatMap_asText (openers : List Opener) :
    shows (openers.flatMap Opener.asText) = !openers.isEmpty := by
  cases openers with
  | nil => rfl
  | cons o older =>
    rw [List.flatMap_cons, Opener.asText, shows_append, shows_append, shows_text]
    simp

namespace State.Reads

variable {s : State} {shown : Bool}

theorem events (h : s.Reads shown) : IsText s.events ∧ shows s.events = shown := by
  constructor
  · rw [State.events, List.reverse_append]
    exact h.before.append (isText_flatMap_asText h.after)
  · rw [State.events, shows_reverse, shows_append, shows_flatMap_asText, Bool.or_comm]
    exact h.shown

theorem append (h : s.Reads shown) {more : List Event} (text : IsText more) :
    (s.append more).Reads (shown || shows more) := by
  obtain ⟨before, openers, bounds⟩ := s
  cases openers with
  | nil =>
    refine ⟨?_, nofun, nofun, ?_⟩
    · rw [State.append, List.reverse_append, List.reverse_reverse]
      exact h.before.append text
    · rw [← h.shown]
      simp [State.append, Bool.or_comm]
  | cons o older =>
    obtain ⟨first, others⟩ := List.forall_mem_cons.mp h.after
    obtain ⟨some, more⟩ := List.forall_mem_cons.mp h.left
    refine ⟨h.before, List.forall_mem_cons.mpr ⟨?_, others⟩,
      List.forall_mem_cons.mpr ⟨some, more⟩, ?_⟩
    · rw [List.reverse_append, List.reverse_reverse]
      exact first.append text
    · rw [← h.shown]
      simp [State.append]

theorem push (h : s.Reads shown) (run : Run) (left : Nat) :
    (s.push run left).Reads (shown || left != 0) := by
  unfold State.push
  split
  case isTrue none => simpa [none] using h
  case isFalse some =>
    refine ⟨h.before, List.forall_mem_cons.mpr ⟨.nil, h.after⟩,
      List.forall_mem_cons.mpr ⟨some, h.left⟩, ?_⟩
    simp [some]

end State.Reads

theorem isText_wrap (c : Char) (n : Nat) {events : List Event} (text : IsText events) :
    IsText (wrap c n events) := by
  fun_induction wrap c n events with
  | case1 => exact text
  | case2 => exact .element rfl text
  | case3 n events ih => exact ih (.element rfl text)

theorem shows_wrap (c : Char) (n : Nat) (events : List Event) :
    shows (wrap c n events) = (shows events || n != 0) := by
  fun_induction wrap c n events with
  | case1 => simp
  | case2 => simp
  | case3 n events ih => simp [ih]

/-- What is found are events of text and an opener with the older ones of its list. -/
theorem of_find?_eq_some {r : Run} {after inner : List Event} {n : Nat}
    {openers older : List Opener} {o : Opener}
    (found : find? r after n openers = some (inner, o, older)) (text : IsText after.reverse)
    (texts : ∀ p ∈ openers, IsText p.after.reverse) :
    IsText inner.reverse ∧ o ∈ openers ∧ ∀ p ∈ older, p ∈ openers := by
  induction openers generalizing after n with
  | nil => cases n <;> cases found
  | cons first others ih =>
    cases n with
    | zero => cases found
    | succ n =>
      obtain ⟨textFirst, textOthers⟩ := List.forall_mem_cons.mp texts
      rw [find?] at found
      split at found
      case isTrue =>
        cases found
        refine ⟨?_, List.mem_cons_self, fun p => List.mem_cons_of_mem _⟩
        rw [List.reverse_append]
        exact textFirst.append text
      case isFalse =>
        have longer : IsText (after ++ first.asText).reverse := by
          rw [List.reverse_append]
          exact (Opener.isText_asText textFirst).append text
        obtain ⟨inside, isOpener, areOpeners⟩ := ih found longer textOthers
        exact ⟨inside, List.mem_cons_of_mem _ isOpener,
          fun p isOlder => List.mem_cons_of_mem _ (areOpeners p isOlder)⟩

/-- What a run closes is in an element; what is left of it is still to be shown. -/
theorem close_reads (r : Run) (fuel left : Nat) {s : State} {shown : Bool}
    (h : s.Reads shown) :
    ∃ now, (close r fuel left s).2.Reads now ∧
      (now || (close r fuel left s).1 != 0) = (shown || left != 0) := by
  induction fuel generalizing left s shown with
  | zero => exact ⟨shown, h, rfl⟩
  | succ fuel ih =>
    rw [close]
    by_cases none : left = 0
    · rw [if_pos none]
      exact ⟨shown, h, by simp [none]⟩
    · rw [if_neg none]
      dsimp only
      rcases found : find? r [] (s.openers.length - min s.openers.length (s.bounds.ofRun r))
        s.openers with _ | ⟨inner, o, older⟩
      · exact ⟨shown, ⟨h.before, h.after, h.left, h.shown⟩, rfl⟩
      · obtain ⟨inside, isOpener, areOpeners⟩ := of_find?_eq_some found .nil h.after
        have someLeft := h.left o isOpener
        have rest : State.Reads ⟨s.before, older, s.bounds.truncate older.length⟩ _ :=
          ⟨h.before, fun p isOlder => h.after p (areOpeners p isOlder),
            fun p isOlder => h.left p (areOpeners p isOlder), rfl⟩
        have closed := (rest.push o.run (o.left - min left o.left)).append
          (isText_wrap r.char (min left o.left) inside)
        obtain ⟨now, reads, same⟩ := ih (left - min left o.left) closed
        refine ⟨now, reads, same.trans ?_⟩
        have wrapped : (min left o.left != 0) = true := bne_iff_ne.mpr (by omega)
        have unread : (left != 0) = true := bne_iff_ne.mpr none
        simp [shows_wrap, wrapped, unread]

theorem readRun_reads (r : Run) {s : State} {shown : Bool} (h : s.Reads shown) :
    (readRun r s).Reads (shown || r.length != 0) := by
  obtain ⟨now, reads, same⟩ : ∃ now,
      (if r.closes then close r (r.length + 1) r.length s else (r.length, s)).2.Reads now ∧
        (now || (if r.closes then close r (r.length + 1) r.length s
          else (r.length, s)).1 != 0) = (shown || r.length != 0) := by
    split
    · exact close_reads r _ _ h
    · exact ⟨shown, h, rfl⟩
  rw [← same, readRun]
  generalize (if r.closes then close r (r.length + 1) r.length s else (r.length, s)) = pair at reads
  obtain ⟨left, after⟩ := pair
  dsimp only
  split
  · exact reads.push r left
  · split
    case isTrue none => simpa [none] using reads
    case isFalse some =>
      have isLeft : (left != 0) = true := bne_iff_ne.mpr some
      simpa [isLeft] using reads.append (IsText.text (List.replicate left r.char))

theorem readAll_reads (anyRun : Bool) {pieces : List Piece} (texts : ∀ p ∈ pieces, p.IsText)
    {s : State} {shown : Bool} (h : s.Reads shown) :
    (readAll anyRun pieces s).Reads (shown || pieces.any Piece.shows) := by
  induction pieces generalizing s shown with
  | nil => simpa [readAll] using h
  | cons piece rest ih =>
    obtain ⟨first, others⟩ := List.forall_mem_cons.mp texts
    rw [List.any_cons, ← Bool.or_assoc]
    cases piece with
    | events inner => exact ih others (h.append first)
    | run r => exact ih others (readRun_reads r h)
    | hardBreak backslash =>
      apply ih others
      have isBreak : IsText [Event.hardBreak] := .plain trivial (by simp)
      rw [Piece.shows]
      split
      · exact h.append (IsText.text _)
      · exact h.append isBreak

theorem resolve_reads {pieces : List Piece} (texts : ∀ p ∈ pieces, p.IsText) :
    IsText (resolve pieces) ∧ shows (resolve pieces) = pieces.any Piece.shows := by
  have nothing : State.Reads ⟨[], [], []⟩ false := ⟨.nil, nofun, nofun, rfl⟩
  exact (readAll_reads (pieces.any isRun) texts nothing).events

end Emphasis

/-! ### Tokens -/

/-- Whether a token has something to show. -/
def Token.shows (token : Token) : Bool :=
  match token.kind with
  | .run _ length _ _ => length != 0
  | .checkbox _ => false
  | _ => true

namespace Inlines

/-- A state has read pieces of text, and whether they have something to show. -/
structure State.Reads (s : State) (shown : Bool) : Prop where
  pieces : ∀ p ∈ s.pieces, p.IsText
  before : ∀ b ∈ s.brackets, ∀ p ∈ b.before, p.IsText
  shown : (s.pieces.any Piece.shows || !s.brackets.isEmpty) = shown

theorem State.allPieces_eq (s : State) :
    s.allPieces = (s.pieces ++ s.brackets.flatMap fun b => b.asText :: b.before).reverse := by
  have all : ∀ (brackets : List Bracket) (pieces : List Piece),
      brackets.foldl (fun pieces b => pieces ++ b.asText :: b.before) pieces =
        pieces ++ brackets.flatMap fun b => b.asText :: b.before := by
    intro brackets
    induction brackets with
    | nil => simp
    | cons b outer ih => simp [ih]
  rw [allPieces, all]

theorem Bracket.isText_asText (b : Bracket) : b.asText.IsText :=
  IsText.text _

theorem Bracket.shows_asText (b : Bracket) : b.asText.shows = true := rfl

namespace State.Reads

variable {s : State} {shown : Bool}

theorem allPieces (h : s.Reads shown) :
    (∀ p ∈ s.allPieces, p.IsText) ∧ s.allPieces.any Piece.shows = shown := by
  rw [allPieces_eq]
  constructor
  · intro p isPiece
    rw [List.mem_reverse, List.mem_append, List.mem_flatMap] at isPiece
    rcases isPiece with after | ⟨b, isBracket, here⟩
    · exact h.pieces p after
    · rcases List.mem_cons.mp here with rfl | before
      · exact b.isText_asText
      · exact h.before b isBracket p before
  · rw [← h.shown, List.any_reverse, List.any_append]
    cases s.brackets <;> simp [Bracket.shows_asText]

theorem append (h : s.Reads shown) {piece : Piece} (text : piece.IsText) :
    (s.append piece).Reads (shown || piece.shows) := by
  refine ⟨List.forall_mem_cons.mpr ⟨text, h.pieces⟩, h.before, ?_⟩
  rw [← h.shown]
  cases isShown : piece.shows <;> simp [State.append, isShown]

theorem events (h : s.Reads shown) {more : List Event} (text : IsText more) :
    (s.append (.events more)).Reads (shown || shows more) :=
  h.append text

theorem text (h : s.Reads shown) (t : Text) : (s.text t).Reads true := by
  simpa [State.text] using h.events (IsText.text t)

/-- A bracket that waits no more leaves what is before it to those around. -/
theorem outer (h : s.Reads shown) {b : Bracket} {outer : List Bracket}
    (brackets : s.brackets = b :: outer) :
    (∀ p ∈ b.before, p.IsText) ∧ ∀ o ∈ outer, ∀ p ∈ o.before, p.IsText := by
  have all := h.before
  rw [brackets] at all
  exact List.forall_mem_cons.mp all

theorem dropBracket (h : s.Reads shown) {b : Bracket} {outer : List Bracket}
    (brackets : s.brackets = b :: outer) : (s.dropBracket b outer).Reads true := by
  obtain ⟨before, others⟩ := h.outer brackets
  refine ⟨?_, others, by simp [State.dropBracket, Bracket.shows_asText]⟩
  intro p isPiece
  rcases List.mem_append.mp isPiece with after | here
  · exact h.pieces p after
  · rcases List.mem_cons.mp here with rfl | isBefore
    · exact b.isText_asText
    · exact before p isBefore

theorem link (h : s.Reads shown) {b : Bracket} {outer : List Bracket}
    (brackets : s.brackets = b :: outer) (url : Text) (stop : Nat) :
    (s.link b outer url stop).Reads true := by
  obtain ⟨before, others⟩ := h.outer brackets
  have inside : IsText (Emphasis.resolve s.pieces.reverse) :=
    (Emphasis.resolve_reads fun p isPiece => h.pieces p (List.mem_reverse.mp isPiece)).1
  refine ⟨List.forall_mem_cons.mpr ⟨?_, before⟩, ?_, by simp [State.link, Piece.shows]⟩
  · cases image : b.isImage <;> exact .element rfl inside
  · rw [State.link]
    dsimp only
    split
    · exact others
    · intro o isOuter
      obtain ⟨inactive, isIn, rfl⟩ := List.mem_map.mp isOuter
      split <;> exact others inactive isIn

end State.Reads

section

variable (k : Context) {s : State} {shown : Bool}

theorem closeBracket_reads (h : s.Reads shown) (close : Token) (mayRefer : Bool)
    (rest : List Token) : (closeBracket k close mayRefer rest s).1.Reads true := by
  unfold closeBracket
  split
  case h_1 => exact h.text _
  case h_2 b outer brackets =>
    have noLink : ((s.dropBracket b outer).text [']']).Reads true :=
      (h.dropBracket brackets).text _
    have isLink (url : Text) (stop : Nat) : (s.link b outer url stop).Reads true :=
      h.link brackets url stop
    dsimp only
    split
    · exact noLink
    · split
      case h_1 => exact isLink _ _
      case h_2 =>
        -- However the link is referred to, only whether its label is defined counts.
        split
        all_goals split
        all_goals first
          | exact noLink
          | split
            · exact isLink _ _
            · exact noLink

theorem readBackticks_reads (h : s.Reads shown) (token : Token) (length : Nat) (guarded : Bool)
    (rest : List Token) : (readBackticks k token length guarded rest s).1.Reads true := by
  unfold readBackticks
  dsimp only
  split
  case h_1 => exact h.text _
  case h_2 =>
    have isCode (content : Text) (span : Span) : IsText [.code content span] :=
      .plain trivial (by simp)
    obtain ⟨now, reads⟩ : ∃ now, State.Reads (if guarded then s.text ['`'] else s) now := by
      split
      · exact ⟨true, h.text _⟩
      · exact ⟨shown, h⟩
    simpa [shows, Event.shows] using reads.events (isCode _ _)

theorem of_angled?_eq_some {less next : Token} {events : List Event} {stop : Cursor}
    (found : angled? k less next = some (events, stop)) :
    IsText events ∧ shows events = true := by
  unfold angled? at found
  dsimp only at found
  split at found
  case h_1 n _ =>
    cases found
    exact ⟨.element rfl (IsText.text _), rfl⟩
  case h_2 =>
    obtain ⟨⟨raw, after⟩, -, same⟩ := Option.map_eq_some_iff.mp found
    cases same
    exact ⟨.plain trivial nofun, rfl⟩

/-- One token: it is shown if it has something to show, and else nothing but it is read. -/
theorem step_reads (h : s.Reads shown) (token : Token) (rest : List Token) :
    (step k token rest s).1.Reads (shown || token.shows) ∧
      (token.shows = false → (step k token rest s).2 = rest) := by
  obtain ⟨kind, start, stop⟩ := token
  have one (event : Event) (isPlain : event.IsPlain) (noRule : event ≠ .rule) :
      (s.append (.events [event])).Reads (shown || event.shows) := by
    simpa [shows] using h.events (IsText.plain isPlain noRule)
  have shown {left : List Token} (none : true = false) : left = rest := by cases none
  cases kind with
  | text => exact ⟨by simpa [step, Token.shows] using h.text _, shown⟩
  | decoded t => exact ⟨by simpa [step, Token.shows] using h.text t, shown⟩
  | softBreak => exact ⟨one _ trivial (by simp), shown⟩
  | hardBreak backslash => exact ⟨h.append trivial, shown⟩
  | checkbox checked => exact ⟨one _ trivial (by simp), fun _ => rfl⟩
  | run c n opens closes => exact ⟨h.append trivial, fun _ => rfl⟩
  | backticks n guarded =>
    exact ⟨by simpa [step, Token.shows] using readBackticks_reads k h _ n guarded rest, shown⟩
  | linkClose mayRefer =>
    exact ⟨by simpa [step, Token.shows] using closeBracket_reads k h _ mayRefer rest, shown⟩
  | linkOpen | imageOpen =>
    refine ⟨⟨List.forall_mem_nil _, List.forall_mem_cons.mpr ⟨h.pieces, h.before⟩, ?_⟩, shown⟩
    simp [step, Token.shows]
  | less =>
    refine ⟨?_, shown⟩
    simp only [step, Token.shows, Bool.or_true]
    split
    case h_1 events after found =>
      obtain ⟨next, -, isAngled⟩ := Option.bind_eq_some_iff.mp found
      obtain ⟨text, isShown⟩ := of_angled?_eq_some k isAngled
      simpa [isShown] using h.events text
    case h_2 => exact h.text _

theorem readAll_reads_of_shown (n : Nat) (tokens : List Token) {s : State} (h : s.Reads true) :
    (readAll k n tokens s).Reads true := by
  induction n generalizing tokens s with
  | zero => exact h
  | succ n ih =>
    cases tokens with
    | nil => exact h
    | cons token rest => exact ih _ (step_reads k h token rest).1

theorem readAll_reads {n : Nat} {tokens : List Token} (enough : tokens.length ≤ n)
    {s : State} {shown : Bool} (h : s.Reads shown) :
    (readAll k n tokens s).Reads (shown || tokens.any Token.shows) := by
  induction tokens generalizing n s shown with
  | nil =>
    have nothing : readAll k n [] s = s := by cases n <;> rfl
    simpa [nothing] using h
  | cons token rest ih =>
    obtain ⟨m, rfl⟩ : ∃ m, n = m + 1 := ⟨n - 1, by simp at enough; omega⟩
    obtain ⟨reads, others⟩ := step_reads k h token rest
    rw [readAll, List.any_cons, ← Bool.or_assoc]
    cases isShown : token.shows with
    | true =>
      -- Tokens after it may be skipped, but it is shown.
      rw [isShown] at reads
      simpa using readAll_reads_of_shown k m _ (by simpa using reads)
    | false =>
      rw [isShown] at reads
      simp only [others isShown]
      exact ih (by simpa using enough) reads

/-- The events of a leaf block are those of text. -/
theorem isText_events (tokens : List Token) : IsText (events k tokens) := by
  have nothing : State.Reads ⟨[], []⟩ false := ⟨nofun, nofun, rfl⟩
  exact (Emphasis.resolve_reads (readAll_reads k (Nat.le_refl _) nothing).allPieces.1).1

/-- A leaf block has something to show exactly if one of its tokens has. -/
theorem shows_events (tokens : List Token) :
    shows (events k tokens) = tokens.any Token.shows := by
  have nothing : State.Reads ⟨[], []⟩ false := ⟨nofun, nofun, rfl⟩
  obtain ⟨texts, same⟩ := (readAll_reads k (Nat.le_refl tokens.length) nothing).allPieces
  rw [events, (Emphasis.resolve_reads texts).2, same, Bool.false_or]

end

end Inlines

end TelegramMarkdown.Markdown
