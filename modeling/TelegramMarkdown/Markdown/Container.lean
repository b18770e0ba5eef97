import TelegramMarkdown.Markdown.Margin

/-!
Container blocks and the prefixes by which a line continues them.

The containers that are open where a line starts form a list, outermost first.
The line continues a quotation by its `>` and a list item by its indentation;
lists themselves have no prefix. `Container.matching` reads as many prefixes as
it finds in order, and `Container.skipPrefixes` passes over them.
-/

namespace TelegramMarkdown.Markdown

/-- A block that holds blocks. -/
inductive Container where
  /-- A quotation. -/
  | quote
  /-- A list, with the character of its markers and whether it is numbered. It
  stays tight until a blank line separates its items or their blocks. -/
  | list (marker : Char) (ordered tight : Bool)
  /-- A list item, with the columns that indent its content. -/
  | item (indent : Nat)
  /-- A list of terms and definitions. -/
  | definitionList (tight : Bool)
  /-- A definition, with the columns that indent its content. -/
  | definition (indent : Nat)
  deriving DecidableEq

namespace Container

/-- Whether the container is a list of items or of definitions. -/
def isList : Container → Bool
  | list .. | definitionList _ => true
  | _ => false

/-- Whether the container is an item of a list or a definition. -/
def isItem : Container → Bool
  | item _ | definition _ => true
  | _ => false

/-- Whether the container is a definition. -/
def isDefinition : Container → Bool
  | definition _ => true
  | _ => false

/-- The same list, loose. -/
def loosen : Container → Container
  | list marker ordered _ => list marker ordered false
  | definitionList _ => definitionList false
  | c => c

/-- Whether paragraphs directly in the items of this list go without paragraph
markup of their own. -/
def isTightList : Container → Bool
  | list _ _ tight | definitionList tight => tight
  | _ => false

/-- The margin after the prefix that continues the container on this line. An
empty line continues an item whatever its indentation. -/
def continue? (m : Margin) : Container → Option Margin
  | quote => m.quoteMarker?
  | item columns | definition columns =>
    let (missing, after) := m.useColumns columns
    if missing = 0 || after.atLineEnd then some after else none
  | _ => some m

/-- Read the prefixes of the containers, outermost first, as far as they match;
answers how many do. -/
def matching : List Container → Margin → Nat × Margin
  | [], m => (0, m)
  | c :: cs, m =>
    match c.continue? m with
    | some after =>
      let (n, rest) := matching cs after
      (n + 1, rest)
    | none => (0, m)

/-- The margin of a line after the prefixes of all the containers. -/
def matchingAll? (cs : List Container) (m : Margin) : Option Margin :=
  let (n, after) := matching cs m
  if n = cs.length then some after else none

/-- The start of a line's content behind those prefixes that match. -/
def skipPrefixes (cs : List Container) (c : Cursor) : Cursor :=
  (matching cs (Margin.ofLine c)).2.cursor

end Container

end TelegramMarkdown.Markdown
