import TelegramMarkdown.Document.OfEvents
import TelegramMarkdown.Markdown.Event.OfText
import TelegramMarkdown.Render.Block
import TelegramMarkdown.Settings

/-!
From Markdown to MarkdownV2: a text is read as a document (`Document.ofMarkdown`),
and the document is rendered (`convert`).
-/

namespace TelegramMarkdown

/-- The text with placeholders for its spoilers, and their contents, as far as
spoilers are recognised. -/
def hideSpoilers (s : Settings) (markdown : Text) : Text × List Text :=
  let found? :=
    if s.spoilers && Text.occursIn Spoiler.delimiter markdown then
      Spoiler.mark? (Markdown.verbatimSpans s.extensions markdown) markdown
    else none
  found?.getD (markdown, [])

/-- The document that a Markdown text is read as. -/
def Document.ofMarkdown (s : Settings) (markdown : Text) : Document :=
  let (source, hidden) := hideSpoilers s markdown
  Document.ofEvents s.autolinks hidden (Markdown.events s.extensions source)

/-- A Markdown text as MarkdownV2. -/
def convert (s : Settings) (markdown : Text) : Text :=
  (Document.ofMarkdown s markdown).render

end TelegramMarkdown
