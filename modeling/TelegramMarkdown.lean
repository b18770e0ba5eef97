import TelegramMarkdown.Main
import TelegramMarkdown.Proofs.Escape
import TelegramMarkdown.Proofs.Markup
import TelegramMarkdown.Proofs.Everywhere
import TelegramMarkdown.Proofs.Markup.Inline
import TelegramMarkdown.Proofs.Markup.Lines
import TelegramMarkdown.Proofs.Markup.Nesting
import TelegramMarkdown.Proofs.Markup.Block
import TelegramMarkdown.Proofs.Markup.Style
import TelegramMarkdown.Proofs.Builder
import TelegramMarkdown.Proofs.Text.Offsets
import TelegramMarkdown.Proofs.Spoiler.Parts
import TelegramMarkdown.Proofs.Spoiler.Offsets
import TelegramMarkdown.Proofs.Spoiler.Restore
import TelegramMarkdown.Proofs.Spoiler.Spans
import TelegramMarkdown.Proofs.Completion
import TelegramMarkdown.Proofs.Passages
import TelegramMarkdown.Proofs.BareUrl
import TelegramMarkdown.Proofs.Spoiler.Placeholders
import TelegramMarkdown.Proofs.Spoiler.Shown
import TelegramMarkdown.Proofs.Builder.Invariant
import TelegramMarkdown.Proofs.Html
import TelegramMarkdown.Proofs.Links
import TelegramMarkdown.Proofs.NormalForm
import TelegramMarkdown.Proofs.Markup.LineStart
import TelegramMarkdown.Proofs.Markup.Quote
import TelegramMarkdown.Proofs.Skeleton
import TelegramMarkdown.Proofs.Markdown.Inlines
import TelegramMarkdown.Proofs.Markdown.Outline
import TelegramMarkdown.Proofs.Markdown.Skeleton
import TelegramMarkdown.Proofs.Escape.Reading
import TelegramMarkdown.Proofs.CodeBlock
import TelegramMarkdown.Proofs.Checkboxes
import TelegramMarkdown.Proofs.Builder.Chunks
import TelegramMarkdown.Proofs.BareUrl.Scan
import TelegramMarkdown.Proofs.LinkOrigins
import TelegramMarkdown.Proofs.Quotation
import TelegramMarkdown.Proofs.Items.Lines
import TelegramMarkdown.Proofs.Items.Blocks
import TelegramMarkdown.Proofs.Likeness
import TelegramMarkdown.Proofs.Html.WellNested
import TelegramMarkdown.Proofs.BareUrl.Pieces
import TelegramMarkdown.Proofs.BareUrl.Found
import TelegramMarkdown.Proofs.CommandLine
import TelegramMarkdown.Proofs.Text.Case
import TelegramMarkdown.Proofs.Escape.Delimited
import TelegramMarkdown.Proofs.Markup.Visible
import TelegramMarkdown.Proofs.BareUrl.Stable
import TelegramMarkdown.Proofs.TagName
import TelegramMarkdown.Proofs.Escape.Prose
import TelegramMarkdown.Proofs.BareUrl.Trim
