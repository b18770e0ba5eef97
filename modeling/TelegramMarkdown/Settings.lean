import TelegramMarkdown.Markdown.Opening

/-!
The settings of the parser: which extensions of Markdown it recognises.
-/

namespace TelegramMarkdown

/-- Which extensions are recognised. -/
structure Settings where
  tables : Bool
  taskLists : Bool
  strikethrough : Bool
  /-- `||content||`. -/
  spoilers : Bool
  /-- Bare URLs. -/
  autolinks : Bool
  definitionLists : Bool
  /-- Quotations that start with `[!NOTE]` or the like. -/
  alerts : Bool
  deriving DecidableEq

namespace Settings

/-- Everything is recognised. -/
def default : Settings :=
  ⟨true, true, true, true, true, true, true⟩

/-- The extensions that concern the syntax of Markdown. -/
def extensions (s : Settings) : Markdown.Extensions :=
  { tables := s.tables
    taskLists := s.taskLists
    strikethrough := s.strikethrough
    definitionLists := s.definitionLists
    alerts := s.alerts }

end Settings

end TelegramMarkdown
