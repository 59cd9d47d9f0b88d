import SourceFlow.Json.Writer
import SourceFlow.Report.Encoding
import SourceFlow.Report.Html

/-!
# Report documents

A report in one of its three formats. The facts of a unit and the graph of
a project are shown as JSON only, for readers of ASCII.
-/

namespace SourceFlow

namespace Report

/-- The report as markdown, with the diagram in a fence of its own if there is one. -/
def markdownDocument (r : Report) : String :=
  -- however the text ends, one line feed follows it
  Text.dropTrailingNewlines r.text ++ "\n" ++
    match r.diagram with
    | none => ""
    | some diagram =>
      if diagram.isEmpty then ""
      else
        "\n## Flow Diagram\n\n" ++ Markdown.fence ++ "mermaid\n" ++
          Text.dropTrailingNewlines diagram ++ "\n" ++ Markdown.fence ++ "\n"

def jsonDocument (r : Report) : String :=
  r.toJson.document .unicode ++ "\n"

def document (r : Report) : ReportFormat → String
  | .markdown => r.markdownDocument
  | .json => r.jsonDocument
  | .html => Html.page r

/-- The report in the format of a name, if it is the name of one. -/
def render (r : Report) (format : String) : Except ConfigurationError String :=
  match ReportFormat.ofName? format with
  | some f => .ok (r.document f)
  | none => .error ⟨[.cannotRender format]⟩

end Report

def UnitFacts.jsonDocument (u : UnitFacts) : String :=
  u.toJson.document .ascii ++ "\n"

/-- The import graph of a project and its cycles as JSON. -/
def Project.graphDocument (p : Project) : String :=
  p.graphJson.document .ascii ++ "\n"

end SourceFlow
