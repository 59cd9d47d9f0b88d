import SourceFlow.Report.Basic

/-!
# The report as a web page

A page that stands on its own. Every text that comes from a report is
escaped, so it cannot open or close an element or leave an attribute.
-/

namespace SourceFlow.Html

/-- One character of escaped text. -/
def escapeChar (c : Char) : List Char :=
  if c = '&' then "&amp;".toList
  else if c = '<' then "&lt;".toList
  else if c = '>' then "&gt;".toList
  else if c = '"' then "&quot;".toList
  else if c = '\'' then "&#x27;".toList
  else [c]

/-- A text without characters that mean something in markup. -/
def escape (s : String) : String :=
  Text.flatMapChars escapeChar s

def statisticsRow (row : String × Int) : String :=
  "      <tr><td>" ++ escape row.1 ++ "</td><td>" ++ Text.decimal row.2 ++ "</td></tr>"

def issueItem (i : Issue) : String :=
  "      <li class=\"" ++ escape i.severity.name ++ "\"><b>" ++ escape i.type.name ++ "</b>: " ++
    escape i.message ++ "</li>"

def issueItems (issues : List Issue) : String :=
  if issues.isEmpty then "      <li>No issues detected.</li>"
  else Text.joinLines (issues.map issueItem)

/-- The panel with the diagram; none without a diagram or for an empty one. -/
def diagramPanel : Option String → String
  | none => ""
  | some diagram =>
    if diagram.isEmpty then ""
    else
      "  <div class=\"panel\">\n    <h2>Flow Diagram</h2>\n    <pre class=\"mermaid\">" ++
        escape diagram ++ "</pre>\n  </div>\n"

/-- The page up to the time of the report. -/
def head : String :=
  "<!doctype html>\n<html>\n<head>\n  <meta charset=\"utf-8\" />\n" ++
  "  <title>CodeFlow Analysis Report</title>\n  <style>\n" ++
  "    body \x7b font-family: ui-monospace, SFMono-Regular, Menlo, monospace; " ++
  "margin: 20px; \x7d\n" ++
  "    .panel \x7b border: 1px solid #ddd; border-radius: 8px; padding: 10px; " ++
  "margin-bottom: 18px; \x7d\n" ++
  "    table \x7b border-collapse: collapse; \x7d\n" ++
  "    td \x7b border: 1px solid #ddd; padding: 4px 10px; \x7d\n" ++
  "    li.warning \x7b color: #b36b00; \x7d\n" ++
  "    li.error \x7b color: #b00020; \x7d\n" ++
  "  </style>\n</head>\n<body>\n  <h1>Analysis Report</h1>\n  <p>Generated at: "

def page (r : Report) : String :=
  -- every text that is not fixed is escaped, numbers apart
  head ++ escape r.time.iso ++
  "</p>\n  <div class=\"panel\">\n    <h2>Statistics</h2>\n    <table>\n" ++
  Text.joinLines (r.statistics.rows.map statisticsRow) ++
  "\n    </table>\n  </div>\n  <div class=\"panel\">\n    <h2>Detected Issues</h2>\n    <ul>\n" ++
  issueItems r.issues ++
  "\n    </ul>\n  </div>\n  <div class=\"panel\">\n    <h2>Report</h2>\n    <pre>" ++
  escape r.text ++
  "</pre>\n  </div>\n" ++ diagramPanel r.diagram ++ "</body>\n</html>\n"

end SourceFlow.Html
