import SourceFlow.Report.Issue
import SourceFlow.Report.Statistics
import SourceFlow.Text.Lines
import SourceFlow.Time

/-!
# The report as markdown

The body of every report: the outline in a fence, the statistics in a
table, the issues with their suggestions.
-/

namespace SourceFlow.Markdown

/-- The line that opens and closes a fence. -/
def fence : String := "```"

/-- The glyph of a severity; unknown ones have that of information. -/
def glyph (s : Severity) : String :=
  if s = .error then "❌"
  else if s = .warning then "⚠️"
  else "ℹ️"

def statisticsRow (row : String × Int) : String :=
  "| " ++ row.1 ++ " | " ++ Text.decimal row.2 ++ " |"

/-- The lines of an issue, an empty line last. -/
def issueLines (i : Issue) : List String :=
  (glyph i.severity ++ " **" ++ i.type.name ++ "**: " ++ i.message) ::
    (if i.suggestions.isEmpty then [] else "Suggestions:" :: i.suggestions.map ("- " ++ ·)) ++ [""]

def issuesLines (issues : List Issue) : List String :=
  if issues.isEmpty then ["No issues detected.", ""] else issues.flatMap issueLines

def lines (outline : String) (statistics : Statistics) (issues : List Issue) (time : Timestamp)
    (label : String) : List String :=
  ["# Analysis Report", "", "Generated at: " ++ time.iso, "Repository: " ++ label, "",
   -- the outline ends with a line feed, which the fence brings itself
   "## Flow Structure", "", fence, Text.dropTrailingNewlines outline, fence, "",
   "## Statistics", "", "| Metric | Value |", "|--------|-------|"] ++
    statistics.rows.map statisticsRow ++ ["", "## Detected Issues", ""] ++ issuesLines issues

def render (outline : String) (statistics : Statistics) (issues : List Issue) (time : Timestamp)
    (label : String) : String :=
  Text.joinLines (lines outline statistics issues time label)

end SourceFlow.Markdown
