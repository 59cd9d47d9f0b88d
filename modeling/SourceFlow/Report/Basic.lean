import SourceFlow.Report.Diagram
import SourceFlow.Report.Markdown
import SourceFlow.Report.OutlineText
import SourceFlow.Settings.Options

/-!
# Reports

Everything that is reported about one analysis.
-/

namespace SourceFlow

structure Report where
  roots : List Outline
  issues : List Issue
  statistics : Statistics
  text : String
  filename : String
  time : Timestamp
  diagram : Option String := none

namespace Report

/-- The name of the file that a report goes into. -/
def filenameFor (time : Timestamp) (format : String) : String :=
  "analysis-report-" ++ time.fileStamp ++ "." ++
    ((ReportFormat.ofName? format).getD .markdown).extension

/-- The report on a project and its flow graph, made of its parts. -/
def assemble (time : Timestamp) (label : String) (p : Project) (g : FlowGraph)
    (roots : List Outline) (issues : List Issue) (format : String) (diagram : Option String) :
    Report :=
  let statistics := Statistics.of p g
  { roots, issues, statistics, time, diagram
    text := Markdown.render (Outline.render roots) statistics issues time label
    filename := filenameFor time format }

def of (options : Options) (time : Timestamp) (label : String) (p : Project) (g : FlowGraph) :
    Report :=
  assemble time label p g (Outline.ofGraph g options.maxDepth)
    (Issue.ofGraph g options.effectiveThreshold) options.format
    (if options.drawDiagram then some (Diagram.render g options.maxNodes) else none)

end Report

end SourceFlow
