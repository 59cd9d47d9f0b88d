import SourceFlow.Flow.Analysis
import SourceFlow.Flow.Build
import SourceFlow.Report.Basic

/-!
# Whole analyses

From the source units of a project to a report on them.
-/

namespace SourceFlow

structure Analysis where
  project : Project
  graph : FlowGraph
  report : Report

namespace Analysis

/-- Analyses the facts of units with checked options. -/
def ofUnits (options : Options) (time : Timestamp) (label : String) (units : List UnitFacts) :
    Analysis :=
  let project := Project.ofUnits units
  let (nodes, edges) := Flow.build options.maxNodes project
  let graph := Flow.analyze options nodes edges
  { project, graph, report := Report.of options time label project graph }

def run (options : Options) (loaded : List Grammar) (time : Timestamp) (label : String)
    (sources : List SourceUnit) : Analysis :=
  ofUnits options time label (Project.readUnits loaded sources)

/-- Analyses source units, if the settings make sense. -/
def runWith (settings : Settings) (loaded : List Grammar) (time : Timestamp) (label : String)
    (sources : List SourceUnit) : Except ConfigurationError Analysis :=
  settings.check.map fun options => run options loaded time label sources

/-- Why there is no analysis of raw units. -/
inductive Refusal where
  /-- The settings do not make sense. -/
  | configuration (e : ConfigurationError)
  /-- A text to be parsed has no bytes. -/
  | unencodable (e : Unencodable)

/-- Analyses raw units, if the settings make sense and every text to be parsed has bytes. The
settings are checked first. -/
def runRaw (settings : Settings) (loaded : List Grammar) (time : Timestamp) (label : String)
    (units : List RawUnit) : Except Refusal Analysis :=
  match settings.check with
  | .error e => .error (.configuration e)
  | .ok options =>
    match Project.readRaw loaded units with
    | .error e => .error (.unencodable e)
    | .ok facts => .ok (ofUnits options time label facts)

end Analysis

end SourceFlow
