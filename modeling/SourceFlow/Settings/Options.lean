import SourceFlow.Settings.Basic
import SourceFlow.Value.Literal

/-!
# Options

Settings that have been checked become options with proper types. The
check looks at five settings in a fixed order and reports one problem for
each that does not make sense; the two switches accept any value.
-/

namespace SourceFlow

/-! ## Formats -/

/-- The formats a report can be written in. -/
inductive ReportFormat where
  | markdown
  | json
  | html
deriving DecidableEq, Repr

namespace ReportFormat

def all : List ReportFormat :=
  [.markdown, .json, .html]

def name : ReportFormat → String
  | .markdown => "markdown"
  | .json => "json"
  | .html => "html"

/-- The extension of a file in the format, without its dot. -/
def extension : ReportFormat → String
  | .markdown => "md"
  | .json => "json"
  | .html => "html"

def ofName? (name : String) : Option ReportFormat :=
  all.find? (·.name == name)

end ReportFormat

/-! ## Problems -/

/-- No depth limit may be larger. -/
def maxDepthCeiling : Int := 256

/-- What is wrong with a configuration. -/
inductive Problem where
  | depthNotPositive (got : Value)
  | depthAboveCeiling (got : Int)
  | nodesNotPositive (got : Value)
  | thresholdNegative (got : Value)
  | formatUnknown (got : Value)
  | patternNotText
  | cannotRender (format : String)

/-- The problem in words. -/
def Problem.message : Problem → String
  | .depthNotPositive got => "max_depth must be a positive integer (got " ++ got.literal ++ ")"
  | .depthAboveCeiling got =>
    "max_depth must not exceed " ++ Text.decimal maxDepthCeiling ++
      " (got " ++ Text.decimal got ++ ")"
  | .nodesNotPositive got => "max_nodes must be a positive integer (got " ++ got.literal ++ ")"
  | .thresholdNegative got =>
    "depth_threshold must be a non-negative integer (got " ++ got.literal ++ ")"
  | .formatUnknown got =>
    "output_format must be one of " ++ ", ".intercalate (ReportFormat.all.map (·.name)) ++
      " (got " ++ got.literal ++ ")"
  | .patternNotText => "entry_point_pattern must be a string"
  | .cannotRender format => "Unknown output format " ++ Text.literal format

/-- Everything that is wrong with a configuration. -/
structure ConfigurationError where
  problems : List Problem

/-- What every message about a configuration begins with. -/
def configurationErrorLead : String := "Invalid flow configuration: "

/-- All problems in one message. -/
def ConfigurationError.message (e : ConfigurationError) : String :=
  configurationErrorLead ++ "; ".intercalate (e.problems.map (·.message))

/-! ## The check -/

namespace Settings

/-- The problem with a depth limit. -/
def depthProblem : Value → Option Problem
  | .int n =>
    -- of the two bounds one at most is reported
    if n < 1 then some (.depthNotPositive (.int n))
    else if n > maxDepthCeiling then some (.depthAboveCeiling n)
    else none
  | v => some (.depthNotPositive v)

def nodesProblem : Value → Option Problem
  | .int n => if n < 1 then some (.nodesNotPositive (.int n)) else none
  | v => some (.nodesNotPositive v)

def thresholdProblem : Value → Option Problem
  | .null => none
  | .int n => if n < 0 then some (.thresholdNegative (.int n)) else none
  | v => some (.thresholdNegative v)

def formatProblem : Value → Option Problem
  | .text s => if (ReportFormat.ofName? s).isSome then none else some (.formatUnknown (.text s))
  | v => some (.formatUnknown v)

def patternProblem : Value → Option Problem
  | .null | .text _ => none
  | _ => some .patternNotText

/-- All problems, in order. -/
def problems (s : Settings) : List Problem :=
  -- in this order, which is not that of the settings
  [depthProblem (s .maxDepth), nodesProblem (s .maxNodes), thresholdProblem (s .depthThreshold),
   formatProblem (s .format), patternProblem (s .entryPattern)].filterMap id

end Settings

/-- Options of an analysis. An unknown format name stands for markdown where only a file name is
wanted, and cannot be rendered. -/
structure Options where
  maxDepth : Int := 10
  maxNodes : Int := 1000
  detectCycles : Bool := true
  entryPattern : Option String := none
  drawDiagram : Bool := true
  format : String := "markdown"
  depthThreshold : Option Int := none
deriving DecidableEq, Repr

/-- The depth above which depth is reported. -/
def Options.effectiveThreshold (o : Options) : Int :=
  o.depthThreshold.getD o.maxDepth

namespace Value

/-- The integer that a value is, or else `fallback`. -/
def intOr (fallback : Int) : Value → Int
  | .int n => n
  | _ => fallback

/-- The text that a value is, or else `fallback`. -/
def textOr (fallback : String) : Value → String
  | .text s => s
  | _ => fallback

def int? : Value → Option Int
  | .int n => some n
  | _ => none

def text? : Value → Option String
  | .text s => some s
  | _ => none

end Value

namespace Settings

/-- Reads the settings at their types. A value of another type reads as if it were not given, which
does not arise for settings without problems. -/
def options (s : Settings) : Options :=
  { maxDepth := (s .maxDepth).intOr 10
    maxNodes := (s .maxNodes).intOr 1000
    detectCycles := (s .detectCycles).isTruthy
    entryPattern := (s .entryPattern).text?
    drawDiagram := (s .drawDiagram).isTruthy
    format := (s .format).textOr "markdown"
    depthThreshold := (s .depthThreshold).int? }

/-- The options of settings without problems, or all the problems. -/
def check (s : Settings) : Except ConfigurationError Options :=
  match s.problems with
  | [] => .ok s.options
  | ps => .error ⟨ps⟩

end Settings

end SourceFlow
