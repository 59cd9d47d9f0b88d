import SourceFlow.Value.Basic

/-!
# Settings

The seven settings of an analysis. A setting may hold a value of any
kind; whether the values make sense is checked separately. Settings are
read from a table, where unknown names are passed over, and merged with
overrides, where unknown names are refused.
-/

namespace SourceFlow

inductive Setting where
  | maxDepth
  | maxNodes
  | detectCycles
  | entryPattern
  | drawDiagram
  | format
  | depthThreshold
deriving DecidableEq, Repr

namespace Setting

/-- Every setting, in the order in which they are listed. -/
def all : List Setting :=
  [.maxDepth, .maxNodes, .detectCycles, .entryPattern, .drawDiagram, .format, .depthThreshold]

/-- The name under which a setting is stored and shown. -/
def name : Setting → String
  | .maxDepth => "max_depth"
  | .maxNodes => "max_nodes"
  | .detectCycles => "enable_circular_detection"
  | .entryPattern => "entry_point_pattern"
  | .drawDiagram => "include_mermaid_diagram"
  | .format => "output_format"
  | .depthThreshold => "depth_threshold"

def ofName? (name : String) : Option Setting :=
  all.find? (·.name == name)

/-- The value of a setting that was not given one. -/
def default : Setting → Value
  | .maxDepth => .int 10
  | .maxNodes => .int 1000
  | .detectCycles => .bool true
  | .entryPattern => .null
  | .drawDiagram => .bool true
  | .format => .text "markdown"
  | .depthThreshold => .null

end Setting

/-- A value for every setting. -/
abbrev Settings := Setting → Value

namespace Settings

def defaults : Settings := Setting.default

def set (s : Settings) (setting : Setting) (value : Value) : Settings :=
  fun other => if other = setting then value else s other

/-- The settings in a table, defaults for those it does not have. -/
def ofTable (t : Table) : Settings :=
  fun setting => (Ordered.get? t setting.name).getD setting.default

/-- All names and values, in order. -/
def toList (s : Settings) : List (String × Value) :=
  Setting.all.map fun setting => (setting.name, s setting)

/-- A name that is no setting was given a value. -/
structure UnknownSetting where
  name : String
deriving DecidableEq, Repr

/-- What is said about an unknown name. -/
def UnknownSetting.message (e : UnknownSetting) : String :=
  "FlowConfig.__init__() got an unexpected keyword argument '" ++ e.name ++ "'"

/-- The settings with values given by name. Every name has to be that of a setting. -/
def ofNamed (values : List (String × Value)) : Except UnknownSetting Settings :=
  match values.find? fun v => (Setting.ofName? v.1).isNone with
  | some (name, _) => .error ⟨name⟩
  | none => .ok (ofTable values)

/-- The settings with overrides applied in order. A null override changes nothing, whatever its
name; any other needs the name of a setting. -/
def merge (s : Settings) : List (String × Value) → Except UnknownSetting Settings
  | [] => .ok s
  | (name, value) :: rest =>
    if value.isNull then merge s rest
    else
      match Setting.ofName? name with
      | none => .error ⟨name⟩
      | some setting => merge (s.set setting value) rest

/-- The value above which depth is reported: the threshold, or the depth limit without one. -/
def effectiveThreshold (s : Settings) : Value :=
  if (s .depthThreshold).isNull then s .maxDepth else s .depthThreshold

end Settings

end SourceFlow
