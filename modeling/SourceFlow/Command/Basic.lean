import SourceFlow.Files.Sources
import SourceFlow.Settings.File
import SourceFlow.Settings.Options
import SourceFlow.Time

/-!
# Commands

What the command line can be asked for, what it works on and what it
answers. A command works on a workspace, a value that holds the files,
the settings file and the time, and the two things that the commands do
not do themselves: parsing scripts, and reading and writing the format of
the settings file. A command leaves a workspace behind, a list of outputs,
and the way it ended.
-/

namespace SourceFlow

/-- What commands work on. -/
structure Workspace where
  files : FileTree := .empty
  settings : SettingsFile := .absent
  now : Timestamp
  parser : Parser
  format : Toml.Format

inductive Output where
  /-- Plain text. -/
  | echo (text : String)
  /-- A table with a title and a row of headers. -/
  | table (title : String) (headers : List String) (rows : List (List String))
  /-- A line of styled text. -/
  | styled (text : String)
deriving DecidableEq, Repr

inductive CommandError where
  /-- What was asked for makes no sense. -/
  | badParameter (message : String)
  /-- The settings file cannot be used. -/
  | settingsFile (error : SettingsFileError)
  /-- The report cannot be written. -/
  | cannotWrite (error : FileTree.WriteError)
deriving DecidableEq, Repr

inductive Ending where
  | finished
  | exited (code : Nat)
  | failed (error : CommandError)
deriving DecidableEq, Repr

/-- What a command leaves behind. -/
structure Outcome where
  workspace : Workspace
  outputs : List Output := []
  ending : Ending := .finished

structure GivenSettings where
  maxDepth : Option Int := none
  maxNodes : Option Int := none
  entryPattern : Option String := none
  detectCycles : Option Bool := none
  drawDiagram : Option Bool := none
  format : Option String := none
  depthThreshold : Option Int := none
deriving DecidableEq, Repr

/-- The given settings by name, in the order in which they are repeated back. -/
def GivenSettings.toList (g : GivenSettings) : List (String × Value) :=
  [(Setting.maxDepth, g.maxDepth.map Value.int), (.maxNodes, g.maxNodes.map .int),
   (.entryPattern, g.entryPattern.map .text), (.detectCycles, g.detectCycles.map .bool),
   (.drawDiagram, g.drawDiagram.map .bool), (.format, g.format.map .text),
   (.depthThreshold, g.depthThreshold.map .int)].filterMap fun p =>
     p.2.map fun v => (p.1.name, v)

inductive Command where
  /-- Analyse a directory or file, and show or write the report. -/
  | analyze (path : String) (given : GivenSettings) (output : Option String)
  /-- Show the facts of one file. -/
  | facts (path : String)
  /-- Show the import graph of a directory or file. -/
  | graph (path : String) (asJson : Bool)
  /-- Show the stored settings. -/
  | showSettings
  /-- Store settings. -/
  | storeSettings (given : GivenSettings)
  /-- Forget the stored settings. -/
  | resetSettings
  /-- Show the version, if asked to. -/
  | version (asked : Bool)

end SourceFlow
