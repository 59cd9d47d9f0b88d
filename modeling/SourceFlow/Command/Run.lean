import SourceFlow.Analysis
import SourceFlow.Command.Basic
import SourceFlow.Report.Document

/-!
# Running commands

Each command as a function of the workspace.
-/

namespace SourceFlow

namespace Workspace

/-- The error of a command that cannot load the settings it needs. A value of the wrong kind in the
settings file counts as an error of the configuration. -/
def loadError : SettingsFileError → CommandError
  | .unreadable (.wrongKind message) => .badParameter (configurationErrorLead ++ message)
  | e => .settingsFile e

/-- The stored settings with overrides, checked: the settings and the options read from them. -/
def effective (w : Workspace) (overrides : List (String × Value)) :
    Except CommandError (Settings × Options) :=
  match w.settings.load w.format with
  | .error e => .error (loadError e)
  | .ok stored =>
    -- what is checked are all settings together, not only those given
    match stored.merge overrides with
    | .error e => .error (.badParameter (configurationErrorLead ++ e.message))
    | .ok settings =>
      match settings.check with
      | .error e => .error (.badParameter e.message)
      | .ok options => .ok (settings, options)

/-- The source units at a path. -/
def sourcesAt (w : Workspace) (path : String) : List SourceUnit :=
  Sources.loadPath w.parser Sources.maxFileSize w.files (.ofText path)

/-! ## analyze -/

def summary (r : Report) : Output :=
  .table "Analysis summary" ["Metric", "Value"]
    ([("Files", r.statistics.files), ("Functions", r.statistics.functions),
      ("Nodes", r.statistics.nodes), ("Edges", r.statistics.edges),
      ("Max depth", r.statistics.maxDepth), ("Cycles", r.statistics.cycles),
      ("Issues", (r.issues.length : Int))].map fun row => [row.1, Text.decimal row.2])

/-- Where a report goes: in a directory it gets a name of its own. -/
def reportPath (w : Workspace) (output : PurePath) (r : Report) : PurePath :=
  match output.place?.bind fun place => w.files.at? place with
  | some (.directory _) => output.child r.filename
  -- a path where nothing is, or a file, is taken as it is
  | _ => output

/-- Writes a report below the working directory. -/
def writeReport (w : Workspace) (path : PurePath) (document : String) :
    Except FileTree.WriteError Workspace :=
  match path.place? with
  | none => .error .notADirectory
  | some place =>
    (w.files.writeFile place ⟨Utf8.encode document.toList⟩).map fun files => { w with files }

/-- Shows a report, or writes it and shows a summary. -/
def deliver (w : Workspace) (r : Report) (format : String) (output : Option String) : Outcome :=
  match r.render format with
  | .error e => { workspace := w, ending := .failed (.badParameter e.message) }
  | .ok document =>
    match output with
    | none => { workspace := w, outputs := [.echo (document ++ "\n")] }
    | some text =>
      let path := w.reportPath (.ofText text) r
      match w.writeReport path document with
      | .error e => { workspace := w, ending := .failed (.cannotWrite e) }
      | .ok w' =>
        { workspace := w'
          outputs := [summary r, .echo ("Report written to " ++ path.text ++ "\n")] }

def analyze (w : Workspace) (path : String) (given : GivenSettings) (output : Option String) :
    Outcome :=
  match w.effective given.toList with
  | .error e => { workspace := w, ending := .failed e }
  | .ok (_, options) =>
    let a := Analysis.run options Grammar.all w.now (PurePath.ofText path).text (w.sourcesAt path)
    w.deliver a.report options.format output

/-! ## facts and graph -/

/-- The source unit of one file; its id is the bare name. -/
def unitAt? (w : Workspace) (path : String) : Option SourceUnit := do
  let place ← (PurePath.ofText path).place?
  let content ← w.files.fileAt? place
  Sources.readUnit? w.parser Sources.maxFileSize (place.getLast?.getD "") content

def showFacts (w : Workspace) (path : String) : Outcome :=
  match w.unitAt? path with
  | none =>
    let message := "Could not read '" ++ (PurePath.ofText path).text ++ "'."
    { workspace := w, ending := .failed (.badParameter message) }
  | some unit =>
    { workspace := w, outputs := [.echo (unit.facts Grammar.all).jsonDocument] }

def graphTable (p : Project) : Output :=
  .table ("Import graph (" ++ p.counts.units.repr ++ " units)") ["Unit", "Imports"]
    (p.graph.map fun e => [e.1, if e.2.isEmpty then "-" else ", ".intercalate e.2])

def cycleLines (p : Project) : List Output :=
  if p.cycles.isEmpty then [.styled "[green]No circular dependencies.[/green]"]
  else
    .styled "[yellow]Circular dependencies:[/yellow]" ::
      p.cycles.map fun c => .styled ("  " ++ loopText c)

/-- Shows the import graph of what is at a path. -/
def showGraph (w : Workspace) (path : String) (asJson : Bool) : Outcome :=
  let p := Project.ofUnits (Project.readUnits Grammar.all (w.sourcesAt path))
  -- an empty graph is a document, but no table
  if asJson then { workspace := w, outputs := [.echo p.graphDocument] }
  else if p.units.isEmpty then
    { workspace := w, outputs := [.echo "No source units found.\n"], ending := .exited 0 }
  else { workspace := w, outputs := graphTable p :: cycleLines p }

/-! ## Settings -/

def showSettings (w : Workspace) : Outcome :=
  match w.settings.load w.format with
  | .error e => { workspace := w, ending := .failed (.settingsFile e) }
  | .ok s =>
    { workspace := w
      outputs := [.table "Flow configuration" ["Option", "Value"]
        (s.toList.map fun row => [row.1, if row.2.isNull then "-" else row.2.shown])] }

def savedText (values : List (String × Value)) : String :=
  "Saved: " ++ ", ".intercalate (values.map fun v => v.1 ++ "=" ++ v.2.shown) ++ "\n"

/-- The end of a command that changed the settings file, with what is said of success and of
failure. -/
def settingsChanged (w : Workspace) (change : Except SettingsFileError Bool × SettingsFile)
    (success failure : String) : Outcome :=
  let w := { w with settings := change.2 }
  match change.1 with
  | .error e => { workspace := w, ending := .failed (.settingsFile e) }
  | .ok false => { workspace := w, outputs := [.echo failure], ending := .exited 1 }
  | .ok true => { workspace := w, outputs := [.echo success] }

/-- Stores settings if all of them together make sense. -/
def storeSettings (w : Workspace) (given : GivenSettings) : Outcome :=
  let values := given.toList
  if values.isEmpty then
    { workspace := w
      ending := .failed (.badParameter "Nothing to set. Pass at least one option.") }
  else
    match w.effective values with
    | .error e => { workspace := w, ending := .failed e }
    -- what is saved are the given settings, not those that they were merged with
    | .ok _ =>
      w.settingsChanged (w.settings.save w.format values) (savedText values)
        "Failed to save configuration.\n"

def resetSettings (w : Workspace) : Outcome :=
  w.settingsChanged (w.settings.clear w.format) "Flow configuration reset to defaults.\n"
    "Failed to reset configuration.\n"

/-- Shows the version and ends, if asked to. -/
def showVersion (w : Workspace) (asked : Bool) : Outcome :=
  if asked then { workspace := w, outputs := [.echo "CodeFlow CLI v0.3.0\n"], ending := .exited 0 }
  else { workspace := w }

end Workspace

namespace Command

def run (w : Workspace) : Command → Outcome
  | .analyze path given output => w.analyze path given output
  | .facts path => w.showFacts path
  | .graph path asJson => w.showGraph path asJson
  | .showSettings => w.showSettings
  | .storeSettings given => w.storeSettings given
  | .resetSettings => w.resetSettings
  | .version asked => w.showVersion asked

/-- The level below which log messages are left out. -/
def logLevel (verbose : Bool) : Nat :=
  if verbose then 10 else 30

end Command

end SourceFlow
