import SourceFlow.Command.Arguments
import SourceFlow.Command.Run
import SourceFlow.Toml.Writer

/-!
# Sessions

A session sets up a workspace and runs commands in it. It is written as
lines, each with a word that says what the line is for:

* `time Y M D h m s` sets the clock;
* `directory PATH` makes a directory;
* `file PATH` starts a file, `| TEXT` adds a line to it, and
  `node DEPTH START STOP KIND MARK…` adds a node to its syntax tree, in
  the order in which the nodes start; a mark is `anonymous`, `missing` or
  `field:NAME`. A text without nodes counts as one broken region;
* `setting TEXT` adds a line to the settings file;
* `run WORDS` runs a command, and `print PATH` shows a file.

Commands see what earlier ones left behind, so a report that was written
can be shown, and settings that were stored count from then on.
-/

namespace SourceFlow

/-! ## Syntax trees in lines -/

/-- A node of a syntax tree on a line of its own. -/
structure NodeLine where
  depth : Nat
  /-- The name that the node has as a child. -/
  field : Option String := none
  node : Syntax.Node

namespace NodeLine

def mark (l : NodeLine) (word : String) : Option NodeLine :=
  match word with
  | "anonymous" => some { l with node := { l.node with named := false } }
  | "missing" => some { l with node := { l.node with missing := true } }
  | _ =>
    if Text.startsWith word "field:" then some { l with field := some (Text.dropFirst 6 word) }
    else none

def ofWords : List String → Option NodeLine
  | depth :: start :: stop :: kind :: marks => do
    let node : Syntax.Node := { kind, start := ← start.toNat?, stop := ← stop.toNat? }
    marks.foldlM mark { depth := ← depth.toNat?, node }
  | _ => none

/-- Puts a node before nodes that follow it: those deeper than the node, up to the first that is
not, become its children. -/
def adopt (l : NodeLine) (following : List NodeLine) : List NodeLine :=
  let below := following.takeWhile fun m => l.depth < m.depth
  -- what follows has been adopted already, so only the nodes one level down are left
  let children := below.map (·.node)
  let fields := below.zipIdx.filterMap fun m => m.1.field.map fun name => (name, m.2)
  let hasError := Syntax.Node.damaged l.node.kind l.node.missing children
  { l with node := { l.node with children, fields, hasError } } ::
    following.dropWhile fun m => l.depth < m.depth

/-- The syntax tree in lines. -/
def tree? (lines : List NodeLine) : Option Syntax.Node :=
  -- from the last line on, so that every node finds what is below it finished
  (lines.foldr adopt []).head?.map (·.node)

end NodeLine

/-! ## Lines -/

/-- What a line of a session is for. -/
inductive Directive where
  | nothing
  | time (t : Timestamp)
  | directory (path : String)
  | file (path : String)
  | textLine (text : String)
  | node (line : NodeLine)
  | setting (text : String)
  | run (words : List String)
  | print (path : String)

namespace Directive

def words (cs : List Char) : List String :=
  ((cs.splitOn ' ').map String.ofList).filter (· ≠ "")

def timeOf (numbers : List String) : Option Timestamp :=
  match numbers.mapM String.toNat? with
  | some [year, month, day, hour, minute, second] =>
    some { year, month, day, hour, minute, second }
  | _ => none

def ofLine? (line : String) : Option Directive :=
  let cs := line.toList
  let rest := (cs.dropWhile (· ≠ ' ')).drop 1
  match String.ofList (cs.takeWhile (· ≠ ' ')) with
  | "" => if rest.isEmpty then some .nothing else none
  | "time" => (timeOf (words rest)).map .time
  | "directory" => some (.directory (String.ofList rest))
  | "file" => some (.file (String.ofList rest))
  | "|" => some (.textLine (String.ofList rest))
  | "node" => (NodeLine.ofWords (words rest)).map .node
  | "setting" => some (.setting (String.ofList rest))
  | "run" => some (.run (words rest))
  | "print" => some (.print (String.ofList rest))
  | _ => none

end Directive

/-! ## Output -/

def rowText (cells : List String) : String :=
  " | ".intercalate cells ++ "\n"

def Output.text : Output → String
  | .echo text => text
  | .table title headers rows => title ++ "\n" ++ String.join ((headers :: rows).map rowText)
  | .styled text => text ++ "\n"

def CommandError.message : CommandError → String
  | .badParameter message => message
  | .settingsFile .undecodable => "The settings file is not valid UTF-8."
  | .settingsFile (.unreadable _) => "The settings file cannot be read."
  | .settingsFile (.unwritable _) => "The settings cannot be written; the settings file is empty."
  | .settingsFile .notACollection | .settingsFile .notPairs | .settingsFile .unnamed =>
    "The settings in the settings file are not a table."
  | .cannotWrite _ => "The report cannot be written below a file."

/-- What the user is told of the end of a command, and the exit code. -/
def Ending.report : Ending → String × Nat
  | .finished => ("", 0)
  | .exited code => ("", code)
  | .failed e => ("Error: " ++ e.message ++ "\n", 2)

/-! ## Steps -/

/-- A file while its lines are read, the last ones first. -/
structure OpenFile where
  path : String
  lines : List String := []
  nodes : List NodeLine := []

/-- The file once all its lines are read. -/
def OpenFile.content (f : OpenFile) : FileContent :=
  { bytes := Utf8.encode (String.join (f.lines.reverse.map (· ++ "\n"))).toList }

/-- A text with its tree, as a script of some kind. -/
structure KnownTree where
  kind : Option ScriptKind
  text : String
  tree : Syntax.Node

/-- The tree that the lines of a file give its text. -/
def OpenFile.knownTree? (f : OpenFile) : Option KnownTree :=
  (NodeLine.tree? f.nodes.reverse).map fun tree =>
    { kind := ScriptKind.ofPath? f.path, text := Sources.textOf f.content.bytes, tree }

/-- The parser that knows some trees. Any other text is one broken region to it. -/
def Parser.ofTrees (trees : List KnownTree) : Parser := fun id text =>
  match trees.find? fun t => t.kind = ScriptKind.ofPath? id ∧ t.text = text with
  | some known => known.tree
  | none =>
    { kind := Syntax.Node.errorKind, start := 0, stop := (Syntax.Source.ofText text).bytes.length
      hasError := true }

/-- A session while it is run: the workspace, the trees that are known, the file being read, the
lines of the settings file, and the exit code of the last command. -/
structure Session where
  workspace : Workspace
  trees : List KnownTree := []
  openFile : Option OpenFile := none
  settingLines : List String := []
  code : Nat := 0

namespace Session

/-- What the clock shows until it is set. -/
def firstTime : Timestamp :=
  { year := 1970, month := 1, day := 1, hour := 0, minute := 0, second := 0 }

/-- A session in an empty directory. -/
def start : Session :=
  { workspace := { now := firstTime, parser := .ofTrees [], format := Toml.format } }

/-- Something that the session could not do. -/
def refuse (s : Session) (message : String) : Session × String :=
  ({ s with code := 2 }, "Error: " ++ message ++ "\n")

def changeFiles (s : Session) (path : String)
    (change : List String → FileTree → Except FileTree.WriteError FileTree) : Session × String :=
  match (PurePath.ofText path).place? with
  | none => s.refuse ("'" ++ path ++ "' is not below the working directory.")
  | some place =>
    match change place s.workspace.files with
    | .ok files => ({ s with workspace.files := files }, "")
    | .error _ => s.refuse ("'" ++ path ++ "' is below a file.")

/-- Puts the file that is being read into the workspace, and its tree among those that the parser
knows. -/
def closeFile (s : Session) : Session × String :=
  match s.openFile with
  | none => (s, "")
  | some f =>
    let trees := f.knownTree?.toList ++ s.trees
    let s := { s with openFile := none, trees, workspace.parser := .ofTrees trees }
    s.changeFiles f.path fun place t => t.writeFile place f.content

def extendFile (s : Session) (change : OpenFile → OpenFile) : Session × String :=
  match s.openFile with
  | none => s.refuse "No file to add to."
  | some f => ({ s with openFile := some (change f) }, "")

def addSetting (s : Session) (line : String) : Session :=
  let settingLines := s.settingLines ++ [line]
  let bytes := Utf8.encode ("\n".intercalate settingLines).toList
  { s with settingLines, workspace.settings := .ofBytes bytes }

def runWords (s : Session) (words : List String) : Session × String :=
  match Command.ofWords words with
  | .error e => s.refuse e.message
  | .ok command =>
    let outcome := command.run s.workspace
    let (message, code) := outcome.ending.report
    ({ s with workspace := outcome.workspace, code },
      String.join (outcome.outputs.map Output.text) ++ message)

def printFile (s : Session) (path : String) : Session × String :=
  match (PurePath.ofText path).place?.bind fun place => s.workspace.files.fileAt? place with
  | some content => (s, String.ofList (Utf8.decodeReplacing content.bytes))
  | none => s.refuse ("No file '" ++ path ++ "'.")

/-- Obeys a line that is not part of a file. -/
def obey (s : Session) : Directive → Session × String
  | .time now => ({ s with workspace.now := now }, "")
  | .directory path => s.changeFiles path FileTree.makeDirectory
  | .file path => ({ s with openFile := some { path } }, "")
  | .setting text => (s.addSetting text, "")
  | .run words => s.runWords words
  | .print path => s.printFile path
  | .nothing | .textLine _ | .node _ => (s, "")

/-- Obeys a line. A line that is not part of a file ends the file before it. -/
def step (s : Session) (line : String) : Session × String :=
  match Directive.ofLine? line with
  | none => s.refuse ("Not understood: " ++ line)
  | some .nothing => (s, "")
  | some (.textLine text) => s.extendFile fun f => { f with lines := text :: f.lines }
  | some (.node node) => s.extendFile fun f => { f with nodes := node :: f.nodes }
  | some directive =>
    -- what goes wrong while the file is closed is said before anything else
    let (s, before) := s.closeFile
    let (s, after) := s.obey directive
    (s, before ++ after)

end Session

end SourceFlow
