import SourceFlow.Command.Basic

/-!
# Arguments of a command

The words of a command line, read as a command. Options may stand before
or after the path, each command has its own, and of an option given twice
the last one counts.
-/

namespace SourceFlow

inductive UsageError where
  | noCommand
  | unknownCommand (name : String)
  | unknownOption (name : String)
  | missingValue (option : String)
  | notANumber (option value : String)
  /-- The command takes another number of paths than given. -/
  | wrongPaths (expected given : Nat)
deriving DecidableEq, Repr

def UsageError.message : UsageError → String
  | .noCommand => "Missing command."
  | .unknownCommand name => "No such command '" ++ name ++ "'."
  | .unknownOption name => "No such option: " ++ name
  | .missingValue option => "Option '" ++ option ++ "' requires an argument."
  | .notANumber option value => "Invalid value for '" ++ option ++ "': '" ++ value ++
      "' is not a valid integer."
  | .wrongPaths expected given =>
    "Expected " ++ expected.repr ++ " path(s), got " ++ given.repr ++ "."

/-- What has been read of the words after the name of a command. -/
structure Arguments where
  paths : List String := []
  given : GivenSettings := {}
  output : Option String := none
  asJson : Bool := false

namespace Arguments

/-- The effect of an option without a value. -/
def switch? (a : Arguments) : String → Option Arguments
  | "--circular" => some { a with given.detectCycles := some true }
  | "--no-circular" => some { a with given.detectCycles := some false }
  | "--mermaid" => some { a with given.drawDiagram := some true }
  | "--no-mermaid" => some { a with given.drawDiagram := some false }
  | "--json" => some { a with asJson := true }
  | _ => none

def number (option value : String) : Except UsageError Int :=
  match value.toInt? with
  | some n => .ok n
  | none => .error (.notANumber option value)

/-- The effect of an option with a value. -/
def assign (a : Arguments) (option value : String) : Except UsageError Arguments :=
  match option with
  | "--max-depth" => (number option value).map fun n => { a with given.maxDepth := some n }
  | "--max-nodes" => (number option value).map fun n => { a with given.maxNodes := some n }
  | "--depth-threshold" =>
    (number option value).map fun n => { a with given.depthThreshold := some n }
  | "--entry" | "-e" => .ok { a with given.entryPattern := some value }
  | "--format" | "-f" => .ok { a with given.format := some value }
  | "--output" | "-o" => .ok { a with output := some value }
  | _ => .error (.unknownOption option)

/-- Reads words of which `options` are the options that the command has. -/
def read (options : List String) (a : Arguments) : List String → Except UsageError Arguments
  | [] => .ok a
  | word :: rest =>
    if !Text.startsWith word "-" then read options { a with paths := a.paths ++ [word] } rest
    else if !options.contains word then .error (.unknownOption word)
    else
      -- an option that is no switch takes the next word, also one that looks like an option
      match a.switch? word, rest with
      | some a, rest => read options a rest
      | none, [] => .error (.missingValue word)
      | none, value :: rest => (a.assign word value).bind fun a => read options a rest

/-- The one path of a command that takes one. -/
def path (a : Arguments) : Except UsageError String :=
  match a.paths with
  | [path] => .ok path
  | paths => .error (.wrongPaths 1 paths.length)

def noPath (a : Arguments) : Except UsageError Unit :=
  if a.paths.isEmpty then .ok () else .error (.wrongPaths 0 a.paths.length)

end Arguments

namespace Command

/-- The options with which settings are given to any command that takes some. -/
def settingOptions : List String :=
  ["--max-depth", "--max-nodes", "--entry", "--circular", "--no-circular", "--mermaid",
   "--no-mermaid", "--format"]

/-- Reads a command that deals with the stored settings. -/
def ofConfigWords : List String → Except UsageError Command
  | [] => .error .noCommand
  | "show" :: rest => do (← Arguments.read [] {} rest).noPath; return .showSettings
  | "set" :: rest => do
    let a ← Arguments.read ("--depth-threshold" :: settingOptions) {} rest
    a.noPath
    return .storeSettings a.given
  | "reset" :: rest => do (← Arguments.read [] {} rest).noPath; return .resetSettings
  | name :: _ => .error (.unknownCommand name)

def ofWords : List String → Except UsageError Command
  | [] => .error .noCommand
  -- the version is shown whatever follows
  | "--version" :: _ | "-V" :: _ => .ok (.version true)
  | "--verbose" :: rest | "-v" :: rest => ofWords rest
  | "analyze" :: rest => do
    let a ← Arguments.read (["-e", "-f", "--output", "-o"] ++ settingOptions) {} rest
    return .analyze (← a.path) a.given a.output
  | "facts" :: rest => do return .facts (← (← Arguments.read [] {} rest).path)
  | "graph" :: rest => do
    let a ← Arguments.read ["--json"] {} rest
    return .graph (← a.path) a.asJson
  | "config" :: rest => ofConfigWords rest
  | name :: _ =>
    .error (if Text.startsWith name "-" then .unknownOption name else .unknownCommand name)

end Command

end SourceFlow
