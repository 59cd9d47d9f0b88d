import SourceFlow.Path.Basic

/-!
# Import resolution

Which unit a module reference names, seen from the unit that imports it.
Every local reference has a literal candidate, the reference itself taken
as a path from the project root. If that is no known unit, the reference
is taken relative to the importing unit, with each script suffix in turn
and then as a directory with an index file. If nothing is known the
literal candidate stands.
-/

namespace SourceFlow.Resolution

def suffixes : List String :=
  [".ts", ".tsx", ".js", ".jsx"]

def defaultSuffix : String := ".ts"

/-- The name of a directory's own unit, without suffix. -/
def indexStem : String := "index"

/-- Whether a text ends in one of the suffixes. -/
def hasSuffix (s : String) : Bool :=
  suffixes.any (Text.endsWith s)

/-- How a module reference is to be read. -/
inductive Style where
  /-- From the project root: the reference begins with a slash. -/
  | rooted
  /-- From the directory of the importing unit: it begins with `./` or `../`. -/
  | relative
  /-- Not as a path. -/
  | verbatim
deriving DecidableEq, Repr

def styleOf (reference : String) : Style :=
  if Text.startsWith reference "/" then .rooted
  else if Text.startsWith reference "./" || Text.startsWith reference "../" then .relative
  else .verbatim

def dropLeadingSlashes (reference : String) : String :=
  String.ofList (reference.toList.dropWhile (· == '/'))

/-- Adds the default suffix unless there is a suffix. -/
def withSuffix (candidate : String) : String :=
  if hasSuffix candidate then candidate else candidate ++ defaultSuffix

/-- The literal candidate of a reference. -/
def literal (reference : String) : String :=
  match styleOf reference with
  | .rooted => withSuffix (dropLeadingSlashes reference)
  -- what goes up keeps its dots and is hardly ever known as it stands
  | .relative =>
    withSuffix (if Text.startsWith reference "./" then Text.dropFirst 2 reference else reference)
  | .verbatim => reference

/-- The path a reference denotes, seen from an importing unit. -/
def denoted? (reference importer : String) : Option String :=
  match styleOf reference with
  | .rooted => some (Path.normalize (dropLeadingSlashes reference))
  | .relative => some (Path.normalize (Path.join (Path.directory importer) reference))
  | .verbatim => none

/-- The units that may stand for a path, in the order in which they are tried. -/
def options (path : String) : List String :=
  (if hasSuffix path then [path] else suffixes.map (path ++ ·)) ++
    -- the index of a directory comes last
    suffixes.map fun s => Path.join path (indexStem ++ s)

/-- The unit a reference names among the known ones. -/
def target (reference importer : String) (known : List String) : String :=
  let candidate := literal reference
  -- the literal candidate goes first, whatever directory the importing unit is in
  if known.contains candidate then candidate
  else
    match denoted? reference importer with
    | none => candidate
    | some path => ((options path).find? known.contains).getD candidate

/-- The unit a reference names; if nothing is known of the project, the literal candidate. -/
def targetIn (reference importer : String) : Option (List String) → String
  | none => literal reference
  | some known => target reference importer known

end SourceFlow.Resolution
