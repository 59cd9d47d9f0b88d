import SourceFlow.Files.Tree
import SourceFlow.Path.Pure
import SourceFlow.Source.Parsed
import SourceFlow.Text.Lines

/-!
# Source units from files

Which files of a directory are source units, in which order, and how
their bytes become text. The trees of the texts come from a parser.
-/

namespace SourceFlow.Sources

def supportedSuffixes : List String :=
  [".ts", ".tsx", ".js", ".jsx", ".mjs", ".cjs"]

def skippedDirectories : List String :=
  ["node_modules", ".git", "build", "dist", "coverage", "out", ".next", ".nuxt", ".turbo", ".cache",
   ".venv", "venv", "__pycache__", ".codeflow"]

/-- Files with more bytes than this are passed over. -/
def maxFileSize : Int := 5 * 1024 * 1024

/-! ## Reading -/

/-- The text of a file: invalid bytes are left out, and every line end becomes a line feed. -/
def textOf (bytes : List UInt8) : String :=
  String.ofList (Text.foldNewlines (Utf8.decodeDropping bytes))

/-- The source unit of a file; none if it is too large. -/
def readUnit? (parser : Parser) (limit : Int) (id : String) (content : FileContent) :
    Option SourceUnit :=
  if content.bytes.length > limit then none
  else some (.parsedBy parser id (textOf content.bytes))

/-! ## Selecting -/

/-- The order of places: name by name, a place before what is below it. -/
def placeLe : List String → List String → Bool
  | [], _ => true
  | _ :: _, [] => false
  | a :: as, b :: bs => if a = b then placeLe as bs else decide (a < b)

/-- Whether a file at a place is read: its suffix is supported, in any case of letters, and none of
the directories above it is passed over. -/
def isSource (place : List String) : Bool :=
  supportedSuffixes.contains (Text.lowerAscii (Path.suffix (place.getLast?.getD ""))) &&
    !place.dropLast.any skippedDirectories.contains

def select (t : FileTree) : List (List String × FileContent) :=
  (t.files.filter fun f => isSource f.1).mergeSort fun a b => placeLe a.1 b.1

section

variable (parser : Parser) (limit : Int)

def unitsIn (t : FileTree) : List SourceUnit :=
  (select t).filterMap fun f => readUnit? parser limit (Path.ofParts f.1) f.2

/-- The source units at a place: those of a directory, or the one file there, whatever its
suffix. -/
def load (files : FileTree) (place : List String) : List SourceUnit :=
  match files.at? place with
  | none => []
  -- a file that was named is read, supported or not, under its bare name
  | some (.file content) => (readUnit? parser limit (place.getLast?.getD "") content).toList
  | some (.directory entries) => unitsIn parser limit (.directory entries)

def loadPath (files : FileTree) (path : PurePath) : List SourceUnit :=
  match path.place? with
  | none => []
  | some place => load parser limit files place

end

/-- A file is not below the directory that its id should be relative to. -/
structure NotBelow where
  file : PurePath
  root : PurePath
deriving DecidableEq, Repr

/-- The id of a file, its path below a root. -/
def idBelow (file root : PurePath) : Except NotBelow String :=
  match file.relativeTo? root with
  | some names => .ok (PurePath.text ⟨0, names⟩)
  | none => .error ⟨file, root⟩

/-- The regular file that a path from the working directory leads to, name by name. -/
def fileAlong? (files : FileTree) (path : PurePath) : Option FileContent :=
  if path.slashes ≠ 0 then none
  else (files.follow? [] path.names).bind fun place => files.fileAt? place

/-- The source unit of a file below the working directory, with an id relative to a root; none if
there is no such file or it is too large. -/
def readBelow (parser : Parser) (limit : Int) (files : FileTree) (file root : PurePath) :
    Except NotBelow (Option SourceUnit) :=
  -- a file in the wrong place is refused even if it is not there
  (idBelow file root).map fun id =>
    (fileAlong? files file).bind (readUnit? parser limit id)

end SourceFlow.Sources
