import SourceFlow.Ordered
import SourceFlow.Path.Basic

/-!
# File trees

A directory with everything in it, as a value. Places in it are lists of
names. Regular files and directories are all there is.
-/

namespace SourceFlow

/-- What a regular file holds. -/
structure FileContent where
  bytes : List UInt8
deriving DecidableEq, Inhabited

inductive FileTree where
  | file (content : FileContent)
  | directory (entries : List (String × FileTree))
deriving Inhabited

namespace FileTree

def empty : FileTree := .directory []

def isDirectory : FileTree → Bool
  | .directory _ => true
  | .file _ => false

/-- What stands at a place. -/
def at? : List String → FileTree → Option FileTree
  | [], t => some t
  | name :: place, .directory entries => (Ordered.get? entries name).bind (at? place)
  | _ :: _, .file _ => none

def fileAt? (place : List String) (t : FileTree) : Option FileContent :=
  match t.at? place with
  | some (.file content) => some content
  | _ => none

/-- The place that names lead to from a place, where `..` leads to the directory above. A name leads
on only from a directory, and nothing leads out of the tree. -/
def follow? (t : FileTree) (place : List String) : List String → Option (List String)
  | [] => some place
  | name :: names =>
    -- also `..` leads on only from a directory
    if !(t.at? place).any isDirectory then none
    else if name ≠ ".." then follow? t (place ++ [name]) names
    else if place.isEmpty then none
    else follow? t place.dropLast names

/-! ## All files -/

mutual

/-- All regular files below, each with its place. -/
def files : FileTree → List (List String × FileContent)
  | .file content => [([], content)]
  | .directory entries => filesIn entries

def filesIn : List (String × FileTree) → List (List String × FileContent)
  | [] => []
  | (name, t) :: rest => (files t).map (fun f => (name :: f.1, f.2)) ++ filesIn rest

end

/-! ## Writing -/

/-- Why something cannot be put at a place. -/
inductive WriteError where
  /-- The directory to write in is a regular file. -/
  | fileInTheWay
  /-- A directory further up is a regular file. -/
  | notADirectory
deriving DecidableEq, Repr

/-- Creates the directory at a place and those above it. -/
def makeDirectory : List String → FileTree → Except WriteError FileTree
  | [], .directory entries => .ok (.directory entries)
  | [], .file _ => .error .fileInTheWay
  | _ :: _, .file _ => .error .notADirectory
  | name :: place, .directory entries =>
    -- what is missing on the way is made
    ((makeDirectory place ((Ordered.get? entries name).getD empty))).map fun t =>
      .directory (Ordered.put name t entries)

/-- Puts a regular file at a place, in a directory that exists. -/
def putFile (content : FileContent) : List String → FileTree → FileTree
  | [], _ => .file content
  | _ :: _, .file old => .file old
  | name :: place, .directory entries =>
    let below := (Ordered.get? entries name).getD empty
    .directory (Ordered.put name (putFile content place below) entries)

/-- Puts a regular file at a place, creating the directories above it. -/
def writeFile (place : List String) (content : FileContent) (t : FileTree) :
    Except WriteError FileTree :=
  (t.makeDirectory place.dropLast).map (putFile content place)

end FileTree

end SourceFlow
