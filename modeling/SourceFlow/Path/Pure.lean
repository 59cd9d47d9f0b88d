import SourceFlow.Path.Basic

/-!
# Paths as given on a command line

A path as a list of names, with the slashes in front. Empty names and `.`
are dropped, `..` is kept. The text of a path is rebuilt from its names,
so `./src/` is shown as `src`, and a path of no names as `.`.
-/

namespace SourceFlow

structure PurePath where
  slashes : Nat := 0
  names : List String := []
deriving DecidableEq, Repr

namespace PurePath

def ofText (s : String) : PurePath :=
  ⟨Path.leadingSlashes s, (Path.parts s).filter fun p => p != "" && p != "."⟩

def text (p : PurePath) : String :=
  let s := String.ofList (List.replicate p.slashes '/') ++ Path.ofParts p.names
  if s.isEmpty then "." else s

def child (p : PurePath) (name : String) : PurePath :=
  { p with names := p.names ++ [name] }

/-- What is left of a list after some first items. -/
def after? : List String → List String → Option (List String)
  | [], rest => some rest
  | _ :: _, [] => none
  | a :: as, b :: bs => if a = b then after? as bs else none

/-- The names of `p` below `base`, compared name by name. -/
def relativeTo? (p base : PurePath) : Option (List String) :=
  if p.slashes = base.slashes then after? base.names p.names else none

/-- The place below the working directory that a path leads to; none if it leads out of it. -/
def place? (p : PurePath) : Option (List String) :=
  if p.slashes ≠ 0 then none
  else
    -- here `..` takes back the name before it, whether that is a directory or not
    let place := Path.simplify false p.names
    if place.contains ".." then none else some place

end PurePath

end SourceFlow
