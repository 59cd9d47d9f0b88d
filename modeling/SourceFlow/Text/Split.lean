import SourceFlow.Text.Basic

/-!
# Splitting at a separator

A separator is a text of one or more characters. Splitting looks for it
from the left, and a character belongs to one separator at most.
-/

namespace SourceFlow.Text

/-- The parts before and after the first separator. -/
def splitOnce? (sep : List Char) : List Char → Option (List Char × List Char)
  | [] => none
  | c :: rest =>
    if sep.isPrefixOf (c :: rest) then some ([], (c :: rest).drop sep.length)
    else (splitOnce? sep rest).map fun r => (c :: r.1, r.2)

/-- The parts between the first `n` separators; the last part holds what follows. -/
def splitAtMost (sep : List Char) : Nat → List Char → List (List Char)
  | 0, cs => [cs]
  | n + 1, cs =>
    match splitOnce? sep cs with
    | none => [cs]
    | some (before, after) => before :: splitAtMost sep n after

def splitAll (sep cs : List Char) : List (List Char) :=
  -- there are no more separators than characters
  splitAtMost sep cs.length cs

def countOf (sep cs : List Char) : Nat :=
  (splitAll sep cs).length - 1

/-- The text with another text in place of each separator. -/
def replaceAll (sep new cs : List Char) : List Char :=
  new.intercalate (splitAll sep cs)

def joinBy (c : Char) (parts : List (List Char)) : List Char :=
  [c].intercalate parts

def dropEndChars (cs : List Char) : List Char :=
  (cs.drop 1).dropLast

end SourceFlow.Text
