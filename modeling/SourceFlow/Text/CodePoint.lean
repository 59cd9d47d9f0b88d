import SourceFlow.Text.Basic

/-!
# Code points

A text from outside may hold surrogates. They are code points like the
characters and count as such, but they are no characters, and no bytes
stand for them.
-/

namespace SourceFlow

/-- A character or a surrogate. -/
inductive CodePoint where
  | char (c : Char)
  | surrogate (index : Fin 0x800)
deriving DecidableEq, Repr

namespace CodePoint

def char? : CodePoint → Option Char
  | .char c => some c
  | .surrogate _ => none

def ofText (s : String) : List CodePoint :=
  s.toList.map .char

/-- The text of code points, if all of them are characters. -/
def text? (points : List CodePoint) : Option String :=
  (points.mapM char?).map String.ofList

/-- How many lines code points make, the one after the last line feed included. -/
def lineCount (points : List CodePoint) : Nat :=
  points.count (.char '\n') + 1

end CodePoint

end SourceFlow
