import SourceFlow.Text.Blank
import SourceFlow.Text.Split
import SourceFlow.Toml.Format

/-!
# Settings documents: quotes

A document is read in two steps. A scan goes over its characters, takes
out comments and joins lines that belong together; then the lines are
taken in one by one. Both steps tell text in quotes from other text.
-/

namespace SourceFlow.Toml

/-- What is read if there is something, and an error for text that ends too early if not. -/
def orPastEnd {α : Type} : Option α → Read α
  | some a => .ok a
  | none => .error .pastEnd

/-- What is read if there is something, and an error for malformed text if not. -/
def orMalformed {α : Type} : Option α → Read α
  | some a => .ok a
  | none => .error .malformed

def isQuote (c : Char) : Bool :=
  c == '"' || c == '\''

def startsQuoted (cs : List Char) : Bool :=
  cs.head?.any isQuote

/-- Whether text begins and ends with one character. -/
def sameEnds (cs : List Char) : Bool :=
  !cs.isEmpty && cs.head? == cs.getLast?

/-- Whether a character is escaped by the backslashes before it, the nearest first: an odd number
of them escapes it. -/
def escapedBy (before : List Char) : Bool :=
  (before.takeWhile (· == '\\')).length % 2 == 1

/-- Whether what follows the text is escaped by the backslashes at its end. -/
def endsEscaped (cs : List Char) : Bool :=
  escapedBy cs.reverse

/-! ## Pieces between quotes -/

/-- Adds pieces between double quotes to pieces between single ones, as long as the last of these
is open. -/
def closeSingle (pieces : List (List Char)) : List (List Char) →
    List (List Char) × List (List Char)
  | [] => (pieces, [])
  | d :: rest =>
    -- an even number of pieces ends within quotes
    if pieces.length % 2 == 0 then
      let last := pieces.getLast?.getD [] ++ '"' :: d
      closeSingle (pieces.dropLast ++ last.splitOn '\'') rest
    else (pieces, d :: rest)

/-- The pieces of a line between its quotes; the first is not in quotes, the second is, and so on
by turns. Single quotes count before the first double quote, and after it only up to the next. -/
def quotePieces (line : List Char) : List (List Char) :=
  let finish (pieces : List (List Char)) : List (List Char) :=
    match pieces with
    | [] => []
    | p :: rest => p.splitOn '\'' ++ rest
  match line.splitOn '"' with
  | first :: second :: rest =>
    if first.contains '\'' then
      let (pieces, left) := closeSingle (first.splitOn '\'') (second :: rest)
      pieces ++ finish left
    else finish (first :: second :: rest)
  | pieces => finish pieces

/-- How many separators stand before the first one outside quotes. -/
def separatorsBefore (sep : List Char) : Bool → List (List Char) → Nat
  | _, [] => 0
  | quoted, piece :: rest =>
    let n := Text.countOf sep piece
    if !quoted && n > 0 then 0 else n + separatorsBefore sep (!quoted) rest

/-- The number of the first separator of a line that stands outside quotes, counted from one. -/
def firstOpen (sep line : List Char) : Nat :=
  1 + separatorsBefore sep false (quotePieces line)

end SourceFlow.Toml
