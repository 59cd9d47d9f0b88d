import SourceFlow.Toml.Header

/-!
# Settings documents

The table that the lines of a document build up.
-/

namespace SourceFlow.Toml

/-- A document while its lines are taken in, with the entry that goes on over the next line. -/
structure Reader where
  draft : Draft := {}
  pending : Option Pending := none

namespace Reader

/-- Puts a new value in the present place. -/
def replace (r : Reader) (here : Value) (pending : Option Pending) : Reader :=
  { draft := r.draft.place [] here, pending }

/-- Whether a line ends a value that went on over several lines. -/
def endsValue (text line : List Char) : Read Bool :=
  match text.head? with
  -- an array ends with a bracket at the end of a line, whichever bracket that is
  | some '[' => (orPastEnd line.getLast?).map (· == ']')
  | some quote => .ok (line.length > 2 && (line.reverse.take 3).all (· == quote))
  | none => .ok false

/-- Takes in a line of a pending entry. Blanks at the ends of the line count, unless the value has
no line end before them. -/
def addPending (r : Reader) (p : Pending) (line : List Char) : Read Reader := do
  let line := if p.escaped || !p.text.contains '\n' then Text.stripChars line else line
  -- after a backslash, blank lines do not count either
  if line.isEmpty && p.escaped then return r
  let text := p.text ++ line
  if ← endsValue text line then
    let value ← readValue true text
    match r.draft.here with
    | .table t => return r.replace (.table (Ordered.put p.name value t)) none
    | _ => throw .malformed
  else return { r with pending := some (Pending.of p.name text) }

def addLine (r : Reader) (line : List Char) : Read Reader := do
  if line.head? = some '[' then
    let (kind, names) ← readHeader line
    return { r with draft := ← r.draft.openAt kind names }
  else if line.head? = some '\x7b' then
    if line.getLast? ≠ some '\x7d' then throw .malformed
    return r.replace (← readInline readValue line r.draft.here) none
  else if line.contains '=' then
    let (here, pending) ← readEntry readValue line r.draft.here
    return r.replace here pending
  -- a line that is nothing of the kind is passed over
  else return r

def add (r : Reader) (line : List Char) : Read Reader :=
  match r.pending with
  | some p => r.addPending p line
  | none =>
    let line := Text.stripChars line
    if line.isEmpty then .ok r else r.addLine line

end Reader

def read (text : List Char) : Read Table := do
  let lines := (← scan text).splitOn '\n'
  let r ← lines.foldlM Reader.add {}
  match r.draft.root with
  | .table t => return t
  | _ => return []

end SourceFlow.Toml
