import SourceFlow.Text.Alphanumeric
import SourceFlow.Toml.Basic

/-!
# The scan of a settings document

The scan goes over the characters of a document once. It blanks out
comments, puts spaces in place of line ends inside arrays, and refuses
what can be no key, a quote that is never closed and a line end inside
quotes, unless three quotes opened them. What it leaves has one header or
one entry on a line, but for texts over several lines.

A quote counts as the third of three by the two characters before it,
and the text is taken as a circle there: before its first character
stands its last.
-/

namespace SourceFlow.Toml

/-- Where the scan stands in a key. -/
inductive KeyPart where
  /-- Not in a key. -/
  | outside
  /-- In a name of the key. -/
  | name
  /-- After a name of the key. -/
  | afterName
deriving DecidableEq, Repr

inductive HeaderKind where
  | table
  | arrayItem
deriving DecidableEq, Repr

/-- A scan under way. -/
structure Scan where
  /-- What stands before, the nearest first, with the changes made so far. -/
  before : List Char
  key : KeyPart := .outside
  /-- Whether a dot was seen in the key. -/
  dotted : Bool := false
  /-- The quote that is open. -/
  quote : Option Char := none
  /-- Whether the quotes may hold several lines. -/
  multiline : Bool := false
  /-- The header that is open. -/
  header : Option HeaderKind := none
  /-- How many brackets of arrays are open. -/
  depth : Int := 0
  /-- Whether nothing but spaces was seen on the line. -/
  fresh : Bool := true
  comment : Bool := false

namespace Scan

/-- Passes over a character and leaves another in its place. -/
def push (s : Scan) (c : Char) : Scan :=
  { s with before := c :: s.before }

/-! ## Keys -/

/-- Where a key goes on after a blank or a dot: with a name, unless one more of them follows. -/
def keyBefore (next : Char) : KeyPart :=
  if Text.isBlank next || next == '.' then .afterName else .name

def stepKey (s : Scan) (c : Char) (next : Option Char) : Read Scan :=
  if s.key = .name ∧ Text.isBlank c then .ok { s.push c with key := .afterName }
  else if s.key = .name ∧ c = '.' then .ok { s.push c with dotted := true }
  else if s.key = .name ∧ (Text.isAlphanumeric c ∨ c = '_' ∨ c = '-') then .ok (s.push c)
  else if s.key = .name ∧ s.dotted ∧ s.before.head? = some '.' ∧ isQuote c then
    .ok { s.push c with quote := some c }
  else if s.key = .afterName ∧ Text.isBlank c ∧ !s.dotted then .ok (s.push c)
  else if s.key = .afterName ∧ (Text.isBlank c ∨ c = '.') then
    (orPastEnd next).map fun next => { s.push c with key := keyBefore next, dotted := true }
  else if c = '=' then .ok { s.push c with key := .outside, dotted := false }
  else .error .malformed

def stepKeyQuote (s : Scan) (quote c : Char) : Scan :=
  if c = quote ∧ !escapedBy s.before then { s.push c with key := .afterName, quote := none }
  else s.push c

/-! ## Quotes -/

/-- Opens or closes quotes; `triple` says whether there are three of them. -/
def toggle (s : Scan) (c : Char) (triple : Bool) : Scan :=
  if triple then
    { s with multiline := !s.multiline, quote := if s.multiline then none else some c }
  else { s with quote := if s.quote.isSome then none else some c }

/-- Whether a double quote with the given characters before it is escaped. The second of two
quotes never is, and the third of three is if the first is. -/
def quoteEscaped : List Char → Bool
  | '"' :: '"' :: before => escapedBy before
  | '"' :: _ => false
  | before => escapedBy before

/-- What a character does as a quote. -/
def stepQuote (s : Scan) (c : Char) : Scan :=
  let triple := s.before.take 2 == [c, c]
  if c = '\'' ∧ s.quote ≠ some '"' then s.toggle c triple
  else if c = '"' ∧ s.quote ≠ some '\'' ∧ !quoteEscaped s.before then s.toggle c triple
  else s

/-! ## Brackets and line ends -/

/-- What an opening bracket does: it opens a header at the start of a line and an array anywhere
else. -/
def openBracket (s : Scan) (next : Option Char) : Scan :=
  if s.quote.isSome || s.header.isSome then s
  else if s.fresh then
    { s with header := some (if next = some '[' then .arrayItem else .table) }
  else { s with depth := s.depth + 1 }

def closeBracket (s : Scan) : Scan :=
  if s.quote.isSome then s
  else
    match s.header with
    | some .table => { s with header := none }
    -- the second of two brackets closes the header
    | some .arrayItem => if s.before.head? = some ']' then { s with header := none } else s
    | none => { s with depth := s.depth - 1 }

/-- Passes over a line end inside quotes. After two quotes in a row it counts as a third; of four
in a row the first is given up. -/
def newlineInQuotes (s : Scan) : Scan :=
  match s.before with
  | a :: b :: rest =>
    if isQuote a && a == b then
      match rest with
      | c :: rest => { s with before := a :: a :: b :: (if c = a then ' ' else c) :: rest }
      | [] => s.push a
    else s.push '\n'
  | _ => s.push '\n'

def newline (s : Scan) : Read Scan :=
  if s.multiline then .ok s.newlineInQuotes
  else if s.quote.isSome then .error .malformed
  -- within an array lines do not count
  else if s.depth ≠ 0 then .ok (s.push ' ')
  else .ok { s.push '\n' with fresh := true }

/-- Passes over a character; the first of a line that is no space begins a key, unless it begins a
header. -/
def passOver (s : Scan) (c : Char) : Read Scan :=
  if s.fresh && c != ' ' && c != '\t' then
    if s.header.isSome then .ok { s.push c with fresh := false }
    else if c = '=' then .error .malformed
    else .ok { s.push c with fresh := false, key := .name }
  else .ok (s.push c)

/-! ## The whole document -/

/-- Passes over a character outside keys. -/
def stepOutside (s : Scan) (c : Char) (next : Option Char) : Read Scan :=
  -- quotes are seen to before brackets and comments
  let s := s.stepQuote c
  if c = '#' ∧ s.quote.isNone ∧ s.header.isNone then .ok { s.push ' ' with comment := true }
  else if c = '[' then (s.openBracket next).passOver c
  else if c = ']' then s.closeBracket.passOver c
  else if c = '\n' then s.newline
  else s.passOver c

def step (s : Scan) (c : Char) (next : Option Char) : Read Scan :=
  if s.comment then
    if c = '\n' then { s with comment := false }.newline else .ok (s.push ' ')
  else if s.key = .outside then s.stepOutside c next
  else if c = '\n' then .error .malformed
  else
    match s.quote with
    | some quote => .ok (s.stepKeyQuote quote c)
    | none => s.stepKey c next

def run : List Char → Scan → Read Scan
  | [], s => .ok s
  | c :: rest, s => do run rest (← s.step c rest.head?)

end Scan

/-- The text of a document after the scan. -/
def scan (text : List Char) : Read (List Char) := do
  -- looking back from the first character meets the end of the text
  let s ← Scan.run text { before := text.reverse }
  if s.key ≠ .outside ∨ s.quote.isSome then .error .malformed
  else .ok (s.before.take text.length).reverse

end SourceFlow.Toml
