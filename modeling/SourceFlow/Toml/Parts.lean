import SourceFlow.Toml.Basic

/-!
# Parts of arrays and inline tables

How the text of an array or of an inline table is cut at its commas. A
comma inside the quotes, brackets or braces of a part is no cut: parts
that were cut there are put together again.
-/

namespace SourceFlow.Toml

/-! ## Arrays -/

/-- Whether the text of an array begins with a text in quotes. -/
def holdsTexts (array : List Char) : Bool :=
  startsQuoted (Text.stripChars (Text.dropEndChars array))

/-- Whether a part begins and ends with one quote that is not escaped. -/
def isBounded (part : List Char) : Bool :=
  part.isEmpty || (sameEnds part && !endsEscaped (part.drop 1).dropLast)

/-- Whether a part opens with three quotes and does not close with three. -/
def opensTriple (part : List Char) : Bool :=
  match part, part.reverse with
  | a :: b :: c :: _, _ :: y :: x :: _ => a == b && b == c && y != a && x != a
  | _, _ => false

/-- Whether a part of an array of texts is a whole text. -/
def isWholeText (part : List Char) : Bool :=
  let part := Text.stripChars part
  isBounded part && !opensTriple part

/-- Puts parts together until each is a whole text. The last part is taken as it is, unless others
were put before it. -/
def joinTexts (part : List Char) : List (List Char) → Read (List (List Char))
  | [] => if isWholeText part then .ok [part] else .error .pastEnd
  | next :: rest =>
    if isWholeText part then
      match rest with
      | [] => .ok [part, next]
      | _ :: _ => (joinTexts next rest).map (part :: ·)
    else joinTexts (part ++ ',' :: next) rest

def wholeTexts : List (List Char) → Read (List (List Char))
  | part :: next :: rest => joinTexts part (next :: rest)
  | parts => .ok parts

/-- Where the search for inline tables in an array stands. -/
inductive Grouping where
  /-- In an inline table, the characters of which are held with the nearest first. -/
  | inside (part : List Char)
  /-- Just after an inline table. -/
  | behind
  /-- Between inline tables. -/
  | between

/-- The inline tables of an array, one after the other. `depth` counts the braces that are open. -/
def bracedParts : Grouping → Bool → Nat → List Char → List (List Char)
  | _, _, _, [] => []
  | .behind, quoted, depth, _ :: rest => bracedParts .between quoted depth rest
  | .between, quoted, depth, c :: rest =>
    bracedParts (if c = '\x7b' then .inside [c] else .between) quoted depth rest
  | .inside part, quoted, depth, c :: rest =>
    -- any quote closes what another one has opened, unless it is escaped
    let quoted := if isQuote c then (quoted && escapedBy part) || !quoted else quoted
    let depth := if !quoted && c == '\x7b' then depth + 1 else depth
    if quoted || c != '\x7d' then bracedParts (.inside (c :: part)) quoted depth rest
    else if depth > 1 then bracedParts (.inside (c :: part)) quoted (depth - 1) rest
    else (c :: part).reverse :: bracedParts .behind quoted depth rest

/-- Cuts at the commas outside brackets. -/
def bracketParts (part : List Char) (depth : Int) : List Char → List (List Char)
  | [] => [part.reverse]
  | c :: rest =>
    if c = ',' ∧ depth = 0 then part.reverse :: bracketParts [] 0 rest
    else
      let depth := if c = '[' then depth + 1 else if c = ']' then depth - 1 else depth
      bracketParts (c :: part) depth rest

/-- The parts of an array: of arrays by their brackets, of inline tables by their braces, and of
anything else by commas. -/
def arrayParts (array : List Char) : Read (List (List Char)) :=
  let array := Text.stripChars array
  let inner := Text.dropEndChars array
  -- what begins with a bracket is an array of arrays
  if inner.contains '[' && (Text.stripChars (inner.takeWhile (· ≠ '['))).isEmpty then
    .ok (bracketParts [] 0 inner)
  else
    let parts := match inner with
      | c :: rest =>
        if (Text.stripChars inner).head? = some '\x7b' then
          bracedParts (.inside [c]) false (if c = '\x7b' then 1 else 0) rest
        else inner.splitOn ','
      | [] => [[]]
    if holdsTexts array then wholeTexts parts else .ok parts

/-! ## Inline tables -/

/-- Whether the value of an entry of an inline table is whole, judged by its ends. -/
def isWholeValue (value : List Char) : Read Bool :=
  match value, value.getLast? with
  | first :: _, some last =>
    let ends (a b : Char) := first == a && last == b
    -- a number is not looked at beyond its first character
    .ok ((isQuote first && first == last) || first == '-' || first.isDigit ||
      value == "true".toList || value == "false".toList || ends '[' ']' || ends '\x7b' '\x7d')
  | _, _ => .error .pastEnd

/-- Puts parts together until each is an entry with a whole value. -/
def joinEntries (part : List Char) (rest : List (List Char)) : Read (List (List Char)) := do
  let (_, value) ← orMalformed (Text.splitOnce? ['='] part)
  let whole ← isWholeValue (Text.stripChars value)
  match rest with
  | [] => if whole then .ok [part] else .error .malformed
  | next :: rest =>
    if whole then (joinEntries next rest).map (part :: ·)
    else joinEntries (part ++ ',' :: next) rest

def inlineParts (table : List Char) : Read (List (List Char)) :=
  match (Text.dropEndChars table).splitOn ',' with
  | [] => .ok []
  | part :: rest =>
    if rest.isEmpty && (Text.stripChars part).isEmpty then .ok [] else joinEntries part rest

end SourceFlow.Toml
