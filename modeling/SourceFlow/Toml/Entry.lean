import SourceFlow.Toml.Moment
import SourceFlow.Toml.Parts
import SourceFlow.Toml.Scalar

/-!
# Entries of a settings document

An entry gives a name a value. The name may be a path of names with dots
between them, which leads through tables below the one that the entry is
put into. The value may be a text that goes on over the following lines;
such an entry is left pending.
-/

namespace SourceFlow.Toml

/-- An entry whose value goes on over the following lines. -/
structure Pending where
  name : String
  /-- The value as far as it is known, with the quotes in front. -/
  text : List Char
  /-- Whether the last line ended in a backslash, so that the line end does not count. -/
  escaped : Bool

/-! ## The two sides of an entry -/

/-- Whether the text after an equals sign can begin a value: what begins with a blank, a quote or a
bracket can, and so can a truth value, a number, a date and a time. -/
def beginsValue (cs : List Char) : Bool :=
  match cs with
  | [] => true
  | c :: _ =>
    [' ', '\t', '\'', '"', '[', '\x7b'].contains c ||
      ["true".toList, "false".toList].contains (Text.stripChars cs) || (Numeral.float? cs).isSome ||
      isMoment cs

/-- Text whose first character is a digit without its underscores, any other text as it is. -/
def ungrouped (cs : List Char) : List Char :=
  if cs.head?.any Char.isDigit then cs.filter (· ≠ '_') else cs

/-- The text after the `n`-th equals sign. -/
def afterSign (n : Nat) (line : List Char) : List Char :=
  (Text.splitAtMost ['='] n line).getLast?.getD []

structure Sides where
  key : List Char
  value : List Char
  /-- Whether the value is written as a number should be. -/
  proper : Bool

/-- Moves on from the `n`-th equals sign until a value can begin. The first argument bounds the
number of signs. -/
def settle (line : List Char) : Nat → Nat → List Char → Bool → Read Sides
  | 0, _, _, _ => .error .malformed
  | bound + 1, n, value, proper =>
    if beginsValue value then
      let key := Text.joinBy '=' (Text.splitAtMost ['='] n line).dropLast
      .ok ⟨Text.stripChars key, Text.stripChars value, proper⟩
    else
      let next := afterSign (n + 1) line
      -- there is no further sign to move on to
      if next = value then .error .malformed
      else settle line bound (n + 1) next (proper && isProper next)

/-- The sides of an entry, divided at the first equals sign outside quotes after which a value can
begin. -/
def sidesOf (line : List Char) : Read Sides :=
  let n := firstOpen ['='] line
  let value := afterSign n line
  settle line (line.length + 3) n (ungrouped value) (isProper value)

/-! ## Keys -/

/-- The names in the pieces of a path; only those outside quotes are cut at dots. -/
def levelsOf : Bool → List (List Char) → List (List Char)
  | _, [] => []
  | quoted, piece :: rest =>
    (if quoted then [piece] else (piece.splitOn '.').map Text.stripChars) ++
      levelsOf (!quoted) rest

/-- A key as the names that lead to a table and the name of the entry in it. Empty names at the end
of a path do not count. -/
def keyOf (key : List Char) : Read (List (List Char) × String) :=
  if key.contains '.' then
    let levels := if key.any isQuote then levelsOf false (quotePieces key) else key.splitOn '.'
    let levels := (levels.reverse.dropWhile List.isEmpty).reverse
    (orPastEnd levels.getLast?).map fun name =>
      (levels.dropLast, String.ofList (Text.stripChars name))
  else if key.isEmpty then .error .pastEnd
  else if startsQuoted key && sameEnds key then .ok ([], String.ofList (Text.dropEndChars key))
  else .ok ([], String.ofList key)

/-- What is said about a value without names at which a name is looked up. -/
def lookupMessage (name : String) : Value → String
  | .text s =>
    if Text.contains s name then "string indices must be integers, not 'str'"
    else "'str' object does not support item assignment"
  | .list _ => "list indices must be integers or slices, not str"
  | .bool _ => "argument of type 'bool' is not iterable"
  | .float _ => "argument of type 'float' is not iterable"
  | .moment ⟨.date, _, _, _⟩ => "argument of type 'datetime.date' is not iterable"
  | .moment ⟨.time, _, _, _⟩ => "argument of type 'datetime.time' is not iterable"
  | .moment ⟨.both, _, _, _⟩ => "argument of type 'datetime.datetime' is not iterable"
  | _ => "argument of type 'int' is not iterable"

/-- Changes the value that a path leads to. Tables on the way are made if they are missing, and
empty names are passed over. -/
def alter {α : Type} (f : Value → Read (Value × α)) : List (List Char) → Value → Read (Value × α)
  | [], v => f v
  | level :: path, v =>
    if level.isEmpty then alter f path v
    else
      let name := String.ofList level
      match v with
      | .table t =>
        (alter f path ((Ordered.get? t name).getD (.table []))).map fun (inner, a) =>
          (.table (Ordered.put name inner t), a)
      | v => .error (.wrongKind (lookupMessage name v))

/-! ## Values over several lines -/

/-- The last of the texts in an array whose bracket is not closed: what follows the last comma with
a quote after it. The parts are held with the last first. -/
def lastText (part : List Char) : List (List Char) → Read (List Char)
  | [] => .ok part
  | before :: rest => do
    let first ← orPastEnd part.head?
    if isQuote first then .ok part else lastText (before ++ ',' :: part) rest

/-- Whether a text in quotes opens with three of them and does not close with three. -/
def staysOpen (cs : List Char) : Read Bool := do
  let a ← orPastEnd cs.head?
  if !isQuote a then return false
  let b ← orPastEnd cs.tail.head?
  if b ≠ a then return false
  let c ← orPastEnd cs.tail.tail.head?
  return c == a && !(cs.length > 5 && (cs.reverse.take 3).all (· == a))

/-- Whether a value goes on over the following lines. -/
def goesOn (value : List Char) : Read Bool :=
  if value.length < 3 then .ok false
  else if value.head? = some '[' ∧ value.getLast? ≠ some ']' ∧ holdsTexts value then
    match ((Text.stripChars (value.drop 1)).splitOn ',').reverse with
    | [] => .ok false
    | part :: before => do staysOpen (← lastText part before)
  else staysOpen value

/-- The text of an entry that goes on, after one more line. -/
def Pending.of (name : String) (text : List Char) : Pending :=
  if endsEscaped text then ⟨name, text.dropLast, true⟩ else ⟨name, text ++ ['\n'], false⟩

/-! ## Entries -/

def putNew (name : String) (value : Value) : Value → Read Value
  | .table t =>
    if (Ordered.get? t name).isSome then .error .malformed
    else .ok (.table (Ordered.put name value t))
  | _ => .error .malformed

/-- Puts an entry into a table, or leaves it pending. `readValue` reads a value, told whether it is
written as a number should be. -/
def readEntry (readValue : Bool → List Char → Read Value) (line : List Char) (level : Value) :
    Read (Value × Option Pending) := do
  let sides ← sidesOf line
  let (path, name) ← keyOf sides.key
  alter (fun level => do
    if ← goesOn sides.value then
      -- the name must be free, though its value comes later
      let _ ← putNew name .null level
      if name.isEmpty then throw .nameless
      return (level, some (Pending.of name sides.value))
    else
      let value ← readValue sides.proper sides.value
      return (← putNew name value level, none)) path level

/-- Puts the entries of an inline table into a table. One that goes on ends them. -/
def readEntries (readValue : Bool → List Char → Read Value) :
    List (List Char) → Value → Read Value
  | [], level => .ok level
  | line :: rest, level => do
    match ← readEntry readValue line level with
    | (level, none) => readEntries readValue rest level
    | (level, some _) => return level

def readInline (readValue : Bool → List Char → Read Value) (table : List Char) (level : Value) :
    Read Value := do
  readEntries readValue (← inlineParts table) level

/-! ## Values -/

/-- Whether two values are of one kind. A date is of one kind with a date and a time of day
together, but not with a time of day alone. -/
def sameKind : Value → Value → Bool
  | .moment m, .moment n => (m.kind == .time) == (n.kind == .time)
  | .bool _, .bool _ | .int _, .int _ | .float _, .float _ | .text _, .text _ => true
  | .list _, .list _ | .table _, .table _ => true
  | _, _ => false

/-- Reads the items of an array, which have to be of one kind. Blank parts are passed over. -/
def readItems (readValue : Bool → List Char → Read Value) (kind : Option Value) :
    List (List Char) → Read (List Value)
  | [] => .ok []
  | part :: rest => do
    let part := Text.stripChars part
    if part.isEmpty then readItems readValue kind rest
    else
      let value ← readValue true part
      -- each item is compared with the one before it
      if kind.any fun k => !sameKind k value then throw .malformed
      return value :: (← readItems readValue (some value) rest)

/-- Reads a value; the first argument bounds how deep it may nest, and the second says whether the
value is written as a number should be. -/
def readValueIn : Nat → Bool → List Char → Read Value
  | 0, _, _ => .error .malformed
  | bound + 1, proper, cs =>
    match cs with
    | [] => .error .malformed
    | c :: _ =>
      let word := cs.map Char.toLower
      if word = "true".toList ∨ word = "false".toList then
        -- truth values have to be in lower case
        if cs = word then .ok (.bool (cs = "true".toList)) else .error .malformed
      else if isQuote c then readText c cs
      else if c = '[' then do
        return .list (← readItems (readValueIn bound) none (← arrayParts cs))
      else if c = '\x7b' then readInline (readValueIn bound) cs (.table [])
      else if beginsClock cs then readClock cs
      else
        match dated? cs with
        | some m => .ok (.moment m)
        | none => if proper then readNumber cs else .error .malformed

/-- Reads a value. Every part of a value is shorter than the value, so its length bounds how deep
it nests. -/
def readValue (proper : Bool) (cs : List Char) : Read Value :=
  readValueIn (cs.length + 1) proper cs

end SourceFlow.Toml
