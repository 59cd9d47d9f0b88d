import SourceFlow.Json.Basic
import SourceFlow.Value.Literal

/-!
# Writing JSON

Documents are written with one item or member to a line, two blanks of
indentation for each level, and brackets without a line break around
nothing. In texts only quotes, backslashes and control characters below
the space need an escape; a document for ASCII-only readers escapes the
delete character and everything beyond ASCII as well, what lies outside
the basic plane as two surrogates.
-/

namespace SourceFlow.JsonValue

/-- Which characters of a text may stand for themselves. -/
inductive Charset where
  | unicode
  | ascii
deriving DecidableEq, Repr

def unicodeEscape (n : Nat) : List Char :=
  '\\' :: 'u' :: Text.hexDigits 4 n

/-- The escape of a character beyond the printable ASCII ones. -/
def wideEscape (c : Char) : List Char :=
  let n := c.toNat
  if n < 0x10000 then unicodeEscape n
  else
    -- what has more than sixteen bits is written as a pair of surrogates
    unicodeEscape (0xD800 + (n - 0x10000) / 0x400) ++ unicodeEscape (0xDC00 + (n - 0x10000) % 0x400)

def writeChar (charset : Charset) (c : Char) : List Char :=
  if c = '"' then ['\\', '"']
  else if c = '\\' then ['\\', '\\']
  else if c = '\n' then ['\\', 'n']
  else if c = '\r' then ['\\', 'r']
  else if c = '\t' then ['\\', 't']
  else if c = '\x08' then ['\\', 'b']
  else if c = '\x0c' then ['\\', 'f']
  else if c.toNat < 0x20 then unicodeEscape c.toNat
  -- the last character of ASCII is not printable and is escaped with the others
  else if charset = .ascii ∧ 0x7F ≤ c.toNat then wideEscape c
  else [c]

def writeText (charset : Charset) (s : String) : List Char :=
  '"' :: s.toList.flatMap (writeChar charset) ++ ['"']

/-- A line break and the indentation of a level. -/
def newline (level : Nat) : List Char :=
  '\n' :: List.replicate (2 * level) ' '

mutual

/-- Writes a value that stands on a level of indentation. -/
def write (charset : Charset) (level : Nat) : JsonValue → List Char
  | .null => "null".toList
  | .bool b => if b then "true".toList else "false".toList
  | .int n => (Text.decimal n).toList
  | .text s => writeText charset s
  | .array [] => "[]".toList
  | .array (v :: rest) =>
    '[' :: newline (level + 1) ++ write charset (level + 1) v ++
      writeItems charset (level + 1) rest ++ newline level ++ [']']
  | .object [] => ['\x7b', '\x7d']
  | .object ((name, v) :: rest) =>
    '\x7b' :: newline (level + 1) ++ writeText charset name ++ ": ".toList ++
      write charset (level + 1) v ++ writeMembers charset (level + 1) rest ++
      newline level ++ ['\x7d']

/-- The items of an array after the first. -/
def writeItems (charset : Charset) (level : Nat) : List JsonValue → List Char
  | [] => []
  | v :: rest =>
    ',' :: newline level ++ write charset level v ++ writeItems charset level rest

/-- The members of an object after the first. -/
def writeMembers (charset : Charset) (level : Nat) : List (String × JsonValue) → List Char
  | [] => []
  | (name, v) :: rest =>
    ',' :: newline level ++ writeText charset name ++ ": ".toList ++ write charset level v ++
      writeMembers charset level rest

end

def document (charset : Charset) (v : JsonValue) : String :=
  String.ofList (write charset 0 v)

end SourceFlow.JsonValue
