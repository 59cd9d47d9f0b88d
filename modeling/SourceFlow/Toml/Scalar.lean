import SourceFlow.Number.Numeral
import SourceFlow.Toml.Basic

/-!
# Texts, numbers and truth values of a settings document

Values without parts. A text stands in quotes, one or three at each end;
only double quotes know escapes. A number is an integer or has a point or
an exponent.
-/

namespace SourceFlow.Toml

/-! ## Quotes that close -/

/-- How far quotes are closed while the pieces between them are gone through. -/
structure Closing where
  /-- How many pieces without characters were seen since the last with some. -/
  empties : Nat := 0
  closed : Bool := false

/-- Goes through the pieces of a text between its quotes; `triple` says whether three quotes opened
it. Nothing but an escaped quote may follow the closing quotes. -/
def Closing.ofPieces (triple : Bool) : Closing → List (List Char) → Read Closing
  | s, [] => .ok s
  | s, piece :: rest =>
    if piece.isEmpty then
      ofPieces triple (if triple then { s with empties := s.empties + 1 } else ⟨s.empties, true⟩)
        rest
    else if endsEscaped piece then ofPieces triple s rest
    else if s.closed then .error .malformed
    else if !triple || s.empties > 1 then ofPieces triple { s with closed := true } rest
    else ofPieces triple { s with empties := 0 } rest

/-- Checks that the quotes of a text close at its end. -/
def checkClosing (quote : Char) (cs : List Char) : Read Unit :=
  let result := match (cs.drop 1).splitOn quote with
    | [] :: [] :: pieces => Closing.ofPieces true {} pieces
    | pieces => Closing.ofPieces false {} pieces
  result.map fun _ => ()

/-! ## Escapes -/

/-- The character that a letter after a backslash stands for. -/
def escaped? (c : Char) : Option Char :=
  if c = '0' then some '\x00'
  else if c = 'b' then some '\x08'
  else if c = 'f' then some '\x0c'
  else if c = 'n' then some '\n'
  else if c = 'r' then some '\r'
  else if c = 't' then some '\t'
  else if c = '"' then some '"'
  else none

/-- Whether every backslash begins an escape, given the pieces of a text after its backslashes.
The first argument says whether an odd number of backslashes has just been passed. -/
def escapesKnown : Bool → List (List Char) → Bool
  | _, [] => true
  | afterBackslash, piece :: rest =>
    match piece with
    | [] => escapesKnown (!afterBackslash) rest
    | c :: _ =>
      ((escaped? c).isSome || c == 'u' || c == 'U' || afterBackslash) && escapesKnown false rest

/-- The largest number of a character that is looked at. -/
def codePointBound : Nat := 0x80000000

/-- The character with a number in hexadecimal digits. The second half of the block that begins
with `D` has no characters. -/
def codePoint (digits : List Char) : Read Char := do
  let values ← orMalformed (digits.mapM Numeral.hexValue?)
  match values with
  | [] => .error .pastEnd
  -- a single digit that could begin a surrogate has no second one to look at
  | [13] => .error .pastEnd
  | first :: rest =>
    if first = 13 ∧ rest.head?.any (7 < ·) then .error .malformed
    else
      let n := values.foldl (fun n d => n * 16 + d) 0
      if n.isValidChar then .ok (Char.ofNat n)
      else if n < codePointBound then .error .malformed
      else .error .tooLarge

/-- Puts characters in place of their numbers. `mark` is the letter of the escape and `width` the
number of its digits; `done` is what stands before, and `skip` says whether the next backslash is
itself escaped. -/
def readCodePoints (mark : Char) (width : Nat) (done : List Char) (skip : Bool) :
    List (List Char) → Read (List Char)
  | [] => .ok done
  | piece :: rest =>
    if skip then
      readCodePoints mark width (done ++ '\\' :: mark :: piece) (endsEscaped piece) rest
    else do
      let c ← codePoint (piece.take width)
      readCodePoints mark width (done ++ c :: piece.drop width) false rest

/-- Puts characters in place of all escapes with one letter for the mark. -/
def withCodePoints (mark : Char) (width : Nat) (cs : List Char) : Read (List Char) :=
  match Text.splitAll ['\\', mark] cs with
  | [] => .ok cs
  | first :: rest => readCodePoints mark width first (endsEscaped first) rest

/-- Puts characters in place of the escapes with one letter. -/
def unescape : List Char → Read (List Char)
  | [] => .ok []
  | ['\\'] => .ok ['\\']
  | '\\' :: c :: rest =>
    match escaped? c with
    | some e => (unescape rest).map (e :: ·)
    | none =>
      if c = '\\' then (unescape rest).map ('\\' :: ·)
      else if c = 'u' ∨ c = 'U' then (unescape rest).map fun r => '\\' :: c :: r
      else .error .malformed
  | c :: rest => (unescape rest).map (c :: ·)

def readEscapes (cs : List Char) : Read (List Char) := do
  if !escapesKnown false ((cs.splitOn '\\').drop 1) then throw .malformed
  -- numbers first, so that the backslashes of the others are still there
  let cs ← withCodePoints 'u' 4 cs
  let cs ← withCodePoints 'U' 8 cs
  unescape cs

/-- What stands between quotes, three at each end or one. -/
def betweenQuotes (quote : Char) (cs : List Char) : List Char :=
  match cs with
  | _ :: b :: rest =>
    if b = quote ∧ (rest.isEmpty ∨ rest.head? = some b) then
      Text.dropEndChars (rest.dropLast.dropLast)
    else Text.dropEndChars cs
  | _ => Text.dropEndChars cs

def readText (quote : Char) (cs : List Char) : Read Value := do
  checkClosing quote cs
  let cs ← if quote = '"' then readEscapes cs else .ok cs
  return .text (String.ofList (betweenQuotes quote cs))

/-! ## Numbers -/

/-- Whether a number without sign is written as it should be: no zero in front of other digits, and
underscores one at a time. -/
def properUnsigned (signed : Bool) : List Char → Bool
  | '0' :: c :: rest =>
    (c == '.' || (!signed && (c == 'o' || c == 'b' || c == 'x'))) &&
      !Text.occursIn ['_', '_'] ('0' :: c :: rest)
  | cs => !Text.occursIn ['_', '_'] cs

/-- Whether a number is written as it should be. Text that is no number at all may pass. -/
def isProper (cs : List Char) : Bool :=
  match Text.stripChars cs with
  | [] => false
  | cs =>
    if cs.head? == some '_' || cs.getLast? == some '_' || Text.occursIn ['_', '.'] cs ||
        Text.occursIn ['.', '_'] cs then false
    else
      match cs with
      | [_] => true
      | c :: rest => if c = '+' ∨ c = '-' then properUnsigned true rest else properUnsigned false cs
      | [] => false

/-- Whether a number is written with a point or an exponent. -/
def isFractional (cs : List Char) : Bool :=
  -- in hexadecimal an `e` is a digit
  cs.contains '.' || (!cs.contains 'x' && (cs.contains 'e' || cs.contains 'E'))

/-- Whether a digit stands in front and something after the point, if there is one. -/
def isWholeFraction (cs : List Char) : Bool :=
  cs.head?.any Char.isDigit && cs.dropWhile (· ≠ '.') != ['.']

/-- Zero less a number; zero has no sign then. -/
def negated : Binary64 → Binary64
  | .nan => .nan
  | .infinite negative => .infinite (!negative)
  | .finite negative m e => .finite (m != 0 && !negative) m e

/-- Reads a number without its first sign. -/
def readUnsigned (cs : List Char) : Option Value :=
  let name := String.ofList (cs.map Char.toLower)
  if isFractional cs then
    if isWholeFraction cs then (Numeral.float? cs).map .float else none
  else if name = "inf" then some (.float (.infinite false))
  else if name = "nan" then some (.float .nan)
  else (Numeral.int? cs).map .int

/-- The value with its sign changed. -/
def negatedValue : Value → Value
  | .int n => .int (-n)
  | .float x => .float (negated x)
  | v => v

def readNumber (cs : List Char) : Read Value :=
  let digits (cs : List Char) := cs.filter (· ≠ '_')
  orMalformed <| match cs with
    | '-' :: rest => (readUnsigned (digits rest)).map negatedValue
    | '+' :: rest => readUnsigned (digits rest)
    | cs => readUnsigned (digits cs)

end SourceFlow.Toml
