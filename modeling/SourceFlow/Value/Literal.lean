import SourceFlow.Text.Printable
import SourceFlow.Value.Basic

/-!
# Literals

How a value is shown in a message: texts in quotes with everything
escaped that cannot be printed, lists in brackets, tables in braces.
-/

namespace SourceFlow

namespace Text

def hexDigit (n : Nat) : Char :=
  if n < 10 then Char.ofNat ('0'.toNat + n) else Char.ofNat ('a'.toNat + (n - 10))

/-- The last `width` hexadecimal digits of a number. -/
def hexDigits : Nat → Nat → List Char
  | 0, _ => []
  | width + 1, n => hexDigits width (n / 16) ++ [hexDigit (n % 16)]

/-- One character inside a literal with the given quote. -/
def literalChar (quote c : Char) : List Char :=
  -- the other quote needs no escape
  if c = quote ∨ c = '\\' then ['\\', c]
  else if c = '\t' then ['\\', 't']
  else if c = '\n' then ['\\', 'n']
  else if c = '\r' then ['\\', 'r']
  else if isPrintable c then [c]
  else if c.toNat < 0x100 then '\\' :: 'x' :: hexDigits 2 c.toNat
  else if c.toNat < 0x10000 then '\\' :: 'u' :: hexDigits 4 c.toNat
  else '\\' :: 'U' :: hexDigits 8 c.toNat

/-- The quote around a text: a single one, unless the text has single quotes and no double ones. -/
def literalQuote (cs : List Char) : Char :=
  if cs.contains '\'' && !cs.contains '"' then '"' else '\''

/-- What stands between the quotes of a literal. -/
def literalBody (cs : List Char) : List Char :=
  cs.flatMap (literalChar (literalQuote cs))

/-- A text in quotes. -/
def literal (s : String) : String :=
  let quote := literalQuote s.toList
  String.ofList (quote :: literalBody s.toList ++ [quote])

end Text

namespace Value

mutual

/-- The value as it is shown in a message. -/
def literal : Value → String
  | .null => "None"
  | .bool b => if b then "True" else "False"
  | .int n => Text.decimal n
  | .float x => x.text
  | .text s => Text.literal s
  | .moment m => m.literal
  | .list items => "[" ++ ", ".intercalate (literals items) ++ "]"
  | .table entries => "\x7b" ++ ", ".intercalate (entryLiterals entries) ++ "\x7d"

def literals : List Value → List String
  | [] => []
  | v :: rest => v.literal :: literals rest

def entryLiterals : List (String × Value) → List String
  | [] => []
  | (name, v) :: rest => (Text.literal name ++ ": " ++ v.literal) :: entryLiterals rest

end

/-- The value as it is shown on its own: a text without quotes, a moment in its own way, anything
else as a literal. -/
def shown : Value → String
  | .text s => s
  | .moment m => m.shown
  | v => v.literal

end Value

end SourceFlow
