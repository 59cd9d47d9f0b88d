import SourceFlow.Number.Binary64
import SourceFlow.Text.Digit

/-!
# Numerals

How numbers are written. Blanks around a numeral do not count, digits may
be those of any script, and digits may be grouped by underscores. An
integer may be written in base ten or, with a mark in front, in base two,
eight or sixteen.
-/

namespace SourceFlow.Numeral

/-- A numeral without the blanks around it and with its digits in ASCII. -/
def plain (cs : List Char) : List Char :=
  Text.stripChars (cs.map Text.plainChar)

/-- The characters without underscores, each of which has to stand between two digits. The first
argument says whether a digit stands in front. -/
def ungroup? : Bool → List Char → Option (List Char)
  | _, [] => some []
  | afterDigit, c :: rest =>
    if c = '_' then
      -- an underscore is no digit, so a second one is refused
      if afterDigit && rest.head?.any Char.isDigit then ungroup? false rest else none
    else (ungroup? c.isDigit rest).map (c :: ·)

/-- Reads a number with a point, an exponent or neither, or the name of one that is not finite. -/
def float? (cs : List Char) : Option Binary64 := do
  let digits ← ungroup? false (plain cs)
  let (negative, digits) := Binary64.takeSign digits
  let name := String.ofList (digits.map Char.toLower)
  if name = "nan" then some .nan
  else if name = "inf" || name = "infinity" then some (.infinite negative)
  else Binary64.readUnsigned? negative digits

def hexValue? (c : Char) : Option Nat :=
  let n := c.toNat
  if c.isDigit then some (n - '0'.toNat)
  else if 'a'.toNat ≤ n ∧ n ≤ 'f'.toNat then some (n - 'a'.toNat + 10)
  else if 'A'.toNat ≤ n ∧ n ≤ 'F'.toNat then some (n - 'A'.toNat + 10)
  else none

/-- The value of a digit in a base up to sixteen. -/
def digitIn? (base : Nat) (c : Char) : Option Nat :=
  (hexValue? c).filter (· < base)

/-- The value of one or more digits in a base. -/
def natIn? (base : Nat) (cs : List Char) : Option Nat :=
  if cs.isEmpty then none
  else (cs.mapM (digitIn? base)).map (·.foldl (fun n d => n * base + d) 0)

/-- No integer in base ten has more digits. -/
def maxDigits : Nat := 4300

/-- Reads an integer in base ten; only zero may begin with the digit zero. -/
def decimal? (cs : List Char) : Option Nat :=
  if cs.length > maxDigits then none
  else (natIn? 10 cs).filter fun n => cs.head? != some '0' || n == 0

def nat? : List Char → Option Nat
  | '0' :: c :: rest =>
    if c = 'x' ∨ c = 'X' then natIn? 16 rest
    else if c = 'o' ∨ c = 'O' then natIn? 8 rest
    else if c = 'b' ∨ c = 'B' then natIn? 2 rest
    else decimal? ('0' :: c :: rest)
  | cs => decimal? cs

def int? (cs : List Char) : Option Int :=
  let (negative, digits) := Binary64.takeSign (plain cs)
  (nat? digits).map fun n => if negative then -(n : Int) else n

end SourceFlow.Numeral
