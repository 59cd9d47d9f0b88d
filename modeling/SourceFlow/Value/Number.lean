import SourceFlow.Value.Basic

/-!
# Values as numbers

A limit is compared with counts. Integers, numbers with a fraction and
truth values can be: a truth value counts as zero or one.
-/

namespace SourceFlow

/-- A number, exact or rounded. -/
inductive Number where
  | int (value : Int)
  | float (value : Binary64)
deriving DecidableEq, Repr

namespace Number

/-- The numerator and the denominator of a finite number. -/
def fraction (negative : Bool) (mantissa : Nat) (exponent : Int) : Int × Nat :=
  let p := Binary64.powFraction 2 exponent
  let n : Int := (mantissa * p.1 : Nat)
  (if negative then -n else n, p.2)

/-- Whether a number is less than an integer. What is no number is not. -/
def below : Number → Int → Bool
  | .int m, n => m < n
  | .float .nan, _ => false
  | .float (.infinite negative), _ => negative
  | .float (.finite negative m e), n =>
    let (num, den) := fraction negative m e
    num < n * den

/-- The least count that is no less than a number. There is none for infinity and for what is no
number. -/
def ceiling? : Number → Option Nat
  | .int n => some n.toNat
  | .float .nan => none
  | .float (.infinite negative) => if negative then some 0 else none
  | .float (.finite negative m e) =>
    let (num, den) := fraction negative m e
    -- a negative number counts as zero
    some ((num.toNat + den - 1) / den)

end Number

namespace Value

def number? : Value → Option Number
  | .bool b => some (.int (if b then 1 else 0))
  | .int n => some (.int n)
  | .float x => some (.float x)
  | _ => none

end Value

end SourceFlow
