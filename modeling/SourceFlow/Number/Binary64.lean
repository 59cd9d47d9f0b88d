import SourceFlow.Text.Basic

/-!
# Binary floating-point numbers

Numbers of 64 bits in exact form: a sign, a mantissa below `2^53` and a
power of two. Reading a decimal rounds it to the nearest such number, a
tie going to the even mantissa. Writing gives the fewest decimal digits
that read back to the number. Both use exact arithmetic on naturals.
-/

namespace SourceFlow

/-- A binary floating-point number of 64 bits. A finite one is its mantissa times two to the
exponent; the exponent is the least that keeps the mantissa whole and below `2^53`. -/
inductive Binary64 where
  | nan
  | infinite (negative : Bool)
  | finite (negative : Bool) (mantissa : Nat) (exponent : Int)
deriving DecidableEq, Repr

namespace Binary64

def mantissaBound : Nat := Nat.pow 2 53

def minExponent : Int := -1074

def maxExponent : Int := 971

/-- Whether the number is zero, of either sign. -/
def isZero : Binary64 → Bool
  | .finite _ m _ => m == 0
  | _ => false

/-! ## Reading -/

/-- A base to an integer power, as a fraction: the power itself or one over it. -/
def powFraction (base : Nat) (e : Int) : Nat × Nat :=
  match e with
  | .ofNat k => (base.pow k, 1)
  | .negSucc k => (1, base.pow (k + 1))

/-- The quotient rounded to the nearest natural, a tie to the even one. -/
def roundDiv (num den : Nat) : Nat :=
  let q := num / den
  let twice := 2 * (num % den)
  if twice < den then q
  else if den < twice then q + 1
  else if q % 2 = 0 then q else q + 1

/-- The greatest power of two that is no larger than a positive fraction, as an exponent. -/
def log2Fraction (num den : Nat) : Int :=
  let guess : Int := (num.log2 : Int) - (den.log2 : Int)
  let p := powFraction 2 guess
  if p.1 * den ≤ num * p.2 then guess else guess - 1

/-- The number nearest to a fraction. -/
def ofFraction (negative : Bool) (num den : Nat) : Binary64 :=
  if num = 0 then .finite negative 0 minExponent
  else
    let e := max minExponent (log2Fraction num den - 52)
    let p := powFraction 2 e
    let m := roundDiv (num * p.2) (den * p.1)
    -- rounding up may take one bit more
    let (m, e) := if m = mantissaBound then (m / 2, e + 1) else (m, e)
    if e > maxExponent then .infinite negative else .finite negative m e

/-- The number nearest to `digits · 10^exponent`. Far outside the range of the numbers the answer
does not need the power. -/
def ofDecimal (negative : Bool) (digits : Nat) (exponent : Int) : Binary64 :=
  if digits = 0 then .finite negative 0 minExponent
  else
    let magnitude : Int := digits.repr.length + exponent
    if magnitude > 400 then .infinite negative
    else if magnitude < -400 then .finite negative 0 minExponent
    else
      let p := powFraction 10 exponent
      ofFraction negative (digits * p.1) p.2

/-- The value of a row of decimal digits. -/
def digitsValue (cs : List Char) : Nat :=
  cs.foldl (fun n c => n * 10 + (c.toNat - '0'.toNat)) 0

/-- A sign and what follows it. -/
def takeSign : List Char → Bool × List Char
  | '-' :: rest => (true, rest)
  | '+' :: rest => (false, rest)
  | rest => (false, rest)

/-- Reads the exponent part of a number: nothing, or `e` with an integer. -/
def readExponent? : List Char → Option Int
  | [] => some 0
  | c :: rest =>
    if c = 'e' ∨ c = 'E' then
      let (negative, digits) := takeSign rest
      if digits.isEmpty || !digits.all Char.isDigit then none
      else
        let n : Int := digitsValue digits
        some (if negative then -n else n)
    else none

/-- Reads an unsigned decimal: digits, then a point with digits, then an exponent. -/
def readUnsigned? (negative : Bool) (cs : List Char) : Option Binary64 :=
  let whole := cs.takeWhile Char.isDigit
  let rest := cs.dropWhile Char.isDigit
  let (fraction, rest) := match rest with
    | '.' :: after => (after.takeWhile Char.isDigit, after.dropWhile Char.isDigit)
    | _ => ([], rest)
  if whole.isEmpty && fraction.isEmpty then none
  else
    (readExponent? rest).map fun e =>
      ofDecimal negative (digitsValue (whole ++ fraction)) (e - (fraction.length : Int))

def read? (s : String) : Option Binary64 :=
  let (negative, cs) := takeSign s.toList
  if cs = "nan".toList then some .nan
  else if cs = "inf".toList then some (.infinite negative)
  else readUnsigned? negative cs

/-! ## Writing -/

/-- Whether `a · 10^s` is less than `b · 2^t`. -/
def decimalLt (a : Nat) (s : Int) (b : Nat) (t : Int) : Bool :=
  let p := powFraction 10 s
  let q := powFraction 2 t
  a * p.1 * q.2 < b * q.1 * p.2

/-- Whether `b · 2^t` is less than `a · 10^s`. -/
def binaryLt (b : Nat) (t : Int) (a : Nat) (s : Int) : Bool :=
  let p := powFraction 10 s
  let q := powFraction 2 t
  b * q.1 * p.2 < a * p.1 * q.2

/-- The decimals that read back to a number, as an interval in quarter units of its last place. -/
structure Rounding where
  low : Nat
  centre : Nat
  high : Nat
  /-- The quarter unit, as a power of two. -/
  unit : Int
  /-- Whether the ends read back too. -/
  closed : Bool

/-- The interval of `mantissa · 2^exponent`. Below a power of two the numbers lie twice as close. -/
def roundingOf (mantissa : Nat) (exponent : Int) : Rounding :=
  let narrow := mantissa = mantissaBound / 2 ∧ exponent > minExponent
  { low := 4 * mantissa - (if narrow then 1 else 2)
    centre := 4 * mantissa
    high := 4 * mantissa + 2
    unit := exponent - 2
    -- a tie is read as the even mantissa, so only then the ends belong to it
    closed := mantissa % 2 = 0 }

/-- Whether `a · 10^s` lies in the interval. -/
def Rounding.holds (r : Rounding) (a : Nat) (s : Int) : Bool :=
  if r.closed then !decimalLt a s r.low r.unit && !binaryLt r.high r.unit a s
  else binaryLt r.low r.unit a s && decimalLt a s r.high r.unit

/-- The multiple of `10^s` just below the centre, or at it. -/
def Rounding.below (r : Rounding) (s : Int) : Nat :=
  let p := powFraction 10 s
  let q := powFraction 2 r.unit
  r.centre * q.1 * p.2 / (p.1 * q.2)

/-- Of `a · 10^s` and `(a + 1) · 10^s` the one nearer to the centre; a tie goes to the even one. -/
def Rounding.nearer (r : Rounding) (a : Nat) (s : Int) : Nat :=
  if decimalLt (2 * a + 1) s (2 * r.centre) r.unit then a + 1
  else if binaryLt (2 * r.centre) r.unit (2 * a + 1) s then a
  else if a % 2 = 0 then a else a + 1

/-- The multiple of `10^s` in the interval that lies next to the centre. -/
def Rounding.pick? (r : Rounding) (s : Int) : Option Nat :=
  let a := r.below s
  match r.holds a s, r.holds (a + 1) s with
  | true, true => some (r.nearer a s)
  | true, false => some a
  | false, true => some (a + 1)
  | false, false => none

/-- The coarsest decimal grid with a point in the interval, tried from `10^s` downwards. -/
def Rounding.shortest (r : Rounding) : Nat → Int → Nat × Int
  -- thirty steps are more than a number needs
  | 0, s => (r.below s, s)
  | steps + 1, s =>
    match r.pick? s with
    | some a => (a, s)
    | none => r.shortest steps (s - 1)

/-- Removes the zeros at the end of a number and counts them. -/
def dropZeros : Nat → Nat → Nat × Nat
  | 0, n => (n, 0)
  | steps + 1, n =>
    if n ≠ 0 ∧ n % 10 = 0 then
      let r := dropZeros steps (n / 10)
      (r.1, r.2 + 1)
    else (n, 0)

/-- The fewest digits that read back to a finite number other than zero, as digits and a power of
ten. Grids are tried from the number's own magnitude down, over at most the digits it can need. -/
def digitsOf (mantissa : Nat) (exponent : Int) : Nat × Int :=
  let r := roundingOf mantissa exponent
  let q := powFraction 2 exponent
  let magnitude : Int :=
    if q.2 = 1 then (mantissa * q.1).repr.length
    else ((mantissa * q.1).repr.length : Int) - (q.2.repr.length : Int)
  let (a, s) := r.shortest 30 (magnitude + 2)
  let (d, zeros) := dropZeros 400 a
  (d, s + zeros)

/-- Exponents outside this range are written with the mark `e`. -/
def positionalRange : Int × Int := (-4, 15)

/-- Text of `digits · 10^exponent`. A whole number keeps a zero after the point, an exponent has a
sign and at least two digits. -/
def layout (digits : Nat) (exponent : Int) : String :=
  let ds := digits.repr.toList
  -- the power of ten that the first digit stands for
  let lead : Int := exponent + (ds.length : Int) - 1
  if positionalRange.1 ≤ lead ∧ lead ≤ positionalRange.2 then
    if 0 ≤ exponent then String.ofList (ds ++ List.replicate exponent.toNat '0') ++ ".0"
    else if 0 ≤ lead then
      let k := (lead + 1).toNat
      String.ofList (ds.take k) ++ "." ++ String.ofList (ds.drop k)
    else "0." ++ String.ofList (List.replicate (-lead - 1).toNat '0' ++ ds)
  else
    let mark := (if lead < 0 then "e-" else "e+") ++ Text.zeroPadded 2 lead.natAbs
    match ds with
    | [] => mark
    | [d] => String.ofList [d] ++ mark
    | d :: rest => String.ofList [d] ++ "." ++ String.ofList rest ++ mark

def text : Binary64 → String
  | .nan => "nan"
  | .infinite negative => if negative then "-inf" else "inf"
  | .finite negative m e =>
    let body := if m = 0 then "0.0" else
      let (d, s) := digitsOf m e
      layout d s
    if negative then "-" ++ body else body

end Binary64

end SourceFlow
