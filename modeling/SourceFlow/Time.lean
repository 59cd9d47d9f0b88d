import SourceFlow.Text.Basic

/-!
# Points in time

A point in time on a calendar, with or without a distance from universal
time, and the two texts that reports need of it.
-/

namespace SourceFlow

/-- A point in time. `offset` is the distance from universal time in minutes. -/
structure Timestamp where
  year : Nat
  month : Nat
  day : Nat
  hour : Nat
  minute : Nat
  second : Nat
  microsecond : Nat := 0
  offset : Option Int := none
deriving DecidableEq, Repr

namespace Timestamp

def fractionText (t : Timestamp) : String :=
  if t.microsecond = 0 then "" else "." ++ Text.zeroPadded 6 t.microsecond

def offsetText : Option Int → String
  | none => ""
  | some minutes =>
    -- the sign stands before both parts
    (if minutes < 0 then "-" else "+") ++ Text.zeroPadded 2 (minutes.natAbs / 60) ++ ":" ++
      Text.zeroPadded 2 (minutes.natAbs % 60)

/-- The time in the international format. -/
def iso (t : Timestamp) : String :=
  Text.zeroPadded 4 t.year ++ "-" ++ Text.zeroPadded 2 t.month ++ "-" ++ Text.zeroPadded 2 t.day ++
    "T" ++ Text.zeroPadded 2 t.hour ++ ":" ++ Text.zeroPadded 2 t.minute ++ ":" ++
    Text.zeroPadded 2 t.second ++ t.fractionText ++ offsetText t.offset

/-- The time as part of a file name; the year is not filled up. -/
def fileStamp (t : Timestamp) : String :=
  "-".intercalate (t.year.repr ::
    [t.month, t.day, t.hour, t.minute, t.second].map (Text.zeroPadded 2))

end Timestamp

end SourceFlow
