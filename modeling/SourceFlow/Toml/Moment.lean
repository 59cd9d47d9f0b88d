import SourceFlow.Number.Numeral
import SourceFlow.Time
import SourceFlow.Toml.Basic

/-!
# Dates and times of a settings document

A time of day is told by its colons, a date by a dash. What stands where
the digits of a date should be is looked at by its place only.
-/

namespace SourceFlow.Toml

/-! ## Texts -/

/-- Numbers as the arguments of a call. -/
def callText (name : String) (arguments : List String) : String :=
  "datetime." ++ name ++ "(" ++ ", ".intercalate arguments ++ ")"

/-- The numbers of a time of day; seconds and their parts are left out where they are zero. -/
def clockNumbers (t : Timestamp) : List Nat :=
  if t.microsecond ≠ 0 then [t.hour, t.minute, t.second, t.microsecond]
  else if t.second ≠ 0 then [t.hour, t.minute, t.second]
  else [t.hour, t.minute]

def dateMoment (t : Timestamp) : Moment :=
  let text := String.ofList (t.iso.toList.takeWhile (· ≠ 'T'))
  { kind := .date, written := text, shown := text
    literal := callText "date" ([t.year, t.month, t.day].map Nat.repr) }

def timeMoment (t : Timestamp) : Moment :=
  let text := String.ofList ((t.iso.toList.dropWhile (· ≠ 'T')).drop 1)
  { kind := .time, written := text, shown := text
    literal := callText "time" ((clockNumbers t).map Nat.repr) }

/-- A point in time with its date and its time of day. Universal time is marked by a letter in a
document. -/
def fullMoment (t : Timestamp) : Moment :=
  let zone := match t.offset with
    | some _ => ["tzinfo=" ++ Timestamp.offsetText t.offset]
    | none => []
  { kind := .both
    written := if t.offset = some 0 then { t with offset := none }.iso ++ "Z" else t.iso
    shown := String.ofList (t.iso.toList.map fun c => if c = 'T' then ' ' else c)
    literal := callText "datetime"
      (([t.year, t.month, t.day] ++ clockNumbers t).map Nat.repr ++ zone) }

/-! ## Reading -/

/-- The number in the digits from one place up to another. -/
def numberAt (start stop : Nat) (cs : List Char) : Option Nat :=
  Numeral.natIn? 10 ((cs.take stop).drop start)

def daysIn (year month : Nat) : Nat :=
  if month = 2 then
    if year % 4 = 0 ∧ (year % 100 ≠ 0 ∨ year % 400 = 0) then 29 else 28
  else if [4, 6, 9, 11].contains month then 30
  else 31

/-- The date at the front of a text. -/
def dateAt? (cs : List Char) : Option Timestamp := do
  let year ← numberAt 0 4 cs
  let month ← numberAt 5 7 cs
  let day ← numberAt 8 10 cs
  if 0 < year ∧ 0 < month ∧ month ≤ 12 ∧ 0 < day ∧ day ≤ daysIn year month then
    some { year, month, day, hour := 0, minute := 0, second := 0 }
  else none

/-- A date with the time of day at the front of a text. -/
def clockAt? (date : Timestamp) (cs : List Char) : Option Timestamp := do
  let hour ← numberAt 0 2 cs
  let minute ← numberAt 3 5 cs
  let second ← numberAt 6 8 cs
  if hour < 24 ∧ minute < 60 ∧ second < 60 then some { date with hour, minute, second } else none

def zone? (cs : List Char) : Option Int :=
  if cs = ['Z'] then some 0
  else do
    let hours ← numberAt 1 3 cs
    let minutes ← numberAt 4 6 cs
    let distance : Int := (hours * 60 + minutes : Nat)
    some (if cs.head? = some '-' then -distance else distance)

/-- Parts of a second in microseconds, from at most six digits. -/
def microseconds? (cs : List Char) : Option Nat :=
  (Numeral.natIn? 10 (cs.take 6)).map fun n =>
    -- missing digits stand for zeros
    (List.replicate (6 - cs.length) 10).foldl (· * ·) n

/-- A point in time with what follows its seconds: parts of a second and a zone. What cannot be
read there is passed over. -/
def withRest (t : Timestamp) (cs : List Char) : Timestamp :=
  match cs with
  | '.' :: rest =>
    let isSign (c : Char) := c = '+' ∨ c = '-' ∨ c = 'Z'
    let zone := rest.dropWhile fun c => !isSign c
    match microseconds? (rest.takeWhile fun c => !isSign c) with
    | some microsecond => { t with microsecond, offset := zone? zone }
    | none => t
  | _ => { t with offset := zone? cs }

/-- Whether a text begins as a time of day does. -/
def beginsClock : List Char → Bool
  | a :: b :: ':' :: c :: d :: ':' :: e :: f :: _ => [a, b, c, d, e, f].all Char.isDigit
  | _ => false

/-- The time of day at the front of a text. Parts of a second count if they have three to six
digits, and their number is the number of microseconds. -/
def readClock (cs : List Char) : Read Value := do
  let date : Timestamp := { year := 1, month := 1, day := 1, hour := 0, minute := 0, second := 0 }
  let t ← orMalformed (clockAt? date cs)
  let digits := match cs.drop 8 with
    | '.' :: rest => (rest.takeWhile Char.isDigit).take 6
    | _ => []
  let microsecond := if digits.length < 3 then 0 else (Numeral.natIn? 10 digits).getD 0
  return .moment (timeMoment { t with microsecond })

/-- The date in a text, with a time of day if there is more than a date. -/
def dated? (cs : List Char) : Option Moment := do
  -- a minus sign in front is none between parts
  if !(cs.drop 1).contains '-' then none
  else
    let date ← dateAt? cs
    if cs.length = 10 then some (dateMoment date)
    else
      let t ← clockAt? date (cs.drop 11)
      some (fullMoment (if cs.length > 19 then withRest t (cs.drop 19) else t))

/-- Whether a text is taken as a date or a time. -/
def isMoment (cs : List Char) : Bool :=
  beginsClock cs || (dated? cs).isSome

end SourceFlow.Toml
