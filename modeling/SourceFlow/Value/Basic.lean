import SourceFlow.Number.Binary64
import SourceFlow.Ordered

/-!
# Setting values

The values a setting may be given, by a settings file or by a caller. A
setting expects a value of one kind, but anything can be stored and is
kept as it is until the settings are checked.
-/

namespace SourceFlow

/-- What a moment consists of. -/
inductive MomentKind where
  | date
  | time
  | both
deriving DecidableEq, Repr

/-- A date, a time of day, or both. Nothing is computed with one: it has the texts that stand for
it, and no more is known of it. -/
structure Moment where
  kind : MomentKind
  /-- The text in a document. -/
  written : String
  /-- The text in a message. -/
  literal : String
  /-- The text on its own. -/
  shown : String
deriving DecidableEq, Repr

/-- A value of any kind. -/
inductive Value where
  | null
  | bool (value : Bool)
  | int (value : Int)
  | float (value : Binary64)
  | text (value : String)
  | moment (value : Moment)
  | list (items : List Value)
  | table (entries : List (String × Value))
deriving Inhabited

/-- The entries of a table, in the order in which their names were first given. -/
abbrev Table := List (String × Value)

namespace Value

def isNull : Value → Bool
  | .null => true
  | _ => false

/-- Whether a value counts as yes: all do but null, false, zero, and what is empty. -/
def isTruthy : Value → Bool
  | .null => false
  | .bool b => b
  | .int n => n != 0
  | .float x => !x.isZero
  | .text s => !s.isEmpty
  | .moment _ => true
  | .list items => !items.isEmpty
  | .table entries => !entries.isEmpty

end Value

end SourceFlow
