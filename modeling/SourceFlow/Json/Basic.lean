import SourceFlow.Text.Basic

/-!
# JSON values

The values that reports and facts are written as. Numbers are integers;
the members of an object keep their order.
-/

namespace SourceFlow

inductive JsonValue where
  | null
  | bool (value : Bool)
  | int (value : Int)
  | text (value : String)
  | array (items : List JsonValue)
  | object (members : List (String × JsonValue))

namespace JsonValue

def ofTexts (xs : List String) : JsonValue :=
  .array (xs.map .text)

/-- A text, or null. -/
def ofText? : Option String → JsonValue
  | some s => .text s
  | none => .null

def ofNat (n : Nat) : JsonValue :=
  .int n

end JsonValue

end SourceFlow
