import SourceFlow.Toml.Entry
import SourceFlow.Toml.Scan

/-!
# Headers of a settings document

A header names the table that the entries after it go into, by the path
of names from the whole document to it. A header in single brackets
opens a table, one in double brackets adds a table to an array.
-/

namespace SourceFlow.Toml

/-! ## The names in a header -/

/-- Whether a character may stand in a name without quotes. -/
def isBareChar (c : Char) : Bool :=
  c.isAlphanum || c == '_' || c == '-'

def isBare (name : List Char) : Bool :=
  !name.isEmpty && name.all isBareChar

/-- Whether a name in quotes is closed. -/
def isClosed (name : List Char) : Bool :=
  sameEnds name && name.length != 1

/-- The names in the parts of a header between its dots. Parts are put together until the quotes
that the first of them opens are closed; the first argument holds what was put together. -/
def namesOf : Option (List Char) → List (List Char) → Read (List String)
  | none, [] => .ok []
  | some _, [] => .error .malformed
  | none, part :: rest =>
    let part := Text.stripChars part
    if startsQuoted part then
      if isClosed part then
        (namesOf none rest).map (String.ofList (Text.dropEndChars part) :: ·)
      else namesOf (some part) rest
    else if isBare part then (namesOf none rest).map (String.ofList part :: ·)
    else .error .malformed
  | some name, part :: rest =>
    let whole := Text.stripChars (name ++ '.' :: part)
    if isClosed whole then (namesOf none rest).map (String.ofList (Text.dropEndChars whole) :: ·)
    else namesOf (some (name ++ '.' :: part)) rest

/-- The names in the text of a header after its opening brackets. Nothing may follow the closing
brackets. -/
def headerNames (closing text : List Char) : Read (List String) :=
  let n := firstOpen closing text
  let parts := Text.splitAtMost closing n text
  if parts.length < n + 1 || !(Text.stripChars (parts.getLast?.getD [])).isEmpty then
    .error .malformed
  else namesOf none ((closing.intercalate parts.dropLast).splitOn '.')

/-- A header: its kind and its names. -/
def readHeader : List Char → Read (HeaderKind × List String)
  | '[' :: '[' :: text => (headerNames [']', ']'] text).map fun names => (.arrayItem, names)
  | ['['] => .error .malformed
  | '[' :: text => (headerNames [']'] text).map fun names => (.table, names)
  | _ => .error .malformed

/-! ## Places in a document -/

/-- A step into a value. -/
inductive Step where
  /-- To the value of a name of a table. -/
  | name (name : String)
  /-- To the last item of an array. -/
  | last
deriving DecidableEq, Repr

/-- The value that steps lead to. -/
def valueAt? : List Step → Value → Option Value
  | [], v => some v
  | .name name :: path, .table t => (Ordered.get? t name).bind (valueAt? path)
  | .last :: path, .list items => items.getLast?.bind (valueAt? path)
  | _, _ => none

/-- Puts a value where steps lead to; one that is not there is put in only at the last step. -/
def putAt (new : Value) : List Step → Value → Value
  | [], _ => new
  | .name name :: path, .table t =>
    .table (Ordered.put name (putAt new path ((Ordered.get? t name).getD .null)) t)
  | .last :: path, .list items =>
    match items.getLast? with
    | some item => .list (items.dropLast ++ [putAt new path item])
    | none => .list items
  | _, v => v

/-- A document while headers are followed: the whole of it, the steps to a place in it, the value
there, and the names of tables that were made only as a way to other tables. -/
structure Draft where
  root : Value := .table []
  path : List Step := []
  here : Value := .table []
  implied : List String := []

namespace Draft

def goTo (d : Draft) (steps : List Step) (here : Value) : Draft :=
  { d with path := d.path ++ steps, here }

/-- Puts a value into the place, which may be below the present one, and goes there. -/
def place (d : Draft) (steps : List Step) (here : Value) : Draft :=
  { d.goTo steps here with root := putAt here (d.path ++ steps) d.root }

/-- What is said about a value without parts of which a part is asked for. -/
def partMessage : Value → String
  | .bool _ => "'bool' object is not subscriptable"
  | .float _ => "'float' object is not subscriptable"
  | _ => "'int' object is not subscriptable"

/-- What is said where a table cannot be added. -/
def appendMessage : String :=
  "You can only load a file descriptor, filename or list"

/-- What a header makes where its last name is new. -/
def newValue : HeaderKind → Value
  | .table => .table []
  | .arrayItem => .list [.table []]

/-- Follows the last name of a header that is there already: to a table that was made as a way to
others, once, or to an array that takes one more table. -/
def reopen (d : Draft) (kind : HeaderKind) (name : String) (value : Value) : Read Draft :=
  -- names are kept without their paths, so another table of the name counts too
  if d.implied.contains name then
    match kind with
    | .arrayItem => .error .malformed
    | .table => .ok { d.goTo [.name name] value with implied := d.implied.erase name }
  else
    match kind, value with
    | .table, _ => .error .malformed
    | .arrayItem, .list items => .ok (d.place [.name name] (.list (items ++ [.table []])))
    | .arrayItem, _ => .error (.wrongKind appendMessage)

/-- Follows a name of a header in a table. -/
def enterTable (d : Draft) (kind : HeaderKind) (name : String) (isLast : Bool) (t : Table) :
    Read Draft :=
  match Ordered.get? t name with
  | some value => if isLast then d.reopen kind name value else .ok (d.goTo [.name name] value)
  | none =>
    if isLast then .ok (d.place [.name name] (newValue kind))
    else .ok { d.place [.name name] (.table []) with implied := d.implied ++ [name] }

/-- Follows a name of a header in the last item of an array. -/
def enterItem (d : Draft) (kind : HeaderKind) (name : String) (isLast : Bool) (item : Value) :
    Read Draft :=
  match item with
  | .table t =>
    match Ordered.get? t name with
    -- in an array a name may be given again
    | some value => .ok (d.goTo [.last, .name name] value)
    | none => .ok (d.place [.last, .name name] (if isLast then newValue kind else .table []))
  | item => .error (.wrongKind (lookupMessage name item))

def lastPart : Value → Read Value
  | .list items => orPastEnd items.getLast?
  | .text s => (orPastEnd s.toList.getLast?).map fun c => .text (String.ofList [c])
  | v => .error (.wrongKind (partMessage v))

/-- Follows a name of a header. -/
def enter (d : Draft) (kind : HeaderKind) (name : String) (isLast : Bool) : Read Draft :=
  if name.isEmpty then .error .malformed
  else
    match d.here with
    | .table t => d.enterTable kind name isLast t
    | v => do d.enterItem kind name isLast (← lastPart v)

/-- In a header of an array, goes on from an array to its last item. -/
def enterLast (d : Draft) (kind : HeaderKind) : Read Draft :=
  match kind, d.here with
  | .table, _ | .arrayItem, .table _ => .ok d
  | .arrayItem, v => (lastPart v).map (d.goTo [.last])

def follow (kind : HeaderKind) : List String → Draft → Read Draft
  | [], d => .ok d
  | name :: rest, d => do
    let d ← d.enter kind name rest.isEmpty
    follow kind rest (← d.enterLast kind)

/-- Goes to the place that a header names, from the whole document on. -/
def openAt (d : Draft) (kind : HeaderKind) (names : List String) : Read Draft :=
  follow kind names { d with path := [], here := d.root }

end Draft

end SourceFlow.Toml
