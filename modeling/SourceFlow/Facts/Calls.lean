import SourceFlow.Facts.Reading
import SourceFlow.Text.Uppercase

/-!
# Remote calls

Recognised are calls of `fetch`, member calls on an HTTP client or on a
variable that holds one, and calls `root.model.operation` on a data
store. A variable may be given its client after it is used, so a member
call on an unknown variable is set aside until the whole unit is read.
-/

namespace SourceFlow.Facts

open Syntax (Node Source)

/-- The function that makes a request without a client. -/
def fetchName : String := "fetch"

/-- The HTTP clients, each with the member that creates an instance of it. -/
def httpClients : List (String × String) :=
  [("axios", "create")]

def dataRoots : List String :=
  ["prisma"]

/-- Whether `member` of `object` creates an instance of an HTTP client. -/
def isFactory (object member : String) : Bool :=
  httpClients.lookup object == some member

/-! ## Member expressions -/

/-- The object and the member of a member expression. -/
def memberParts? (n : Node) : Option (Node × Node) :=
  if n.kind == "member_expression" then
    match n.field? "object", n.field? "property" with
    | some object, some member => some (object, member)
    | _, _ => none
  else none

/-- The client of which an expression creates an instance. -/
def createdClient? (src : Source) (value : Node) : Option String :=
  if value.kind == "call_expression" then
    match (value.field? "function").bind memberParts? with
    | some (object, member) =>
      if object.kind == "identifier" && isFactory (src.textOf object) (src.textOf member) then
        some (src.textOf object)
      else none
    | none => none
  else none

/-- Whether a call handles failures of what it is called on, as `promise.catch(…)` does. -/
def isCatchCall (src : Source) (n : Node) : Bool :=
  n.kind == "call_expression" &&
    match n.field? "function" with
    | some function =>
      -- the object may be anything, so only the member is looked at
      function.kind == "member_expression" &&
        (function.field? "property").any fun member => src.textOf member == "catch"
    | none => false

/-! ## Requests -/

/-- The upper-case method that a property of a request's options sets. -/
def optionMethod? (src : Source) (property : Node) : Option String :=
  if property.kind == "pair" then
    match property.field? "key", property.field? "value" with
    | some key, some value =>
      if src.nameOf key == "method" then
        match src.stringValue? value with
        | some method => if method.isEmpty then none else some (Text.upper method)
        | none => none
      else none
    | _, _ => none
  else none

/-- The method of a request: the first one its options set, or `GET`. -/
def fetchMethod (src : Source) (call : Node) : String :=
  match (Source.arguments call)[1]? with
  | some options =>
    if options.kind == "object" then
      (options.namedChildren.findSome? (optionMethod? src)).getD "GET"
    else "GET"
  | none => "GET"

/-! ## What a call expression is -/

/-- What a call expression turns out to be. -/
inductive CallReading where
  /-- Nothing that is recorded. -/
  | plain
  /-- A call of `import`. -/
  | deferredImport
  /-- A recognised call. -/
  | remote (call : RemoteCall)
  /-- A member call on a variable, recognised if the variable holds a client. -/
  | onVariable (name : String) (call : RemoteCall)

def readNameCall (src : Source) (call function : Node) (guarded : Bool) : CallReading :=
  let name := src.textOf function
  if name == fetchName then
    .remote
      { category := .http, library := name, position := src.positionOf call, isGuarded := guarded
        verb := some (fetchMethod src call), target := src.firstStringArgument? call }
  else .plain

def readVariableCall (src : Source) (call object member : Node) (guarded : Bool) : CallReading :=
  let name := src.textOf object
  let verb := src.textOf member
  -- making a client is no request
  if isFactory name verb then .plain
  else
    let remote : RemoteCall :=
      { category := .http, library := name, position := src.positionOf call, isGuarded := guarded
        verb := some (Text.upper verb), target := src.firstStringArgument? call }
    -- whether another variable holds a client is known once the whole tree was visited
    if (httpClients.lookup name).isSome then .remote remote else .onVariable name remote

/-- A member call on a member: an operation on a model of a data store, or nothing. -/
def readModelCall (src : Source) (call object member : Node) (guarded : Bool) : CallReading :=
  match object.field? "object" with
  | some root =>
    if root.kind == "identifier" && dataRoots.contains (src.textOf root) then
      .remote
        { category := .dataAccess, library := src.textOf root, position := src.positionOf call
          isGuarded := guarded, verb := some (src.textOf member)
          target := (object.field? "property").map src.textOf }
    else .plain
  | none => .plain

def readCall (src : Source) (call : Node) (guarded : Bool) : CallReading :=
  match call.field? "function" with
  | none => .plain
  | some function =>
    if function.kind == "import" then .deferredImport
    else if function.kind == "identifier" then readNameCall src call function guarded
    else
      match memberParts? function with
      | none => .plain
      | some (object, member) =>
        if object.kind == "identifier" then readVariableCall src call object member guarded
        else if object.kind == "member_expression" then readModelCall src call object member guarded
        -- deeper chains of members are not recognised
        else .plain

end SourceFlow.Facts
