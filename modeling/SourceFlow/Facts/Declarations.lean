import SourceFlow.Facts.Exports
import SourceFlow.Syntax.Cursor

/-!
# Declarations

Functions are declared by function statements, by variables whose value
is a function, and by methods of object literals; methods and classes by
class bodies and class statements. A declaration records its parameters,
its return type, the documentation comment in front of it and whether it
is exported.
-/

namespace SourceFlow.Facts

open Syntax (Node Source Cursor)

/-! ## Parameters -/

/-- The name of a parameter that has none, such as a destructuring pattern. -/
def anonymousName : String := "unknown"

/-- The name a parameter pattern binds. -/
def patternName (src : Source) : Option Node → String
  | none => anonymousName
  | some pattern =>
    if pattern.kind == "identifier" || pattern.kind == "this" then src.textOf pattern
    else if pattern.kind == "rest_pattern" then
      ((pattern.childOfKind? "identifier").map src.textOf).getD anonymousName
    else anonymousName

/-- A parameter. With a default value it is optional. -/
def parameterOf (src : Source) (n : Node) : Parameter :=
  if n.kind == "required_parameter" || n.kind == "optional_parameter" then
    let value := n.field? "value"
    { name := patternName src (n.field? "pattern")
      typeText := ((n.field? "type").bind src.annotation?).getD "any"
      isOptional := n.kind == "optional_parameter" || value.isSome
      defaultText := value.map src.textOf }
  else if n.kind == "assignment_pattern" then
    { name := patternName src (n.field? "left"), isOptional := true
      defaultText := (n.field? "right").map src.textOf }
  -- a parameter without annotations stands for itself
  else { name := patternName src (some n) }

/-- The parameters of a function: one without parentheses, or a list. -/
def parametersOf (src : Source) (function : Node) : List Parameter :=
  match function.field? "parameter" with
  | some single => [{ name := patternName src (some single) }]
  | none =>
    match function.field? "parameters" with
    | some list => (list.namedChildren.filter (·.kind != "comment")).map (parameterOf src)
    | none => []

/-! ## Surroundings -/

def exportKind : String := "export_statement"

/-- The documentation comment just before a node, or before the export statement around it. -/
def docBefore (src : Source) (c : Cursor) : Option String :=
  -- an export statement stands between a declaration and its comment
  let previous := match c.above with
    | [] => c.previous
    | s :: _ => if s.node.kind == exportKind then s.previous else c.previous
  match previous with
  | some comment =>
    if comment.kind == "comment" && Text.startsWith (src.textOf comment) "/**" then
      some (src.textOf comment)
    else none
  | none => none

/-! ## Functions, methods and classes -/

/-- A function or method. Its signature is read off `function`, its documentation off what stands
before `anchor`, and it is placed at `place`. -/
def callable (src : Source) (function place : Node) (anchor : Cursor) (name : String)
    (kind : DeclarationKind) (isExported : Bool) : Declaration :=
  { name, kind, isExported
    position := src.positionOf place
    isAsync := function.hasToken "async"
    isGeneric := (function.field? "type_parameters").isSome
    parameters := parametersOf src function
    returnType := ((function.field? "return_type").bind src.annotation?).getD "void"
    doc := docBefore src anchor }

def functionDeclarations (src : Source) (c : Cursor) : List Declaration :=
  ((c.node.field? "name").map fun name =>
    callable src c.node c.node c (src.textOf name) .function (c.isUnder exportKind)).toList

/-- The function that a variable holds. It belongs to the statement around the variable: the comment
and the export are looked for there. -/
def variableDeclarations (src : Source) (c : Cursor) (name : String) (value : Node) :
    List Declaration :=
  if functionValueKinds.contains value.kind then
    let statement := c.parent?
    [callable src value c.node (statement.getD c) name .function
      (statement.any (·.isUnder exportKind))]
  else []

def isAccessor (n : Node) : Bool :=
  n.hasToken "get" || n.hasToken "set"

/-- The method of a method definition, or the function if it stands in no class body. Constructors
and accessors are not recorded. -/
def methodDeclarations (src : Source) (c : Cursor) : List Declaration :=
  match c.node.field? "name" with
  | none => []
  | some name =>
    if name.kind == "property_identifier" && src.textOf name != "constructor" &&
        !isAccessor c.node then
      -- methods of object literals are functions
      let kind := if c.isUnder "class_body" then DeclarationKind.method else .function
      [callable src c.node c.node c (src.textOf name) kind false]
    else []

def heritage (src : Source) (classNode : Node) : Option String × List String :=
  match classNode.childOfKind? "class_heritage" with
  | none => (none, [])
  | some clause =>
    match clause.childOfKind? "extends_clause", clause.childOfKind? "implements_clause" with
    -- in plain scripts the super class stands here without a clause of its own
    | none, none => ((clause.firstNamed? ["comment"]).map src.textOf, [])
    | ext, impl =>
      (ext.bind fun e => ((e.field? "value").or (e.firstNamed? ["comment"])).map src.textOf,
        match impl with
        | some i => i.namedChildren.map src.textOf
        | none => [])

def classDeclarations (src : Source) (c : Cursor) : List Declaration :=
  match c.node.field? "name" with
  | none => []
  | some name =>
    let above := heritage src c.node
    [{ name := src.textOf name, kind := .classType
       position := src.positionOf c.node
       isExported := c.isUnder exportKind
       isGeneric := (c.node.field? "type_parameters").isSome
       returnType := ""
       doc := docBefore src c
       superClass := above.1
       interfaces := above.2 }]

end SourceFlow.Facts
