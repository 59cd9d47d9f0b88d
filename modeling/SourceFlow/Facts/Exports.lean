import SourceFlow.Facts.Imports

/-!
# Exports

An export statement re-exports a module under a name, lists names,
re-exports everything, exports a declaration, or exports the value of an
expression. The first of these that fits decides.
-/

namespace SourceFlow.Facts

open Syntax (Node Source)

def functionDeclarationKinds : List String :=
  ["function_declaration", "generator_function_declaration"]

def classDeclarationKinds : List String :=
  ["class_declaration", "abstract_class_declaration"]

/-- Kinds of declarations with a name of their own. -/
def namedDeclarationKinds : List String :=
  functionDeclarationKinds ++ classDeclarationKinds ++
    ["interface_declaration", "type_alias_declaration", "enum_declaration"]

def variableStatementKinds : List String :=
  ["lexical_declaration", "variable_declaration"]

/-- The name of a default export without one. -/
def defaultName : String := "default"

/-- The name a variable declarator binds, if it is a plain identifier. -/
def declaratorName? (src : Source) (declarator : Node) : Option String :=
  match declarator.field? "name" with
  | some name => if name.kind == "identifier" then some (src.textOf name) else none
  | none => none

/-- The names that a declaration introduces. -/
def declaredNames (src : Source) (declaration : Node) : List String :=
  if namedDeclarationKinds.contains declaration.kind then
    -- a default export may do without a name
    [((declaration.field? "name").map src.textOf).getD defaultName]
  else if variableStatementKinds.contains declaration.kind then
    (declaration.namedChildren.filter (·.kind == "variable_declarator")).filterMap
      (declaratorName? src)
  else []

/-- The name under which the value of an expression is exported. -/
def valueName (src : Source) : Option Node → String
  | none => defaultName
  | some value =>
    if value.kind == "identifier" then src.textOf value
    else if functionValueKinds.contains value.kind || value.kind == "class" then
      ((value.field? "name").map src.textOf).getD defaultName
    else defaultName

/-- The expression whose value is exported. -/
def exportedValue? (statement : Node) : Option Node :=
  (statement.field? "value").or (statement.firstNamed? ["decorator", "comment"])

/-- The reference of a re-export. -/
def exportOrigin? (src : Source) (statement : Node) : Option String :=
  (statement.field? "source").bind src.stringValue?

/-- Re-export of a whole module under one name. -/
def namespaceExports (src : Source) (statement clause : Node) : List Export :=
  match exportOrigin? src statement, clause.namedChildren.getLast? with
  | some origin, some name =>
    [{ form := .named, names := [src.nameOf name], isReexport := true
       position := src.positionOf statement, origin := some origin }]
  | _, _ => []

/-- Export or re-export of a list of names. -/
def clauseExport (src : Source) (statement clause : Node) : Export :=
  let origin := exportOrigin? src statement
  { form := .named, names := specifierNames src "export_specifier" clause
    isReexport := origin.isSome, position := src.positionOf statement, origin }

def everythingExport (src : Source) (statement : Node) (origin : String) : Export :=
  { form := .everything, names := [], isReexport := true
    position := src.positionOf statement, origin := some origin }

/-- Export of a declaration; a declaration that introduces no name exports nothing. -/
def declarationExports (src : Source) (statement declaration : Node) : List Export :=
  match declaredNames src declaration with
  | [] => []
  | names =>
    [{ form := if statement.hasToken "default" then .default else .named, names
       isReexport := false, position := src.positionOf statement }]

def valueExport (src : Source) (statement : Node) : Export :=
  { form := .default, names := [valueName src (exportedValue? statement)]
    isReexport := false, position := src.positionOf statement }

/-- Export without a list of names: of everything, of a declaration, or of a value. -/
def plainExports (src : Source) (statement : Node) : List Export :=
  -- a star counts only with a reference to go with it
  match (if statement.hasToken "*" then exportOrigin? src statement else none) with
  | some origin => [everythingExport src statement origin]
  | none =>
    match statement.field? "declaration" with
    | some declaration => declarationExports src statement declaration
    | none =>
      if statement.hasToken "default" || statement.hasToken "=" then [valueExport src statement]
      else []

def statementExports (src : Source) (statement : Node) : List Export :=
  match statement.childOfKind? "namespace_export" with
  | some clause => namespaceExports src statement clause
  | none =>
    match statement.childOfKind? "export_clause" with
    | some clause => [clauseExport src statement clause]
    | none => plainExports src statement

end SourceFlow.Facts
