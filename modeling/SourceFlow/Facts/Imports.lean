import SourceFlow.Facts.Reading

/-!
# Imports

An import statement brings in a module for its effects, by its default
export, as a whole, or by a list of names; one statement may do several
of these. A call of `import` is a deferred import.
-/

namespace SourceFlow.Facts

open Syntax (Node Source)

/-- The name an import binds, if there is one. -/
def boundName (src : Source) (identifier? : Option Node) : List String :=
  (identifier?.map src.textOf).toList

/-- The names listed in braces, by the names they have in the imported module. -/
def specifierNames (src : Source) (specifierKind : String) (list : Node) : List String :=
  (list.namedChildren.filter (·.kind == specifierKind)).filterMap fun spec =>
    (spec.field? "name").map src.nameOf

/-- What one part of an import clause binds, apart from the default name. -/
def clausePart? (src : Source) (part : Node) : Option (BindingForm × List String) :=
  if part.kind == "namespace_import" then
    some (.star, boundName src (part.childOfKind? "identifier"))
  else if part.kind == "named_imports" then
    some (.named, specifierNames src "import_specifier" part)
  else none

/-- What an import statement binds: the default name first, then the other parts in order. -/
def bindings (src : Source) (statement : Node) : List (BindingForm × List String) :=
  match statement.childOfKind? "import_clause" with
  -- an import without a clause is for its effect only
  | none => [(.effect, [])]
  | some clause =>
    let name := (clause.childOfKind? "identifier").map fun id =>
      (BindingForm.default, [src.textOf id])
    name.toList ++ clause.namedChildren.filterMap (clausePart? src)

def importAt (src : Source) (n : Node) (reference : String) (form : BindingForm)
    (names : List String) (isDeferred : Bool) : Import :=
  { reference, form, names, isExternal := isExternalReference reference, isDeferred
    position := src.positionOf n }

/-- The import of a statement `import x = require(…)`. -/
def requireImports (src : Source) (statement clause : Node) : List Import :=
  (((clause.field? "source").bind src.stringValue?).map fun reference =>
    importAt src statement reference .default
      (boundName src (clause.childOfKind? "identifier")) false).toList

def statementImports (src : Source) (statement : Node) : List Import :=
  match statement.field? "source", statement.childOfKind? "import_require_clause" with
  | none, some clause => requireImports src statement clause
  | none, none => []
  -- a source of the statement itself goes before that of a clause
  | some source, _ =>
    match src.stringValue? source with
    | none => []
    | some reference =>
      (bindings src statement).map fun b => importAt src statement reference b.1 b.2 false

def deferredImports (src : Source) (call : Node) : List Import :=
  ((src.firstStringArgument? call).map fun reference =>
    importAt src call reference .default [] true).toList

end SourceFlow.Facts
