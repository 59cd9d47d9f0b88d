/-!
# Unit facts

What is recorded about one source unit: its imports and exports, the
functions, methods and classes it declares, its calls to remote services
and data stores, and a few measures of its text.
-/

namespace SourceFlow

/-- Where something stands in a unit. Lines and columns count from one, columns in bytes. -/
structure Position where
  line : Nat := 1
  column : Nat := 1
  endLine : Nat := 1
  endColumn : Nat := 1
deriving DecidableEq, Repr

/-! ## Imports and exports -/

/-- How an import binds names. -/
inductive BindingForm where
  | default
  | named
  | star
  | effect
deriving DecidableEq, Repr

def BindingForm.name : BindingForm → String
  | .default => "default"
  | .named => "named"
  | .star => "namespace"
  | .effect => "side-effect"

structure Import where
  reference : String
  form : BindingForm := .named
  names : List String := []
  isExternal : Bool
  isDeferred : Bool := false
  position : Position := {}
deriving DecidableEq, Repr

/-- How names are exported. -/
inductive ExportForm where
  | default
  | named
  | everything
deriving DecidableEq, Repr

def ExportForm.name : ExportForm → String
  | .default => "default"
  | .named => "named"
  | .everything => "reexport-all"

/-- One export of a unit; `origin` is the reference of a re-export. -/
structure Export where
  form : ExportForm
  names : List String
  isReexport : Bool
  position : Position := {}
  origin : Option String := none
deriving DecidableEq, Repr

/-! ## Declarations -/

structure Parameter where
  name : String
  typeText : String := "any"
  isOptional : Bool := false
  defaultText : Option String := none
deriving DecidableEq, Repr

/-- What is declared. -/
inductive DeclarationKind where
  | function
  | method
  | classType
  | other (name : String)
deriving DecidableEq, Repr

def DeclarationKind.name : DeclarationKind → String
  | .function => "function"
  | .method => "method"
  | .classType => "class"
  | .other name => name

def DeclarationKind.ofName (name : String) : DeclarationKind :=
  if name = "function" then .function
  else if name = "method" then .method
  else if name = "class" then .classType
  else .other name

/-- Whether a declaration of the kind can be called. -/
def DeclarationKind.isCallable : DeclarationKind → Bool
  | .function | .method => true
  | _ => false

/-- One declaration of a unit. The last two fields are for classes. -/
structure Declaration where
  name : String
  kind : DeclarationKind
  position : Position := {}
  isAsync : Bool := false
  isExported : Bool := false
  isGeneric : Bool := false
  parameters : List Parameter := []
  returnType : String := "void"
  doc : Option String := none
  superClass : Option String := none
  interfaces : List String := []
deriving DecidableEq, Repr

/-! ## Calls -/

/-- What a recognised call reaches. -/
inductive CallCategory where
  | http
  | dataAccess
deriving DecidableEq, Repr

def CallCategory.name : CallCategory → String
  | .http => "http"
  | .dataAccess => "data-access"

/-- A recognised call. It is guarded if a failure of it is handled around it. -/
structure RemoteCall where
  category : CallCategory
  library : String
  position : Position
  isGuarded : Bool
  verb : Option String
  target : Option String
deriving DecidableEq, Repr

/-! ## Units -/

/-- Measures of a unit's text. -/
structure UnitMetadata where
  kindName : String
  hasJsx : Bool := false
  hasAsync : Bool := false
  hasErrors : Bool := false
  lineCount : Nat := 0
  characterCount : Nat := 0
deriving DecidableEq, Repr

/-- Everything recorded about one unit. -/
structure UnitFacts where
  id : String
  metadata : UnitMetadata
  imports : List Import := []
  exports : List Export := []
  declarations : List Declaration := []
  calls : List RemoteCall := []
  errors : List String := []
deriving DecidableEq, Repr

namespace UnitFacts

def references (u : UnitFacts) : List String :=
  u.imports.map (·.reference)

/-- The declared functions and methods, in order. -/
def functions (u : UnitFacts) : List Declaration :=
  u.declarations.filter (·.kind.isCallable)

def classes (u : UnitFacts) : List Declaration :=
  u.declarations.filter (·.kind == .classType)

end UnitFacts

end SourceFlow
