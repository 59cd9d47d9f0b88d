import SourceFlow.Facts.Calls
import SourceFlow.Facts.Declarations
import SourceFlow.Source.Parsed
import SourceFlow.Text.Lines

/-!
# Extraction

One walk over the tree of a unit gathers its facts. The walk keeps an
explicit stack of visits, so trees of any depth are fine, and visits
every node once, a node before its children and the children in order.
What a node contributes depends on the node, on its surroundings and on
whether failures are handled around it, never on what was gathered
before. Only at the end are the calls on variables settled and all calls
put in the order of their positions.
-/

namespace SourceFlow.Facts

open Syntax (Node Source Cursor)

/-! ## Findings -/

/-- What has been gathered. -/
structure Findings where
  imports : List Import := []
  exports : List Export := []
  declarations : List Declaration := []
  calls : List RemoteCall := []
  /-- Variables that hold a client, with the client's name. -/
  clients : List (String × String) := []
  /-- Member calls on variables that may hold a client. -/
  pending : List (String × RemoteCall) := []
  hasJsx : Bool := false
  hasAsync : Bool := false

namespace Findings

/-- Findings of two parts of a tree, the earlier part first. -/
def append (a b : Findings) : Findings :=
  { imports := a.imports ++ b.imports
    exports := a.exports ++ b.exports
    declarations := a.declarations ++ b.declarations
    calls := a.calls ++ b.calls
    clients := a.clients ++ b.clients
    pending := a.pending ++ b.pending
    hasJsx := a.hasJsx || b.hasJsx
    hasAsync := a.hasAsync || b.hasAsync }

instance : Append Findings := ⟨append⟩

/-- The client that a variable holds; the last one given to it counts. -/
def clientOf? (f : Findings) (holder : String) : Option String :=
  f.clients.reverse.lookup holder

/-- The calls set aside whose variable holds a client. -/
def settled (f : Findings) : List RemoteCall :=
  f.pending.filterMap fun p => (f.clientOf? p.1).map fun client => { p.2 with library := client }

/-- Whether a call starts no later than another. -/
def startsBy (a b : RemoteCall) : Bool :=
  a.position.line < b.position.line ||
    (a.position.line == b.position.line && a.position.column ≤ b.position.column)

/-- All recognised calls by where they start; of calls that start together, those on known clients
come first. -/
def orderedCalls (f : Findings) : List RemoteCall :=
  -- the sort is stable, so ties keep the order of the two lists
  (f.calls ++ f.settled).mergeSort startsBy

end Findings

/-! ## What a node contributes -/

def callFindings (src : Source) (call : Node) (guarded : Bool) : Findings :=
  match readCall src call guarded with
  | .plain => {}
  | .deferredImport => { imports := deferredImports src call }
  | .remote c => { calls := [c] }
  | .onVariable name c => { pending := [(name, c)] }

/-- The client a variable is given, as a list of at most one. -/
def clientGiven (src : Source) (holder : String) (value : Node) : List (String × String) :=
  ((createdClient? src value).map fun client => (holder, client)).toList

def declaratorFindings (src : Source) (c : Cursor) : Findings :=
  match declaratorName? src c.node, c.node.field? "value" with
  | some name, some value =>
    { clients := clientGiven src name value, declarations := variableDeclarations src c name value }
  | _, _ => {}

def assignmentFindings (src : Source) (n : Node) : Findings :=
  match n.field? "left", n.field? "right" with
  | some left, some right =>
    if left.kind == "identifier" then { clients := clientGiven src (src.textOf left) right } else {}
  | _, _ => {}

/-- Kinds of elements embedded in scripts. -/
def jsxKinds : List String :=
  ["jsx_element", "jsx_self_closing_element", "jsx_fragment"]

/-- What one node contributes. -/
def contribution (src : Source) (c : Cursor) (guarded : Bool) : Findings :=
  -- the kinds are disjoint, so at most one of the cases applies
  let kind := c.node.kind
  if kind == "import_statement" then { imports := statementImports src c.node }
  else if kind == exportKind then { exports := statementExports src c.node }
  else if kind == "call_expression" then callFindings src c.node guarded
  else if functionDeclarationKinds.contains kind then { declarations := functionDeclarations src c }
  else if kind == "variable_declarator" then declaratorFindings src c
  else if kind == "assignment_expression" then assignmentFindings src c.node
  else if kind == "method_definition" then { declarations := methodDeclarations src c }
  else if classDeclarationKinds.contains kind then { declarations := classDeclarations src c }
  else if jsxKinds.contains kind then { hasJsx := true }
  else if kind == "await_expression" then { hasAsync := true }
  else if functionValueKinds.contains kind && c.node.hasToken "async" then { hasAsync := true }
  else {}

/-! ## The walk -/

/-- A node still to be visited, and whether failures are handled around it. -/
structure Visit where
  cursor : Cursor
  guarded : Bool := false

/-- Whether failures are handled in a node: in a `try` statement and in a call of `catch`. -/
def handlesFailure (src : Source) (n : Node) : Bool :=
  n.kind == "try_statement" || isCatchCall src n

namespace Visit

/-- Whether failures are handled at the visited node. -/
def isGuarded (src : Source) (v : Visit) : Bool :=
  v.guarded || handlesFailure src v.cursor.node

/-- The visits to the children. -/
def children (src : Source) (v : Visit) : List Visit :=
  v.cursor.children.map fun c => ⟨c, v.isGuarded src⟩

/-- How many nodes the visits of a stack and the visits below them reach. -/
def reach (stack : List Visit) : Nat :=
  Node.sizeAll (stack.map (·.cursor.node))

/-- Visiting a node leaves its children. -/
theorem reach_children (src : Source) (v : Visit) (stack : List Visit) :
    reach (v.children src ++ stack) + 1 = reach (v :: stack) := by
  have h := Cursor.sizeAll_children v.cursor
  have hnodes : (v.children src).map (·.cursor.node) = v.cursor.children.map (·.node) := by
    rw [children, List.map_map]
    rfl
  rw [reach, reach, List.map_append, Node.sizeAll_append, hnodes, List.map_cons, Node.sizeAll]
  omega

end Visit

/-- Visits what is on the stack, the top first, and everything below it. -/
def walk (src : Source) : List Visit → Findings → Findings
  | [], found => found
  | v :: stack, found =>
    -- children before what was on the stack: the walk is in pre-order
    walk src (v.children src ++ stack) (found ++ contribution src v.cursor (v.isGuarded src))
termination_by stack => Visit.reach stack
decreasing_by
  have h := Visit.reach_children src v stack
  omega

def findings (src : Source) (root : Node) : Findings :=
  walk src [⟨.root root, false⟩] {}

end SourceFlow.Facts

/-! ## Facts of a unit -/

namespace SourceFlow

def ParsedUnit.facts (p : ParsedUnit) : UnitFacts :=
  let found := Facts.findings p.source p.root
  let text := p.source.text
  { id := p.id
    metadata :=
      { kindName := p.kind.name
        hasJsx := found.hasJsx
        hasAsync := found.hasAsync || found.declarations.any (·.isAsync)
        hasErrors := !p.diagnostics.isEmpty
        lineCount := Text.lineCount text
        characterCount := text.length }
    imports := found.imports
    exports := found.exports
    declarations := found.declarations
    calls := found.orderedCalls
    errors := p.diagnostics }

/-- The kind recorded for a unit that is no script. -/
def unknownKindName : String := "unknown"

/-- The facts of a unit that no loaded grammar reads: measures of its text, and why. -/
def UnitFacts.unread (id : String) (lineCount characterCount : Nat) (cause : UnsupportedLanguage) :
    UnitFacts :=
  { id
    metadata :=
      { kindName := ((ScriptKind.ofPath? id).map (·.name)).getD unknownKindName
        hasErrors := true
        lineCount
        characterCount }
    errors := [cause.message] }

def SourceUnit.facts (loaded : List Grammar) (unit : SourceUnit) : UnitFacts :=
  match unit.parse loaded with
  | .ok parsed => parsed.facts
  | .error cause => .unread unit.id (Text.lineCount unit.text) unit.text.length cause

theorem SourceUnit.facts_of_parse {loaded : List Grammar} {unit : SourceUnit} {p : ParsedUnit}
    (h : unit.parse loaded = .ok p) : unit.facts loaded = p.facts := by
  unfold facts
  rw [h]

/-- The text of a unit should have been parsed and has no bytes. -/
structure Unencodable where
  unit : String
deriving DecidableEq, Repr

/-- The facts of a raw unit. A text with surrogates can be measured, but not parsed. -/
def RawUnit.facts (loaded : List Grammar) (unit : RawUnit) : Except Unencodable UnitFacts :=
  -- bytes are needed only for a text that is parsed
  match ScriptKind.readable loaded unit.id with
  | .error cause =>
    .ok (.unread unit.id (CodePoint.lineCount unit.text) unit.text.length cause)
  | .ok kind =>
    match CodePoint.text? unit.text with
    | some text => .ok (ParsedUnit.of kind ⟨unit.id, text, unit.tree⟩).facts
    | none => .error ⟨unit.id⟩

end SourceFlow
