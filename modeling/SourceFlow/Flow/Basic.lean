import SourceFlow.Facts.Basic
import SourceFlow.Graph.Adjacency

/-!
# Flow graphs

Nodes for units, functions and endpoints, edges for imports and calls,
and what an analysis finds out about them.
-/

namespace SourceFlow

/-- The kind of a node. Four kinds are known; any other name is a kind of its own. -/
structure NodeKind where
  name : String
deriving DecidableEq, Repr, Inhabited

namespace NodeKind

/-- A verb that a routing unit answers to. -/
def endpoint : NodeKind := ⟨"endpoint"⟩

/-- A function declared in a unit. -/
def function : NodeKind := ⟨"function"⟩

/-- A source unit. -/
def unit : NodeKind := ⟨"unit"⟩

/-- A place where data is kept. Source units give no such nodes. -/
def dataStore : NodeKind := ⟨"data-store"⟩

/-- The known kinds, in the order in which nodes are grouped. -/
def known : List NodeKind :=
  [endpoint, function, unit, dataStore]

end NodeKind

/-- What is recorded about a node of its kind. -/
inductive NodeDetail where
  | nothing
  | unit (kindName : String) (lineCount : Nat)
  | function (kind : DeclarationKind) (isAsync isExported : Bool) (parameters : List String)
      (returnType : String)
  | endpoint (method path : String)
deriving DecidableEq, Repr

structure FlowNode where
  id : String
  kind : NodeKind
  label : String
  owner : String
  position : Option Position := none
  detail : NodeDetail := .nothing
deriving DecidableEq, Repr

/-- The first nodes up to a limit; a negative limit leaves out that many nodes at the end
instead. -/
def firstNodes (limit : Int) (nodes : List FlowNode) : List FlowNode :=
  match limit with
  | .ofNat k => nodes.take k
  -- truncated subtraction: nothing is left if more are left out than there are
  | .negSucc k => nodes.take (nodes.length - (k + 1))

/-- Why there is an edge. -/
inductive EdgeKind where
  | imports
  | calls
deriving DecidableEq, Repr

def EdgeKind.name : EdgeKind → String
  | .imports => "import"
  | .calls => "call"

structure FlowEdge where
  id : String
  source : String
  target : String
  kind : EdgeKind
deriving DecidableEq, Repr

structure FlowStats where
  nodeCount : Nat := 0
  edgeCount : Nat := 0
  maxDepth : Int := 0
deriving DecidableEq, Repr

/-- A flow graph with what is known about it. -/
structure FlowGraph where
  nodes : List FlowNode
  edges : List FlowEdge
  entries : List String := []
  cycles : List (List String) := []
  stats : FlowStats := {}
deriving DecidableEq, Repr

def adjacencyOf (edges : List FlowEdge) : Graph.Adjacency :=
  .ofEdges (edges.map fun e => (e.source, e.target))

end SourceFlow
