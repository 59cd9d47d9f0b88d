import SourceFlow.Flow.Basic
import SourceFlow.Project.Basic

/-!
# The flow graph of a project

Each unit gives a node of its own, then a node for each of its functions
and methods, then, if its path looks like routing, one for each verb of a
placeholder resource. A unit is joined to the units it depends on, and
each function to the one declared after it.
-/

namespace SourceFlow.Flow

/-! ## Identifiers -/

/-- A unit whose lower-case path has one of these in it is taken to do routing. -/
def routingMarkers : List String :=
  ["router", "routes"]

/-- The verbs of the endpoints of a routing unit. -/
def endpointVerbs : List String :=
  ["GET", "POST", "PUT", "DELETE"]

/-- The resource that endpoints are about. -/
def placeholderResource : String := "/users"

/-- Id of the node of the `index`-th function of a unit. -/
def functionId (unit : String) (index : Int) (name : String) : String :=
  unit ++ "::" ++ name ++ "#" ++ Text.decimal index

/-- What an endpoint node shows. -/
def endpointLabel (verb : String) : String :=
  verb ++ " " ++ placeholderResource

def endpointId (unit verb : String) : String :=
  unit ++ "::" ++ endpointLabel verb

/-- Whether a unit is taken to do routing. No character but an ASCII letter has one of the letters
of the markers as its lower case. -/
def isRouting (unit : String) : Bool :=
  routingMarkers.any (Text.contains (Text.lowerAscii unit))

/-! ## Nodes -/

def unitNode (u : UnitFacts) : FlowNode :=
  { id := u.id, kind := .unit, label := u.id, owner := u.id
    detail := .unit u.metadata.kindName u.metadata.lineCount }

def functionNode (unit : String) (index : Nat) (d : Declaration) : FlowNode :=
  { id := functionId unit index d.name, kind := .function, label := d.name, owner := unit
    position := some d.position
    detail := .function d.kind d.isAsync d.isExported (d.parameters.map (·.name)) d.returnType }

def endpointNode (unit verb : String) : FlowNode :=
  { id := endpointId unit verb, kind := .endpoint, label := endpointLabel verb, owner := unit
    detail := .endpoint verb placeholderResource }

def unitNodes (u : UnitFacts) : List FlowNode :=
  unitNode u :: u.functions.zipIdx.map (fun p => functionNode u.id p.2 p.1) ++
    if isRouting u.id then endpointVerbs.map (endpointNode u.id) else []

/-- The nodes of a project, unit by unit. -/
def nodes (p : Project) : List FlowNode :=
  p.units.flatMap unitNodes

/-! ## Edges -/

/-- The edges from a unit to the units it depends on. -/
def importEdges (unit : String) (targets : List String) : List FlowEdge :=
  targets.zipIdx.map fun t =>
    { id := "import:" ++ unit ++ ":" ++ t.2.repr, source := unit, target := t.1, kind := .imports }

/-- The edges between functions declared one after the other. -/
def callEdges (u : UnitFacts) : List FlowEdge :=
  (u.functions.zip (u.functions.drop 1)).zipIdx.map fun p =>
    { id := "call:" ++ u.id ++ ":" ++ p.2.repr
      source := functionId u.id p.2 p.1.1.name
      target := functionId u.id (p.2 + 1 : Nat) p.1.2.name
      kind := .calls }

/-- The edges of a project, unit by unit. -/
def edges (p : Project) : List FlowEdge :=
  p.units.flatMap fun u => importEdges u.id (p.graph.neighbours u.id) ++ callEdges u

/-! ## The cap -/

/-- The first nodes and the edges between them. -/
def cap (limit : Int) (nodes : List FlowNode) (edges : List FlowEdge) :
    List FlowNode × List FlowEdge :=
  let kept := firstNodes limit nodes
  let ids := kept.map (·.id)
  (kept, edges.filter fun e => ids.contains e.source && ids.contains e.target)

/-- The capped nodes and edges of a project. -/
def build (limit : Int) (p : Project) : List FlowNode × List FlowEdge :=
  cap limit (nodes p) (edges p)

end SourceFlow.Flow
