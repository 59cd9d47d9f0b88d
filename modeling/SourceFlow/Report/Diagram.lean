import SourceFlow.Flow.Basic
import SourceFlow.Text.Lines

/-!
# The flow diagram

The graph in the Mermaid notation: a declaration for each node, then an
arrow for each edge between declared nodes. Node ids are free texts, so
each node gets an identifier of letters, digits and underscores; a node
whose identifier is taken gets its number appended.
-/

namespace SourceFlow.Diagram

/-- What is drawn if there is nothing to draw. -/
def emptyText : String := "graph TD\n  A[No nodes to display]"

/-- An ASCII letter or digit as it is, anything else as an underscore. -/
def safeChar (c : Char) : Char :=
  if c.isAlphanum then c else '_'

def safeId (id : String) : String :=
  if id.isEmpty then "node" else String.ofList (id.toList.map safeChar)

/-- The identifier of the `index`-th node, given those in use. -/
def freshId (used : List String) (index : Nat) (id : String) : String :=
  let safe := safeId id
  -- that the numbered identifier is free is not looked at
  if used.contains safe then safe ++ "_" ++ index.repr else safe

/-- The identifiers of nodes, in order, given how many nodes stand before them and the identifiers
in use. -/
def assignIds : Nat → List String → List FlowNode → List String
  | _, _, [] => []
  | index, used, n :: rest =>
    let safe := freshId used index n.id
    safe :: assignIds (index + 1) (safe :: used) rest

/-- The identifier of each node id; for an id given twice, that of the last. -/
def idTable (nodes : List FlowNode) : List (String × String) :=
  Ordered.ofPairs ((nodes.map (·.id)).zip (assignIds 0 [] nodes))

/-- The brackets that give a node its shape. -/
def shape (kind : NodeKind) : String × String :=
  if kind = .function then ("(", ")")
  else if kind = .dataStore then ("[(", ")]")
  else if kind = .unit then ("[[", "]]")
  else ("[", "]")

/-- A label with its quotes replaced, as it stands between quotes. -/
def quotedLabel (label : String) : String :=
  "\"" ++ Text.flatMapChars (fun c => if c = '"' then "#quot;".toList else [c]) label ++ "\""

def nodeLine (ids : List (String × String)) (n : FlowNode) : String :=
  let (opening, closing) := shape n.kind
  "  " ++ (Ordered.get? ids n.id).getD "" ++ opening ++ quotedLabel n.label ++ closing

/-- The arrow of an edge between declared nodes. -/
def edgeLine? (ids : List (String × String)) (e : FlowEdge) : Option String :=
  match Ordered.get? ids e.source, Ordered.get? ids e.target with
  | some source, some target => some ("  " ++ source ++ " --> " ++ target)
  | _, _ => none

/-- The diagram of the first nodes of a graph. -/
def render (g : FlowGraph) (limit : Int) : String :=
  if g.nodes.isEmpty then emptyText
  else
    let nodes := firstNodes limit g.nodes
    let ids := idTable nodes
    let lines := nodes.map (nodeLine ids) ++ g.edges.filterMap (edgeLine? ids)
    Text.joinLines ("graph TD" :: lines) ++ "\n"

end SourceFlow.Diagram
