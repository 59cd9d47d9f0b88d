import Mathlib.Algebra.BigOperators.Group.List.Basic
import Mathlib.Algebra.Ring.Nat
import SourceFlow.Proofs.Flow.CycleAgreement
import SourceFlow.Proofs.Integrity

/-!
# What the statistics add up to

The numbers of a report are counted on the finished flow graph, apart from
the counts of the project. They have to agree with what the units give:
each unit a node, each of its functions a node, each routing unit four
endpoints, each pair of functions declared one after the other a call, and
each dependency that is a node an import. A cap lowers the number of nodes
and nothing else can. All this is said of lists of units in which an id may
come more than once, though only the last unit of an id decides what the
id depends on.
-/

namespace SourceFlow

/-! ## Routing units -/

namespace Text

theorem occursIn_iff {needle hay : List Char} : occursIn needle hay = true ↔ needle <:+: hay := by
  induction hay with
  | nil => simp [occursIn]
  | cons c rest ih =>
    rw [occursIn, Bool.or_eq_true, ih, List.isPrefixOf_iff_prefix, List.infix_cons_iff]

/-- A text is in another just if its characters stand there in a row. -/
theorem contains_iff {s needle : String} :
    contains s needle = true ↔ needle.toList <:+: s.toList :=
  occursIn_iff

end Text

/-- The path of a unit, in lower case, has `router` or `routes` in it. -/
def UnitFacts.HasRoutingPath (u : UnitFacts) : Prop :=
  "router".toList <:+: (Text.lowerAscii u.id).toList ∨
    "routes".toList <:+: (Text.lowerAscii u.id).toList

instance (u : UnitFacts) : Decidable u.HasRoutingPath :=
  inferInstanceAs (Decidable (_ ∨ _))

namespace Flow

def routingCount (units : List UnitFacts) : Nat :=
  units.countP fun u => u.HasRoutingPath

/-- The two markers that are looked for are those of a routing path. -/
theorem isRouting_iff (u : UnitFacts) : isRouting u.id = true ↔ u.HasRoutingPath := by
  simp [isRouting, routingMarkers, Text.contains_iff, UnitFacts.HasRoutingPath]

theorem routingCount_cons (u : UnitFacts) (units : List UnitFacts) :
    routingCount (u :: units) = routingCount units + if isRouting u.id then 1 else 0 := by
  have hrouting : decide u.HasRoutingPath = isRouting u.id := by
    rw [Bool.eq_iff_iff, decide_eq_true_iff, isRouting_iff]
  rw [routingCount, List.countP_cons, hrouting]
  rfl

/-! ## Nodes -/

/-- A unit has its own node, one for each function, and four more if it does routing. -/
theorem length_unitNodes (u : UnitFacts) :
    (unitNodes u).length = 1 + u.functions.length + 4 * if isRouting u.id then 1 else 0 := by
  rw [unitNodes, List.length_append, List.length_cons, List.length_map, List.length_zipIdx]
  split
  · rw [List.length_map, endpointVerbs]
    simp only [List.length_cons, List.length_nil]
    omega
  · simp only [List.length_nil]
    omega

/-- All nodes before the cap, counted by what they stand for. -/
theorem length_nodes (p : Project) :
    (nodes p).length =
      p.units.length + (p.units.flatMap (·.functions)).length + 4 * routingCount p.units := by
  rw [nodes]
  induction p.units with
  | nil => rfl
  | cons u rest ih =>
    rw [List.flatMap_cons, List.length_append, ih, length_unitNodes, routingCount_cons,
      List.flatMap_cons, List.length_append, List.length_cons]
    omega

/-- The endpoints of a unit are those of the verbs, if it does routing. -/
theorem length_endpoints_unitNodes (u : UnitFacts) :
    ((unitNodes u).filter (·.kind == .endpoint)).length =
      4 * if isRouting u.id then 1 else 0 := by
  -- no other node of the unit is an endpoint, and all nodes of verbs are
  have hothers : (unitNode u :: u.functions.zipIdx.map fun q => functionNode u.id q.2 q.1).filter
      (·.kind == .endpoint) = [] := by
    rw [List.filter_eq_nil_iff]
    intro n hn
    rcases List.mem_cons.mp hn with rfl | hn
    · change ¬ (NodeKind.unit == .endpoint) = true
      decide
    · obtain ⟨q, _, rfl⟩ := List.mem_map.mp hn
      change ¬ (NodeKind.function == .endpoint) = true
      decide
  have hendpoints : (endpointVerbs.map (endpointNode u.id)).filter (·.kind == .endpoint) =
      endpointVerbs.map (endpointNode u.id) := by
    rw [List.filter_eq_self]
    intro n hn
    obtain ⟨verb, _, rfl⟩ := List.mem_map.mp hn
    change (NodeKind.endpoint == .endpoint) = true
    decide
  rw [unitNodes, List.filter_append, hothers, List.nil_append]
  split
  · rw [hendpoints, List.length_map]
    rfl
  · rfl

/-- Only routing units have endpoints. -/
theorem length_endpoints_nodes (p : Project) :
    ((nodes p).filter (·.kind == .endpoint)).length = 4 * routingCount p.units := by
  rw [nodes]
  induction p.units with
  | nil => rfl
  | cons u rest ih =>
    rw [List.flatMap_cons, List.filter_append, List.length_append, ih, length_endpoints_unitNodes,
      routingCount_cons]
    omega

/-! ## Edges -/

/-- Each function of a unit has its node among those of the unit. -/
theorem functionId_mem_ids_unitNodes {u : UnitFacts} {index : Nat} {d : Declaration}
    (h : u.functions[index]? = some d) :
    functionId u.id index d.name ∈ (unitNodes u).map (·.id) := by
  have hnode : functionNode u.id index d ∈
      u.functions.zipIdx.map fun q => functionNode u.id q.2 q.1 :=
    List.mem_map.mpr ⟨(d, index), List.mem_zipIdx_iff_getElem?.mpr h, rfl⟩
  have hmem : functionNode u.id index d ∈ unitNodes u :=
    List.mem_append_left _ (List.mem_cons_of_mem _ hnode)
  exact List.mem_map_of_mem hmem

/-- A call joins two nodes of the unit. -/
theorem ends_of_mem_callEdges {u : UnitFacts} {e : FlowEdge} (h : e ∈ callEdges u) :
    e.source ∈ (unitNodes u).map (·.id) ∧ e.target ∈ (unitNodes u).map (·.id) := by
  obtain ⟨pair, hmem, rfl⟩ := List.mem_map.mp h
  obtain ⟨hcaller, hcallee⟩ := functions_of_mem_pairs hmem
  exact ⟨functionId_mem_ids_unitNodes hcaller, functionId_mem_ids_unitNodes hcallee⟩

/-- Functions are called by those declared just before them, so all but the first are. -/
theorem length_callEdges (u : UnitFacts) : (callEdges u).length = u.functions.length - 1 := by
  rw [callEdges, List.length_map, List.length_zipIdx, List.length_zip, List.length_drop]
  omega

section Kept

variable {p : Project} {u : UnitFacts} (hu : u ∈ p.units)

include hu

theorem ids_unitNodes_subset : (unitNodes u).map (·.id) ⊆ (nodes p).map (·.id) := by
  apply List.map_subset
  intro n hn
  exact List.mem_flatMap.mpr ⟨u, hu, hn⟩

theorem between_callEdges : between (nodes p) (callEdges u) = callEdges u := by
  rw [between, List.filter_eq_self]
  intro e he
  obtain ⟨hsource, htarget⟩ := ends_of_mem_callEdges he
  rw [Bool.and_eq_true, List.contains_iff_mem, List.contains_iff_mem]
  exact ⟨ids_unitNodes_subset hu hsource, ids_unitNodes_subset hu htarget⟩

/-- Of the imports of a unit as many are kept as lead to nodes. -/
theorem length_between_importEdges (targets : List String) :
    (between (nodes p) (importEdges u.id targets)).length =
      (targets.filter ((nodes p).map (·.id)).contains).length := by
  have hunit : u.id ∈ (nodes p).map (·.id) := ids_unitNodes_subset hu List.mem_cons_self
  rw [← map_target_importEdges targets hunit, List.length_map]

end Kept

/-- The edges that are kept with all nodes, unit by unit. -/
theorem length_between_edges (p : Project) :
    (between (nodes p) (edges p)).length =
      (p.units.map fun u => u.functions.length - 1).sum +
        (p.units.map fun u =>
          ((p.graph.neighbours u.id).filter ((nodes p).map (·.id)).contains).length).sum := by
  -- edges are filtered one by one, so what is kept can be counted unit by unit
  have hunit : ∀ u ∈ p.units,
      (between (nodes p) (importEdges u.id (p.graph.neighbours u.id) ++ callEdges u)).length =
        (u.functions.length - 1) +
          ((p.graph.neighbours u.id).filter ((nodes p).map (·.id)).contains).length := by
    intro u hu
    have hsplit : between (nodes p) (importEdges u.id (p.graph.neighbours u.id) ++ callEdges u) =
        between (nodes p) (importEdges u.id (p.graph.neighbours u.id)) ++
          between (nodes p) (callEdges u) := List.filter_append ..
    rw [hsplit, List.length_append, length_between_importEdges hu, between_callEdges hu,
      length_callEdges, Nat.add_comm]
  calc (between (nodes p) (edges p)).length
      = (p.units.map fun u =>
          (between (nodes p)
            (importEdges u.id (p.graph.neighbours u.id) ++ callEdges u)).length).sum := by
        rw [between, edges, List.filter_flatMap, List.length_flatMap]
        rfl
    _ = (p.units.map fun u => (u.functions.length - 1) +
          ((p.graph.neighbours u.id).filter ((nodes p).map (·.id)).contains).length).sum := by
        rw [List.map_congr_left hunit]
    _ = _ := List.sum_map_add

end Flow

/-! ## Analyses -/

/-- The nodes that statistics on some units speak for: one for each file, one for each function, and
four for each routing unit. -/
def Statistics.nodesGiven (s : Statistics) (units : List UnitFacts) : Int :=
  s.files + s.functions + 4 * Flow.routingCount units

namespace Analysis

/-- The statistics of an analysis agree with the counts of its project and with what its units
give. What is said of endpoints and edges holds if the cap keeps every node. -/
structure Balanced (options : Options) (units : List UnitFacts) (a : Analysis) : Prop where
  files : a.report.statistics.files = a.project.counts.units ∧
    a.project.counts.units = units.length
  functions : a.report.statistics.functions = a.project.counts.functions ∧
    a.project.counts.functions = (units.map fun u => u.functions.length).sum
  nodes : a.report.statistics.nodes =
    min options.maxNodes (a.report.statistics.nodesGiven units)
  endpoints : a.report.statistics.nodesGiven units ≤ options.maxNodes →
    a.report.statistics.endpoints = 4 * Flow.routingCount units
  edges : a.report.statistics.nodesGiven units ≤ options.maxNodes →
    a.report.statistics.edges =
      (((units.map fun u => u.functions.length - 1).sum +
        (units.map fun u => ((a.project.graph.neighbours u.id).filter
          (a.graph.nodes.map (·.id)).contains).length).sum : Nat) : Int)

section

variable (options : Options) (time : Timestamp) (label : String) (units : List UnitFacts)

/-- The statistics speak for just the nodes that there are before the cap. -/
theorem nodesGiven_ofUnits :
    (ofUnits options time label units).report.statistics.nodesGiven units =
      (Flow.nodes (Project.ofUnits units)).length := by
  rw [Flow.length_nodes]
  push_cast
  rfl

/-- A cap that is large enough keeps all nodes and all edges between nodes. -/
theorem graph_ofUnits_of_length_le
    (h : ((Flow.nodes (Project.ofUnits units)).length : Int) ≤ options.maxNodes) :
    (ofUnits options time label units).graph.nodes = Flow.nodes (Project.ofUnits units) ∧
      (ofUnits options time label units).graph.edges =
        Flow.between (Flow.nodes (Project.ofUnits units)) (Flow.edges (Project.ofUnits units)) := by
  have hcap := Flow.cap_of_length_le (Flow.edges (Project.ofUnits units)) h
  exact ⟨congrArg Prod.fst hcap, congrArg Prod.snd hcap⟩

/-- The statistics of any units balance, whatever positive cap there is. -/
theorem ofUnits_balanced (hnodes : 1 ≤ options.maxNodes) :
    (ofUnits options time label units).Balanced options units := by
  refine ⟨⟨rfl, rfl⟩, ⟨rfl, List.length_flatMap⟩, ?_, ?_, ?_⟩
  -- nodes: the cap takes the first of them
  · rw [nodesGiven_ofUnits]
    exact Flow.length_firstNodes (by omega) _
  -- endpoints: with a cap that is large enough, those of the uncapped graph
  · intro hfits
    rw [nodesGiven_ofUnits] at hfits
    have hcount := Flow.length_endpoints_nodes (Project.ofUnits units)
    rw [← (graph_ofUnits_of_length_le options time label units hfits).1] at hcount
    exact congrArg Nat.cast hcount
  -- edges: those of the uncapped graph whose ends are nodes
  · intro hfits
    rw [nodesGiven_ofUnits] at hfits
    obtain ⟨hkept, hbetween⟩ := graph_ofUnits_of_length_le options time label units hfits
    have hcount := Flow.length_between_edges (Project.ofUnits units)
    rw [← hbetween, ← hkept] at hcount
    exact congrArg Nat.cast hcount

end

/-- Two units that import each other, and the first once more with another function and without
imports. -/
def repeatedUnits : List UnitFacts :=
  Flow.mutualImports ++
    [{ id := "routes/a.ts", metadata := { kindName := "typescript" }
       declarations := [{ name := "h", kind := .function }] }]

/-- A cap of eighteen just keeps three units, three functions and twelve endpoints. The first unit
calls one function from another, and only the second unit still imports. -/
theorem ofUnits_balanced_repeatedUnits :
    (1 : Int) ≤ ({ maxNodes := 18 } : Options).maxNodes ∧
      (ofUnits { maxNodes := 18 } ⟨2024, 1, 1, 9, 0, 0, 0, none⟩ "scan"
        repeatedUnits).report.statistics.nodes = 18 ∧
      (ofUnits { maxNodes := 18 } ⟨2024, 1, 1, 9, 0, 0, 0, none⟩ "scan"
        repeatedUnits).report.statistics.endpoints = 12 ∧
      (ofUnits { maxNodes := 18 } ⟨2024, 1, 1, 9, 0, 0, 0, none⟩ "scan"
        repeatedUnits).report.statistics.edges = 2 := by
  have hbalanced := ofUnits_balanced { maxNodes := 18 } ⟨2024, 1, 1, 9, 0, 0, 0, none⟩ "scan"
    repeatedUnits (by decide)
  have hfits : (ofUnits { maxNodes := 18 } ⟨2024, 1, 1, 9, 0, 0, 0, none⟩ "scan"
      repeatedUnits).report.statistics.nodesGiven repeatedUnits ≤ 18 := by decide +kernel
  refine ⟨by decide, hbalanced.nodes.trans ?_, (hbalanced.endpoints hfits).trans ?_,
    (hbalanced.edges hfits).trans ?_⟩
  · decide +kernel
  · decide +kernel
  · decide +kernel

end Analysis

end SourceFlow
