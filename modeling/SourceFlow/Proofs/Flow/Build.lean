import SourceFlow.Proofs.Flow.Identifiers
import SourceFlow.Proofs.Graph.Directed
import SourceFlow.Proofs.Project

/-!
# The nodes and edges of a flow graph

What the cap keeps, where the edges of a project begin and end, and which
of its ids are those of units.
-/

namespace SourceFlow

/-- The neighbours of a node are the targets of its edges, in order. -/
theorem neighbours_adjacencyOf (edges : List FlowEdge) (u : String) :
    (adjacencyOf edges).neighbours u = (edges.filter (·.source == u)).map (·.target) := by
  rw [adjacencyOf, Graph.Adjacency.neighbours_ofEdges, List.filter_map, List.map_map]
  rfl

/-- A node is a neighbour of another if an edge leads there. -/
theorem mem_neighbours_adjacencyOf {edges : List FlowEdge} {u v : String} :
    v ∈ (adjacencyOf edges).neighbours u ↔ ∃ e ∈ edges, e.source = u ∧ e.target = v := by
  rw [neighbours_adjacencyOf]
  simp only [List.mem_map, List.mem_filter, beq_iff_eq, and_assoc]

namespace Flow

/-! ## The cap -/

/-- A cap that is not below the number of nodes keeps them all. -/
theorem firstNodes_of_length_le {limit : Int} {nodes : List FlowNode}
    (h : (nodes.length : Int) ≤ limit) : firstNodes limit nodes = nodes := by
  match limit, h with
  | .ofNat k, h =>
    have hle : nodes.length ≤ k := by
      have hk : Int.ofNat k = (k : Int) := rfl
      omega
    exact List.take_of_length_le hle
  | .negSucc k, h =>
    exfalso
    omega

/-- A cap that is not negative keeps as many nodes as it says, or all. -/
theorem length_firstNodes {limit : Int} (hlimit : 0 ≤ limit) (nodes : List FlowNode) :
    ((firstNodes limit nodes).length : Int) = min limit nodes.length := by
  obtain ⟨k, rfl⟩ := Int.eq_ofNat_of_zero_le hlimit
  have htake : (firstNodes (k : Int) nodes).length = min k nodes.length := List.length_take
  omega

/-- Whatever the cap is, no node is made up. -/
theorem firstNodes_subset (limit : Int) (nodes : List FlowNode) :
    firstNodes limit nodes ⊆ nodes := by
  unfold firstNodes
  split
  · exact List.take_subset _ _
  · exact List.take_subset _ _

/-- The edges from and to some nodes. -/
def between (nodes : List FlowNode) (edges : List FlowEdge) : List FlowEdge :=
  edges.filter fun e =>
    (nodes.map (·.id)).contains e.source && (nodes.map (·.id)).contains e.target

theorem mem_between {nodes : List FlowNode} {edges : List FlowEdge} {e : FlowEdge} :
    e ∈ between nodes edges ↔
      e ∈ edges ∧ e.source ∈ nodes.map (·.id) ∧ e.target ∈ nodes.map (·.id) := by
  simp only [between, List.mem_filter, Bool.and_eq_true, List.contains_iff_mem]

/-- The nodes left over decide, whatever was left out before. -/
theorem between_between {nodes nodes' : List FlowNode} (h : nodes ⊆ nodes')
    (edges : List FlowEdge) : between nodes (between nodes' edges) = between nodes edges := by
  have hids : nodes.map (·.id) ⊆ nodes'.map (·.id) := List.map_subset _ h
  rw [between, between, List.filter_filter, between]
  apply List.filter_congr
  intro e _
  rw [Bool.eq_iff_iff]
  simp only [Bool.and_eq_true, List.contains_iff_mem]
  constructor
  · intro hboth
    exact hboth.1
  · intro hends
    exact ⟨hends, hids hends.1, hids hends.2⟩

/-- Caps one after the other are as good as the smaller of them. -/
theorem cap_cap {m n : Int} (hm : 0 ≤ m) (hn : 0 ≤ n) (nodes : List FlowNode)
    (edges : List FlowEdge) :
    cap m (cap n nodes edges).1 (cap n nodes edges).2 = cap (min m n) nodes edges := by
  -- taking from what was taken is taking the smaller number
  have hnodes : firstNodes m (firstNodes n nodes) = firstNodes (min m n) nodes := by
    obtain ⟨k, rfl⟩ := Int.eq_ofNat_of_zero_le hm
    obtain ⟨l, rfl⟩ := Int.eq_ofNat_of_zero_le hn
    have hmin : min (k : Int) (l : Int) = (min k l : Nat) := by omega
    rw [hmin]
    exact List.take_take
  show (firstNodes m (firstNodes n nodes), between (firstNodes m (firstNodes n nodes))
    (between (firstNodes n nodes) edges)) = _
  rw [between_between (firstNodes_subset m _), hnodes]
  rfl

/-- A cap that is large enough leaves out only edges that lead to no node. -/
theorem cap_of_length_le {limit : Int} {nodes : List FlowNode} (edges : List FlowEdge)
    (h : (nodes.length : Int) ≤ limit) : cap limit nodes edges = (nodes, between nodes edges) := by
  unfold cap
  rw [firstNodes_of_length_le h]
  rfl

/-! ## Edges -/

theorem source_of_mem_importEdges {unit : String} {targets : List String} {e : FlowEdge}
    (h : e ∈ importEdges unit targets) : e.source = unit := by
  obtain ⟨t, _, rfl⟩ := List.mem_map.mp h
  rfl

/-- A pair of functions declared one after the other, with the index of the first. -/
theorem functions_of_mem_pairs {u : UnitFacts} {pair : (Declaration × Declaration) × Nat}
    (h : pair ∈ (u.functions.zip (u.functions.drop 1)).zipIdx) :
    u.functions[pair.2]? = some pair.1.1 ∧ u.functions[pair.2 + 1]? = some pair.1.2 := by
  obtain ⟨hcaller, hnext⟩ := List.getElem?_zip_eq_some.mp (List.mem_zipIdx_iff_getElem?.mp h)
  rw [List.getElem?_drop, Nat.add_comm] at hnext
  exact ⟨hcaller, hnext⟩

/-- A call leads from a function to the one with the next index. -/
theorem ids_of_mem_callEdges {u : UnitFacts} {e : FlowEdge} (h : e ∈ callEdges u) :
    ∃ (index : Nat) (caller callee : String),
      e.source = functionId u.id index caller ∧
        e.target = functionId u.id (index + 1 : Nat) callee := by
  obtain ⟨p, _, rfl⟩ := List.mem_map.mp h
  exact ⟨p.2, p.1.1.name, p.1.2.name, rfl, rfl⟩

/-- Of the imports of a unit those are kept whose target is a node. -/
theorem map_target_importEdges {unit : String} (targets : List String) {nodes : List FlowNode}
    (hunit : unit ∈ nodes.map (·.id)) :
    (between nodes (importEdges unit targets)).map (·.target) =
      targets.filter (nodes.map (·.id)).contains := by
  have hfst : targets.zipIdx.map Prod.fst = targets := List.zipIdx_map_fst 0 targets
  have hsource : (nodes.map (·.id)).contains unit = true := List.contains_iff_mem.mpr hunit
  rw [between, importEdges, List.filter_map, List.map_map]
  -- the targets are numbered on the left only, so they are numbered on the right too
  nth_rewrite 2 [← hfst]
  rw [List.filter_map]
  congr 1
  apply List.filter_congr
  intro t _
  simp only [Function.comp_apply, hsource, Bool.true_and]

/-- If one element of a list of distinct keys has something to give, it alone gives. -/
theorem flatMap_eq_of_nodup {α β : Type} {key : α → String} {l : List α} {f : α → List β} {x : α}
    (hnodup : (l.map key).Nodup) (hx : x ∈ l) (hf : ∀ y ∈ l, key y ≠ key x → f y = []) :
    l.flatMap f = f x := by
  induction l with
  | nil => cases hx
  | cons y rest ih =>
    obtain ⟨hnot, hrest⟩ := List.nodup_cons.mp hnodup
    rw [List.flatMap_cons]
    -- the element is here and in no later place, or it is later and not here
    rcases List.mem_cons.mp hx with rfl | hmem
    · have hnone : rest.flatMap f = [] := by
        rw [List.flatMap_eq_nil_iff]
        intro z hz
        apply hf z (List.mem_cons_of_mem _ hz)
        intro heq
        exact hnot (heq ▸ List.mem_map_of_mem hz)
      rw [hnone, List.append_nil]
    · have hne : key y ≠ key x := by
        intro heq
        exact hnot (heq ▸ List.mem_map_of_mem hmem)
      rw [hf y List.mem_cons_self hne, List.nil_append]
      exact ih hrest hmem fun z hz => hf z (List.mem_cons_of_mem _ hz)

section Scripts

variable {p : Project} (hnodup : (p.units.map (·.id)).Nodup)
  (hscript : ∀ u ∈ p.units, (ScriptKind.ofPath? u.id).isSome)

include hscript

/-- Units are scripts, and the id of a function is not the path of one. -/
theorem functionId_not_unit (unit name : String) (index : Nat) :
    functionId unit index name ∉ p.units.map (·.id) := by
  intro hmem
  obtain ⟨u, hu, heq⟩ := List.mem_map.mp hmem
  have h := hscript u hu
  rw [heq, ofPath?_functionId] at h
  cases h

/-- Nor is the id of an endpoint. -/
theorem endpointId_not_unit (unit verb : String) : endpointId unit verb ∉ p.units.map (·.id) := by
  intro hmem
  obtain ⟨u, hu, heq⟩ := List.mem_map.mp hmem
  have h := hscript u hu
  rw [heq, ofPath?_endpointId] at h
  cases h

/-- An edge that begins at no unit is a call. -/
theorem call_of_source_not_unit {e : FlowEdge} (he : e ∈ edges p)
    (hsource : e.source ∉ p.units.map (·.id)) :
    e.target ∉ p.units.map (·.id) ∧ trailingIndex e.source < trailingIndex e.target := by
  obtain ⟨u, hu, hmem⟩ := List.mem_flatMap.mp he
  rcases List.mem_append.mp hmem with himport | hcall
  -- an import begins at its unit
  · exfalso
    apply hsource
    rw [source_of_mem_importEdges himport]
    exact List.mem_map_of_mem hu
  · obtain ⟨index, caller, callee, hfrom, hto⟩ := ids_of_mem_callEdges hcall
    rw [hfrom, hto, trailingIndex_functionId, trailingIndex_functionId]
    exact ⟨functionId_not_unit hscript _ _ _, Nat.lt_succ_self index⟩

include hnodup in
/-- The edges from a unit are its imports. -/
theorem edges_from_unit {u : UnitFacts} (hu : u ∈ p.units) :
    (edges p).filter (·.source == u.id) = importEdges u.id (p.graph.neighbours u.id) := by
  have hcalls : ∀ w : UnitFacts, (callEdges w).filter (·.source == u.id) = [] := by
    intro w
    rw [List.filter_eq_nil_iff]
    intro e he hsource
    obtain ⟨index, caller, _, hfrom, _⟩ := ids_of_mem_callEdges he
    have heq : e.source = u.id := by simpa using hsource
    exact functionId_not_unit hscript w.id caller index
      (hfrom ▸ heq ▸ List.mem_map_of_mem hu)
  -- of the imports, only those of the unit itself begin there
  rw [edges, List.filter_flatMap, flatMap_eq_of_nodup hnodup hu]
  · rw [List.filter_append, hcalls, List.append_nil, List.filter_eq_self]
    intro e he
    rw [source_of_mem_importEdges he]
    exact beq_self_eq_true _
  · intro w _ hne
    rw [List.filter_append, hcalls, List.append_nil, List.filter_eq_nil_iff]
    intro e he hsource
    rw [source_of_mem_importEdges he] at hsource
    exact hne (by simpa using hsource)

/-! ## Nodes -/

/-- Of the nodes of one unit only the first has the id of a unit. -/
theorem filter_ids_unitNodes {u : UnitFacts} (hu : u ∈ p.units) :
    ((unitNodes u).map (·.id)).filter (p.units.map (·.id)).contains = [u.id] := by
  -- the node of the unit stays, and neither functions nor endpoints do
  have hunit : (p.units.map (·.id)).contains (unitNode u).id = true := by
    rw [List.contains_iff_mem]
    exact List.mem_map_of_mem hu
  have hfunctions : ((u.functions.zipIdx.map fun q => functionNode u.id q.2 q.1).map
      (·.id)).filter (p.units.map (·.id)).contains = [] := by
    rw [List.filter_eq_nil_iff]
    intro x hx hin
    obtain ⟨n, hn, rfl⟩ := List.mem_map.mp hx
    obtain ⟨q, _, rfl⟩ := List.mem_map.mp hn
    exact functionId_not_unit hscript u.id q.1.name q.2 (List.contains_iff_mem.mp hin)
  have hendpoints : ((endpointVerbs.map (endpointNode u.id)).map
      (·.id)).filter (p.units.map (·.id)).contains = [] := by
    rw [List.filter_eq_nil_iff]
    intro x hx hin
    obtain ⟨n, hn, rfl⟩ := List.mem_map.mp hx
    obtain ⟨verb, _, rfl⟩ := List.mem_map.mp hn
    exact endpointId_not_unit hscript u.id verb (List.contains_iff_mem.mp hin)
  rw [unitNodes, List.map_append, List.map_cons, List.filter_append, List.filter_cons_of_pos hunit,
    hfunctions]
  split
  · rw [hendpoints]
    rfl
  · rfl

theorem filter_ids_nodes :
    ((nodes p).map (·.id)).filter (p.units.map (·.id)).contains = p.units.map (·.id) := by
  rw [nodes, List.map_flatMap, List.filter_flatMap,
    List.flatMap_congr fun _ hu => filter_ids_unitNodes hscript hu]
  exact List.map_eq_flatMap.symm

end Scripts

end Flow

end SourceFlow
