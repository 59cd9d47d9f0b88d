import SourceFlow.Proofs.Graph.Completeness
import SourceFlow.Proofs.Report.Levels

/-!
# References back and cycles

Cycles show twice in a report: as references back in the outlines, and as
issues about the cycles that the search has found. A reference back ends a
walk in a node that the walk has visited, so it closes a simple cycle; and
the outline of a node on a simple cycle follows the cycle round to a
reference back, unless the depth cuts it off. So there is a reference back
just if there is a simple cycle with no more edges than the depth
(`refersBack_ofGraph_iff`). The search finds a cycle whenever there is one,
so it agrees with outlines that are deep enough for any cycle.
-/

namespace SourceFlow

open SourceFlow.Graph

/-! ## Simple cycles as walks -/

/-- A simple cycle is a walk from a node to itself. -/
theorem Graph.simpleCycle_cons_iff {order : List String} {adj : Adjacency} {v : String}
    {rest : List String} :
    SimpleCycle order adj (v :: rest) ↔
      (v :: rest).Nodup ∧ (∀ x ∈ v :: rest, x ∈ order) ∧
        ((v :: rest) ++ [v]).IsChain fun x y => y ∈ adj.neighbours x := by
  constructor
  · intro h
    refine ⟨h.nodup, h.within, List.isChain_append.mpr ⟨h.linked, List.isChain_singleton v, ?_⟩⟩
    intro x hx y hy
    obtain rfl : v = y := Option.some.inj hy
    exact h.closed x v hx rfl
  · rintro ⟨hnodup, hwithin, hchain⟩
    obtain ⟨hlinked, _, hclosed⟩ := List.isChain_append.mp hchain
    refine ⟨List.cons_ne_nil _ _, hnodup, hwithin, hlinked, ?_⟩
    intro x y hx hy
    obtain rfl : v = y := Option.some.inj hy
    exact hclosed x hx v rfl

namespace FlowGraph

variable {g : FlowGraph}

/-- A walk that ends in a node it has visited has a simple cycle at its end. -/
theorem IsWalk.exists_simpleCycle {u v : String} {w : List String} (h : g.IsWalk u w)
    (hdistinct : w.dropLast.Nodup) (hlast : w.getLast? = some v) (hback : v ∈ w.dropLast) :
    ∃ c, SimpleCycle (g.nodes.map (·.id)) (adjacencyOf g.edges) c ∧ c.length < w.length := by
  obtain ⟨before, after, hsplit⟩ := List.append_of_mem hback
  -- the walk is its beginning, a round from the node it repeats, and that node again
  have hw : w = before ++ ((v :: after) ++ [v]) := by
    rw [← List.append_assoc, ← hsplit]
    exact (List.dropLast_append_getLast? v hlast).symm
  have hnodup : (v :: after).Nodup := by
    rw [hsplit] at hdistinct
    exact (List.nodup_append.mp hdistinct).2.1
  have hchain : ((v :: after) ++ [v]).IsChain g.Joins := by
    have hjoined := h.joined
    rw [hw] at hjoined
    exact hjoined.right_of_append
  refine ⟨v :: after, simpleCycle_cons_iff.mpr ⟨hnodup, ?_, ?_⟩, ?_⟩
  · intro x hx
    apply h.known
    rw [hw]
    exact List.mem_append_right _ (List.mem_append_left _ hx)
  · apply hchain.imp
    intro x y hxy
    exact mem_neighbours_adjacencyOf.mpr hxy
  · rw [hw, List.length_append, List.length_append, List.length_singleton]
    omega

/-- Once round a simple cycle is a walk. -/
theorem isWalk_of_simpleCycle {v : String} {rest : List String}
    (h : SimpleCycle (g.nodes.map (·.id)) (adjacencyOf g.edges) (v :: rest)) :
    g.IsWalk v ((v :: rest) ++ [v]) := by
  obtain ⟨_, hwithin, hchain⟩ := simpleCycle_cons_iff.mp h
  refine ⟨rfl, ?_, hchain.imp ?_⟩
  · intro x hx
    rcases List.mem_append.mp hx with hx | hx
    · exact hwithin x hx
    · rw [List.mem_singleton.mp hx]
      exact hwithin v List.mem_cons_self
  · intro x y hxy
    exact mem_neighbours_adjacencyOf.mp hxy

end FlowGraph

/-! ## References back -/

namespace Outline

/-- Somewhere in some outlines stands a reference back. -/
def RefersBack (roots : List Outline) : Prop :=
  ∃ root ∈ roots, ∃ o, root.Has o ∧ o.isBackReference = true

/-- There is a reference back just if there is a simple cycle that fits into the depth. -/
theorem refersBack_ofGraph_iff (g : FlowGraph) (depth : Int) :
    RefersBack (ofGraph g depth) ↔
      ∃ c, SimpleCycle (g.nodes.map (·.id)) (adjacencyOf g.edges) c ∧ (c.length : Int) ≤ depth := by
  constructor
  · rintro ⟨root, hroot, o, ho, hback⟩
    obtain ⟨w, hwalk, hlength, hdistinct, hlast, hends⟩ :=
      (unfolds_of_mem_ofGraph hroot).exists_walk ho
    obtain ⟨c, hcycle, hshorter⟩ :=
      hwalk.exists_simpleCycle hdistinct hlast (hends.back.mp hback)
    -- a cycle has a node, so the depth is positive and the bound of the walk is that of the cycle
    have hpos : 0 < c.length := List.length_pos_iff.mpr hcycle.nonempty
    exact ⟨c, hcycle, by omega⟩
  · rintro ⟨c, hcycle, hlength⟩
    obtain ⟨v, rest, rfl⟩ := List.exists_cons_of_ne_nil hcycle.nonempty
    -- the outline of a node on the cycle goes round it once
    have hknown : v ∈ g.nodes.map (·.id) := hcycle.within v List.mem_cons_self
    rw [← mem_ids_rootNodes, ← ids_ofGraph g depth] at hknown
    obtain ⟨root, hroot, rfl⟩ := List.mem_map.mp hknown
    have hround : ((root.id :: rest) ++ [root.id]).dropLast = root.id :: rest :=
      List.dropLast_concat
    have hlong : (((root.id :: rest) ++ [root.id]).length : Int) ≤ max 0 depth + 1 := by
      rw [List.length_append, List.length_singleton]
      omega
    have hdistinct : ((root.id :: rest) ++ [root.id]).dropLast.Nodup := by
      rw [hround]
      exact hcycle.nodup
    obtain ⟨o, ho, hlast, hends⟩ := (unfolds_of_mem_ofGraph hroot).exists_node
      (FlowGraph.isWalk_of_simpleCycle hcycle) hlong hdistinct
    rw [List.getLast?_concat] at hlast
    refine ⟨root, hroot, o, ho, hends.back.mpr ?_⟩
    rw [hround, ← Option.some.inj hlast]
    exact List.mem_cons_self

/-- The search finds a cycle if there is a reference back. -/
theorem cycles_ne_nil_of_refersBack {g : FlowGraph} {depth : Int}
    (h : RefersBack (ofGraph g depth)) :
    Graph.cycles (g.nodes.map (·.id)) (adjacencyOf g.edges) ≠ [] := by
  obtain ⟨c, hcycle, _⟩ := (refersBack_ofGraph_iff g depth).mp h
  intro hnil
  obtain ⟨v, hv⟩ := hcycle.transGen_self
  exact (cycles_eq_nil_iff _ _).mp hnil v hv

/-- A simple cycle has no more nodes than the graph, so outlines as deep as that show what the
search finds. -/
theorem refersBack_of_cycles_ne_nil {g : FlowGraph} {depth : Int}
    (hdepth : (g.nodes.length : Int) ≤ depth)
    (h : Graph.cycles (g.nodes.map (·.id)) (adjacencyOf g.edges) ≠ []) :
    RefersBack (ofGraph g depth) := by
  obtain ⟨c, hc⟩ := List.exists_mem_of_ne_nil _ h
  have hcycle := simpleCycle_of_mem_cycles hc
  have hlength := (List.subperm_of_subset hcycle.nodup hcycle.within).length_le
  rw [List.length_map] at hlength
  exact (refersBack_ofGraph_iff g depth).mpr ⟨c, hcycle, by omega⟩

end Outline

/-! ## Issues -/

/-- Cycles are reported just if there are some. -/
theorem Issue.circular_mem_ofGraph_iff (g : FlowGraph) (threshold : Int) :
    (∃ issue ∈ ofGraph g threshold, issue.type = .circular) ↔ g.cycles ≠ [] := by
  rw [exists_type_iff, filter_type_ofGraph, if_pos rfl, if_neg (by decide), if_neg (by decide),
    List.append_nil, List.append_nil]
  simp

/-- An analysis that looks for cycles lists those of the search. -/
theorem Flow.cycles_analyze {options : Options} (hdetect : options.detectCycles = true)
    (nodes : List FlowNode) (edges : List FlowEdge) :
    (analyze options nodes edges).cycles =
      Graph.cycles (nodes.map (·.id)) (adjacencyOf edges) := by
  rw [analyze, if_pos hdetect]

/-- The outlines of a graph have a reference back just if there is a simple cycle of at most `depth`
edges between its nodes. If they have one, the search finds a cycle, and in an analysis that looks
for cycles it is an issue. The converse holds if `depth` is at least the number of nodes. -/
theorem Outline.refersBack_agrees_with_cycles (g : FlowGraph) (depth : Int) :
    (RefersBack (ofGraph g depth) ↔
        ∃ c, SimpleCycle (g.nodes.map (·.id)) (adjacencyOf g.edges) c ∧
          (c.length : Int) ≤ depth) ∧
      (RefersBack (ofGraph g depth) →
        Graph.cycles (g.nodes.map (·.id)) (adjacencyOf g.edges) ≠ []) ∧
      ((g.nodes.length : Int) ≤ depth →
        Graph.cycles (g.nodes.map (·.id)) (adjacencyOf g.edges) ≠ [] →
        RefersBack (ofGraph g depth)) ∧
      ∀ (options : Options) (nodes : List FlowNode) (edges : List FlowEdge) (threshold : Int),
        options.detectCycles = true → g = Flow.analyze options nodes edges →
          (RefersBack (ofGraph g depth) →
            ∃ issue ∈ Issue.ofGraph g threshold, issue.type = .circular) ∧
          ((g.nodes.length : Int) ≤ depth →
            (∃ issue ∈ Issue.ofGraph g threshold, issue.type = .circular) →
            RefersBack (ofGraph g depth)) := by
  refine ⟨refersBack_ofGraph_iff g depth, cycles_ne_nil_of_refersBack,
    refersBack_of_cycles_ne_nil, ?_⟩
  rintro options nodes edges threshold hdetect rfl
  rw [Issue.circular_mem_ofGraph_iff, Flow.cycles_analyze hdetect]
  exact ⟨cycles_ne_nil_of_refersBack, refersBack_of_cycles_ne_nil⟩

/-- Two nodes with edges to each other, one of them given twice, and an edge that leads nowhere. -/
def Flow.twoWay : FlowGraph :=
  analyze {} [{ id := "a", kind := .unit, label := "a", owner := "a" },
      { id := "b", kind := .unit, label := "b", owner := "b" }]
    [⟨"e0", "a", "gone", .imports⟩, ⟨"e1", "a", "b", .imports⟩, ⟨"e2", "a", "b", .imports⟩,
     ⟨"e3", "b", "a", .imports⟩]

/-- Outlines of depth two show the two edges as a cycle, the search finds it, and it is an issue. -/
theorem Outline.refersBack_agrees_with_cycles_twoWay :
    RefersBack (ofGraph Flow.twoWay 2) ∧
      Graph.cycles ["a", "b"] (adjacencyOf Flow.twoWay.edges) ≠ [] ∧
      ∃ issue ∈ Issue.ofGraph Flow.twoWay 10, issue.type = .circular := by
  obtain ⟨hiff, hfound, _, hissue⟩ := refersBack_agrees_with_cycles Flow.twoWay 2
  have hcycle : SimpleCycle (Flow.twoWay.nodes.map (·.id)) (adjacencyOf Flow.twoWay.edges)
      ["a", "b"] := by
    refine simpleCycle_cons_iff.mpr ⟨by decide, ?_, ?_⟩ <;> decide +kernel
  have hback := hiff.mpr ⟨["a", "b"], hcycle, by decide⟩
  exact ⟨hback, hfound hback, (hissue {} _ _ 10 rfl rfl).1 hback⟩

end SourceFlow
