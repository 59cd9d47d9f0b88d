import SourceFlow.Flow.Analysis
import SourceFlow.Proofs.Flow.Build
import SourceFlow.Proofs.Graph.Completeness
import SourceFlow.Proofs.Graph.Restriction

/-!
# The two cycle analyses agree

Cycles are looked for twice: among the units of a project, and among the
nodes of its flow graph, where functions and endpoints stand between the
units and may even be imported. The flow graph has nothing to add. No edge
leads from a function or an endpoint to a unit, and calls lead to ever
larger indices, so the units are a part of the flow graph that can be
searched alone. A cap takes edges away and so cannot add a cycle.
-/

namespace SourceFlow

open SourceFlow.Graph

/-- Neighbours outside the order do not matter to the search. -/
theorem Graph.cycles_within (order : List String) (adj : Adjacency) :
    cycles order (adj.within order) = cycles order adj := by
  -- all nodes of the order are in the part, so nothing is left out of it
  have hpart : Part order adj (fun _ => true) (fun _ => 0) (adj.within order) := by
    refine ⟨?_, fun _ _ _ hout => absurd hout (by simp)⟩
    intro u _ _
    rw [Adjacency.neighbours_within]
    rfl
  have h := hpart.cycles_eq
  rwa [List.filter_true] at h

namespace Flow

/-- The units are a part of the flow graph that can be searched alone. -/
theorem part_units {p : Project} (hnodup : (p.units.map (·.id)).Nodup)
    (hscript : ∀ u ∈ p.units, (ScriptKind.ofPath? u.id).isSome) :
    Part ((nodes p).map (·.id)) (adjacencyOf (between (nodes p) (edges p)))
      (p.units.map (·.id)).contains trailingIndex (p.graph.within (p.units.map (·.id))) := by
  have hunit : ∀ x ∈ p.units.map (·.id), x ∈ (nodes p).map (·.id) := by
    intro x hx
    rw [← filter_ids_nodes hscript] at hx
    exact (List.mem_filter.mp hx).1
  refine ⟨?_, ?_⟩
  -- from a unit: imports among the units, in the same order
  · intro x hx hkeep
    obtain ⟨u, hu, rfl⟩ := List.mem_map.mp (List.contains_iff_mem.mp hkeep)
    have hfrom : (between (nodes p) (edges p)).filter (·.source == u.id) =
        between (nodes p) (importEdges u.id (p.graph.neighbours u.id)) := by
      rw [← edges_from_unit hnodup hscript hu, between, between, List.filter_filter,
        List.filter_filter]
      apply List.filter_congr
      intro e _
      rw [Bool.and_comm]
    rw [Adjacency.neighbours_within, neighbours_adjacencyOf, hfrom, map_target_importEdges _ hx,
      List.filter_filter]
    apply List.filter_congr
    intro v _
    rw [inPart, Bool.eq_iff_iff]
    simp only [Bool.and_eq_true, List.contains_iff_mem]
    exact ⟨fun hv => ⟨⟨hv, hunit v hv⟩, hunit v hv⟩, fun hv => hv.1.1⟩
  -- from anything else: a call, to a function of larger index
  · intro u v hedge hout
    obtain ⟨e, he, rfl, rfl⟩ := mem_neighbours_adjacencyOf.mp hedge.2.2
    have hsource : e.source ∉ p.units.map (·.id) := by
      intro hmem
      rw [List.contains_iff_mem.mpr hmem] at hout
      cases hout
    obtain ⟨htarget, hlt⟩ := call_of_source_not_unit hscript (mem_between.mp he).1 hsource
    refine ⟨?_, hlt⟩
    rw [← Bool.not_eq_true, List.contains_iff_mem]
    exact htarget

/-- With a cap that keeps all nodes, the flow graph has the cycles of the project. -/
theorem cycles_build_of_length_le {units : List UnitFacts} (hnodup : (units.map (·.id)).Nodup)
    (hscript : ∀ u ∈ units, (ScriptKind.ofPath? u.id).isSome) {limit : Int}
    (hlimit : ((nodes (Project.ofUnits units)).length : Int) ≤ limit) :
    cycles ((build limit (Project.ofUnits units)).1.map (·.id))
        (adjacencyOf (build limit (Project.ofUnits units)).2) =
      (Project.ofUnits units).cycles := by
  let p := Project.ofUnits units
  have hnodes : ((nodes p).map (·.id)).filter (units.map (·.id)).contains = units.map (·.id) :=
    filter_ids_nodes (p := p) hscript
  have hunits := (part_units (p := p) hnodup hscript).cycles_eq
  calc cycles ((build limit p).1.map (·.id)) (adjacencyOf (build limit p).2)
      = cycles ((nodes p).map (·.id)) (adjacencyOf (between (nodes p) (edges p))) := by
        rw [build, cap_of_length_le _ hlimit]
    _ = cycles (((nodes p).map (·.id)).filter (units.map (·.id)).contains)
          (p.graph.within (units.map (·.id))) := hunits.symm
    _ = cycles (units.map (·.id)) (p.graph.within (units.map (·.id))) := by rw [hnodes]
    _ = cycles (units.map (·.id)) p.graph := cycles_within _ _
    _ = cycles (Ordered.names p.graph) p.graph := by
        rw [← Project.names_dependencyGraph hnodup]
        rfl

/-- A cap takes edges away. -/
theorem edge_of_edge_build {p : Project} {limit limit' : Int}
    (hlimit' : ((nodes p).length : Int) ≤ limit') {u v : String}
    (h : Edge ((build limit p).1.map (·.id)) (adjacencyOf (build limit p).2) u v) :
    Edge ((build limit' p).1.map (·.id)) (adjacencyOf (build limit' p).2) u v := by
  -- the nodes that the smaller cap keeps are among all nodes
  have hsub : ∀ x ∈ (build limit p).1.map (·.id), x ∈ (nodes p).map (·.id) := by
    intro x hx
    obtain ⟨n, hn, rfl⟩ := List.mem_map.mp hx
    exact List.mem_map_of_mem (firstNodes_subset limit (nodes p) hn)
  obtain ⟨hu, hv, hneighbour⟩ := h
  obtain ⟨e, he, hsource, htarget⟩ := mem_neighbours_adjacencyOf.mp hneighbour
  obtain ⟨hedge, hfrom, hto⟩ := mem_between.mp he
  rw [build, cap_of_length_le _ hlimit']
  refine ⟨hsub u hu, hsub v hv, mem_neighbours_adjacencyOf.mpr ⟨e, ?_, hsource, htarget⟩⟩
  exact mem_between.mpr ⟨hedge, hsub _ hfrom, hsub _ hto⟩

/-- For units that are scripts with distinct ids, the cycles of the flow graph are those of the
project if the cap keeps every node, and there are none without one of the project whatever the cap
is. -/
theorem analyze_cycles_agree (options : Options) (hdetect : options.detectCycles = true)
    (units : List UnitFacts) (hnodup : (units.map (·.id)).Nodup)
    (hscript : ∀ u ∈ units, (ScriptKind.ofPath? u.id).isSome) (limit : Int) :
    (((nodes (Project.ofUnits units)).length : Int) ≤ limit →
        (analyze options (build limit (Project.ofUnits units)).1
          (build limit (Project.ofUnits units)).2).cycles = (Project.ofUnits units).cycles) ∧
      ((analyze options (build limit (Project.ofUnits units)).1
          (build limit (Project.ofUnits units)).2).cycles ≠ [] →
        (Project.ofUnits units).cycles ≠ []) := by
  have hanalyze : (analyze options (build limit (Project.ofUnits units)).1
      (build limit (Project.ofUnits units)).2).cycles =
      cycles ((build limit (Project.ofUnits units)).1.map (·.id))
        (adjacencyOf (build limit (Project.ofUnits units)).2) := by
    simp only [analyze, hdetect, if_true]
  rw [hanalyze]
  refine ⟨cycles_build_of_length_le hnodup hscript, ?_⟩
  intro hsome hnone
  -- compare with the cap that just keeps every node
  have hlimit : ((nodes (Project.ofUnits units)).length : Int) ≤
      ((nodes (Project.ofUnits units)).length : Int) := Int.le_refl _
  rw [← cycles_build_of_length_le hnodup hscript hlimit, cycles_eq_nil_iff] at hnone
  rw [Ne, cycles_eq_nil_iff] at hsome
  exact hsome (hnone.mono fun _ _ hedge => edge_of_edge_build hlimit hedge)

/-- Two units of a routing directory that import each other; the first also names one of its own
function nodes as a module. -/
def mutualImports : List UnitFacts :=
  [{ id := "routes/a.ts", metadata := { kindName := "typescript" }
     imports := [{ reference := "./b", isExternal := false },
       { reference := "routes/a.ts::f#0", isExternal := false }]
     declarations := [{ name := "f", kind := .function }, { name := "g", kind := .method }] },
   { id := "routes/b.ts", metadata := { kindName := "typescript" }
     imports := [{ reference := "./a", isExternal := false }] }]

/-- The two units are on a cycle. -/
theorem mutualImports_cycles_ne_nil : (Project.ofUnits mutualImports).cycles ≠ [] := by
  intro hnil
  have hacyclic := (cycles_eq_nil_iff _ _).mp hnil
  have hthere : Edge (Ordered.names (Project.dependencyGraph mutualImports))
      (Project.dependencyGraph mutualImports) "routes/a.ts" "routes/b.ts" := by
    refine ⟨?_, ?_, ?_⟩ <;> decide +kernel
  have hback : Edge (Ordered.names (Project.dependencyGraph mutualImports))
      (Project.dependencyGraph mutualImports) "routes/b.ts" "routes/a.ts" := by
    refine ⟨?_, ?_, ?_⟩ <;> decide +kernel
  exact hacyclic "routes/a.ts" ((Relation.TransGen.single hthere).tail hback)

/-- The flow graph of the two units has twelve nodes and the cycles of the units, of which there are
some. -/
theorem analyze_cycles_agree_mutualImports :
    (analyze {} (build 12 (Project.ofUnits mutualImports)).1
        (build 12 (Project.ofUnits mutualImports)).2).cycles =
        (Project.ofUnits mutualImports).cycles ∧
      (Project.ofUnits mutualImports).cycles ≠ [] := by
  have hnodup : (mutualImports.map (·.id)).Nodup := by decide
  have hscript : ∀ u ∈ mutualImports, (ScriptKind.ofPath? u.id).isSome := by decide +kernel
  have hlength : ((nodes (Project.ofUnits mutualImports)).length : Int) ≤ 12 := by decide +kernel
  exact ⟨(analyze_cycles_agree {} rfl mutualImports hnodup hscript 12).1 hlength,
    mutualImports_cycles_ne_nil⟩

end Flow

end SourceFlow
