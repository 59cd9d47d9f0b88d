import SourceFlow.Analysis
import SourceFlow.Proofs.Flow.Build
import SourceFlow.Proofs.Graph.Completeness
import SourceFlow.Proofs.Graph.Depth

/-!
# The order of the source units

Source units come in no particular order. What an analysis finds out about
them is then the same in another order: a dependency is one, whichever
unit is read first, and the lists of nodes, edges, entry points and orphans
only change their order. The number of cycles that are reported does
depend on the order, but not whether there are any.

Stage by stage: `Project.ofUnits_perm`, `Flow.nodes_perm`,
`Flow.edges_perm`, `Flow.analyze_perm`, `Report.of_perm`.
-/

namespace SourceFlow

open SourceFlow.Graph

/-! ## The same up to order -/

/-- The same units with the same dependencies. -/
structure Project.SameUpToOrder (p p' : Project) : Prop where
  units : p.units.Perm p'.units
  dependencies : ∀ id, Ordered.get? p.graph id = Ordered.get? p'.graph id
  counts : p.counts = p'.counts
  cycles : p.cycles = [] ↔ p'.cycles = []

/-- The same nodes, edges and entry points, and equally deep. -/
structure FlowGraph.SameUpToOrder (g g' : FlowGraph) : Prop where
  nodes : g.nodes.Perm g'.nodes
  edges : g.edges.Perm g'.edges
  entries : g.entries.Perm g'.entries
  maxDepth : g.stats.maxDepth = g'.stats.maxDepth
  cycles : g.cycles = [] ↔ g'.cycles = []

/-- The same orphans, the same report on depth, and the same numbers but for that of the cycles. -/
structure Report.SameUpToOrder (r r' : Report) : Prop where
  orphans : (r.issues.filter (·.type == .orphan)).Perm (r'.issues.filter (·.type == .orphan))
  depth : r.issues.filter (·.type == .depth) = r'.issues.filter (·.type == .depth)
  statistics : { r.statistics with cycles := 0 } = { r'.statistics with cycles := 0 }

/-- The same project, flow graph and report up to order. -/
structure Analysis.SameUpToOrder (a a' : Analysis) : Prop where
  project : a.project.SameUpToOrder a'.project
  graph : a.graph.SameUpToOrder a'.graph
  report : a.report.SameUpToOrder a'.report

/-! ## Projects -/

/-- Units with distinct ids are read in the order they come in, and none is left out. -/
theorem Project.readUnits_perm (loaded : List Grammar) {sources sources' : List SourceUnit}
    (hperm : sources.Perm sources') (hnodup : (sources.map (·.id)).Nodup) :
    (readUnits loaded sources).Perm (readUnits loaded sources') := by
  have hnodup' : (sources'.map (·.id)).Nodup := (hperm.map _).nodup_iff.mp hnodup
  rw [readUnits_of_nodup loaded hnodup, readUnits_of_nodup loaded hnodup']
  exact hperm.map _

/-- A project of distinct units is the same in any order of the units. -/
theorem Project.ofUnits_perm {units units' : List UnitFacts} (hperm : units.Perm units')
    (hnodup : (units.map (·.id)).Nodup) : (ofUnits units).SameUpToOrder (ofUnits units') := by
  have hnodup' : (units'.map (·.id)).Nodup := (hperm.map _).nodup_iff.mp hnodup
  have hget := get?_dependencyGraph_perm hperm hnodup
  -- whether there are cycles depends on the names and the neighbours, and both are the same
  refine ⟨hperm, hget, count_perm hperm, cycles_eq_nil_congr ?_ ?_⟩
  · intro x
    rw [names_dependencyGraph hnodup, names_dependencyGraph hnodup']
    exact (hperm.map _).mem_iff
  · intro u v
    rw [Adjacency.neighbours_congr hget]

/-! ## Flow graphs -/

namespace Flow

theorem nodes_perm {p p' : Project} (h : p.SameUpToOrder p') : (nodes p).Perm (nodes p') :=
  h.units.flatMap_right unitNodes

theorem edges_perm {p p' : Project} (h : p.SameUpToOrder p') : (edges p).Perm (edges p') := by
  unfold edges
  rw [Adjacency.neighbours_congr h.dependencies]
  exact h.units.flatMap_right _

/-- Which edges lead from node to node does not depend on either order. -/
theorem between_perm {nodes nodes' : List FlowNode} {edges edges' : List FlowEdge}
    (hnodes : nodes.Perm nodes') (hedges : edges.Perm edges') :
    (between nodes edges).Perm (between nodes' edges') := by
  have hcontains : (nodes.map (·.id)).contains = (nodes'.map (·.id)).contains := by
    funext id
    exact (hnodes.map _).contains_eq
  unfold between
  rw [hcontains]
  exact hedges.filter _

/-- Nor does it which nodes are entry points. -/
theorem entryPoints_perm {nodes nodes' : List FlowNode} (hperm : nodes.Perm nodes')
    (pattern : Option String) :
    (entryPoints nodes pattern).Perm (entryPoints nodes' pattern) := by
  have hendpoints := hperm.filter (·.kind == .endpoint)
  unfold entryPoints
  split
  · -- without endpoints the pattern decides
    rename_i hnone
    rw [hnone] at hendpoints
    rw [hendpoints.nil_eq.symm]
    split
    · exact List.Perm.refl _
    · split
      · exact List.Perm.refl _
      · exact (hperm.filter _).map _
  · -- with endpoints in one order there are some in the other
    rename_i hsome
    split
    · rename_i hnone
      rw [hnone] at hendpoints
      exact absurd hendpoints.eq_nil hsome
    · exact hendpoints.map _

/-- An analysis of nodes and edges in another order finds the same. -/
theorem analyze_perm (options : Options) {nodes nodes' : List FlowNode}
    {edges edges' : List FlowEdge} (hnodes : nodes.Perm nodes') (hedges : edges.Perm edges') :
    (analyze options nodes edges).SameUpToOrder (analyze options nodes' edges') := by
  have hentries := entryPoints_perm hnodes options.entryPattern
  have hadj : ∀ u v, v ∈ (adjacencyOf edges).neighbours u ↔
      v ∈ (adjacencyOf edges').neighbours u := by
    intro u v
    simp only [mem_neighbours_adjacencyOf, hedges.mem_iff]
  refine ⟨hnodes, hedges, hentries, depth_congr (fun _ => hentries.mem_iff) hadj _, ?_⟩
  simp only [analyze]
  split
  · exact cycles_eq_nil_congr (fun _ => (hnodes.map _).mem_iff) hadj
  · exact Iff.rfl

end Flow

/-! ## Reports -/

namespace Issue

/-- A node is an orphan in one order just if it is one in the other. -/
theorem isOrphan_perm {g g' : FlowGraph} (h : g.SameUpToOrder g') : isOrphan g = isOrphan g' := by
  funext n
  unfold isOrphan
  rw [h.edges.any_eq, h.entries.contains_eq]

/-- Of issues of one type, all or none have a type. -/
theorem filter_type_eq {issues : List Issue} {t : IssueType} (h : ∀ i ∈ issues, i.type = t)
    (wanted : IssueType) :
    issues.filter (·.type == wanted) = if t = wanted then issues else [] := by
  split
  · rename_i heq
    rw [List.filter_eq_self]
    intro i hi
    rw [h i hi, heq]
    exact beq_self_eq_true _
  · rename_i hne
    rw [List.filter_eq_nil_iff]
    intro i hi htype
    rw [h i hi] at htype
    exact hne (eq_of_beq htype)

/-- The issues of a graph by type. -/
theorem filter_type_ofGraph (g : FlowGraph) (threshold : Int) (wanted : IssueType) :
    (ofGraph g threshold).filter (·.type == wanted) =
      (if .circular = wanted then g.cycles.zipIdx.map fun c => ofCycle c.2 c.1 else []) ++
      (if .orphan = wanted then (g.nodes.filter (isOrphan g)).map ofOrphan else []) ++
      if .depth = wanted then
        if g.stats.maxDepth > threshold then
          [ofDepth g.stats.maxDepth (Text.decimal threshold)] else []
      else [] := by
  -- each of the three parts has issues of one type only
  have hcycles : ∀ i ∈ g.cycles.zipIdx.map fun c => ofCycle c.2 c.1, i.type = .circular := by
    intro i hi
    obtain ⟨c, _, rfl⟩ := List.mem_map.mp hi
    rfl
  have horphans : ∀ i ∈ (g.nodes.filter (isOrphan g)).map ofOrphan, i.type = .orphan := by
    intro i hi
    obtain ⟨n, _, rfl⟩ := List.mem_map.mp hi
    rfl
  have hdepth : ∀ i ∈ if g.stats.maxDepth > threshold then
      [ofDepth g.stats.maxDepth (Text.decimal threshold)] else [], i.type = .depth := by
    intro i hi
    split at hi
    · rw [List.mem_singleton.mp hi]
      rfl
    · cases hi
  rw [ofGraph, ofShape, List.filter_append, List.filter_append, filter_type_eq hcycles,
    filter_type_eq horphans, filter_type_eq hdepth]

theorem orphans_ofGraph (g : FlowGraph) (threshold : Int) :
    (ofGraph g threshold).filter (·.type == .orphan) =
      (g.nodes.filter (isOrphan g)).map ofOrphan := by
  rw [filter_type_ofGraph, if_neg (by decide), if_pos rfl, if_neg (by decide), List.nil_append,
    List.append_nil]

theorem depth_ofGraph (g : FlowGraph) (threshold : Int) :
    (ofGraph g threshold).filter (·.type == .depth) =
      if g.stats.maxDepth > threshold then
        [ofDepth g.stats.maxDepth (Text.decimal threshold)] else [] := by
  rw [filter_type_ofGraph, if_neg (by decide), if_neg (by decide), if_pos rfl, List.nil_append,
    List.nil_append]

end Issue

/-- No number but that of the cycles depends on the order. -/
theorem Statistics.of_perm {p p' : Project} {g g' : FlowGraph} (hp : p.SameUpToOrder p')
    (hg : g.SameUpToOrder g') :
    { Statistics.of p g with cycles := 0 } = { Statistics.of p' g' with cycles := 0 } := by
  have hfunctions := (hp.units.flatMap_right (·.functions)).length_eq
  have hendpoints := (hg.nodes.filter (·.kind == .endpoint)).length_eq
  simp only [Statistics.of, hp.units.length_eq, hfunctions, hendpoints, hg.nodes.length_eq,
    hg.edges.length_eq, hg.maxDepth]

/-- Reports on the same graph in two orders, made at any two times, say the same. -/
theorem Report.of_perm (options : Options) (time time' : Timestamp) (label : String)
    {p p' : Project} {g g' : FlowGraph} (hp : p.SameUpToOrder p') (hg : g.SameUpToOrder g') :
    (Report.of options time label p g).SameUpToOrder (Report.of options time' label p' g') := by
  refine ⟨?_, ?_, Statistics.of_perm hp hg⟩
  · simp only [Report.of, Report.assemble, Issue.orphans_ofGraph, Issue.isOrphan_perm hg]
    exact (hg.nodes.filter _).map _
  · simp only [Report.of, Report.assemble, Issue.depth_ofGraph, hg.maxDepth]

/-! ## Whole analyses -/

namespace Analysis

/-- With a cap that keeps every node, the order of source units with distinct ids does not
matter. -/
theorem run_perm (options : Options) (loaded : List Grammar) (time time' : Timestamp)
    (label : String) {sources sources' : List SourceUnit} (hperm : sources.Perm sources')
    (hnodup : (sources.map (·.id)).Nodup)
    (hlimit : ((Flow.nodes (Project.ofUnits (Project.readUnits loaded sources))).length : Int) ≤
      options.maxNodes) :
    (run options loaded time label sources).SameUpToOrder
      (run options loaded time' label sources') := by
  have hids : ((Project.readUnits loaded sources).map (·.id)).Nodup := by
    rw [Project.ids_readUnits loaded hnodup]
    exact hnodup
  have hp := Project.ofUnits_perm (Project.readUnits_perm loaded hperm hnodup) hids
  have hnodes := Flow.nodes_perm hp
  -- both orders have equally many nodes, so the cap is large enough for both
  have hlimit' : ((Flow.nodes (Project.ofUnits (Project.readUnits loaded sources'))).length : Int) ≤
      options.maxNodes := by
    rw [← hnodes.length_eq]
    exact hlimit
  have hg := Flow.analyze_perm options hnodes (Flow.between_perm hnodes (Flow.edges_perm hp))
  simp only [run, ofUnits, Flow.build, Flow.cap_of_length_le _ hlimit,
    Flow.cap_of_length_le _ hlimit']
  exact ⟨hp, hg, Report.of_perm options time time' label hp hg⟩

/-- Settings that pass the check give an analysis of source units in any order, and if the ids are
distinct and the cap keeps every node, the analyses of two orders are the same up to order. -/
theorem runWith_sameUpToOrder (settings : Settings) (options : Options)
    (hcheck : settings.check = .ok options) (loaded : List Grammar) (time time' : Timestamp)
    (label : String) (sources sources' : List SourceUnit) (hperm : sources.Perm sources')
    (hnodup : (sources.map (·.id)).Nodup)
    (hlimit : ((Flow.nodes (Project.ofUnits (Project.readUnits loaded sources))).length : Int) ≤
      options.maxNodes) :
    ∃ a a', runWith settings loaded time label sources = .ok a ∧
      runWith settings loaded time' label sources' = .ok a' ∧ a.SameUpToOrder a' := by
  refine ⟨_, _, ?_, ?_, run_perm options loaded time time' label hperm hnodup hlimit⟩
  · rw [runWith, hcheck]
    rfl
  · rw [runWith, hcheck]
    rfl

/-- A unit of one import statement. -/
def importing (id reference : String) : SourceUnit :=
  let text := "import '" ++ reference ++ "'"
  { id, text
    tree :=
      { kind := "program", start := 0, stop := text.length
        children :=
          [{ kind := "import_statement", start := 0, stop := text.length
             fields := [("source", 0)]
             children := [{ kind := "string", start := 7, stop := text.length }] }] } }

/-- Two units of a routing directory that import each other, and one that no grammar reads. -/
def importPair : List SourceUnit :=
  [importing "routes/a.ts" "./b", importing "routes/b.ts" "./a", importing "notes.txt" "./a"]

/-- With the third unit there are eleven nodes, far below the default cap, and the two units depend
on each other in either order. -/
theorem runWith_sameUpToOrder_importPair :
    ∃ a a', runWith .defaults [.typescript] ⟨2024, 1, 1, 9, 0, 0, 0, none⟩ "scan" importPair =
        .ok a ∧
      runWith .defaults [.typescript] ⟨2024, 1, 1, 9, 5, 0, 0, none⟩ "scan" importPair.reverse =
        .ok a' ∧ a.SameUpToOrder a' := by
  have hnodup : (importPair.map (·.id)).Nodup := by decide
  have hlimit : ((Flow.nodes (Project.ofUnits
      (Project.readUnits [.typescript] importPair))).length : Int) ≤ 1000 := by decide +kernel
  exact runWith_sameUpToOrder .defaults {} rfl [.typescript] _ _ "scan" importPair
    importPair.reverse (List.reverse_perm _).symm hnodup hlimit

end Analysis

end SourceFlow
