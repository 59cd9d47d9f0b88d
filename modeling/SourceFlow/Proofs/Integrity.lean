import SourceFlow.Proofs.Graph.Soundness
import SourceFlow.Proofs.OrderIndependence
import SourceFlow.Proofs.Report.Unfolding
import SourceFlow.Proofs.Settings

/-!
# No id dangles

References resolve to ids that need not exist, and the cap takes nodes
away, so edges could lead nowhere. They do not: an analysis with settings
that pass the check names no id but those of its nodes, whether as the end
of an edge, as an entry point, on a cycle, in an outline or in an issue,
and its numbers are the true ones and within the limits.
-/

namespace SourceFlow

/-! ## Entry points -/

namespace Flow

/-- Entry points are ids of nodes. -/
theorem mem_ids_of_mem_entryPoints {nodes : List FlowNode} {pattern : Option String} {id : String}
    (h : id ∈ entryPoints nodes pattern) : id ∈ nodes.map (·.id) := by
  -- by a pattern or without one, nodes are picked out and none is added
  unfold entryPoints at h
  split at h
  · split at h
    · cases h
    · split at h
      · cases h
      · exact List.map_subset _ (List.filter_subset_self _) h
  · exact List.map_subset _ (List.filter_subset_self _) h

end Flow

/-! ## Depth -/

/-- A positive limit bounds the depth. -/
theorem Graph.depth_bounds (entries : List String) (adj : Adjacency) {limit : Int}
    (hlimit : 1 ≤ limit) : 0 ≤ depth entries adj limit ∧ depth entries adj limit ≤ limit := by
  unfold depth
  split <;> omega

/-! ## Graphs -/

/-- The ids of a circle of edges: each is joined to the next, and the last to the first. -/
structure FlowGraph.IsCircle (g : FlowGraph) (c : List String) : Prop where
  nonempty : c ≠ []
  joined : c.IsChain g.Joins
  closed : ∀ u v, c.getLast? = some u → c.head? = some v → g.Joins u v

/-- What a graph says about itself names only its nodes, and its counts are right. -/
structure FlowGraph.WellFormed (g : FlowGraph) : Prop where
  edges : ∀ e ∈ g.edges, e.source ∈ g.nodes.map (·.id) ∧ e.target ∈ g.nodes.map (·.id)
  entries : ∀ id ∈ g.entries, id ∈ g.nodes.map (·.id)
  cycles : ∀ c ∈ g.cycles, g.IsCircle c ∧ ∀ id ∈ c, id ∈ g.nodes.map (·.id)
  nodeCount : g.stats.nodeCount = g.nodes.length
  edgeCount : g.stats.edgeCount = g.edges.length

namespace Flow

/-- A cycle that is listed is a circle of edges, through nodes only. -/
theorem isCircle_of_mem_cycles {options : Options} {nodes : List FlowNode} {edges : List FlowEdge}
    {c : List String} (hc : c ∈ (analyze options nodes edges).cycles) :
    (analyze options nodes edges).IsCircle c ∧ ∀ id ∈ c, id ∈ nodes.map (·.id) := by
  have hmem : c ∈ Graph.cycles (nodes.map (·.id)) (adjacencyOf edges) := by
    simp only [analyze] at hc
    split at hc
    · exact hc
    · cases hc
  have hsimple := Graph.simpleCycle_of_mem_cycles hmem
  refine ⟨⟨hsimple.nonempty, hsimple.linked.imp ?_, ?_⟩, hsimple.within⟩
  · intro u v huv
    exact mem_neighbours_adjacencyOf.mp huv
  · intro u v hu hv
    exact mem_neighbours_adjacencyOf.mp (hsimple.closed u v hu hv)

/-- Whatever is analysed, only the edges could dangle. -/
theorem wellFormed_analyze (options : Options) {nodes : List FlowNode} {edges : List FlowEdge}
    (hedges : ∀ e ∈ edges, e.source ∈ nodes.map (·.id) ∧ e.target ∈ nodes.map (·.id)) :
    (analyze options nodes edges).WellFormed where
  edges := hedges
  entries := fun _ => mem_ids_of_mem_entryPoints
  cycles := fun _ => isCircle_of_mem_cycles
  nodeCount := rfl
  edgeCount := rfl

end Flow

/-! ## Reports -/

/-- A node stands in an outline: as its root, or below one of its children. -/
inductive Outline.Has : Outline → Outline → Prop where
  | here (o : Outline) : Has o o
  | child {o c x : Outline} (hc : c ∈ o.children) (hx : Has c x) : Has o x

/-- The nodes of an outline are those that paths end in. -/
theorem Outline.has_iff_exists_path {o x : Outline} :
    o.Has x ↔ ∃ path ∈ o.paths, path.getLast? = some x := by
  constructor
  · intro h
    induction h with
    | here o => exact ⟨[o], mem_paths.mpr (Or.inl rfl), rfl⟩
    | child hc _ ih =>
      obtain ⟨path, hpath, hlast⟩ := ih
      obtain ⟨rest, rfl⟩ := exists_cons_of_mem_paths hpath
      exact ⟨_, mem_paths.mpr (Or.inr ⟨_, hc, _, hpath, rfl⟩), hlast⟩
  -- a path stays at the root, or it goes on in a child that has its last node
  · rintro ⟨path, hpath, hlast⟩
    induction path generalizing o with
    | nil => cases hlast
    | cons first rest ih =>
      rcases mem_paths.mp hpath with hstay | ⟨c, hc, below, hbelow, hgo⟩
      · obtain ⟨rfl, rfl⟩ := List.cons.inj hstay
        obtain rfl := Option.some.inj hlast
        exact .here first
      · obtain ⟨rfl, rfl⟩ := List.cons.inj hgo
        obtain ⟨after, rfl⟩ := exists_cons_of_mem_paths hbelow
        exact .child hc (ih hbelow hlast)

/-- Paths are walks, so outlines have only nodes of the graph. -/
theorem Outline.mem_ids_of_has {g : FlowGraph} {depth : Int} {root o : Outline}
    (hroot : root ∈ ofGraph g depth) (ho : root.Has o) : o.id ∈ g.nodes.map (·.id) := by
  obtain ⟨path, hpath, hlast⟩ := has_iff_exists_path.mp ho
  have hwalk := ((unfolds_of_mem_ofGraph hroot).walks _).mp (List.mem_map_of_mem hpath)
  exact hwalk.1.known o.id (List.mem_map_of_mem (List.mem_of_getLast? hlast))

/-- Issues are about cycles, which have only nodes, and about nodes. -/
theorem Issue.mem_ids_of_mem_affected {g : FlowGraph} (hg : g.WellFormed) {threshold : Int}
    {issue : Issue} (hissue : issue ∈ ofGraph g threshold) {id : String}
    (hid : id ∈ issue.affected) : id ∈ g.nodes.map (·.id) := by
  rcases List.mem_append.mp hissue with hshape | hdepth
  · rcases List.mem_append.mp hshape with hcycle | horphan
    · obtain ⟨⟨c, index⟩, hc, rfl⟩ := List.mem_map.mp hcycle
      have hmem : c ∈ g.cycles := List.fst_mem_of_mem_zipIdx hc
      exact (hg.cycles c hmem).2 id hid
    · obtain ⟨n, hn, rfl⟩ := List.mem_map.mp horphan
      rw [List.mem_singleton.mp hid]
      exact List.mem_map_of_mem (List.mem_filter.mp hn).1
  · split at hdepth
    · rw [List.mem_singleton.mp hdepth] at hid
      cases hid
    · cases hdepth

/-! ## Analyses -/

namespace Analysis

/-- An analysis keeps to the limits, and it names only nodes of its graph. -/
structure WellFormed (options : Options) (a : Analysis) : Prop where
  capped : (a.graph.nodes.length : Int) ≤ options.maxNodes
  depth : 0 ≤ a.graph.stats.maxDepth ∧ a.graph.stats.maxDepth ≤ options.maxDepth
  graph : a.graph.WellFormed
  outlines : ∀ root ∈ a.report.roots, ∀ o, root.Has o → o.id ∈ a.graph.nodes.map (·.id)
  issues : ∀ issue ∈ a.report.issues, ∀ id ∈ issue.affected, id ∈ a.graph.nodes.map (·.id)

/-- The cap leaves no edge without its ends, whatever the units are. -/
theorem wellFormed_graph_ofUnits (options : Options) (time : Timestamp) (label : String)
    (units : List UnitFacts) : (ofUnits options time label units).graph.WellFormed := by
  apply Flow.wellFormed_analyze
  intro e he
  exact (Flow.mem_between.mp he).2

/-- With positive limits the analysis of any sources is well-formed. -/
theorem wellFormed_run {options : Options} (hnodes : 1 ≤ options.maxNodes)
    (hdepth : 1 ≤ options.maxDepth) (loaded : List Grammar) (time : Timestamp) (label : String)
    (sources : List SourceUnit) : (run options loaded time label sources).WellFormed options := by
  have hgraph : (run options loaded time label sources).graph.WellFormed :=
    wellFormed_graph_ofUnits options time label _
  refine ⟨?_, Graph.depth_bounds _ _ hdepth, hgraph, ?_, ?_⟩
  -- the cap takes the first nodes, so it bounds their number
  · have hpos : 0 ≤ options.maxNodes := by omega
    have hlength : ((run options loaded time label sources).graph.nodes.length : Int) =
        min options.maxNodes _ := Flow.length_firstNodes hpos _
    rw [hlength]
    exact Int.min_le_left _ _
  · intro root hroot o ho
    exact Outline.mem_ids_of_has hroot ho
  · intro issue hissue id hid
    exact Issue.mem_ids_of_mem_affected hgraph hissue hid

/-- Settings that pass the check give an analysis of any source units. It keeps to the limits that
were set, and it names no id but those of its nodes. -/
theorem runWith_wellFormed (settings : Settings) (options : Options)
    (hcheck : settings.check = .ok options) (loaded : List Grammar) (time : Timestamp)
    (label : String) (sources : List SourceUnit) :
    settings .maxNodes = .int options.maxNodes ∧ settings .maxDepth = .int options.maxDepth ∧
      ∃ a, runWith settings loaded time label sources = .ok a ∧ a.WellFormed options := by
  obtain ⟨⟨hsetNodes, hnodes⟩, hsetDepth, hdepth⟩ := Settings.limits_of_check hcheck
  refine ⟨hsetNodes, hsetDepth, run options loaded time label sources, ?_,
    wellFormed_run hnodes hdepth loaded time label sources⟩
  rw [runWith, hcheck]
  rfl

/-- Three units, two of which import each other, all given twice and cut to six of their eleven
nodes. -/
theorem runWith_wellFormed_importPair :
    (Settings.defaults.set .maxNodes (.int 6)).check = .ok { maxNodes := 6 } ∧
      ∃ a, runWith (Settings.defaults.set .maxNodes (.int 6)) [.typescript]
          ⟨2024, 1, 1, 9, 0, 0, 0, none⟩ "scan" (importPair ++ importPair) = .ok a ∧
        a.WellFormed { maxNodes := 6 } :=
  ⟨rfl, (runWith_wellFormed (Settings.defaults.set .maxNodes (.int 6)) { maxNodes := 6 } rfl
    [.typescript] ⟨2024, 1, 1, 9, 0, 0, 0, none⟩ "scan" (importPair ++ importPair)).2.2⟩

end Analysis

end SourceFlow
