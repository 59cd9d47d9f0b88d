import Mathlib.Order.Lattice.Nat
import SourceFlow.Proofs.Graph.Routes
import SourceFlow.Proofs.Integrity

/-!
# The depth of a flow graph in its report

How deep a flow graph is gets worked out twice. The depth statistic counts
levels from one and stops at the limit; the outlines count them from zero
and go one level further. Both follow the same walks, those that visit no
node twice before their end, so the statistic is one more than the deepest
level below an entry point, or the limit (`maxDepth_eq_deepest_level`).

The statistic never is above the limit, and the limit stands in for a
threshold that was not set. So too much depth is reported just if a
threshold was set, below the limit, and a walk from an entry point has more
nodes than the threshold says (`depth_reported_iff`).
-/

namespace SourceFlow

open SourceFlow.Graph

/-! ## Walks in outlines -/

/-- The beginning of a walk is a walk. -/
theorem FlowGraph.IsWalk.take {g : FlowGraph} {u : String} {w : List String} (h : g.IsWalk u w)
    (n : Nat) : g.IsWalk u (w.take (n + 1)) := by
  refine ⟨?_, ?_, h.joined.take (n + 1)⟩
  · rw [List.head?_take, if_neg (Nat.succ_ne_zero n)]
    exact h.starts
  · intro v hv
    exact h.known v (List.mem_of_mem_take hv)

theorem nodup_dropLast_take {w : List String} (h : w.dropLast.Nodup) (n : Nat) :
    (w.take (n + 1)).dropLast.Nodup := by
  refine List.Nodup.sublist ?_ h
  rw [List.dropLast_eq_take, List.dropLast_eq_take, List.take_take, List.length_take]
  exact (List.take_prefix_take_left (by omega)).sublist

namespace Outline

namespace Unfolds

variable {g : FlowGraph} {depth : Int} {root : Outline}

/-- Every node of an outline ends a walk that the outline shows, and it fits what the walk has
passed. -/
theorem exists_walk (h : Unfolds g depth root) {o : Outline} (ho : root.Has o) :
    ∃ w, g.IsWalk root.id w ∧ (w.length : Int) ≤ max 0 depth + 1 ∧ w.dropLast.Nodup ∧
      w.getLast? = some o.id ∧ o.EndsAfter w.dropLast := by
  obtain ⟨path, hpath, hlast⟩ := has_iff_exists_path.mp ho
  obtain ⟨hwalk, hlength, hdistinct⟩ := (h.walks _).mp (List.mem_map_of_mem hpath)
  have hid : (pathIds path).getLast? = some o.id := by
    rw [pathIds, List.getLast?_map, hlast]
    rfl
  exact ⟨pathIds path, hwalk, hlength, hdistinct, hid, h.ends path hpath o hlast⟩

/-- Every walk that an outline shows ends in one of its nodes. -/
theorem exists_node (h : Unfolds g depth root) {w : List String} (hwalk : g.IsWalk root.id w)
    (hlength : (w.length : Int) ≤ max 0 depth + 1) (hdistinct : w.dropLast.Nodup) :
    ∃ o, root.Has o ∧ w.getLast? = some o.id ∧ o.EndsAfter w.dropLast := by
  have hshown : w ∈ root.paths.map pathIds := (h.walks w).mpr ⟨hwalk, hlength, hdistinct⟩
  obtain ⟨path, hpath, rfl⟩ := List.mem_map.mp hshown
  obtain ⟨rest, rfl⟩ := exists_cons_of_mem_paths hpath
  obtain ⟨o, hlast⟩ : ∃ o, (root :: rest).getLast? = some o :=
    ⟨_, List.getLast?_eq_some_getLast (List.cons_ne_nil root rest)⟩
  refine ⟨o, has_iff_exists_path.mpr ⟨_, hpath, hlast⟩, ?_, h.ends _ hpath o hlast⟩
  rw [pathIds, List.getLast?_map, hlast]
  rfl

end Unfolds

/-- The levels of the nodes that stand in the outlines of entry points. -/
def entryLevels (g : FlowGraph) (depth : Int) : Set Int :=
  {level | ∃ root ∈ ofGraph g depth, root.id ∈ g.entries ∧ ∃ o, root.Has o ∧ o.level = level}

/-- A level is reached just if a walk from an entry point has that many edges or more, as far as
outlines go. -/
theorem mem_entryLevels {g : FlowGraph} {depth level : Int} :
    level ∈ entryLevels g depth ↔
      0 ≤ level ∧ level ≤ max 0 depth ∧ ∃ entry ∈ g.entries, ∃ w, g.IsWalk entry w ∧
        level < w.length ∧ w.dropLast.Nodup := by
  constructor
  · rintro ⟨root, hroot, hentry, o, ho, rfl⟩
    obtain ⟨w, hwalk, hlength, hdistinct, _, hends⟩ := (unfolds_of_mem_ofGraph hroot).exists_walk ho
    have hpos : 0 < w.length := List.length_pos_iff.mpr hwalk.ne_nil
    have hlevel : o.level = (w.length - 1 : Nat) := by
      rw [hends.level, List.length_dropLast]
    exact ⟨by omega, by omega, root.id, hentry, w, hwalk, by omega, hdistinct⟩
  · rintro ⟨hnonneg, hlevel, entry, hentry, w, hwalk, hlong, hdistinct⟩
    -- levels are counted in the integers, lengths of walks in the natural numbers
    obtain ⟨n, rfl⟩ := Int.eq_ofNat_of_zero_le hnonneg
    -- a walk starts at a node, and every node is the root of an outline
    have hknown : entry ∈ g.nodes.map (·.id) := hwalk.known entry (List.mem_of_head? hwalk.starts)
    rw [← mem_ids_rootNodes, ← ids_ofGraph g depth] at hknown
    obtain ⟨root, hroot, rfl⟩ := List.mem_map.mp hknown
    -- of a longer walk the outline shows the beginning
    have hlength : (w.take (n + 1)).length = n + 1 := by
      rw [List.length_take]
      omega
    obtain ⟨o, ho, _, hends⟩ := (unfolds_of_mem_ofGraph hroot).exists_node (hwalk.take n)
      (by omega) (nodup_dropLast_take hdistinct n)
    refine ⟨root, hroot, hentry, o, ho, ?_⟩
    rw [hends.level, List.length_dropLast, hlength, Nat.add_sub_cancel]

/-- The levels that are reached are those up to the deepest. -/
theorem mem_entryLevels_iff_le {g : FlowGraph} {depth d : Int}
    (hd : IsGreatest (entryLevels g depth) d) (n : Nat) :
    (n : Int) ∈ entryLevels g depth ↔ n ≤ d := by
  constructor
  · intro hlevel
    exact hd.2 hlevel
  · intro hle
    obtain ⟨_, hbound, entry, hentry, w, hwalk, hlong, hdistinct⟩ := mem_entryLevels.mp hd.1
    exact mem_entryLevels.mpr
      ⟨by omega, by omega, entry, hentry, w, hwalk, by omega, hdistinct⟩

/-- If there are entry points, they have outlines, and these do not go deeper than the limit. -/
theorem exists_isGreatest_entryLevels {g : FlowGraph} (hg : g.WellFormed)
    (hentries : g.entries ≠ []) (depth : Int) :
    ∃ d : Nat, IsGreatest (entryLevels g depth) d := by
  -- no level is negative, so the deepest is found among the natural numbers
  let levels : Set Nat := {n | (n : Int) ∈ entryLevels g depth}
  have hbdd : BddAbove levels := by
    refine ⟨depth.toNat, ?_⟩
    intro n hn
    have hle := (mem_entryLevels.mp hn).2.1
    omega
  have hnonempty : levels.Nonempty := by
    obtain ⟨entry, hentry⟩ := List.exists_mem_of_ne_nil _ hentries
    have hwalk : g.IsWalk entry [entry] := .singleton (hg.entries entry hentry)
    exact ⟨0, mem_entryLevels.mpr
      ⟨by omega, by omega, entry, hentry, [entry], hwalk, by simp, List.nodup_nil⟩⟩
  refine ⟨sSup levels, Nat.sSup_mem hnonempty hbdd, ?_⟩
  intro level hlevel
  obtain ⟨n, rfl⟩ := Int.eq_ofNat_of_zero_le (mem_entryLevels.mp hlevel).1
  exact Int.ofNat_le.mpr (le_csSup hbdd hlevel)

end Outline

/-! ## Walks and the depth statistic -/

/-- If no edge dangles, the routes along the neighbour lists are the walks of the graph that visit
no node twice before their end. -/
theorem FlowGraph.isRoute_iff {g : FlowGraph}
    (hedges : ∀ e ∈ g.edges, e.source ∈ g.nodes.map (·.id) ∧ e.target ∈ g.nodes.map (·.id))
    {start : String} (hstart : start ∈ g.nodes.map (·.id)) {w : List String} :
    (adjacencyOf g.edges).IsRoute [] start w ↔ g.IsWalk start w ∧ w.dropLast.Nodup := by
  constructor
  · intro h
    have hjoined : w.IsChain g.Joins := by
      apply h.linked.imp
      intro u v huv
      exact mem_neighbours_adjacencyOf.mp huv
    refine ⟨⟨h.starts, ?_, hjoined⟩, h.distinct⟩
    -- the first node is known, and edges lead from known nodes to known nodes
    refine hjoined.induction (fun v => v ∈ g.nodes.map (·.id)) w ?_ ?_
    · rintro u v ⟨e, he, _, rfl⟩ _
      exact (hedges e he).2
    · intro hne
      have hfirst := h.starts
      rw [List.head?_eq_some_head hne] at hfirst
      rw [Option.some.inj hfirst]
      exact hstart
  · rintro ⟨hwalk, hdistinct⟩
    refine ⟨hwalk.starts, ?_, hdistinct, fun _ _ => List.not_mem_nil⟩
    apply hwalk.joined.imp
    intro u v huv
    exact mem_neighbours_adjacencyOf.mpr huv

/-- The depth statistic is more than `n` just if the limit is and a walk from an entry point has
more than `n` nodes. -/
theorem Flow.lt_maxDepth_iff {options : Options} {nodes : List FlowNode} {edges : List FlowEdge}
    (hg : (analyze options nodes edges).WellFormed) (n : Nat) :
    (n : Int) < (analyze options nodes edges).stats.maxDepth ↔
      (n : Int) < options.maxDepth ∧ ∃ entry ∈ (analyze options nodes edges).entries,
        ∃ w, (analyze options nodes edges).IsWalk entry w ∧ n < w.length ∧ w.dropLast.Nodup := by
  refine (lt_depth_iff _ _ _ n).trans (and_congr_right fun _ => ?_)
  constructor
  · rintro ⟨entry, hentry, w, hroute, hlength⟩
    obtain ⟨hwalk, hdistinct⟩ :=
      (FlowGraph.isRoute_iff hg.edges (hg.entries entry hentry)).mp hroute
    exact ⟨entry, hentry, w, hwalk, hlength, hdistinct⟩
  · rintro ⟨entry, hentry, w, hwalk, hlength, hdistinct⟩
    have hroute := (FlowGraph.isRoute_iff hg.edges (hg.entries entry hentry)).mpr
      ⟨hwalk, hdistinct⟩
    exact ⟨entry, hentry, w, hroute, hlength⟩

/-- The depth statistic is one more than the deepest level below an entry point, or the limit. -/
theorem Flow.maxDepth_eq_min {options : Options} (hdepth : 1 ≤ options.maxDepth)
    {nodes : List FlowNode} {edges : List FlowEdge}
    (hg : (analyze options nodes edges).WellFormed) {d : Int}
    (hd : IsGreatest (Outline.entryLevels (analyze options nodes edges) options.maxDepth) d) :
    (analyze options nodes edges).stats.maxDepth = min options.maxDepth (1 + d) := by
  have hbounds := depth_bounds (entryPoints nodes options.entryPattern) (adjacencyOf edges) hdepth
  have hnonneg : 0 ≤ (analyze options nodes edges).stats.maxDepth := hbounds.1
  -- both sides exceed the same numbers
  have hiff : ∀ n : Nat, (n : Int) < (analyze options nodes edges).stats.maxDepth ↔
      (n : Int) < options.maxDepth ∧ n ≤ d := by
    intro n
    rw [lt_maxDepth_iff hg, ← Outline.mem_entryLevels_iff_le hd, Outline.mem_entryLevels]
    refine and_congr_right fun hlimit => ?_
    have hnonneg : (0 : Int) ≤ n := by omega
    have hle : (n : Int) ≤ max 0 options.maxDepth := by omega
    rw [and_iff_right hnonneg, and_iff_right hle]
    simp only [Int.ofNat_lt]
  have hlevel : 0 ≤ d := (Outline.mem_entryLevels.mp hd.1).1
  have hbelow := hiff (min options.maxDepth (1 + d) - 1).toNat
  have habove := hiff (min options.maxDepth (1 + d)).toNat
  omega

/-! ## Reports on depth -/

theorem Issue.exists_type_iff (issues : List Issue) (wanted : IssueType) :
    (∃ issue ∈ issues, issue.type = wanted) ↔ issues.filter (·.type == wanted) ≠ [] := by
  simp [List.filter_eq_nil_iff]

/-- Depth is reported at most once, and just if the statistic is above the threshold. -/
theorem Issue.depth_mem_ofGraph_iff (g : FlowGraph) (threshold : Int) :
    ((∃ issue ∈ ofGraph g threshold, issue.type = .depth) ↔ threshold < g.stats.maxDepth) ∧
      ((ofGraph g threshold).filter (·.type == .depth)).length ≤ 1 := by
  rw [exists_type_iff, depth_ofGraph]
  split
  · rename_i hdeep
    exact ⟨⟨fun _ => hdeep, fun _ => List.cons_ne_nil _ _⟩, Nat.le_refl 1⟩
  · rename_i hnot
    exact ⟨⟨fun h => absurd rfl h, fun h => absurd h hnot⟩, Nat.zero_le 1⟩

/-! ## Analyses -/

namespace Analysis

/-- With settings that pass the check, if there are entry points, the depth statistic of any units
is one more than the deepest level in the outlines of entry points, or the limit that was set. -/
theorem maxDepth_eq_deepest_level (settings : Settings) (options : Options)
    (hcheck : settings.check = .ok options) (time : Timestamp) (label : String)
    (units : List UnitFacts) (hentries : (ofUnits options time label units).graph.entries ≠ []) :
    settings .maxDepth = .int options.maxDepth ∧
      ∃ d : Nat,
        IsGreatest (Outline.entryLevels (ofUnits options time label units).graph
          options.maxDepth) d ∧
        (ofUnits options time label units).graph.stats.maxDepth = min options.maxDepth (1 + d) := by
  obtain ⟨_, hset, hdepth⟩ := Settings.limits_of_check hcheck
  have hg := wellFormed_graph_ofUnits options time label units
  obtain ⟨d, hd⟩ := Outline.exists_isGreatest_entryLevels hg hentries options.maxDepth
  exact ⟨hset, d, hd, Flow.maxDepth_eq_min hdepth hg hd⟩

/-- Two units that import each other, the first with a third unit below it. -/
def importLoop : List UnitFacts :=
  [{ id := "src/a.ts", metadata := { kindName := "typescript" }
     imports := [{ reference := "./b", isExternal := false },
       { reference := "./c", isExternal := false }] },
   { id := "src/b.ts", metadata := { kindName := "typescript" }
     imports := [{ reference := "./a", isExternal := false }] },
   { id := "src/c.ts", metadata := { kindName := "typescript" } }]

/-- Entering at any of the three units, the longest way down is from the second to the first and
back. -/
theorem maxDepth_eq_deepest_level_importLoop :
    (Settings.defaults.set .entryPattern (.text "src")).check =
        .ok { entryPattern := some "src" } ∧
      (ofUnits { entryPattern := some "src" } ⟨2024, 1, 1, 9, 0, 0, 0, none⟩ "scan"
        importLoop).graph.entries ≠ [] ∧
      (ofUnits { entryPattern := some "src" } ⟨2024, 1, 1, 9, 0, 0, 0, none⟩ "scan"
        importLoop).graph.stats.maxDepth = 3 ∧
      IsGreatest (Outline.entryLevels (ofUnits { entryPattern := some "src" }
        ⟨2024, 1, 1, 9, 0, 0, 0, none⟩ "scan" importLoop).graph 10) 2 := by
  have hentries : (ofUnits { entryPattern := some "src" } ⟨2024, 1, 1, 9, 0, 0, 0, none⟩ "scan"
      importLoop).graph.entries ≠ [] := by decide +kernel
  have hdepth : (ofUnits { entryPattern := some "src" } ⟨2024, 1, 1, 9, 0, 0, 0, none⟩ "scan"
      importLoop).graph.stats.maxDepth = 3 := by decide +kernel
  obtain ⟨_, d, hd, heq⟩ := maxDepth_eq_deepest_level
    (Settings.defaults.set .entryPattern (.text "src")) { entryPattern := some "src" } rfl
    ⟨2024, 1, 1, 9, 0, 0, 0, none⟩ "scan" importLoop hentries
  rw [hdepth] at heq
  obtain rfl : d = 2 := by
    have hlimit : ({ entryPattern := some "src" } : Options).maxDepth = 10 := rfl
    omega
  exact ⟨rfl, hentries, hdepth, hd⟩

/-- Depth is reported just if the statistic is above the threshold, or above the limit without
one. -/
theorem depth_mem_issues_iff (options : Options) (time : Timestamp) (label : String)
    (units : List UnitFacts) :
    (∃ issue ∈ (ofUnits options time label units).report.issues, issue.type = .depth) ↔
      options.effectiveThreshold < (ofUnits options time label units).graph.stats.maxDepth :=
  (Issue.depth_mem_ofGraph_iff _ _).1

/-- A threshold is exceeded just if the limit allows it and a walk from an entry point has more
nodes. -/
theorem depth_mem_issues_iff_of_set {options : Options} {n : Nat}
    (hset : options.depthThreshold = some (n : Int)) (time : Timestamp) (label : String)
    (units : List UnitFacts) :
    (∃ issue ∈ (ofUnits options time label units).report.issues, issue.type = .depth) ↔
      (n : Int) < options.maxDepth ∧ ∃ entry ∈ (ofUnits options time label units).graph.entries,
        ∃ w, (ofUnits options time label units).graph.IsWalk entry w ∧ n < w.length ∧
          w.dropLast.Nodup := by
  have hthreshold : options.effectiveThreshold = n := by
    rw [Options.effectiveThreshold, hset]
    rfl
  rw [depth_mem_issues_iff, hthreshold]
  exact Flow.lt_maxDepth_iff (wellFormed_graph_ofUnits options time label units) n

/-- The limit is the threshold when none was set, and the statistic is not above it. -/
theorem depth_not_reported_of_unset {options : Options} (hdepth : 1 ≤ options.maxDepth)
    (hunset : options.depthThreshold = none) (time : Timestamp) (label : String)
    (units : List UnitFacts) :
    ¬ ∃ issue ∈ (ofUnits options time label units).report.issues, issue.type = .depth := by
  have hbounds : (ofUnits options time label units).graph.stats.maxDepth ≤ options.maxDepth :=
    (depth_bounds _ _ hdepth).2
  have hthreshold : options.effectiveThreshold = options.maxDepth := by
    rw [Options.effectiveThreshold, hunset]
    rfl
  rw [depth_mem_issues_iff, hthreshold]
  omega

/-- With settings that pass the check, the report on any units has an issue about depth just if a
threshold was set, it is below the limit, and in the capped flow graph a walk from an entry point
that visits no node twice before its end has more nodes than the threshold says. There is at most
one such issue, and without a threshold there is none. -/
theorem depth_reported_iff (settings : Settings) (options : Options)
    (hcheck : settings.check = .ok options) (time : Timestamp) (label : String)
    (units : List UnitFacts) :
    ((∃ issue ∈ (ofUnits options time label units).report.issues, issue.type = .depth) ↔
        ∃ t limit : Int, settings .depthThreshold = .int t ∧ settings .maxDepth = .int limit ∧
          t < limit ∧ ∃ entry ∈ (ofUnits options time label units).graph.entries,
            ∃ w, (ofUnits options time label units).graph.IsWalk entry w ∧ t < w.length ∧
              w.dropLast.Nodup) ∧
      ((ofUnits options time label units).report.issues.filter (·.type == .depth)).length ≤ 1 ∧
      (settings .depthThreshold = .null →
        ∀ issue ∈ (ofUnits options time label units).report.issues, issue.type ≠ .depth) := by
  obtain ⟨_, hmax, hdepth⟩ := Settings.limits_of_check hcheck
  have honce := (Issue.depth_mem_ofGraph_iff (ofUnits options time label units).graph
    options.effectiveThreshold).2
  rcases Settings.threshold_of_check hcheck with ⟨hnull, hunset⟩ | ⟨t, hpos, hint, hset⟩
  · -- without a threshold both sides are false
    have hnever := depth_not_reported_of_unset hdepth hunset time label units
    refine ⟨⟨fun h => absurd h hnever, ?_⟩, honce, ?_⟩
    · rintro ⟨t, _, hint, _⟩
      rw [hnull] at hint
      cases hint
    · intro _ issue hmem htype
      exact hnever ⟨issue, hmem, htype⟩
  · obtain ⟨n, rfl⟩ := Int.eq_ofNat_of_zero_le hpos
    refine ⟨(depth_mem_issues_iff_of_set hset time label units).trans ⟨?_, ?_⟩, honce, ?_⟩
    · rintro ⟨hlimit, entry, hentry, w, hwalk, hlong, hdistinct⟩
      exact ⟨n, options.maxDepth, hint, hmax, hlimit, entry, hentry, w, hwalk,
        Int.ofNat_lt.mpr hlong, hdistinct⟩
    · -- the settings hold one threshold and one limit
      rintro ⟨t, limit, ht, hlimit, hlt, entry, hentry, w, hwalk, hlong, hdistinct⟩
      obtain rfl : (n : Int) = t := Value.int.inj (hint.symm.trans ht)
      obtain rfl : options.maxDepth = limit := Value.int.inj (hmax.symm.trans hlimit)
      exact ⟨hlt, entry, hentry, w, hwalk, Int.ofNat_lt.mp hlong, hdistinct⟩
    · intro hnull
      rw [hnull] at hint
      cases hint

/-- With a threshold of two nodes the way from the first unit to the second and back is reported. -/
theorem depth_reported_iff_importLoop :
    ((Settings.defaults.set .entryPattern (.text "src")).set .depthThreshold (.int 2)).check =
        .ok { entryPattern := some "src", depthThreshold := some 2 } ∧
      ∃ issue ∈ (ofUnits { entryPattern := some "src", depthThreshold := some 2 }
        ⟨2024, 1, 1, 9, 0, 0, 0, none⟩ "scan" importLoop).report.issues, issue.type = .depth := by
  have hreported := (depth_reported_iff
    ((Settings.defaults.set .entryPattern (.text "src")).set .depthThreshold (.int 2))
    { entryPattern := some "src", depthThreshold := some 2 } rfl
    ⟨2024, 1, 1, 9, 0, 0, 0, none⟩ "scan" importLoop).1
  refine ⟨rfl, hreported.mpr ⟨2, 10, rfl, rfl, by decide, "src/a.ts", ?_,
    ["src/a.ts", "src/b.ts", "src/a.ts"], ⟨rfl, ?_, ?_⟩, by decide, by decide⟩⟩
  · decide +kernel
  · decide +kernel
  · decide +kernel

end Analysis

end SourceFlow
