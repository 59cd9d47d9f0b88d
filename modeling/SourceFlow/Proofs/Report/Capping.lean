import SourceFlow.Proofs.Report.Content

/-!
# The diagram is capped once

A graph is cut to its first nodes when it is built, and its diagram cuts it
again. The cap drops edges by a set of ids, the diagram by a table of
identifiers, in which a repeated id stands once. Still both come to the
same: caps in a row are as good as the smallest of them, and a diagram of
some nodes is the diagram of the graph that was cut to them before. So in
the diagram of an analysis there is a line for each node and for each edge
of the graph, and arrows begin and end at identifiers that are declared.
-/

namespace SourceFlow

open Text (OneLine linesOf)

namespace Diagram

open SourceFlow.Flow (between cap)

/-! ## Cutting before drawing -/

/-- Edges that lead out of the nodes are not drawn anyway. -/
theorem filterMap_between (nodes : List FlowNode) (edges : List FlowEdge) :
    (between nodes edges).filterMap (edgeLine? (idTable nodes)) =
      edges.filterMap (edgeLine? (idTable nodes)) := by
  rw [between, List.filterMap_filter]
  apply List.filterMap_congr
  intro e _
  split
  · rfl
  · rename_i hends
    symm
    rw [← Option.not_isSome_iff_eq_none, isSome_edgeLine?_iff]
    simpa using hends

/-- A diagram can be cut before it is drawn. -/
theorem render_of_capped {g capped : FlowGraph} {m n : Int} (hm : 1 ≤ m) (hmn : m ≤ n)
    (hcapped : (capped.nodes, capped.edges) = cap m g.nodes g.edges) :
    render capped n = render g m := by
  have hnodes : capped.nodes = firstNodes m g.nodes := (Prod.mk.inj hcapped).1
  have hedges : capped.edges = between (firstNodes m g.nodes) g.edges := (Prod.mk.inj hcapped).2
  have hlength := Flow.length_firstNodes (by omega : (0 : Int) ≤ m) g.nodes
  have hkept : firstNodes n (firstNodes m g.nodes) = firstNodes m g.nodes := by
    apply Flow.firstNodes_of_length_le
    omega
  -- a cap of at least one keeps a node if there is one
  have hempty : (firstNodes m g.nodes).isEmpty = g.nodes.isEmpty := by
    rw [Bool.eq_iff_iff, List.isEmpty_iff_length_eq_zero, List.isEmpty_iff_length_eq_zero]
    omega
  simp only [render, hnodes, hedges, hkept, hempty, filterMap_between]

/-! ## Everything is drawn -/

/-- The lines of a diagram are a heading, a declaration for each node of the graph and an arrow for
each of its edges, in order, and arrows begin and end at declared identifiers. -/
structure ShowsAll (g : FlowGraph) (diagram : String) : Prop where
  count : (linesOf diagram).length = 1 + g.nodes.length + g.edges.length
  lines : ∃ arrows : List String,
    linesOf diagram = "graph TD" :: (g.nodes.map (nodeLine (idTable g.nodes)) ++ arrows) ∧
      g.edges.map (edgeLine? (idTable g.nodes)) = arrows.map some ∧
      ∀ arrow ∈ arrows, ∃ source ∈ g.nodes, ∃ target ∈ g.nodes,
        leadingId arrow = leadingId (nodeLine (idTable g.nodes) source) ∧
          trailingId arrow = leadingId (nodeLine (idTable g.nodes) target)

/-- An arrow begins and ends at the declarations of nodes. -/
theorem exists_nodes_of_edgeLine? {nodes : List FlowNode} {e : FlowEdge} {line : String}
    (h : edgeLine? (idTable nodes) e = some line) :
    ∃ source ∈ nodes, ∃ target ∈ nodes,
      leadingId line = leadingId (nodeLine (idTable nodes) source) ∧
        trailingId line = leadingId (nodeLine (idTable nodes) target) := by
  have hends := isSome_edgeLine?_iff.mp (Option.isSome_iff_exists.mpr ⟨line, h⟩)
  have hids := ids_of_edgeLine? h
  rcases List.mem_map.mp hends.1 with ⟨source, hsource, hfrom⟩
  rcases List.mem_map.mp hends.2 with ⟨target, htarget, hto⟩
  rw [← hfrom, ← hto] at hids
  exact ⟨source, hsource, target, htarget, (leadingId_nodeLine hids.1).symm,
    (leadingId_nodeLine hids.2).symm⟩

/-- A diagram with room for all nodes shows all of a graph without loose edges. -/
theorem showsAll_render {g : FlowGraph} {limit : Int} (hne : g.nodes ≠ [])
    (hlimit : (g.nodes.length : Int) ≤ limit)
    (hedges : ∀ e ∈ g.edges, e.source ∈ g.nodes.map (·.id) ∧ e.target ∈ g.nodes.map (·.id))
    (hlabels : ∀ n ∈ g.nodes, OneLine n.label) : ShowsAll g (render g limit) := by
  have hlines : linesOf (render g limit) = "graph TD" ::
      (g.nodes.map (nodeLine (idTable g.nodes)) ++
        g.edges.filterMap (edgeLine? (idTable g.nodes))) := by
    have hshown : g.nodes.isEmpty = false := by simpa using hne
    rw [(madeOf_render hlabels limit).linesOf_eq, textLines, hshown, if_neg Bool.false_ne_true,
      Flow.firstNodes_of_length_le hlimit]
  -- no edge is loose, so there is an arrow for each
  have hdrawn : g.edges.map (edgeLine? (idTable g.nodes)) =
      (g.edges.filterMap (edgeLine? (idTable g.nodes))).map some := by
    rw [List.map_filterMap, ← List.filterMap_eq_map]
    apply List.filterMap_congr
    intro e he
    have hboth := isSome_edgeLine?_iff.mpr (hedges e he)
    rcases Option.isSome_iff_exists.mp hboth with ⟨line, hline⟩
    rw [Function.comp_apply, hline, Option.map_some]
  constructor
  · have hcount := congrArg List.length hdrawn
    rw [List.length_map, List.length_map] at hcount
    rw [hlines, List.length_cons, List.length_append, List.length_map, ← hcount]
    omega
  · refine ⟨_, hlines, hdrawn, ?_⟩
    intro arrow harrow
    rcases List.mem_filterMap.mp harrow with ⟨e, _, he⟩
    exact exists_nodes_of_edgeLine? he

end Diagram

/-! ## Analyses -/

namespace Analysis

open Diagram (ShowsAll)

/-- In an analysis the diagram shows all of the graph. -/
theorem showsAll_run {options : Options} (hnodes : 1 ≤ options.maxNodes)
    (hdraw : options.drawDiagram = true) (loaded : List Grammar) (time : Timestamp)
    (label : String) (sources : List SourceUnit)
    (hne : (run options loaded time label sources).graph.nodes ≠ [])
    (hlabels : ∀ n ∈ (run options loaded time label sources).graph.nodes, OneLine n.label) :
    ∃ diagram, (run options loaded time label sources).report.diagram = some diagram ∧
      ShowsAll (run options loaded time label sources).graph diagram := by
  have hgraph := wellFormed_graph_ofUnits options time label (Project.readUnits loaded sources)
  have hlength : ((run options loaded time label sources).graph.nodes.length : Int) =
      min options.maxNodes _ := Flow.length_firstNodes (by omega) _
  refine ⟨Diagram.render (run options loaded time label sources).graph options.maxNodes,
    if_pos hdraw, ?_⟩
  apply Diagram.showsAll_render hne ?_ hgraph.edges hlabels
  omega

/-- Caps in a row are as good as the smallest of them, and it does not matter whether a graph is cut
before its diagram is drawn or while it is. So an analysis that draws a diagram of some nodes with
labels of one line shows all of its graph in it. -/
theorem capped_once :
    (∀ (nodes : List FlowNode) (edges : List FlowEdge) (m n : Int), 0 ≤ m → 0 ≤ n →
        Flow.cap m (Flow.cap n nodes edges).1 (Flow.cap n nodes edges).2 =
          Flow.cap (min m n) nodes edges) ∧
      (∀ (g capped : FlowGraph) (m n : Int), 1 ≤ m → m ≤ n →
        (capped.nodes, capped.edges) = Flow.cap m g.nodes g.edges →
          Diagram.render capped n = Diagram.render g m) ∧
      ∀ (settings : Settings) (options : Options), settings.check = .ok options →
        (settings .drawDiagram).isTruthy → ∀ (loaded : List Grammar) (time : Timestamp)
        (label : String) (sources : List SourceUnit),
          ∃ a, runWith settings loaded time label sources = .ok a ∧
            (a.graph.nodes ≠ [] → (∀ n ∈ a.graph.nodes, OneLine n.label) →
              ∃ diagram, a.report.diagram = some diagram ∧
                (linesOf diagram).length =
                  1 + a.graph.stats.nodeCount + a.graph.stats.edgeCount ∧
                ShowsAll a.graph diagram) := by
  refine ⟨?_, ?_, ?_⟩
  · intro nodes edges m n hm hn
    exact Flow.cap_cap hm hn nodes edges
  · intro g capped m n hm hmn hcapped
    exact Diagram.render_of_capped hm hmn hcapped
  -- the diagram has the limit of the graph, and so shows all of it
  · intro settings options hcheck hdraw loaded time label sources
    have hnodes := (Settings.limits_of_check hcheck).1.2
    have hshown : options.drawDiagram = true := by
      rw [(Settings.accepts_of_check hcheck).1]
      exact hdraw
    refine ⟨run options loaded time label sources, ?_, ?_⟩
    · rw [runWith, hcheck]
      rfl
    · intro hne hlabels
      rcases showsAll_run hnodes hshown loaded time label sources hne hlabels with
        ⟨diagram, hdiagram, hall⟩
      exact ⟨diagram, hdiagram, hall.count, hall⟩

/-- Two nodes have one id, and a cap of two parts them. -/
def partedTwins : FlowGraph :=
  { nodes := ["a.ts", "b.ts", "a.ts"].map fun id => { id, kind := .unit, label := id, owner := id }
    edges :=
      [{ id := "e0", source := "b.ts", target := "a.ts", kind := .imports },
       { id := "e1", source := "b.ts", target := "c.ts", kind := .imports }] }

/-- The twins cut and drawn in either order, and an analysis that keeps six of eleven nodes. -/
theorem capped_once_twins :
    Diagram.render
        { nodes := (Flow.cap 2 partedTwins.nodes partedTwins.edges).1
          edges := (Flow.cap 2 partedTwins.nodes partedTwins.edges).2 } 3 =
        Diagram.render partedTwins 2 ∧
      Diagram.render partedTwins 2 =
        "graph TD\n  a_ts[[\"a.ts\"]]\n  b_ts[[\"b.ts\"]]\n  b_ts --> a_ts\n" ∧
      ∃ a diagram, runWith (Settings.defaults.set .maxNodes (.int 6)) [.typescript]
          ⟨2024, 1, 1, 9, 0, 0, 0, none⟩ "scan" importPair = .ok a ∧
        a.report.diagram = some diagram ∧ (linesOf diagram).length = 1 + 6 + 2 := by
  refine ⟨capped_once.2.1 partedTwins _ 2 3 (by decide) (by decide) rfl, by decide, ?_⟩
  rcases capped_once.2.2 (Settings.defaults.set .maxNodes (.int 6)) { maxNodes := 6 } rfl rfl
    [.typescript] ⟨2024, 1, 1, 9, 0, 0, 0, none⟩ "scan" importPair with ⟨a, hrun, hshown⟩
  have ha : a = run { maxNodes := 6 } [.typescript] ⟨2024, 1, 1, 9, 0, 0, 0, none⟩ "scan"
      importPair := (Except.ok.inj hrun).symm
  have hnodes : a.graph.nodes ≠ [] := by
    rw [ha]
    decide +kernel
  have hlabels : ∀ n ∈ a.graph.nodes, OneLine n.label := by
    rw [ha]
    decide +kernel
  have hcounts : a.graph.stats.nodeCount = 6 ∧ a.graph.stats.edgeCount = 2 := by
    rw [ha]
    decide +kernel
  rcases hshown hnodes hlabels with ⟨diagram, hdiagram, hcount, _⟩
  rw [hcounts.1, hcounts.2] at hcount
  exact ⟨a, diagram, hrun, hdiagram, hcount⟩

end Analysis

end SourceFlow
