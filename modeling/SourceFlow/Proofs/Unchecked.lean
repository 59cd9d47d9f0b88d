import SourceFlow.Proofs.Settings
import SourceFlow.Report.Unchecked

/-!
# Unchecked settings that make sense

An analysis and a report can be made with settings that were not checked.
If the settings would have passed the check, nothing is lost by that: what
is built (`buildUnder?_of_check`), found (`analyzeUnder_of_check`) and
reported (`under_of_check`) is the same as with the options that the check
reads from them. Each part that uses a setting has a lemma of its own, for
the kind of value that the setting may hold.
-/

namespace SourceFlow

/-! ## Analyses -/

namespace Graph

/-- A limit that is an integer limits the depth as it does after the check. -/
theorem depthUnder?_int (entries : List String) (adj : Adjacency) (limit : Int) :
    depthUnder? entries adj (.int limit) = some (.int (depth entries adj limit)) := by
  rw [depthUnder?, depth]
  split
  · rfl
  · -- a limit below one leaves no level below the entry points, on both sides
    have hlevels : limit.toNat - 1 = (limit - 1).toNat := by omega
    simp only [Value.number?, Option.map_some, Number.ceiling?, Option.getD_some, Number.below,
      hlevels, decide_eq_true_eq]
    split
    · rename_i hbelow
      rw [Int.min_eq_left (Int.le_of_lt hbelow)]
    · rename_i hbelow
      rw [Int.min_eq_right (Int.not_lt.mp hbelow)]

end Graph

namespace Flow

theorem entryPointsUnder?_text (nodes : List FlowNode) (pattern : String) :
    entryPointsUnder? nodes (.text pattern) = some (entryPoints nodes (some pattern)) :=
  rfl

/-- Null is no pattern and is never searched for. -/
theorem entryPointsUnder?_null (nodes : List FlowNode) :
    entryPointsUnder? nodes .null = some (entryPoints nodes none) := by
  unfold entryPointsUnder?
  dsimp only
  split
  · rename_i hnone
    rw [hnone]
    rfl
  · rfl

/-- Settings that pass the check build the same nodes and edges without it. -/
theorem buildUnder?_of_check {s : Settings} {options : Options} (h : s.check = .ok options)
    (p : Project) : buildUnder? (s .maxNodes) p = some (build options.maxNodes p) := by
  obtain ⟨⟨hnodes, _⟩, _⟩ := Settings.limits_of_check h
  rw [hnodes]
  rfl

/-- What is found about a graph that was analysed. -/
def Findings.of (g : FlowGraph) : Findings :=
  { entries := g.entries, cycles := g.cycles, nodeCount := g.stats.nodeCount
    edgeCount := g.stats.edgeCount, depth := .int g.stats.maxDepth }

/-- Settings that pass the check find the same without it. -/
theorem analyzeUnder_of_check {s : Settings} {options : Options} (h : s.check = .ok options)
    (nodes : List FlowNode) (edges : List FlowEdge) :
    analyzeUnder s nodes edges = .ok (.of (analyze options nodes edges)) := by
  obtain ⟨_, hdepth, _⟩ := Settings.limits_of_check h
  obtain ⟨rfl, hall⟩ := Settings.accepts_of_check h
  have hentries : entryPointsUnder? nodes (s .entryPattern) =
      some (entryPoints nodes s.options.entryPattern) := by
    have hread : s.options.entryPattern = (s .entryPattern).text? := rfl
    -- the pattern is a text or it was not set
    rcases hall .entryPattern (by decide) with hnull | ⟨pattern, htext⟩
    · rw [hread, hnull, entryPointsUnder?_null]
      rfl
    · rw [hread, htext, entryPointsUnder?_text]
      rfl
  rw [analyzeUnder, hentries, hdepth]
  simp only [Setting.fit, bind, Except.bind, Graph.depthUnder?_int]
  rfl

end Flow

/-! ## Reports -/

/-- Without nodes there are no outlines, whatever the limit. -/
theorem Outline.ofGraphUnder?_int (g : FlowGraph) (limit : Int) :
    ofGraphUnder? g (.int limit) = some (ofGraph g limit) := by
  rw [ofGraphUnder?]
  split
  · rename_i hempty
    have hnodes : g.nodes = [] := List.isEmpty_iff.mp hempty
    have hentries : g.entries.filterMap (nodeOf? []) = [] :=
      List.filterMap_eq_nil_iff.mpr fun _ _ => rfl
    rw [ofGraph, rootNodes, hnodes, hentries]
    rfl
  · simp [Value.number?, Number.ceiling?, ofGraph]

/-- A threshold that is an integer is compared as it is after the check. -/
theorem Issue.ofGraphUnder?_int (g : FlowGraph) (threshold : Int) :
    ofGraphUnder? g (.int threshold) = some (ofGraph g threshold) := by
  simp only [ofGraphUnder?, Value.number?, Option.map_some, Number.below, decide_eq_true_eq]
  rfl

/-- A limit that is an integer cuts as it does after the check. -/
theorem Diagram.renderUnder?_int (g : FlowGraph) (limit : Int) :
    renderUnder? g (.int limit) = some (render g limit) := by
  rw [renderUnder?]
  split
  · rename_i hempty
    rw [render, if_pos hempty]
  · rfl

/-- The threshold that is compared is the one that the check reads. -/
theorem Settings.effectiveThreshold_of_check {s : Settings} {options : Options}
    (h : s.check = .ok options) : s.effectiveThreshold = .int options.effectiveThreshold := by
  obtain ⟨_, hdepth, _⟩ := limits_of_check h
  rw [effectiveThreshold, Options.effectiveThreshold]
  rcases threshold_of_check h with ⟨hnull, hnone⟩ | ⟨t, _, hset, hsome⟩
  · rw [hnull, hnone, hdepth]
    rfl
  · rw [hset, hsome]
    rfl

/-- Settings that pass the check give the same report without it. -/
theorem Report.under_of_check {s : Settings} {options : Options} (h : s.check = .ok options)
    (time : Timestamp) (label : String) (p : Project) (g : FlowGraph) :
    Report.under s time label p g = .ok (Report.of options time label p g) := by
  obtain ⟨⟨hnodes, _⟩, hdepth, _⟩ := Settings.limits_of_check h
  have hthreshold := Settings.effectiveThreshold_of_check h
  obtain ⟨rfl, hall⟩ := Settings.accepts_of_check h
  have hformat : Report.formatName? (s .format) = some s.options.format := by
    have hread : s.options.format = (s .format).textOr "markdown" := rfl
    rcases hall .format (by decide) with htext | htext | htext <;> rw [hread, htext] <;> rfl
  have hdraw : s.options.drawDiagram = (s .drawDiagram).isTruthy := rfl
  rw [Report.under, hdepth, hnodes, hthreshold, hformat, Report.of, hdraw]
  simp only [Outline.ofGraphUnder?_int, Issue.ofGraphUnder?_int, Diagram.renderUnder?_int,
    Setting.fit, bind, Except.bind]
  -- the diagram is the only part that may be left out
  cases (s .drawDiagram).isTruthy with
  | true => rfl
  | false => rfl

end SourceFlow
