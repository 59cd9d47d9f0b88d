import SourceFlow.Proofs.Report.Content
import SourceFlow.Report.Document

/-!
# Fences cannot be broken

A report as markdown holds its outline, and its diagram if there is one,
between fences. Paths, names and labels are free texts, and yet none of
them opens or closes a fence, as long as they are of one line. So there
are two fences, or four with a diagram, and what stands between them are
the lines of the outline and of the diagram.
-/

namespace SourceFlow

open Text (OneLine linesOf joinLines MadeOf)

/-! ## Fenced lines -/

namespace Markdown

/-- Whether a line opens or closes a fence. -/
def isFence (line : String) : Bool :=
  Text.startsWith line fence

/-- The lines of a document that open or close a fence. -/
def fences (document : String) : List String :=
  (linesOf document).filter isFence

/-- The runs of lines before, between and after the fences of a document. -/
def sections (document : String) : List (List String) :=
  (linesOf document).splitOnP isFence

theorem Inert.isFence_eq {line : String} (h : Inert line) : isFence line = false := by
  rcases h with rfl | h
  · rfl
  · rw [Bool.eq_false_iff]
    intro hfence
    rcases List.isPrefixOf_iff_prefix.mp hfence with ⟨rest, hrest⟩
    have hfront := h.front
    rw [← hrest] at hfront
    cases hfront

variable {before : List String} {mark : String}

/-- The first fence ends the first run of lines. -/
theorem splitOnP_fence (hbefore : ∀ line ∈ before, Inert line) (hmark : isFence mark = true)
    (rest : List String) :
    (before ++ mark :: rest).splitOnP isFence = before :: rest.splitOnP isFence := by
  apply List.splitOnP_append_cons_of_forall_mem
  · intro line hline
    rw [(hbefore line hline).isFence_eq]
  · exact hmark

theorem filter_inert (hbefore : ∀ line ∈ before, Inert line) : before.filter isFence = [] := by
  rw [List.filter_eq_nil_iff]
  intro line hline
  rw [(hbefore line hline).isFence_eq]
  exact Bool.false_ne_true

/-- Of the lines up to the first fence, only the fence is one. -/
theorem filter_fence (hbefore : ∀ line ∈ before, Inert line) (hmark : isFence mark = true)
    (rest : List String) :
    (before ++ mark :: rest).filter isFence = mark :: rest.filter isFence := by
  rw [List.filter_append, filter_inert hbefore, List.nil_append, List.filter_cons_of_pos hmark]

theorem splitOnP_inert (hbefore : ∀ line ∈ before, Inert line) :
    before.splitOnP isFence = [before] := by
  rw [List.splitOnP_eq_singleton]
  intro line hline
  rw [(hbefore line hline).isFence_eq]

end Markdown

open Markdown

/-! ## Documents -/

namespace Report

/-- The lines in front of a diagram. -/
def diagramHead : List String :=
  ["", "## Flow Diagram", ""]

/-- The line that opens the fence of a diagram. -/
def diagramFence : String :=
  fence ++ "mermaid"

/-- The lines that a diagram adds to a document. -/
def diagramLines (drawn : List String) : List String :=
  diagramHead ++ diagramFence :: (drawn ++ [fence])

/-- The lines that a diagram adds make the text that is put behind the report. -/
theorem joinLines_diagramLines {drawn : List String} (h : drawn ≠ []) :
    joinLines (diagramLines drawn) =
      "\n## Flow Diagram\n\n" ++ fence ++ "mermaid\n" ++ joinLines drawn ++ "\n" ++ fence := by
  have hhead : joinLines diagramHead ++ "\n" = "\n## Flow Diagram\n\n" := by decide
  have hopen : diagramFence ++ "\n" = fence ++ "mermaid\n" := by decide
  have hclose : joinLines [fence] = fence := by decide
  rw [diagramLines, Text.joinLines_append (by decide) (List.cons_ne_nil _ _), hhead,
    Text.joinLines_cons _ (by simp), hopen, Text.joinLines_append h (List.cons_ne_nil _ _), hclose]
  simp only [String.append_assoc]

variable {r : Report} {opening inside after : List String}
  (hopening : ∀ line ∈ opening, Inert line) (hinside : ∀ line ∈ inside, Inert line)
  (hafter : ∀ line ∈ after, Inert line)
  (htext : MadeOf r.text (opening ++ fence :: (inside ++ fence :: after)))

include hopening hinside hafter htext

/-- A document without a diagram has the two fences of the report. -/
theorem fences_of_none (hdiagram : r.diagram = none) :
    fences r.markdownDocument = [fence, fence] ∧
      sections r.markdownDocument = [opening, inside, after] := by
  have hfence : isFence fence = true := by decide
  have hdocument : MadeOf r.markdownDocument (opening ++ fence :: (inside ++ fence :: after)) := by
    refine ⟨htext.oneLine, htext.ends, Or.inr ?_⟩
    rw [markdownDocument, htext.dropTrailingNewlines_eq, hdiagram]
    exact String.append_empty
  constructor
  · rw [fences, hdocument.linesOf_eq, filter_fence hopening hfence, filter_fence hinside hfence,
      filter_inert hafter]
  · rw [sections, hdocument.linesOf_eq, splitOnP_fence hopening hfence,
      splitOnP_fence hinside hfence, splitOnP_inert hafter]

/-- A diagram comes with two more fences. -/
theorem fences_of_some {diagram : String} {drawn : List String}
    (hdiagram : r.diagram = some diagram) (hdrawn : ∀ line ∈ drawn, IsContent line)
    (hmade : MadeOf diagram drawn) :
    fences r.markdownDocument = [fence, fence, diagramFence, fence] ∧
      sections r.markdownDocument = [opening, inside, after ++ diagramHead, drawn, []] := by
  have hfence : isFence fence = true := by decide
  have hopens : isFence diagramFence = true := by decide
  have hhead : ∀ line ∈ after ++ diagramHead, Inert line := by
    have hfixed : ∀ line ∈ diagramHead, Inert line := by decide
    intro line hline
    rcases List.mem_append.mp hline with hline | hline
    · exact hafter line hline
    · exact hfixed line hline
  have hinert : ∀ line ∈ drawn, Inert line := fun line hline => (hdrawn line hline).inert
  -- the same lines, as they stand in the document and cut at its fences
  have hlines : opening ++ fence :: (inside ++ fence :: after) ++ diagramLines drawn =
      opening ++ fence :: (inside ++ fence :: (after ++ diagramHead ++ diagramFence ::
        (drawn ++ fence :: []))) := by
    simp [diagramLines]
  have hdocument : MadeOf r.markdownDocument
      (opening ++ fence :: (inside ++ fence :: after) ++ diagramLines drawn) := by
    refine ⟨?_, ⟨fence, ?_, by decide⟩, Or.inr ?_⟩
    · have hmarks : OneLine fence ∧ OneLine diagramFence := by decide
      intro line hline
      rcases List.mem_append.mp hline with hline | hline
      · exact htext.oneLine line hline
      · simp only [diagramLines, List.mem_append, List.mem_cons, List.not_mem_nil,
          or_false] at hline
        rcases hline with hline | rfl | hline | rfl
        · exact (hhead line (List.mem_append_right _ hline)).oneLine
        · exact hmarks.2
        · exact hmade.oneLine line hline
        · exact hmarks.1
    · rw [List.getLast?_eq_some_iff]
      exact ⟨opening ++ fence :: (inside ++ fence :: after) ++
        (diagramHead ++ diagramFence :: drawn), by simp [diagramLines]⟩
    · -- the diagram is not left out, because it has lines
      have hshown : diagram.isEmpty = false := by
        simpa using hmade.ne_empty
      rw [markdownDocument, htext.dropTrailingNewlines_eq, hdiagram]
      dsimp only
      rw [hshown, if_neg Bool.false_ne_true, hmade.dropTrailingNewlines_eq,
        Text.joinLines_append htext.ne_nil (by simp [diagramLines]),
        joinLines_diagramLines hmade.ne_nil]
      simp only [String.append_assoc]
  constructor
  · rw [fences, hdocument.linesOf_eq, hlines, filter_fence hopening hfence,
      filter_fence hinside hfence, filter_fence hhead hopens, filter_fence hinert hfence]
    rfl
  · rw [sections, hdocument.linesOf_eq, hlines, splitOnP_fence hopening hfence,
      splitOnP_fence hinside hfence, splitOnP_fence hhead hopens, splitOnP_fence hinert hfence]
    rfl

end Report

/-! ## Reports on a graph -/

namespace Report

section Graph

variable {g : FlowGraph} (hg : g.WellFormed) (hline : g.OneLined) {label : String}
  (hlabel : OneLine label) (options : Options) (time : Timestamp) (p : Project)

include hg hline hlabel

/-- The outline of a report between its fences, and the other lines around them. -/
theorem exists_madeOf_text :
    ∃ opening after, (∀ line ∈ opening, Inert line) ∧ (∀ line ∈ after, Inert line) ∧
      (∀ line ∈ linesOf (Outline.render (of options time label p g).roots), Inert line) ∧
      MadeOf (of options time label p g).text (opening ++ fence ::
        (linesOf (Outline.render (of options time label p g).roots) ++ fence :: after)) := by
  have hlabels := Outline.oneLine_of_mem_ofGraph hline options.maxDepth
  have hissues := Issue.oneLined_of_mem_ofGraph hg hline options.effectiveThreshold
  have hlines := (Outline.madeOf_render hlabels).linesOf_eq
  rcases exists_madeOf_render hlabels hissues hlabel (Statistics.of p g) time with
    ⟨after, hafter, htext⟩
  have hcontent := Outline.isContent_of_mem_textLines hlabels
  rw [← hlines] at htext hcontent
  -- with `simp only` the texts stay folded
  simp only [of, assemble]
  refine ⟨openingLines time label, after, inert_of_mem_openingLines time hlabel, hafter, ?_, htext⟩
  intro line hin
  exact (hcontent line hin).inert

/-- Without a diagram there are two fences, around the outline. -/
theorem fences_of_plain (hplain : options.drawDiagram = false) :
    fences (of options time label p g).markdownDocument = [fence, fence] ∧
      (sections (of options time label p g).markdownDocument)[1]? =
        some (linesOf (Outline.render (of options time label p g).roots)) := by
  rcases exists_madeOf_text hg hline hlabel options time p with
    ⟨opening, after, hopening, hafter, hinside, htext⟩
  have hdiagram : (of options time label p g).diagram = none := if_neg (by simp [hplain])
  rcases fences_of_none hopening hinside hafter htext hdiagram with ⟨hfences, hsections⟩
  rw [hsections]
  exact ⟨hfences, rfl⟩

/-- With a diagram there are four, the last two around the diagram. -/
theorem fences_of_drawn (hdraw : options.drawDiagram = true) :
    fences (of options time label p g).markdownDocument = [fence, fence, diagramFence, fence] ∧
      (sections (of options time label p g).markdownDocument)[1]? =
        some (linesOf (Outline.render (of options time label p g).roots)) ∧
      ∃ diagram, (of options time label p g).diagram = some diagram ∧
        (sections (of options time label p g).markdownDocument)[3]? = some (linesOf diagram) := by
  rcases exists_madeOf_text hg hline hlabel options time p with
    ⟨opening, after, hopening, hafter, hinside, htext⟩
  have hdiagram : (of options time label p g).diagram =
      some (Diagram.render g options.maxNodes) := if_pos hdraw
  have hlabels : ∀ n ∈ g.nodes, OneLine n.label := fun n hn => (hline n hn).2
  have hmade := Diagram.madeOf_render hlabels options.maxNodes
  have hcontent := Diagram.isContent_of_mem_textLines hlabels options.maxNodes
  rcases fences_of_some hopening hinside hafter htext hdiagram hcontent hmade with
    ⟨hfences, hsections⟩
  rw [hsections]
  refine ⟨hfences, rfl, _, hdiagram, ?_⟩
  rw [hmade.linesOf_eq]
  rfl

end Graph

end Report

/-! ## Analyses -/

namespace Analysis

/-- Ids and names of one line give nodes with ids and labels of one line. -/
theorem oneLined_graph_run (options : Options) (loaded : List Grammar) (time : Timestamp)
    (label : String) {sources : List SourceUnit} (hids : ∀ u ∈ sources, OneLine u.id)
    (hnames : ∀ u ∈ Project.readUnits loaded sources, ∀ d ∈ u.declarations, OneLine d.name) :
    (run options loaded time label sources).graph.OneLined := by
  have hunits : ∀ u ∈ Project.readUnits loaded sources, OneLine u.id := by
    intro u hu
    rcases Project.exists_of_mem_readUnits hu with ⟨source, hsource, hid⟩
    rw [hid]
    exact hids source hsource
  intro n hn
  exact Flow.oneLine_of_mem_nodes hunits hnames (Flow.firstNodes_subset _ _ hn)

/-- Settings that pass the check give an analysis of any source units. If unit ids, names of
declarations and the label of the source are of one line, its markdown document has two fences, or
four with a diagram. Between the first two stand the lines of the outline, between the last two
those of the diagram. -/
theorem runWith_fenced (settings : Settings) (options : Options)
    (hcheck : settings.check = .ok options) (loaded : List Grammar) (time : Timestamp)
    (label : String) (sources : List SourceUnit) (hids : ∀ u ∈ sources, OneLine u.id)
    (hnames : ∀ u ∈ Project.readUnits loaded sources, ∀ d ∈ u.declarations, OneLine d.name)
    (hlabel : OneLine label) :
    ∃ a, runWith settings loaded time label sources = .ok a ∧
      (sections a.report.markdownDocument)[1]? = some (linesOf (Outline.render a.report.roots)) ∧
      if (settings .drawDiagram).isTruthy then
        fences a.report.markdownDocument = [fence, fence, Report.diagramFence, fence] ∧
          ∃ diagram, a.report.diagram = some diagram ∧
            (sections a.report.markdownDocument)[3]? = some (linesOf diagram)
      else fences a.report.markdownDocument = [fence, fence] := by
  have hgraph := wellFormed_graph_ofUnits options time label (Project.readUnits loaded sources)
  have hline := oneLined_graph_run options loaded time label hids hnames
  have hdraw : options.drawDiagram = (settings .drawDiagram).isTruthy := by
    rw [(Settings.accepts_of_check hcheck).1]
    rfl
  refine ⟨run options loaded time label sources, ?_, ?_⟩
  · rw [runWith, hcheck]
    rfl
  · rw [← hdraw]
    cases hshown : options.drawDiagram with
    | false =>
      rcases Report.fences_of_plain hgraph hline hlabel options time _ hshown with
        ⟨hfences, hsection⟩
      exact ⟨hsection, hfences⟩
    | true =>
      rcases Report.fences_of_drawn hgraph hline hlabel options time _ hshown with
        ⟨hfences, hsection, hdiagram⟩
      exact ⟨hsection, hfences, hdiagram⟩

/-- A unit of one function. -/
def declaring (id name : String) : SourceUnit :=
  let text := "function " ++ name ++ "() \x7b\x7d"
  { id, text
    tree :=
      { kind := "program", start := 0, stop := text.length
        children :=
          [{ kind := "function_declaration", start := 0, stop := text.length
             fields := [("name", 0)]
             children := [{ kind := "identifier", start := 9, stop := 9 + name.length }] }] } }

/-- Units and a function that are named like fences. -/
def fenceNames : List SourceUnit :=
  [importing "```.ts" "./```mermaid", declaring "```mermaid.ts" "```"]

/-- Even names that are fences themselves add none, with a diagram and without. -/
theorem runWith_fenced_fenceNames :
    (∃ u ∈ Project.readUnits [.typescript] fenceNames, u.declarations.map (·.name) = ["```"]) ∧
      (∃ a, runWith .defaults [.typescript] ⟨2024, 1, 1, 9, 0, 0, 0, none⟩ "```" fenceNames =
          .ok a ∧
        (sections a.report.markdownDocument)[1]? =
          some (linesOf (Outline.render a.report.roots)) ∧
        fences a.report.markdownDocument = [fence, fence, Report.diagramFence, fence] ∧
        ∃ diagram, a.report.diagram = some diagram ∧
          (sections a.report.markdownDocument)[3]? = some (linesOf diagram)) ∧
      ∃ a, runWith (Settings.defaults.set .drawDiagram (.bool false)) [.typescript]
          ⟨2024, 1, 1, 9, 0, 0, 0, none⟩ "```" fenceNames = .ok a ∧
        (sections a.report.markdownDocument)[1]? =
          some (linesOf (Outline.render a.report.roots)) ∧
        fences a.report.markdownDocument = [fence, fence] := by
  have hids : ∀ u ∈ fenceNames, OneLine u.id := by decide
  have hnames : ∀ u ∈ Project.readUnits [.typescript] fenceNames, ∀ d ∈ u.declarations,
      OneLine d.name := by decide +kernel
  refine ⟨by decide +kernel, ?_, ?_⟩
  · exact runWith_fenced .defaults {} rfl [.typescript] _ "```" fenceNames hids hnames (by decide)
  · exact runWith_fenced (Settings.defaults.set .drawDiagram (.bool false))
      { drawDiagram := false } rfl [.typescript] _ "```" fenceNames hids hnames (by decide)

end Analysis

end SourceFlow
