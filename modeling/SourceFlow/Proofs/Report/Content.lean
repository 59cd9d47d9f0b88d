import SourceFlow.Proofs.Integrity
import SourceFlow.Proofs.Report.Identifiers
import SourceFlow.Proofs.Text.Lines

/-!
# Lines of a report

What a report shows of paths, names and labels stands behind something
that the library put there: an icon, a branch, a caption, a mark. So every
line of an outline, of the table, of the issues and of a diagram is empty
or begins with a character that is no backtick, and has no line feed if
those texts have none.
-/

namespace SourceFlow

open Text (OneLine joinLines MadeOf)

/-! ## Lines with content -/

namespace Markdown

/-- A line that has something in it and cannot be taken for a fence: it begins with a character
other than a backtick. -/
structure IsContent (line : String) : Prop where
  oneLine : OneLine line
  front : line.toList.head?.any (· != '`') = true

/-- A line that cannot be taken for a fence: it is empty or has content. -/
def Inert (line : String) : Prop :=
  line = "" ∨ IsContent line

instance : DecidablePred IsContent := fun line =>
  decidable_of_iff (OneLine line ∧ line.toList.head?.any (· != '`') = true)
    ⟨fun h => ⟨h.1, h.2⟩, fun h => ⟨h.oneLine, h.front⟩⟩

instance : DecidablePred Inert := fun line =>
  inferInstanceAs (Decidable (line = "" ∨ IsContent line))

variable {line s t : String}

/-- What follows a line with content does not change how it begins. -/
theorem IsContent.append (hs : IsContent s) (ht : OneLine t) : IsContent (s ++ t) := by
  refine ⟨Text.oneLine_append.mpr ⟨hs.oneLine, ht⟩, ?_⟩
  have hfront := hs.front
  rw [String.toList_append]
  cases htext : s.toList with
  | nil => rw [htext] at hfront; cases hfront
  | cons c rest =>
    rw [htext] at hfront
    exact hfront

theorem IsContent.ne_empty (h : IsContent line) : line ≠ "" := by
  rintro rfl
  cases h.front

theorem IsContent.inert (h : IsContent line) : Inert line :=
  Or.inr h

theorem Inert.oneLine (h : Inert line) : OneLine line := by
  rcases h with rfl | h
  · decide
  · exact h.oneLine

/-- An inert beginning before content gives content. -/
theorem Inert.append_content (hs : Inert s) (ht : IsContent t) : IsContent (s ++ t) := by
  rcases hs with rfl | hs
  · rw [String.empty_append]
    exact ht
  · exact hs.append ht.oneLine

/-- A text of lines that all have content. -/
theorem madeOf_of_content {lines : List String} (hne : lines ≠ [])
    (h : ∀ line ∈ lines, IsContent line)
    (htext : s = joinLines lines ∨ s = joinLines lines ++ "\n") : MadeOf s lines := by
  have hlast := List.getLast?_eq_some_getLast hne
  exact ⟨fun line hline => (h line hline).oneLine,
    ⟨_, hlast, (h _ (List.getLast_mem hne)).ne_empty⟩, htext⟩

end Markdown

open Markdown

/-! ## Outlines -/

namespace Outline

theorem has_iff {o x : Outline} : o.Has x ↔ x = o ∨ ∃ c ∈ o.children, c.Has x := by
  constructor
  · rintro (_ | ⟨hc, hx⟩)
    · exact Or.inl rfl
    · exact Or.inr ⟨_, hc, hx⟩
  · rintro (rfl | ⟨c, hc, hx⟩)
    · exact .here x
    · exact .child hc hx

/-- Every icon is a character that is no backtick. -/
theorem isContent_icon (kind : NodeKind) : IsContent (icon kind) := by
  unfold icon
  split
  · decide
  · split
    · decide
    · split
      · decide
      · decide

/-- Shortening a label adds dots and no line feed. -/
theorem oneLine_shortLabel {label : String} (h : OneLine label) : OneLine (shortLabel label) := by
  unfold shortLabel
  split
  · have hdots : OneLine "..." := by decide
    exact Text.oneLine_append.mpr ⟨h.takeFirst _, hdots⟩
  · exact h

theorem isContent_heading {o : Outline} (h : OneLine o.label) : IsContent (heading o) :=
  ((isContent_icon o.kind).append (by decide)).append (oneLine_shortLabel h)

/-- What is shown of a node begins with its icon, and the mark of a reference back comes last. -/
theorem isContent_payload {o : Outline} (h : OneLine o.label) : IsContent (payload o) := by
  apply (isContent_heading h).append
  split
  · decide
  · decide

theorem isContent_branch (last : Bool) : IsContent (branch last) := by
  cases last
  · decide
  · decide

theorem isContent_cell (last : Bool) : IsContent (cell last) := by
  cases last
  · decide
  · decide

theorem linesBelow_eq (lead : String) (o : Outline) :
    linesBelow lead o = rowLines lead o.children := by
  cases o
  rw [linesBelow]

/-- A row of siblings: the first with what is below it, then the others. -/
theorem rowLines_cons (lead : String) (o : Outline) (rest : List Outline) :
    rowLines lead (o :: rest) = (lead ++ branch rest.isEmpty ++ payload o) ::
      (rowLines (lead ++ cell rest.isEmpty) o.children ++ rowLines lead rest) := by
  rw [rowLines, linesBelow_eq]

-- What holds of the children of a node and of its later siblings holds of a row of siblings.
mutual

theorem induction_below {motive : List Outline → Prop} (nil : motive [])
    (cons : ∀ o rest, motive o.children → motive rest → motive (o :: rest)) :
    ∀ o : Outline, motive o.children
  | ⟨_, _, _, _, _, children, _⟩ => row_induction nil cons children

theorem row_induction {motive : List Outline → Prop} (nil : motive [])
    (cons : ∀ o rest, motive o.children → motive rest → motive (o :: rest)) :
    ∀ row : List Outline, motive row
  | [] => nil
  | o :: rest => cons o rest (induction_below nil cons o) (row_induction nil cons rest)

end

/-- Every line below a node has content, whatever is drawn in front of it. -/
theorem isContent_of_mem_rowLines {row : List Outline} {lead : String} (hlead : Inert lead)
    (hlabels : ∀ o ∈ row, ∀ x, o.Has x → OneLine x.label) :
    ∀ line ∈ rowLines lead row, IsContent line := by
  -- what stands in front of a line is made of cells, so it is empty or begins with one
  induction row using row_induction generalizing lead with
  | nil =>
    intro line hline
    cases hline
  | cons o rest ihbelow ihrest =>
    have ho := hlabels o List.mem_cons_self
    have hbranch := hlead.append_content (isContent_branch rest.isEmpty)
    have hcell := hlead.append_content (isContent_cell rest.isEmpty)
    intro line hline
    rw [rowLines_cons, List.mem_cons, List.mem_append] at hline
    rcases hline with rfl | hbelow | hrest
    · exact hbranch.append (isContent_payload (ho o (.here o))).oneLine
    · refine ihbelow hcell.inert ?_ line hbelow
      intro c hc x hx
      exact ho x (.child hc hx)
    · refine ihrest hlead ?_ line hrest
      intro o' ho'
      exact hlabels o' (List.mem_cons_of_mem _ ho')

/-- The lines of the text of outlines. -/
def textLines (roots : List Outline) : List String :=
  if roots.isEmpty then ["No flow detected"] else roots.flatMap lines

section Roots

variable {roots : List Outline} (hlabels : ∀ o ∈ roots, ∀ x, o.Has x → OneLine x.label)

include hlabels

/-- Every line of the text of outlines has content. -/
theorem isContent_of_mem_textLines : ∀ line ∈ textLines roots, IsContent line := by
  unfold textLines
  split
  · decide
  · intro line hline
    rcases List.mem_flatMap.mp hline with ⟨o, ho, hline⟩
    rcases List.mem_cons.mp hline with rfl | hbelow
    · exact isContent_heading (hlabels o ho o (.here o))
    · rw [linesBelow_eq] at hbelow
      refine isContent_of_mem_rowLines (by decide) ?_ line hbelow
      intro c hc x hx
      exact hlabels o ho x (.child hc hx)

/-- The text of outlines is made of just these lines. -/
theorem madeOf_render : MadeOf (render roots) (textLines roots) := by
  have hcontent := isContent_of_mem_textLines hlabels
  cases roots with
  | nil => exact madeOf_of_content (List.cons_ne_nil _ _) hcontent (Or.inr (by decide))
  | cons o rest => exact madeOf_of_content (List.cons_ne_nil _ _) hcontent (Or.inr rfl)

end Roots

/-- Every label is that of a node. -/
theorem exists_node_of_has_unfold {nodes : List FlowNode} {adj : Graph.Adjacency} {depth : Nat}
    {x : Outline} (level : Int) (path : List String) {n : FlowNode} (hn : n ∈ nodes)
    (hx : (unfold nodes adj depth level path n).Has x) : ∃ m ∈ nodes, x.label = m.label := by
  induction depth generalizing level path n with
  | zero =>
    rcases has_iff.mp hx with rfl | ⟨c, hc, _⟩
    · exact ⟨n, hn, rfl⟩
    · cases hc
  | succ depth ih =>
    rcases has_iff.mp hx with rfl | ⟨c, hc, hx⟩
    · exact ⟨n, hn, rfl⟩
    · rw [children_unfold] at hc
      rcases List.mem_map.mp hc with ⟨child, hmem, rfl⟩
      rcases List.mem_filterMap.mp hmem with ⟨target, _, hnode⟩
      have hchild := (nodeOf?_eq_some hnode).1
      -- a reference back has no children of its own
      unfold shown at hx
      split at hx
      · rcases has_iff.mp hx with rfl | ⟨c, hc, _⟩
        · exact ⟨child, hchild, rfl⟩
        · cases hc
      · exact ih _ _ hchild hx

end Outline

/-! ## Nodes -/

/-- The units that are read are among the source units. -/
theorem Project.exists_of_mem_readUnits {loaded : List Grammar} {sources : List SourceUnit}
    {u : UnitFacts} (h : u ∈ readUnits loaded sources) : ∃ source ∈ sources, u.id = source.id := by
  rcases List.mem_map.mp h with ⟨source, hsource, rfl⟩
  exact ⟨source, Ordered.firstBy_subset _ _ hsource, id_facts loaded source⟩

/-- Ids and labels of all nodes are of one line. -/
def FlowGraph.OneLined (g : FlowGraph) : Prop :=
  ∀ n ∈ g.nodes, OneLine n.id ∧ OneLine n.label

/-- Nodes have ids and labels of one line if units and declarations do. -/
theorem Flow.oneLine_of_mem_nodes {p : Project} (hids : ∀ u ∈ p.units, OneLine u.id)
    (hnames : ∀ u ∈ p.units, ∀ d ∈ u.declarations, OneLine d.name) {n : FlowNode}
    (hn : n ∈ nodes p) : OneLine n.id ∧ OneLine n.label := by
  rcases List.mem_flatMap.mp hn with ⟨u, hu, hn⟩
  have hunit := hids u hu
  have hcolons : OneLine "::" := by decide
  have hhash : OneLine "#" := by decide
  unfold unitNodes at hn
  rw [List.mem_append, List.mem_cons] at hn
  -- hfunction) | hendpoint | a unit, a function or an endpoint
  rcases hn with (rfl | hfunction) | hendpoint
  · exact ⟨hunit, hunit⟩
  · rcases List.mem_map.mp hfunction with ⟨⟨d, index⟩, hd, rfl⟩
    have hdeclared := List.mem_filter.mp (List.fst_mem_of_mem_zipIdx hd)
    have hname := hnames u hu d hdeclared.1
    exact ⟨by simp [functionNode, functionId, hunit, hname, hcolons, hhash], hname⟩
  · split at hendpoint
    · rcases List.mem_map.mp hendpoint with ⟨verb, hverb, rfl⟩
      have hlabels : ∀ verb ∈ endpointVerbs, OneLine (endpointLabel verb) := by decide
      have hlabel := hlabels verb hverb
      exact ⟨by simp [endpointNode, endpointId, hunit, hlabel, hcolons], hlabel⟩
    · cases hendpoint

/-- An outline shows only labels of nodes. -/
theorem Outline.oneLine_of_mem_ofGraph {g : FlowGraph} (hg : g.OneLined) (depth : Int) :
    ∀ o ∈ ofGraph g depth, ∀ x, o.Has x → OneLine x.label := by
  intro o ho x hx
  rcases List.mem_map.mp ho with ⟨n, hn, rfl⟩
  have hnode : n ∈ g.nodes := by
    -- a root is an entry point, or it is one of the nodes by kind
    rcases List.mem_append.mp (Ordered.firstBy_subset _ _ hn) with hentry | hn
    · rcases List.mem_filterMap.mp hentry with ⟨_, _, hnode⟩
      exact (nodeOf?_eq_some hnode).1
    · exact mem_grouped.mp hn
  rcases exists_node_of_has_unfold 0 [n.id] hnode hx with ⟨m, hm, hlabel⟩
  rw [hlabel]
  exact (hg m hm).2

/-! ## Issues -/

/-- What is shown of an issue is of one line. -/
structure Issue.OneLined (i : Issue) : Prop where
  type : OneLine i.type.name
  message : OneLine i.message
  suggestions : ∀ s ∈ i.suggestions, OneLine s

namespace Issue

/-- The message about a cycle lists its ids. -/
theorem oneLined_ofCycle (index : Nat) {cycle : List String} (h : ∀ id ∈ cycle, OneLine id) :
    (ofCycle index cycle).OneLined where
  type := by dsimp only [ofCycle]; decide
  message := by
    have hlead : OneLine "Circular dependency detected: " := by decide
    have hloop : OneLine (loopText cycle) := by
      apply Text.oneLine_intercalate (by decide)
      intro id hid
      rcases List.mem_append.mp hid with hid | hid
      · exact h id hid
      · exact h id (List.mem_of_mem_take hid)
    exact Text.oneLine_append.mpr ⟨hlead, hloop⟩
  suggestions := by dsimp only [ofCycle]; decide

theorem oneLined_ofOrphan {n : FlowNode} (h : OneLine n.label) : (ofOrphan n).OneLined where
  type := by dsimp only [ofOrphan]; decide
  message := by
    have hlead : OneLine "Orphan node detected: " := by decide
    exact Text.oneLine_append.mpr ⟨hlead, h⟩
  suggestions := by dsimp only [ofOrphan]; decide

theorem oneLined_ofDepth (depth threshold : Int) :
    (ofDepth depth (Text.decimal threshold)).OneLined where
  type := by dsimp only [ofDepth]; decide
  message := by
    have hlead : OneLine "Maximum depth exceeded: " := by decide
    have hsign : OneLine " > " := by decide
    simp [ofDepth, hlead, hsign]
  suggestions := by dsimp only [ofDepth]; decide

/-- All issues are of one line if the nodes are. -/
theorem oneLined_of_mem_ofGraph {g : FlowGraph} (hg : g.WellFormed) (hline : g.OneLined)
    (threshold : Int) : ∀ i ∈ ofGraph g threshold, i.OneLined := by
  intro i hi
  rcases List.mem_append.mp hi with hshape | hdepth
  · rcases List.mem_append.mp hshape with hcycle | horphan
    · rcases List.mem_map.mp hcycle with ⟨⟨c, index⟩, hc, rfl⟩
      apply oneLined_ofCycle
      intro id hid
      have hnode := (hg.cycles c (List.fst_mem_of_mem_zipIdx hc)).2 id hid
      rcases List.mem_map.mp hnode with ⟨n, hn, rfl⟩
      exact (hline n hn).1
    · rcases List.mem_map.mp horphan with ⟨n, hn, rfl⟩
      exact oneLined_ofOrphan (hline n (List.mem_filter.mp hn).1).2
  · split at hdepth
    · rw [List.mem_singleton.mp hdepth]
      exact oneLined_ofDepth _ _
    · cases hdepth

end Issue

namespace Markdown

/-- The lines of an issue without the empty one. -/
def issueBody (i : Issue) : List String :=
  (glyph i.severity ++ " **" ++ i.type.name ++ "**: " ++ i.message) ::
    if i.suggestions.isEmpty then [] else "Suggestions:" :: i.suggestions.map ("- " ++ ·)

theorem isContent_glyph (s : Severity) : IsContent (glyph s) := by
  unfold glyph
  split
  · decide
  · split
    · decide
    · decide

/-- Every line of an issue has content. -/
theorem isContent_of_mem_issueBody {i : Issue} (h : i.OneLined) :
    ∀ line ∈ issueBody i, IsContent line := by
  intro line hline
  rcases List.mem_cons.mp hline with rfl | hline
  · have hopening : IsContent (glyph i.severity ++ " **") :=
      (isContent_glyph i.severity).append (by decide)
    exact ((hopening.append h.type).append (by decide)).append h.message
  · split at hline
    · cases hline
    · rcases List.mem_cons.mp hline with rfl | hline
      · decide
      · rcases List.mem_map.mp hline with ⟨s, hs, rfl⟩
        have hdash : IsContent "- " := by decide
        exact hdash.append (h.suggestions s hs)

theorem issueLines_eq (i : Issue) : issueLines i = issueBody i ++ [""] :=
  rfl

/-- The lines about issues end with an empty one, and with no other. -/
theorem exists_issuesLines_eq {issues : List Issue} (h : ∀ i ∈ issues, i.OneLined) :
    ∃ body last, issuesLines issues = body ++ [last] ++ [""] ∧ (∀ line ∈ body, Inert line) ∧
      IsContent last := by
  rcases List.eq_nil_or_concat' issues with rfl | ⟨init, i, rfl⟩
  · exact ⟨[], "No issues detected.", rfl, by simp, by decide⟩
  · have hinit : ∀ line ∈ init.flatMap issueLines, Inert line := by
      intro line hline
      rcases List.mem_flatMap.mp hline with ⟨j, hj, hline⟩
      rw [issueLines_eq] at hline
      rcases List.mem_append.mp hline with hline | hline
      · exact (isContent_of_mem_issueBody (h j (List.mem_append_left _ hj)) line hline).inert
      · exact Or.inl (List.mem_singleton.mp hline)
    -- what is kept ends with the last line of the last issue
    have hbody := isContent_of_mem_issueBody (h i (by simp))
    rcases List.eq_nil_or_concat' (issueBody i) with hnil | ⟨front, last, hlast⟩
    · cases hnil
    · rw [hlast] at hbody
      refine ⟨init.flatMap issueLines ++ front, last, ?_, ?_, hbody last (by simp)⟩
      · have hne : (init ++ [i]).isEmpty = false := by simp
        rw [issuesLines, hne, if_neg Bool.false_ne_true, List.flatMap_append,
          List.flatMap_singleton, issueLines_eq, hlast]
        simp
      · intro line hline
        rcases List.mem_append.mp hline with hline | hline
        · exact hinit line hline
        · exact (hbody line (List.mem_append_left _ hline)).inert

end Markdown

/-! ## The body of a report -/

/-- A time is written in digits and signs, on one line. -/
theorem Timestamp.oneLine_iso (t : Timestamp) : OneLine t.iso := by
  have hempty : OneLine "" := by decide
  have hdot : OneLine "." := by decide
  have hplus : OneLine "+" := by decide
  have hdash : OneLine "-" := by decide
  have hcolon : OneLine ":" := by decide
  have hmark : OneLine "T" := by decide
  have hfraction : OneLine t.fractionText := by
    unfold fractionText
    split
    · exact hempty
    · simp [hdot]
  have hoffset : OneLine (offsetText t.offset) := by
    cases t.offset with
    | none => exact hempty
    | some minutes =>
      have hsign : OneLine (if minutes < 0 then "-" else "+") := by
        split
        · exact hdash
        · exact hplus
      simp [offsetText, hsign, hcolon]
  simp [iso, hdash, hcolon, hmark, hfraction, hoffset]

namespace Markdown

/-- The lines of a report before its outline. -/
def openingLines (time : Timestamp) (label : String) : List String :=
  ["# Analysis Report", "", "Generated at: " ++ time.iso, "Repository: " ++ label, "",
   "## Flow Structure", ""]

/-- The lines of a report between its outline and its issues. -/
def tableLines (statistics : Statistics) : List String :=
  ["", "## Statistics", "", "| Metric | Value |", "|--------|-------|"] ++
    statistics.rows.map statisticsRow ++ ["", "## Detected Issues", ""]

/-- The lines of a report in three parts: before the outline, the outline between fences, and after
it. -/
theorem lines_eq (outline : String) (statistics : Statistics) (issues : List Issue)
    (time : Timestamp) (label : String) :
    lines outline statistics issues time label =
      openingLines time label ++ fence :: Text.dropTrailingNewlines outline :: fence ::
        (tableLines statistics ++ issuesLines issues) := by
  simp [lines, openingLines, tableLines]

/-- Before the outline no line is a fence. -/
theorem inert_of_mem_openingLines (time : Timestamp) {label : String} (h : OneLine label) :
    ∀ line ∈ openingLines time label, Inert line := by
  have htime : IsContent ("Generated at: " ++ time.iso) :=
    IsContent.append (by decide) time.oneLine_iso
  have hlabel : IsContent ("Repository: " ++ label) := IsContent.append (by decide) h
  have hfixed : Inert "# Analysis Report" ∧ Inert "" ∧ Inert "## Flow Structure" := by decide
  intro line hline
  simp only [openingLines, List.mem_cons, List.not_mem_nil, or_false] at hline
  rcases hline with rfl | rfl | rfl | rfl | rfl | rfl | rfl
  · exact hfixed.1
  · exact hfixed.2.1
  · exact htime.inert
  · exact hlabel.inert
  · exact hfixed.2.1
  · exact hfixed.2.2
  · exact hfixed.2.1

theorem isContent_statisticsRow {row : String × Int} (h : OneLine row.1) :
    IsContent (statisticsRow row) := by
  have hbar : IsContent "| " := by decide
  exact (((hbar.append h).append (by decide)).append (Text.oneLine_decimal row.2)).append
    (by decide)

/-- Nor is any between the outline and the issues. -/
theorem inert_of_mem_tableLines (statistics : Statistics) :
    ∀ line ∈ tableLines statistics, Inert line := by
  have hhead : ∀ line ∈ ["", "## Statistics", "", "| Metric | Value |", "|--------|-------|"],
      Inert line := by decide
  have hfoot : ∀ line ∈ ["", "## Detected Issues", ""], Inert line := by decide
  -- the captions do not depend on the numbers
  have hcaptions : ∀ caption ∈ ({} : Statistics).rows.map Prod.fst, OneLine caption := by decide
  intro line hline
  rcases List.mem_append.mp hline with hline | hline
  · rcases List.mem_append.mp hline with hline | hline
    · exact hhead line hline
    · rcases List.mem_map.mp hline with ⟨row, hrow, rfl⟩
      have hcaption : row.1 ∈ statistics.rows.map Prod.fst := List.mem_map_of_mem hrow
      exact (isContent_statisticsRow (hcaptions row.1 hcaption)).inert
  · exact hfoot line hline

section Body

variable {roots : List Outline} {issues : List Issue} {label : String}
  (hlabels : ∀ o ∈ roots, ∀ x, o.Has x → OneLine x.label) (hissues : ∀ i ∈ issues, i.OneLined)
  (hlabel : OneLine label)

include hlabels hissues hlabel

/-- Of a report only the empty line after its last issue is lost. -/
theorem exists_madeOf_render (statistics : Statistics) (time : Timestamp) :
    ∃ after, (∀ line ∈ after, Inert line) ∧
      MadeOf (render (Outline.render roots) statistics issues time label)
        (openingLines time label ++ fence :: (Outline.textLines roots ++ fence :: after)) := by
  have houtline := Outline.madeOf_render hlabels
  have hcontent := Outline.isContent_of_mem_textLines hlabels
  rcases exists_issuesLines_eq hissues with ⟨body, last, heq, hbody, hlast⟩
  have hafter : ∀ line ∈ tableLines statistics ++ body ++ [last], Inert line := by
    intro line hline
    rcases List.mem_append.mp hline with hline | hline
    · rcases List.mem_append.mp hline with hline | hline
      · exact inert_of_mem_tableLines statistics line hline
      · exact hbody line hline
    · rw [List.mem_singleton.mp hline]
      exact hlast.inert
  refine ⟨tableLines statistics ++ body ++ [last], hafter, ?_, ⟨last, ?_, hlast.ne_empty⟩, ?_⟩
  -- each line in its place: opening, fence, outline, fence, the rest
  · have hfence : OneLine fence := by decide
    intro line hline
    simp only [List.mem_append, List.mem_cons] at hline hafter
    rcases hline with hline | rfl | hline | rfl | hline
    · exact (inert_of_mem_openingLines time hlabel line hline).oneLine
    · exact hfence
    · exact (hcontent line hline).oneLine
    · exact hfence
    · exact (hafter line hline).oneLine
  · rw [List.getLast?_eq_some_iff]
    exact ⟨openingLines time label ++ fence :: (Outline.textLines roots ++ fence ::
      (tableLines statistics ++ body)), by simp⟩
  · -- the outline comes as one text, and its lines take their places among the others
    right
    have hjoin := Text.joinLines_append_joinLines (openingLines time label ++ [fence])
      houtline.ne_nil (List.cons_ne_nil fence (tableLines statistics ++ body ++ [last] ++ [""]))
    rw [render, lines_eq, houtline.dropTrailingNewlines_eq, heq,
      ← Text.joinLines_concat_empty (by simp)]
    simpa using hjoin

end Body

end Markdown

/-! ## Diagrams -/

namespace Diagram

theorem IsIdentifier.oneLine {s : String} (h : IsIdentifier s) : OneLine s := by
  intro hfeed
  cases h.chars '\n' hfeed

/-- An identifier is of one line whatever the node id is. -/
theorem oneLine_of_get?_idTable {nodes : List FlowNode} {id safe : String}
    (h : Ordered.get? (idTable nodes) id = some safe) : OneLine safe :=
  (isIdentifier_of_get?_idTable h).oneLine

/-- Quoting a label replaces quotes and adds no line feed. -/
theorem oneLine_quotedLabel {label : String} (h : OneLine label) :
    OneLine (quotedLabel label) := by
  have hquote : OneLine "\"" := by decide
  have hinside : OneLine (Text.flatMapChars
      (fun c => if c = '"' then "#quot;".toList else [c]) label) := by
    have hreference : OneLine "#quot;" := by decide
    rw [OneLine, Text.flatMapChars, String.toList_ofList]
    intro hfeed
    rcases List.mem_flatMap.mp hfeed with ⟨c, hc, hfeed⟩
    split at hfeed
    · exact hreference hfeed
    · rw [← List.mem_singleton.mp hfeed] at hc
      exact h hc
  exact Text.oneLine_append.mpr ⟨Text.oneLine_append.mpr ⟨hquote, hinside⟩, hquote⟩

/-- The declaration of a node begins with blanks. -/
theorem isContent_nodeLine {nodes : List FlowNode} {n : FlowNode} (h : OneLine n.label) :
    IsContent (nodeLine (idTable nodes) n) := by
  have hblank : IsContent "  " := by decide
  have hid : OneLine ((Ordered.get? (idTable nodes) n.id).getD "") := by
    cases hsafe : Ordered.get? (idTable nodes) n.id with
    | none => exact (by decide : OneLine "")
    | some safe => exact oneLine_of_get?_idTable hsafe
  have hshape : OneLine (shape n.kind).1 ∧ OneLine (shape n.kind).2 := by
    unfold shape
    split
    · decide
    · split
      · decide
      · split
        · decide
        · decide
  exact (((hblank.append hid).append hshape.1).append (oneLine_quotedLabel h)).append hshape.2

/-- So does an arrow. -/
theorem isContent_of_edgeLine? {nodes : List FlowNode} {e : FlowEdge} {line : String}
    (h : edgeLine? (idTable nodes) e = some line) : IsContent line := by
  have hblank : IsContent "  " := by decide
  unfold edgeLine? at h
  split at h
  · rename_i source target hsource htarget
    cases h
    exact ((hblank.append (oneLine_of_get?_idTable hsource)).append (by decide)).append
      (oneLine_of_get?_idTable htarget)
  · cases h

/-- The lines of a diagram. -/
def textLines (g : FlowGraph) (limit : Int) : List String :=
  if g.nodes.isEmpty then ["graph TD", "  A[No nodes to display]"]
  else
    let nodes := firstNodes limit g.nodes
    "graph TD" :: (nodes.map (nodeLine (idTable nodes)) ++
      g.edges.filterMap (edgeLine? (idTable nodes)))

section Graph

variable {g : FlowGraph} (hlabels : ∀ n ∈ g.nodes, OneLine n.label) (limit : Int)

include hlabels

/-- Every line of a diagram has content. -/
theorem isContent_of_mem_textLines : ∀ line ∈ textLines g limit, IsContent line := by
  unfold textLines
  split
  · decide
  · intro line hline
    rcases List.mem_cons.mp hline with rfl | hline
    · decide
    · rcases List.mem_append.mp hline with hnode | hedge
      · rcases List.mem_map.mp hnode with ⟨n, hn, rfl⟩
        exact isContent_nodeLine (hlabels n (Flow.firstNodes_subset limit g.nodes hn))
      · rcases List.mem_filterMap.mp hedge with ⟨e, _, he⟩
        exact isContent_of_edgeLine? he

/-- A diagram is made of just these lines. -/
theorem madeOf_render : MadeOf (render g limit) (textLines g limit) := by
  have hcontent := isContent_of_mem_textLines hlabels limit
  unfold textLines at hcontent ⊢
  unfold render
  split
  · rename_i hempty
    rw [if_pos hempty] at hcontent
    exact madeOf_of_content (List.cons_ne_nil _ _) hcontent (Or.inl (by decide))
  · rename_i hempty
    rw [if_neg hempty] at hcontent
    exact madeOf_of_content (List.cons_ne_nil _ _) hcontent (Or.inr rfl)

end Graph

end Diagram

end SourceFlow
