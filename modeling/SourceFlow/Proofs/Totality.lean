import SourceFlow.Analysis
import SourceFlow.Proofs.Flow.Build
import SourceFlow.Proofs.Graph.Coloured
import SourceFlow.Proofs.Ordered
import SourceFlow.Proofs.Report.Identifiers
import SourceFlow.Proofs.Settings

/-!
# What makes an analysis fail

An analysis looks many things up: colours of nodes, places on the path,
the function after a function, identifiers of drawn nodes. Here every one
of these lookups may fail and takes the whole analysis down with it. None
does, whatever the units are. So an analysis fails only if the settings do
not pass the check, and the failure tells which do not, or if a text that
is to be parsed has a surrogate in it, for which there are no bytes.

Each stage gets a second definition in `Option`, named with a question
mark, and a lemma that it always comes to the value of the first.
-/

namespace SourceFlow

/-! ## Many lookups -/

/-- Results that are made without failure one by one are made together. -/
theorem mapM_eq_pure_map {m : Type → Type} [Monad m] [LawfulMonad m] {α β : Type} {f : α → m β}
    {g : α → β} {l : List α} (h : ∀ x ∈ l, f x = pure (g x)) : l.mapM f = pure (l.map g) := by
  induction l with
  | nil => rw [List.mapM_nil, List.map_nil]
  | cons x rest ih =>
    have hrest := ih fun y hy => h y (List.mem_cons_of_mem _ hy)
    rw [List.mapM_cons, h x List.mem_cons_self, pure_bind, hrest, pure_bind, List.map_cons]

/-- Looking up only what is there finds all there is to find. -/
theorem mapM_filter_eq_some {α β : Type} {f : α → Option β} {p : α → Bool}
    (h : ∀ x, p x = (f x).isSome) (l : List α) : (l.filter p).mapM f = some (l.filterMap f) := by
  induction l with
  | nil => rfl
  | cons x rest ih =>
    rcases hx : f x with _ | y
    · have hp : ¬ p x = true := by simp [h, hx]
      rw [List.filter_cons_of_neg hp, List.filterMap_cons_none hx, ih]
    · have hp : p x = true := by simp [h, hx]
      rw [List.filter_cons_of_pos hp, List.filterMap_cons_some hx, List.mapM_cons, hx, ih]
      rfl

/-- Results fail together if one of them fails. -/
theorem exists_mapM_error {α β ε : Type} {f : α → Except ε β} {l : List α} {x : α} {e : ε}
    (hx : x ∈ l) (h : f x = .error e) : ∃ first, l.mapM f = .error first := by
  induction l with
  | nil => cases hx
  | cons y rest ih =>
    rw [List.mapM_cons]
    cases hy : f y with
    | error first => exact ⟨first, rfl⟩
    | ok b =>
      have hne : x ≠ y := by
        rintro rfl
        rw [hy] at h
        cases h
      obtain ⟨later, hlater⟩ := ih (List.mem_of_ne_of_mem hne hx)
      rw [hlater]
      exact ⟨later, rfl⟩

/-- The failure is that of one of them. -/
theorem exists_error_of_mapM {α β ε : Type} {f : α → Except ε β} {l : List α} {e : ε}
    (h : l.mapM f = .error e) : ∃ x ∈ l, f x = .error e := by
  induction l with
  | nil => cases h
  | cons x rest ih =>
    rw [List.mapM_cons] at h
    cases hx : f x with
    | error first =>
      rw [hx] at h
      exact ⟨x, List.mem_cons_self, hx.trans (congrArg _ (Except.error.inj h))⟩
    | ok b =>
      rw [hx] at h
      cases hrest : rest.mapM f with
      | error later =>
        rw [hrest] at h
        obtain rfl := Except.error.inj h
        obtain ⟨y, hy, hfail⟩ := ih hrest
        exact ⟨y, List.mem_cons_of_mem _ hy, hfail⟩
      | ok bs =>
        rw [hrest] at h
        cases h

/-! ## Raw units -/

namespace CodePoint

/-- Code points are no text just if a surrogate is among them. -/
theorem text?_eq_none_iff (points : List CodePoint) :
    text? points = none ↔ ∃ index, .surrogate index ∈ points := by
  rw [text?, Option.map_eq_none_iff]
  induction points with
  | nil => exact ⟨nofun, nofun⟩
  | cons point rest ih =>
    rw [List.mapM_cons]
    -- one surrogate is enough, wherever it stands
    cases point with
    | surrogate index => exact ⟨fun _ => ⟨index, List.mem_cons_self⟩, fun _ => rfl⟩
    | char c =>
      have hmem : (∃ index, .surrogate index ∈ CodePoint.char c :: rest) ↔
          ∃ index, .surrogate index ∈ rest := by simp
      rw [hmem, ← ih]
      cases rest.mapM char? with
      | none => exact ⟨fun _ => rfl, fun _ => rfl⟩
      | some cs => exact ⟨nofun, nofun⟩

@[simp] theorem text?_ofText (s : String) : text? (ofText s) = some s := by
  have hchars : (ofText s).mapM char? = some s.toList := by
    have hmap : s.toList.mapM (char? ∘ char) = some (s.toList.map id) :=
      mapM_eq_pure_map fun _ _ => rfl
    rw [ofText, List.mapM_map, hmap, List.map_id]
  rw [text?, hchars, Option.map_some, String.ofList_toList]

@[simp] theorem lineCount_ofText (s : String) : lineCount (ofText s) = Text.lineCount s := by
  have hsame : (fun c => CodePoint.char c == .char '\n') = (· == '\n') := by
    funext c
    simp
  rw [lineCount, ofText, Text.lineCount, List.count_eq_countP, List.count_eq_countP,
    List.countP_map]
  exact congrArg (fun p => s.toList.countP p + 1) hsame

@[simp] theorem length_ofText (s : String) : (ofText s).length = s.length := by
  rw [ofText, List.length_map, String.length_toList]

end CodePoint

/-- A raw unit has no facts just if it is a script to be parsed and has a surrogate in its text. -/
theorem RawUnit.facts_eq_error_iff {loaded : List Grammar} {u : RawUnit} {e : Unencodable} :
    u.facts loaded = .error e ↔
      e = ⟨u.id⟩ ∧
        (∃ kind, ScriptKind.ofPath? u.id = some kind ∧ kind.isSupported loaded = true) ∧
        ∃ index, .surrogate index ∈ u.text := by
  rw [← CodePoint.text?_eq_none_iff]
  simp only [← ScriptKind.readable_eq_ok_iff]
  unfold facts
  -- a unit that is not read needs no bytes
  cases ScriptKind.readable loaded u.id with
  | error cause => exact ⟨nofun, nofun⟩
  | ok kind =>
    cases CodePoint.text? u.text with
    | none =>
      constructor
      · intro h
        exact ⟨(Except.error.inj h).symm, ⟨kind, rfl⟩, rfl⟩
      · rintro ⟨rfl, _, _⟩
        rfl
    | some text => exact ⟨nofun, nofun⟩

/-- A text of characters has the facts that it has as a source unit. -/
theorem SourceUnit.facts_raw (loaded : List Grammar) (u : SourceUnit) :
    u.raw.facts loaded = .ok (u.facts loaded) := by
  unfold RawUnit.facts SourceUnit.facts SourceUnit.parse SourceUnit.raw
  dsimp only
  cases ScriptKind.readable loaded u.id with
  | error cause => simp [Except.map]
  | ok kind => simp [Except.map]

/-- A unit stands in the way of an analysis: it is the first of its id, a script that a loaded
grammar reads, and a surrogate is in its text. -/
structure RawUnit.Blocks (loaded : List Grammar) (units : List RawUnit) (u : RawUnit) : Prop where
  first : ∃ before after, units = before ++ u :: after ∧ ∀ v ∈ before, v.id ≠ u.id
  script : ∃ kind, ScriptKind.ofPath? u.id = some kind ∧ kind.isSupported loaded = true
  surrogate : ∃ index, .surrogate index ∈ u.text

/-- A unit blocks just if it is read and has no facts. -/
theorem RawUnit.blocks_iff {loaded : List Grammar} {units : List RawUnit} {u : RawUnit} :
    u.Blocks loaded units ↔
      u ∈ Ordered.firstBy (·.id) units ∧ u.facts loaded = .error ⟨u.id⟩ := by
  rw [Ordered.mem_firstBy_iff, RawUnit.facts_eq_error_iff, and_iff_right rfl]
  exact ⟨fun h => ⟨h.first, h.script, h.surrogate⟩, fun ⟨hfirst, hscript, hsurrogate⟩ =>
    ⟨hfirst, hscript, hsurrogate⟩⟩

namespace Project

/-- Reading fails at a unit that blocks it. -/
theorem blocks_of_readRaw {loaded : List Grammar} {units : List RawUnit} {e : Unencodable}
    (h : readRaw loaded units = .error e) : ∃ u : RawUnit, u.Blocks loaded units ∧ e = ⟨u.id⟩ := by
  obtain ⟨u, hu, hfail⟩ := exists_error_of_mapM h
  obtain ⟨rfl, _⟩ := RawUnit.facts_eq_error_iff.mp hfail
  exact ⟨u, RawUnit.blocks_iff.mpr ⟨hu, hfail⟩, rfl⟩

theorem exists_readRaw_of_blocks {loaded : List Grammar} {units : List RawUnit} {u : RawUnit}
    (h : u.Blocks loaded units) : ∃ e, readRaw loaded units = .error e := by
  obtain ⟨hu, hfail⟩ := RawUnit.blocks_iff.mp h
  exact exists_mapM_error hu hfail

/-- Source units are read as they are when handed over. -/
theorem readRaw_map_raw (loaded : List Grammar) (sources : List SourceUnit) :
    readRaw loaded (sources.map (·.raw)) = .ok (readUnits loaded sources) := by
  have hfirst : Ordered.firstBy (·.id) (sources.map (·.raw)) =
      (Ordered.firstBy (·.id) sources).map (·.raw) := Ordered.firstBy_map ..
  rw [readRaw, hfirst, List.mapM_map, readUnits]
  apply mapM_eq_pure_map
  intro u _
  rw [Function.comp_apply, SourceUnit.facts_raw]
  rfl

end Project

/-! ## Projects -/

/-- The project of some units, its cycles found with colours. -/
def Project.ofUnits? (units : List UnitFacts) : Option Project :=
  let graph := dependencyGraph units
  (Graph.ColouredSearch.cycles? (Ordered.names graph) graph).map fun cycles =>
    { units, graph, counts := count units, cycles }

/-- In the project of any units no colour is missing. -/
theorem Project.ofUnits?_eq (units : List UnitFacts) : ofUnits? units = some (ofUnits units) := by
  simp only [ofUnits?, Graph.ColouredSearch.cycles?_eq]
  rfl

/-! ## Graphs -/

namespace Flow

/-- The edge from the function at an index to the next one. Both have to be there. -/
def callEdge? (u : UnitFacts) (index : Nat) : Option FlowEdge := do
  let caller ← u.functions[index]?
  let callee ← u.functions[index + 1]?
  return { id := "call:" ++ u.id ++ ":" ++ index.repr
           source := functionId u.id index caller.name
           target := functionId u.id (index + 1 : Nat) callee.name
           kind := .calls }

/-- The edges between functions declared one after the other, index by index. -/
def callEdges? (u : UnitFacts) : Option (List FlowEdge) :=
  (List.range (u.functions.length - 1)).mapM (callEdge? u)

/-- The edges of one unit. -/
def unitEdges? (p : Project) (u : UnitFacts) : Option (List FlowEdge) :=
  (callEdges? u).map fun calls => importEdges u.id (p.graph.neighbours u.id) ++ calls

/-- The capped nodes and edges of a project. -/
def build? (limit : Int) (p : Project) : Option (List FlowNode × List FlowEdge) :=
  (p.units.mapM (unitEdges? p)).map fun rows => cap limit (nodes p) rows.flatten

/-- Analyses nodes and edges, the cycles found with colours. -/
def analyze? (options : Options) (nodes : List FlowNode) (edges : List FlowEdge) :
    Option FlowGraph :=
  let entries := entryPoints nodes options.entryPattern
  let adj := adjacencyOf edges
  let cycles? :=
    if options.detectCycles then Graph.ColouredSearch.cycles? (nodes.map (·.id)) adj else some []
  cycles?.map fun cycles =>
    { nodes, edges, entries, cycles
      stats :=
        { nodeCount := nodes.length, edgeCount := edges.length
          maxDepth := Graph.depth entries adj options.maxDepth } }

/-- Below the last index there always is a next function. -/
theorem callEdges?_eq (u : UnitFacts) : callEdges? u = some (callEdges u) := by
  -- the pairs of neighbours are as many as the indices, and each has its index
  have hindices : List.range (u.functions.length - 1) =
      (u.functions.zip (u.functions.drop 1)).zipIdx.map Prod.snd := by
    rw [List.zipIdx_map_snd, List.length_zip, List.length_drop, List.range_eq_range']
    congr 1
    omega
  rw [callEdges?, hindices, List.mapM_map]
  apply mapM_eq_pure_map
  intro pair hmem
  obtain ⟨hcaller, hcallee⟩ := functions_of_mem_pairs hmem
  simp only [Function.comp_apply, callEdge?, hcallee]
  rw [hcaller]
  rfl

/-- So every unit has its edges. -/
theorem build?_eq (limit : Int) (p : Project) : build? limit p = some (build limit p) := by
  have hrow : ∀ u ∈ p.units, unitEdges? p u =
      some (importEdges u.id (p.graph.neighbours u.id) ++ callEdges u) := by
    intro u _
    rw [unitEdges?, callEdges?_eq]
    rfl
  rw [build?, mapM_eq_pure_map hrow, build, edges, List.flatMap_def]
  rfl

/-- In a graph of any nodes and edges no colour is missing either. -/
theorem analyze?_eq (options : Options) (nodes : List FlowNode) (edges : List FlowEdge) :
    analyze? options nodes edges = some (analyze options nodes edges) := by
  simp only [analyze?, analyze, Graph.ColouredSearch.cycles?_eq]
  split
  · rfl
  · rfl

end Flow

/-! ## Diagrams -/

namespace Diagram

/-- The declaration of a node, which has to have an identifier. -/
def nodeLine? (ids : List (String × String)) (n : FlowNode) : Option String :=
  let (opening, closing) := shape n.kind
  (Ordered.get? ids n.id).map fun safe => "  " ++ safe ++ opening ++ quotedLabel n.label ++ closing

/-- Whether both ends of an edge are declared. -/
def isDeclared (ids : List (String × String)) (e : FlowEdge) : Bool :=
  (Ordered.names ids).contains e.source && (Ordered.names ids).contains e.target

/-- The diagram of the first nodes of a graph. The ends of edges are looked up once they are known
to be declared. -/
def render? (g : FlowGraph) (limit : Int) : Option String :=
  if g.nodes.isEmpty then some emptyText
  else
    let nodes := firstNodes limit g.nodes
    let ids := idTable nodes
    (nodes.mapM (nodeLine? ids)).bind fun declarations =>
      ((g.edges.filter (isDeclared ids)).mapM (edgeLine? ids)).map fun arrows =>
        Text.joinLines ("graph TD" :: (declarations ++ arrows)) ++ "\n"

theorem nodeLine?_eq {ids : List (String × String)} {n : FlowNode}
    (h : (Ordered.get? ids n.id).isSome) : nodeLine? ids n = some (nodeLine ids n) := by
  obtain ⟨safe, hsafe⟩ := Option.isSome_iff_exists.mp h
  simp only [nodeLine?, nodeLine, hsafe]
  rfl

/-- The ends of an edge are declared just if both have identifiers. -/
theorem isDeclared_eq (ids : List (String × String)) (e : FlowEdge) :
    isDeclared ids e = (edgeLine? ids e).isSome := by
  rw [Bool.eq_iff_iff, isDeclared, Bool.and_eq_true, List.contains_iff_mem, List.contains_iff_mem,
    ← Ordered.isSome_get?_iff, ← Ordered.isSome_get?_iff, edgeLine?]
  rcases Ordered.get? ids e.source with _ | source
  · simp
  · rcases Ordered.get? ids e.target with _ | target
    · simp
    · simp

/-- All nodes that are drawn have identifiers, and edges to others are left out before they are
looked up. -/
theorem render?_eq (g : FlowGraph) (limit : Int) : render? g limit = some (render g limit) := by
  have hnodes := mapM_eq_pure_map fun n (hn : n ∈ firstNodes limit g.nodes) =>
    nodeLine?_eq (isSome_get?_idTable hn)
  simp only [render?, render, hnodes, mapM_filter_eq_some (isDeclared_eq _)]
  split
  · rfl
  · rfl

end Diagram

/-! ## Reports and analyses -/

/-- The report on a project and its flow graph. -/
def Report.of? (options : Options) (time : Timestamp) (label : String) (p : Project)
    (g : FlowGraph) : Option Report :=
  let diagram? : Option (Option String) :=
    if options.drawDiagram then (Diagram.render? g options.maxNodes).map some else some none
  diagram?.map fun diagram =>
    assemble time label p g (Outline.ofGraph g options.maxDepth)
      (Issue.ofGraph g options.effectiveThreshold) options.format diagram

theorem Report.of?_eq (options : Options) (time : Timestamp) (label : String) (p : Project)
    (g : FlowGraph) : of? options time label p g = some (of options time label p g) := by
  simp only [of?, of, Diagram.render?_eq]
  split
  · rfl
  · rfl

namespace Analysis

/-- Why an analysis fails. -/
inductive Failure where
  | refused (refusal : Refusal)
  | lookup

/-- Analyses the facts of units with checked options, if every lookup succeeds. -/
def ofUnits? (options : Options) (time : Timestamp) (label : String) (units : List UnitFacts) :
    Option Analysis := do
  let project ← Project.ofUnits? units
  let (nodes, edges) ← Flow.build? options.maxNodes project
  let graph ← Flow.analyze? options nodes edges
  let report ← Report.of? options time label project graph
  return { project, graph, report }

/-- Analyses raw units, if the settings make sense, every text to be parsed has bytes and every
lookup succeeds. -/
def runStrictly (settings : Settings) (loaded : List Grammar) (time : Timestamp) (label : String)
    (units : List RawUnit) : Except Failure Analysis :=
  match settings.check with
  | .error e => .error (.refused (.configuration e))
  | .ok options =>
    match Project.readRaw loaded units with
    | .error e => .error (.refused (.unencodable e))
    | .ok facts =>
      match ofUnits? options time label facts with
      | some a => .ok a
      | none => .error .lookup

/-- Stage by stage, all lookups succeed. -/
theorem ofUnits?_eq (options : Options) (time : Timestamp) (label : String)
    (units : List UnitFacts) :
    ofUnits? options time label units = some (ofUnits options time label units) := by
  simp only [ofUnits?, ofUnits, Project.ofUnits?_eq, Flow.build?_eq, Flow.analyze?_eq,
    Report.of?_eq, Option.bind_eq_bind, Option.bind_some]
  rfl

/-- The strict analysis is the analysis: no lookup fails. -/
theorem runStrictly_eq (settings : Settings) (loaded : List Grammar) (time : Timestamp)
    (label : String) (units : List RawUnit) :
    runStrictly settings loaded time label units =
      match runRaw settings loaded time label units with
      | .error refusal => .error (.refused refusal)
      | .ok a => .ok a := by
  unfold runStrictly runRaw
  cases settings.check with
  | error e => rfl
  | ok options =>
    dsimp only
    cases Project.readRaw loaded units with
    | error e => rfl
    | ok facts => simp only [ofUnits?_eq]

/-- Texts of characters are analysed as source units are. -/
theorem runRaw_map_raw (settings : Settings) (loaded : List Grammar) (time : Timestamp)
    (label : String) (sources : List SourceUnit) :
    runRaw settings loaded time label (sources.map (·.raw)) =
      match runWith settings loaded time label sources with
      | .error e => .error (.configuration e)
      | .ok a => .ok a := by
  unfold runRaw runWith
  cases settings.check with
  | error e => rfl
  | ok options =>
    dsimp only
    rw [Project.readRaw_map_raw]
    rfl

/-- What an analysis was refused for is so. The error of the configuration has one problem for each
setting that holds what it may not, in order, and each names its setting. The error of a text tells
a unit that blocks the analysis, and comes up only with settings that make sense. -/
def Refusal.Fits (settings : Settings) (loaded : List Grammar) (units : List RawUnit) :
    Refusal → Prop
  | .configuration e =>
    (∃ setting ∈ Setting.checked, ¬ setting.Accepts (settings setting)) ∧
      e.problems.map Problem.setting =
        Setting.checked.filter (fun setting => ¬ setting.Accepts (settings setting)) ∧
      ∀ p ∈ e.problems, ∃ rest, p.message = p.setting.name ++ " must " ++ rest
  | .unencodable e =>
    (∀ setting ∈ Setting.checked, setting.Accepts (settings setting)) ∧
      ∃ u : RawUnit, u.Blocks loaded units ∧ e.unit = u.id

/-- A refusal fits, and there is none just if the settings make sense and no unit blocks. -/
theorem runRaw_cases (settings : Settings) (loaded : List Grammar) (time : Timestamp)
    (label : String) (units : List RawUnit) :
    (∃ refusal, runRaw settings loaded time label units = .error refusal ∧
        refusal.Fits settings loaded units) ∨
      (∃ a, runRaw settings loaded time label units = .ok a) ∧
        (∀ setting ∈ Setting.checked, setting.Accepts (settings setting)) ∧
        ∀ u : RawUnit, ¬ u.Blocks loaded units := by
  -- settings are checked before any unit is read
  by_cases hall : ∀ setting ∈ Setting.checked, setting.Accepts (settings setting)
  · have hcheck := Settings.check_of_accepts hall
    cases hread : Project.readRaw loaded units with
    | error e =>
      obtain ⟨u, hu, rfl⟩ := Project.blocks_of_readRaw hread
      exact Or.inl ⟨.unencodable ⟨u.id⟩, by rw [runRaw, hcheck, hread], hall, u, hu, rfl⟩
    | ok facts =>
      refine Or.inr ⟨⟨_, by rw [runRaw, hcheck, hread]⟩, hall, ?_⟩
      intro u hu
      obtain ⟨e, hfail⟩ := Project.exists_readRaw_of_blocks hu
      rw [hread] at hfail
      cases hfail
  · obtain ⟨setting, hmem, hnot⟩ :
        ∃ setting ∈ Setting.checked, ¬ setting.Accepts (settings setting) := by
      simpa using hall
    have hcheck := Settings.check_of_not_accepts hmem hnot
    exact Or.inl ⟨.configuration ⟨settings.problems⟩, by rw [runRaw, hcheck],
      ⟨setting, hmem, hnot⟩, settings.map_setting_problems,
      fun _ => Settings.message_of_mem_problems⟩

/-- An analysis fails just if one of the settings looked at holds what it may not, or a text to be
parsed has a surrogate in it. The failure is that of the analysis and fits. Otherwise every lookup
succeeds, and the result is that of the analysis. -/
theorem runStrictly_fails_iff (settings : Settings) (loaded : List Grammar) (time : Timestamp)
    (label : String) (units : List RawUnit) :
    ((∃ failure, runStrictly settings loaded time label units = .error failure) ↔
        (∃ setting ∈ Setting.checked, ¬ setting.Accepts (settings setting)) ∨
          ∃ u : RawUnit, u.Blocks loaded units) ∧
      (∀ failure, runStrictly settings loaded time label units = .error failure →
        ∃ refusal, failure = .refused refusal ∧
          runRaw settings loaded time label units = .error refusal ∧
          refusal.Fits settings loaded units) ∧
      ((∀ setting ∈ Setting.checked, setting.Accepts (settings setting)) →
        (∀ u : RawUnit, ¬ u.Blocks loaded units) →
        ∃ a, runStrictly settings loaded time label units = .ok a ∧
          runRaw settings loaded time label units = .ok a) := by
  rw [runStrictly_eq]
  -- what fails was refused, so the two ways to fail are those of a refusal
  rcases runRaw_cases settings loaded time label units with
    ⟨refusal, hrun, hfits⟩ | ⟨⟨a, hrun⟩, hall, hnone⟩
  · rw [hrun]
    have hcause : (∃ setting ∈ Setting.checked, ¬ setting.Accepts (settings setting)) ∨
        ∃ u : RawUnit, u.Blocks loaded units := by
      cases refusal with
      | configuration e => exact Or.inl hfits.1
      | unencodable e =>
        obtain ⟨_, u, hu, _⟩ := hfits
        exact Or.inr ⟨u, hu⟩
    refine ⟨⟨fun _ => hcause, fun _ => ⟨_, rfl⟩⟩, ?_, ?_⟩
    · intro failure hfail
      exact ⟨refusal, (Except.error.inj hfail).symm, rfl, hfits⟩
    · intro hall hnone
      rcases hcause with ⟨setting, hmem, hnot⟩ | ⟨u, hu⟩
      · exact absurd (hall setting hmem) hnot
      · exact absurd hu (hnone u)
  · rw [hrun]
    refine ⟨⟨nofun, ?_⟩, nofun, fun _ _ => ⟨a, rfl, rfl⟩⟩
    rintro (⟨setting, hmem, hnot⟩ | ⟨u, hu⟩)
    · exact absurd (hall setting hmem) hnot
    · exact absurd hu (hnone u)

/-- A script that is nothing but a surrogate. -/
def surrogateUnit : RawUnit :=
  { id := "a.ts", text := [.surrogate 0], tree := { kind := "program", start := 0, stop := 3 } }

/-- The default settings make sense, and yet no project with this script can be analysed. -/
theorem surrogate_text_fails :
    (∀ setting ∈ Setting.checked, setting.Accepts (Settings.defaults setting)) ∧
      ∃ refusal : Refusal,
        runStrictly Settings.defaults Grammar.all ⟨2024, 3, 5, 14, 7, 9, 0, none⟩ ""
            [surrogateUnit] = .error (.refused refusal) ∧
          refusal = .unencodable ⟨"a.ts"⟩ := by
  refine ⟨?_, _, rfl, rfl⟩
  rw [← Settings.problems_eq_nil_iff]
  rfl

end Analysis

end SourceFlow
