import Mathlib.Data.List.Nodup
import SourceFlow.Proofs.Flow.Build
import SourceFlow.Proofs.Text.Joined

/-!
# Ids are unique

Ids of nodes and edges are free texts put together with separators and
numbers, and a path may have all of these in it. Still they can be taken
apart from the end. Behind the last colon of an edge stands its number.
Behind the last colons of a function or an endpoint stands its name in the
unit, as long as functions have no colon in their names, and two names in
one unit are never the same. The id of a unit is the path of a script,
which no function and no endpoint has.
-/

namespace SourceFlow.Flow

/-! ## Nodes -/

/-- The names that functions and endpoints have in their unit. -/
def localNames (u : UnitFacts) : List String :=
  u.functions.zipIdx.map (fun p => p.1.name ++ "#" ++ p.2.repr) ++
    if isRouting u.id then endpointVerbs.map endpointLabel else []

def localId (unit name : String) : String :=
  unit ++ "::" ++ name

/-- The id of a function is made of its unit and its name in the unit. -/
theorem functionId_eq_localId (unit name : String) (index : Nat) :
    functionId unit index name = localId unit (name ++ "#" ++ index.repr) := by
  simp only [functionId, localId, String.append_assoc]
  rfl

/-- All ids of a unit's nodes: its own, and one for each name in the unit. -/
theorem ids_unitNodes (u : UnitFacts) :
    (unitNodes u).map (·.id) = u.id :: (localNames u).map (localId u.id) := by
  have hfunctions : (u.functions.zipIdx.map fun p => functionNode u.id p.2 p.1).map (·.id) =
      (u.functions.zipIdx.map fun p => p.1.name ++ "#" ++ p.2.repr).map (localId u.id) := by
    rw [List.map_map, List.map_map]
    apply List.map_congr_left
    intro p _
    exact functionId_eq_localId u.id p.1.name p.2
  have hendpoints : (endpointVerbs.map (endpointNode u.id)).map (·.id) =
      (endpointVerbs.map endpointLabel).map (localId u.id) := by
    rw [List.map_map, List.map_map]
    rfl
  rw [unitNodes, localNames, List.map_append, List.map_append, List.map_cons, hfunctions]
  split
  · rw [hendpoints]
    rfl
  · rfl

/-- A name in a unit is that of a function with its number or that of an endpoint. -/
theorem mem_localNames {u : UnitFacts} {name : String} (h : name ∈ localNames u) :
    (∃ d ∈ u.functions, ∃ index : Nat, name = d.name ++ "#" ++ index.repr) ∨
      ∃ verb ∈ endpointVerbs, name = endpointLabel verb := by
  rcases List.mem_append.mp h with hfunction | hendpoint
  · rcases List.mem_map.mp hfunction with ⟨p, hp, rfl⟩
    exact Or.inl ⟨p.1, List.fst_mem_of_mem_zipIdx hp, p.2, rfl⟩
  · split at hendpoint
    · rcases List.mem_map.mp hendpoint with ⟨verb, hverb, rfl⟩
      exact Or.inr ⟨verb, hverb, rfl⟩
    · cases hendpoint

/-- Names in one unit differ: those of functions in their numbers, those of endpoints in their
verbs, and only those of functions have a `#` in them. -/
theorem nodup_localNames (u : UnitFacts) : (localNames u).Nodup := by
  have hfunctions : (u.functions.zipIdx.map fun p => p.1.name ++ "#" ++ p.2.repr).Nodup := by
    have hindices : (u.functions.zipIdx.map Prod.snd).Nodup := by
      rw [List.zipIdx_map_snd]
      exact List.nodup_range'
    rw [List.Nodup, List.pairwise_map] at hindices ⊢
    apply hindices.imp
    intro p q hne heq
    exact hne (Text.append_repr_inj rfl rfl heq).2
  have hendpoints : (endpointVerbs.map endpointLabel).Nodup := by decide
  have hlabels : ∀ verb ∈ endpointVerbs, '#' ∉ (endpointLabel verb).toList := by decide
  unfold localNames
  split
  · rw [List.nodup_append]
    refine ⟨hfunctions, hendpoints, ?_⟩
    intro x hx y hy heq
    rcases List.mem_map.mp hx with ⟨p, _, rfl⟩
    rcases List.mem_map.mp hy with ⟨verb, hverb, rfl⟩
    apply hlabels verb hverb
    rw [← heq]
    simp
  · rw [List.append_nil]
    exact hfunctions

/-- A function or an endpoint is not taken for a script. -/
theorem ofPath?_localId {u : UnitFacts} {name : String} (h : name ∈ localNames u)
    (unit : String) : ScriptKind.ofPath? (localId unit name) = none := by
  rcases mem_localNames h with ⟨d, _, index, rfl⟩ | ⟨verb, _, rfl⟩
  · rw [← functionId_eq_localId]
    exact ofPath?_functionId unit d.name index
  · exact ofPath?_endpointId unit verb

section Names

variable {u v : UnitFacts}

/-- If functions have no colons in their names, no name in the unit has one. -/
theorem colon_not_mem_localNames (hnames : ∀ d ∈ u.functions, ':' ∉ d.name.toList) {name : String}
    (h : name ∈ localNames u) : ':' ∉ name.toList := by
  rcases mem_localNames h with ⟨d, hd, index, rfl⟩ | ⟨verb, hverb, rfl⟩
  · have hname := hnames d hd
    have hnumber : ':' ∉ index.repr.toList := Text.not_mem_repr rfl index
    have hmark : ':' ∉ "#".toList := by decide
    rw [String.toList_append, String.toList_append, List.mem_append, List.mem_append]
    exact not_or.mpr ⟨not_or.mpr ⟨hname, hmark⟩, hnumber⟩
  · have hlabels : ∀ verb ∈ endpointVerbs, ':' ∉ (endpointLabel verb).toList := by decide
    exact hlabels verb hverb

/-- The last two colons part the unit from the name. -/
theorem localId_inj {unit unit' name name' : String} (hname : ':' ∉ name.toList)
    (hname' : ':' ∉ name'.toList) (h : localId unit name = localId unit' name') :
    unit = unit' ∧ name = name' := by
  -- only the last of the two colons is the separator; the one before it stays with the unit
  have hcolons : ∀ s : String, s ++ "::" = s ++ ":" ++ ":" := by
    intro s
    rw [String.append_assoc]
    rfl
  unfold localId at h
  rw [hcolons, hcolons] at h
  have hparts := Text.append_separator_inj rfl hname hname' h
  exact ⟨(String.append_left_inj ":").mp hparts.1, hparts.2⟩

/-- The nodes of a unit have distinct ids. -/
theorem nodup_ids_unitNodes (hscript : (ScriptKind.ofPath? u.id).isSome)
    (hnames : ∀ d ∈ u.functions, ':' ∉ d.name.toList) : ((unitNodes u).map (·.id)).Nodup := by
  rw [ids_unitNodes, List.nodup_cons]
  constructor
  -- a unit is a script, and no local id is the path of one
  · intro hmem
    rcases List.mem_map.mp hmem with ⟨name, hname, heq⟩
    rw [← heq, ofPath?_localId hname] at hscript
    cases hscript
  · apply (nodup_localNames u).map_on
    intro x hx y hy heq
    exact (localId_inj (colon_not_mem_localNames hnames hx) (colon_not_mem_localNames hnames hy)
      heq).2

/-- Nodes of different units have different ids. -/
theorem disjoint_ids_unitNodes (hne : u.id ≠ v.id) (hu : (ScriptKind.ofPath? u.id).isSome)
    (hv : (ScriptKind.ofPath? v.id).isSome) (hnames : ∀ d ∈ u.functions, ':' ∉ d.name.toList)
    (hnames' : ∀ d ∈ v.functions, ':' ∉ d.name.toList) :
    ((unitNodes u).map (·.id)).Disjoint ((unitNodes v).map (·.id)) := by
  rw [ids_unitNodes, ids_unitNodes]
  intro id hmem hmem'
  -- a common id would be that of a unit or a local one, on either side
  rcases List.mem_cons.mp hmem with rfl | hlocal
  · rcases List.mem_cons.mp hmem' with heq | hlocal'
    · exact hne heq
    · rcases List.mem_map.mp hlocal' with ⟨name, hname, heq⟩
      rw [← heq, ofPath?_localId hname] at hu
      cases hu
  · rcases List.mem_map.mp hlocal with ⟨name, hname, rfl⟩
    rcases List.mem_cons.mp hmem' with heq | hlocal'
    · rw [← heq, ofPath?_localId hname] at hv
      cases hv
    · rcases List.mem_map.mp hlocal' with ⟨name', hname', heq⟩
      exact hne (localId_inj (colon_not_mem_localNames hnames' hname')
        (colon_not_mem_localNames hnames hname) heq).1.symm

end Names

/-- The nodes of scripts have distinct ids. -/
theorem nodup_ids_nodes {p : Project} (hnodup : (p.units.map (·.id)).Nodup)
    (hscript : ∀ u ∈ p.units, (ScriptKind.ofPath? u.id).isSome)
    (hnames : ∀ u ∈ p.units, ∀ d ∈ u.functions, ':' ∉ d.name.toList) :
    ((nodes p).map (·.id)).Nodup := by
  rw [nodes, List.map_flatMap, List.nodup_flatMap]
  constructor
  · intro u hu
    exact nodup_ids_unitNodes (hscript u hu) (hnames u hu)
  · rw [List.Nodup, List.pairwise_map] at hnodup
    apply hnodup.imp_of_mem
    intro u v hu hv hne
    exact disjoint_ids_unitNodes hne (hscript u hu) (hscript v hv) (hnames u hu) (hnames v hv)

/-! ## Edges -/

def numberedIds (stem : String) (count : Nat) : List String :=
  (List.range count).map fun index => stem ++ ":" ++ index.repr

/-- Ids with the same stem differ in their numbers. -/
theorem nodup_numberedIds (stem : String) (count : Nat) : (numberedIds stem count).Nodup := by
  apply List.nodup_range.map_on
  intro i _ j _ heq
  exact (Text.append_repr_inj rfl rfl heq).2

/-- Ids with different stems differ. -/
theorem disjoint_numberedIds {stem stem' : String} (hne : stem ≠ stem') (count count' : Nat) :
    (numberedIds stem count).Disjoint (numberedIds stem' count') := by
  intro id hmem hmem'
  rcases List.mem_map.mp hmem with ⟨i, _, rfl⟩
  rcases List.mem_map.mp hmem' with ⟨j, _, heq⟩
  exact hne (Text.append_repr_inj rfl rfl heq).1.symm

def edgeIds (unit : String) (imports calls : Nat) : List String :=
  numberedIds ("import:" ++ unit) imports ++ numberedIds ("call:" ++ unit) calls

/-- Numbering the elements of a list gives as many ids as there are elements. -/
theorem map_zipIdx_numbered {α : Type} (stem : String) (l : List α) :
    (l.zipIdx.map fun p => stem ++ ":" ++ p.2.repr) = numberedIds stem l.length := by
  have hindices : l.zipIdx.map Prod.snd = List.range l.length := by
    rw [List.zipIdx_map_snd, List.range_eq_range']
  rw [numberedIds, ← hindices, List.map_map]
  rfl

theorem ids_importEdges (unit : String) (targets : List String) :
    (importEdges unit targets).map (·.id) = numberedIds ("import:" ++ unit) targets.length := by
  rw [importEdges, List.map_map]
  exact map_zipIdx_numbered _ targets

theorem ids_callEdges (u : UnitFacts) :
    (callEdges u).map (·.id) =
      numberedIds ("call:" ++ u.id) (u.functions.zip (u.functions.drop 1)).length := by
  rw [callEdges, List.map_map]
  exact map_zipIdx_numbered _ (u.functions.zip (u.functions.drop 1))

/-- The stems of calls and imports differ in their first letter. -/
theorem call_ne_import (unit unit' : String) : "call:" ++ unit ≠ "import:" ++ unit' := by
  intro heq
  have hfront := congrArg (fun s : String => s.toList.head?) heq
  simp at hfront

/-- The ids of the edges of one unit are distinct. -/
theorem nodup_edgeIds (unit : String) (imports calls : Nat) :
    (edgeIds unit imports calls).Nodup := by
  rw [edgeIds, List.nodup_append']
  refine ⟨nodup_numberedIds _ _, nodup_numberedIds _ _, ?_⟩
  exact disjoint_numberedIds (call_ne_import unit unit).symm _ _

/-- Those of different units are different. -/
theorem disjoint_edgeIds {unit unit' : String} (hne : unit ≠ unit')
    (imports calls imports' calls' : Nat) :
    (edgeIds unit imports calls).Disjoint (edgeIds unit' imports' calls') := by
  have hstem : ∀ kind : String, kind ++ unit ≠ kind ++ unit' := by
    intro kind heq
    exact hne ((String.append_right_inj kind).mp heq)
  simp only [edgeIds, List.disjoint_append_left, List.disjoint_append_right]
  refine ⟨⟨?_, ?_⟩, ?_, ?_⟩
  · exact disjoint_numberedIds (hstem _) _ _
  · exact disjoint_numberedIds (call_ne_import unit unit') _ _
  · exact disjoint_numberedIds (call_ne_import unit' unit).symm _ _
  · exact disjoint_numberedIds (hstem _) _ _

/-- The edges of any units with distinct ids have distinct ids. -/
theorem nodup_ids_edges {p : Project} (hnodup : (p.units.map (·.id)).Nodup) :
    ((edges p).map (·.id)).Nodup := by
  -- the ids depend on the unit and on how many imports and calls it has, and on nothing else
  have hids : ∀ u : UnitFacts,
      (importEdges u.id (p.graph.neighbours u.id) ++ callEdges u).map (·.id) =
        edgeIds u.id (p.graph.neighbours u.id).length
          (u.functions.zip (u.functions.drop 1)).length := by
    intro u
    rw [List.map_append, ids_importEdges, ids_callEdges, edgeIds]
  rw [edges, List.map_flatMap, List.nodup_flatMap]
  simp only [hids]
  constructor
  · intro u _
    exact nodup_edgeIds _ _ _
  · rw [List.Nodup, List.pairwise_map] at hnodup
    apply hnodup.imp
    intro u v hne
    exact disjoint_edgeIds hne _ _ _ _

/-! ## Projects -/

/-- In a project of units with distinct ids no two edges have one id. If the units are scripts and
no function or method has a colon in its name, no two nodes have one id either. -/
theorem ids_unique (p : Project) (hnodup : (p.units.map (·.id)).Nodup) :
    ((∀ u ∈ p.units, (ScriptKind.ofPath? u.id).isSome) →
        (∀ u ∈ p.units, ∀ d ∈ u.functions, ':' ∉ d.name.toList) →
          ((nodes p).map (·.id)).Nodup) ∧
      ((edges p).map (·.id)).Nodup := by
  constructor
  · intro hscript hnames
    exact nodup_ids_nodes hnodup hscript hnames
  · exact nodup_ids_edges hnodup

/-- Units and functions that are named like ids of nodes and edges. -/
def lookalikes : List UnitFacts :=
  [{ id := "router.ts", metadata := { kindName := "typescript" }
     imports := [{ reference := "./router.ts::GET /users.ts", isExternal := false }]
     declarations :=
       [{ name := "GET /users", kind := .function }, { name := "f#1", kind := .function },
        { name := "f", kind := .method }] },
   { id := "router.ts::GET /users.ts", metadata := { kindName := "typescript" }
     imports := [{ reference := "/router.ts", isExternal := false }]
     declarations := [{ name := "f", kind := .function }, { name := "f", kind := .function }] },
   { id := "import:router.ts:0.js", metadata := { kindName := "javascript" } }]

/-- Twenty nodes and five edges, all told apart. -/
theorem ids_unique_lookalikes :
    (nodes (Project.ofUnits lookalikes)).length = 20 ∧
      (edges (Project.ofUnits lookalikes)).length = 5 ∧
      ((nodes (Project.ofUnits lookalikes)).map (·.id)).Nodup ∧
      ((edges (Project.ofUnits lookalikes)).map (·.id)).Nodup := by
  have hunique := ids_unique (Project.ofUnits lookalikes) (by decide)
  refine ⟨by decide +kernel, by decide +kernel, ?_, hunique.2⟩
  exact hunique.1 (by decide +kernel) (by decide +kernel)

end SourceFlow.Flow
