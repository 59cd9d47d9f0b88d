import SourceFlow.Proofs.Facts.Positions
import SourceFlow.Proofs.Facts.Recognition

/-!
# The order of the recognised calls

Calls are recorded in two runs: those recognised by themselves on the way
through the tree, those on variables once it is known which variables hold
clients. A stable sort by position then merges the two. The recorded calls
are those of the sites, one for each node at which a rule of recognition
applies, and they stand in the order in which the nodes start; of nodes that
start together, calls recognised by themselves come first, and otherwise the
order is that of the tree.
-/

namespace SourceFlow

open Syntax (Node Source Cursor)

namespace Facts

/-! ## Stable sorting -/

/-- Sorting keeps the order of elements that compare equal. -/
theorem pairwise_mergeSort_of_pairwise {α : Type} {le : α → α → Bool} {r : α → α → Prop}
    (htrans : ∀ a b c, le a b = true → le b c = true → le a c = true)
    (htotal : ∀ a b, (le a b || le b a) = true) {l : List α} (h : l.Pairwise r) :
    (l.mergeSort le).Pairwise fun a b => le a b = true ∧ (le b a = true → r a b) := by
  induction h with
  | nil => simp
  | @cons a rest hfirst _ ih =>
    -- the first element is put behind those that are smaller, and before all others
    rcases List.mergeSort_cons htrans htotal a rest with ⟨front, back, hcons, hrest, hsmaller⟩
    have hsorted := List.pairwise_mergeSort htrans htotal (a :: rest)
    rw [hcons] at hsorted ⊢
    rw [hrest] at ih
    rcases List.pairwise_append.mp ih with ⟨hfront, hback, hacross⟩
    rcases List.pairwise_append.mp hsorted with ⟨_, hsortedBack, hsortedAcross⟩
    refine List.pairwise_append.mpr ⟨hfront, List.pairwise_cons.mpr ⟨?_, hback⟩, ?_⟩
    · intro b hb
      have hmem : b ∈ rest.mergeSort le := by
        rw [hrest]
        exact List.mem_append_right _ hb
      refine ⟨(List.pairwise_cons.mp hsortedBack).1 b hb, ?_⟩
      intro _
      exact hfirst b (List.mem_mergeSort.mp hmem)
    · intro b hb c hc
      rcases List.mem_cons.mp hc with rfl | hc
      · refine ⟨hsortedAcross b hb c List.mem_cons_self, ?_⟩
        intro hle
        have hnot := hsmaller b hb
        rw [hle] at hnot
        cases hnot
      · exact hacross b hb c hc

/-- A call is sorted in front of another if it starts before it or together with it. -/
theorem startsBy_iff (a b : RemoteCall) :
    Findings.startsBy a b = true ↔
      a.position.StartsBefore b.position ∨ a.position.StartsWith b.position := by
  unfold Findings.startsBy Position.StartsBefore Position.StartsWith
  simp only [Bool.or_eq_true, Bool.and_eq_true, decide_eq_true_eq, beq_iff_eq]
  omega

/-! ## Sites -/

/-- A node at which a call is recognised: its place in pre-order, a cursor at it, how the call is
recognised, and the call. -/
structure Site where
  place : Nat
  cursor : Cursor
  route : Route
  call : RemoteCall

namespace Site

/-- Of two sites that start together, one comes first: calls recognised by themselves before calls
on variables, and otherwise by the places. -/
def Outranks (s t : Site) : Prop :=
  s.route = .direct ∧ t.route = .viaVariable ∨ s.route = t.route ∧ s.place < t.place

/-- The order of the recorded calls. -/
def Precedes (s t : Site) : Prop :=
  s.call.position.StartsBefore t.call.position ∨
    s.call.position.StartsWith t.call.position ∧ s.Outranks t

def startsBy (s t : Site) : Bool :=
  Findings.startsBy s.call t.call

theorem startsBy_trans (s t u : Site) (hst : s.startsBy t = true) (htu : t.startsBy u = true) :
    s.startsBy u = true := by
  unfold startsBy at hst htu ⊢
  rw [startsBy_iff] at hst htu ⊢
  unfold Position.StartsBefore Position.StartsWith at *
  omega

theorem startsBy_total (s t : Site) : (s.startsBy t || t.startsBy s) = true := by
  unfold startsBy
  rw [Bool.or_eq_true, startsBy_iff, startsBy_iff]
  unfold Position.StartsBefore Position.StartsWith
  omega

/-- What the sort leaves open is how ties are ordered. -/
theorem precedes_of_startsBy {s t : Site} (hst : s.startsBy t = true)
    (htie : t.startsBy s = true → s.Outranks t) : s.Precedes t := by
  rcases (startsBy_iff _ _).mp hst with hbefore | htogether
  · exact .inl hbefore
  · right
    refine ⟨htogether, htie ((startsBy_iff _ _).mpr (.inr ?_))⟩
    exact ⟨htogether.1.symm, htogether.2.symm⟩

end Site

end Facts

namespace ParsedUnit

open Facts

/-- A site is one of a unit. -/
structure HasSite (p : ParsedUnit) (s : Site) : Prop where
  visits : p.visited[s.place]? = some s.cursor
  recognises : Recognises p s.cursor s.route s.call

/-- The sites of one route in pre-order, where the calls of this route are given by node. -/
def sitesBy (p : ParsedUnit) (route : Route) (read : Cursor → Option RemoteCall) : List Site :=
  p.visited.zipIdx.filterMap fun x =>
    (read x.1).map fun call => { place := x.2, cursor := x.1, route, call }

/-- The sites in the order in which their calls are recorded. -/
def recordedSites (p : ParsedUnit) : List Site :=
  p.sitesBy .direct (directAt? p) ++ p.sitesBy .viaVariable (settledAt? p)

section Sites

variable {p : ParsedUnit} {route : Route} {read : Cursor → Option RemoteCall}

/-- The calls of a route are what its reader finds on the way through the tree. -/
theorem map_call_sitesBy : (p.sitesBy route read).map (·.call) = p.visited.filterMap read := by
  unfold sitesBy
  rw [List.map_filterMap]
  conv_rhs => rw [← List.zipIdx_map_fst 0 p.visited, List.filterMap_map]
  congr 1
  funext x
  simp [Function.comp_def]

/-- A site of a route is a visited node at which the reader finds a call. -/
theorem mem_sitesBy {s : Site} :
    s ∈ p.sitesBy route read ↔
      p.visited[s.place]? = some s.cursor ∧ s.route = route ∧ read s.cursor = some s.call := by
  unfold sitesBy
  rw [List.mem_filterMap]
  constructor
  · rintro ⟨⟨c, i⟩, hx, hs⟩
    rcases Option.map_eq_some_iff.mp hs with ⟨call, hcall, rfl⟩
    exact ⟨List.mem_zipIdx_iff_getElem?.mp hx, rfl, hcall⟩
  · rintro ⟨hvisits, rfl, hcall⟩
    refine ⟨(s.cursor, s.place), List.mem_zipIdx_iff_getElem?.mpr hvisits, ?_⟩
    exact Option.map_eq_some_iff.mpr ⟨s.call, hcall, rfl⟩

/-- On one route the sites are recorded in pre-order. -/
theorem pairwise_place_sitesBy :
    (p.sitesBy route read).Pairwise fun s t => s.place < t.place := by
  have hplaces : p.visited.zipIdx.Pairwise fun x y => x.2 < y.2 := by
    apply List.pairwise_map.mp
    rw [List.zipIdx_map_snd]
    exact List.pairwise_lt_range'
  refine hplaces.filterMap _ ?_
  intro x y hxy s hs t ht
  rcases Option.map_eq_some_iff.mp hs with ⟨_, _, rfl⟩
  rcases Option.map_eq_some_iff.mp ht with ⟨_, _, rfl⟩
  exact hxy

/-- The recorded sites are all sites of the unit. -/
theorem mem_recordedSites {s : Site} : s ∈ p.recordedSites ↔ p.HasSite s := by
  unfold recordedSites
  rw [List.mem_append, mem_sitesBy, mem_sitesBy, directAt?_eq_some_iff, settledAt?_eq_some_iff]
  constructor
  · rintro (⟨hvisits, hroute, hcall⟩ | ⟨hvisits, hroute, hcall⟩)
    · exact ⟨hvisits, hroute ▸ hcall⟩
    · exact ⟨hvisits, hroute ▸ hcall⟩
  · rintro ⟨hvisits, hcall⟩
    cases hroute : s.route with
    | direct => exact .inl ⟨hvisits, rfl, hroute ▸ hcall⟩
    | viaVariable => exact .inr ⟨hvisits, rfl, hroute ▸ hcall⟩

end Sites

/-- Sites are recorded by their routes, and on the same route by their places. -/
theorem pairwise_recordedSites (p : ParsedUnit) : p.recordedSites.Pairwise Site.Outranks := by
  -- within a route the places decide, and between the two the order of the routes
  have hsame : ∀ route read, (p.sitesBy route read).Pairwise Site.Outranks := by
    intro route read
    refine pairwise_place_sitesBy.imp_of_mem ?_
    intro s t hs ht hplace
    exact .inr ⟨(mem_sitesBy.mp hs).2.1.trans (mem_sitesBy.mp ht).2.1.symm, hplace⟩
  refine List.pairwise_append.mpr ⟨hsame _ _, hsame _ _, ?_⟩
  intro s hs t ht
  exact .inl ⟨(mem_sitesBy.mp hs).2.1, (mem_sitesBy.mp ht).2.1⟩

/-- No node is recorded twice. -/
theorem nodup_place_recordedSites (p : ParsedUnit) : (p.recordedSites.map (·.place)).Nodup := by
  refine List.pairwise_map.mpr (p.pairwise_recordedSites.imp_of_mem ?_)
  intro s t hs ht hrank hplace
  rcases mem_recordedSites.mp hs with ⟨hvisits, hcall⟩
  rcases mem_recordedSites.mp ht with ⟨hvisits', hcall'⟩
  rcases hrank with ⟨hdirect, hvariable⟩ | ⟨_, hlt⟩
  · -- at one node a call is not recognised in both ways
    rw [hplace, hvisits'] at hvisits
    rw [hdirect, ← Option.some.inj hvisits] at hcall
    rw [hvariable] at hcall'
    have hnone := settledAt?_eq_none (directAt?_eq_some_iff.mpr hcall)
    rw [settledAt?_eq_some_iff.mpr hcall'] at hnone
    cases hnone
  · omega

/-- Without the sites, these are the calls of the two runs, one after the other. -/
theorem map_call_recordedSites (p : ParsedUnit) :
    p.recordedSites.map (·.call) =
      (findings p.source p.root).calls ++ (findings p.source p.root).settled := by
  rw [recordedSites, List.map_append, map_call_sitesBy, map_call_sitesBy, calls_eq_filterMap,
    settled_eq_filterMap]

/-- The calls of a unit are those of its sites, one for each node at which a call is recognised and
none for any other. They stand in the order of their positions, and of calls that start together
those recognised by themselves come first, the others by the order of the tree. Positions are in the
order in which the nodes start in the text. -/
theorem calls_in_source_order (p : ParsedUnit) :
    ∃ sites : List Site,
      p.facts.calls = sites.map (·.call) ∧
        (∀ s, s ∈ sites ↔ p.HasSite s) ∧
        (sites.map (·.place)).Nodup ∧
        sites.Pairwise Site.Precedes ∧
        ∀ s ∈ sites, ∀ t ∈ sites,
          (s.call.position.StartsBefore t.call.position ↔
            p.source.clip s.cursor.node.start < p.source.clip t.cursor.node.start) := by
  have hperm : (p.recordedSites.mergeSort Site.startsBy).Perm p.recordedSites :=
    List.mergeSort_perm _ _
  refine ⟨p.recordedSites.mergeSort Site.startsBy, ?_, ?_, ?_, ?_, ?_⟩
  · show (findings p.source p.root).orderedCalls = _
    rw [Findings.orderedCalls, ← map_call_recordedSites]
    symm
    apply List.map_mergeSort
    intro s _ t _
    rfl
  · intro s
    rw [hperm.mem_iff, mem_recordedSites]
  · exact (hperm.map _).nodup_iff.mpr p.nodup_place_recordedSites
  · -- the calls were recorded with the direct ones first, and the sort is stable
    refine (pairwise_mergeSort_of_pairwise Site.startsBy_trans Site.startsBy_total
      p.pairwise_recordedSites).imp ?_
    intro s t hst
    exact Site.precedes_of_startsBy hst.1 hst.2
  · intro s hs t ht
    have hposition : ∀ u ∈ p.recordedSites,
        u.call.position = p.source.positionOf u.cursor.node := by
      intro u hu
      exact position_of_recognises (mem_recordedSites.mp hu).recognises
    rw [hposition s (hperm.mem_iff.mp hs), hposition t (hperm.mem_iff.mp ht)]
    exact p.source.startsBefore_iff _ _

/-! ## Calls beside the rules -/

/-- The call `axios.create()` in `axios = axios.create()`. -/
def factoryCall : Node :=
  { kind := "call_expression", start := 8, stop := 22
    fields := [("function", 0), ("arguments", 1)]
    children :=
      [{ kind := "member_expression", start := 8, stop := 20
         fields := [("object", 0), ("property", 2)]
         children :=
          [{ kind := "identifier", start := 8, stop := 13 },
           { kind := ".", start := 13, stop := 14, named := false },
           { kind := "property_identifier", start := 14, stop := 20 }] },
       { kind := "arguments", start := 20, stop := 22 }] }

/-- A unit that gives the name `axios` itself a new client. -/
def selfAssigned : ParsedUnit :=
  { id := "a.ts", kind := .typescript, source := .ofText "axios = axios.create()", diagnostics := []
    root :=
      { kind := "program", start := 0, stop := 22
        children :=
          [{ kind := "assignment_expression", start := 0, stop := 22
             fields := [("left", 0), ("right", 2)]
             children :=
              [{ kind := "identifier", start := 0, stop := 5 },
               { kind := "=", start := 6, stop := 7, named := false },
               factoryCall] }] } }

/-- The call in `prisma..find()`, whose model is missing. -/
def modellessCall : Node :=
  { kind := "call_expression", start := 0, stop := 14
    fields := [("function", 0), ("arguments", 1)]
    children :=
      [{ kind := "member_expression", start := 0, stop := 12
         fields := [("object", 0), ("property", 2)]
         children :=
          [{ kind := "member_expression", start := 0, stop := 7
             fields := [("object", 0)]
             children :=
              [{ kind := "identifier", start := 0, stop := 6 },
               { kind := ".", start := 6, stop := 7, named := false }] },
           { kind := ".", start := 7, stop := 8, named := false },
           { kind := "property_identifier", start := 8, stop := 12 }] },
       { kind := "arguments", start := 12, stop := 14 }] }

/-- A broken unit that calls an operation without a model. -/
def modelless : ParsedUnit :=
  { id := "b.ts", kind := .typescript, source := .ofText "prisma..find()", diagnostics := []
    root := { kind := "program", start := 0, stop := 14, children := [modellessCall] } }

/-- What is called in `prisma..find()` is a member of something that is no plain name and has no
property. -/
theorem callsMember_modellessCall {object : Node} {member : String}
    (h : CallsMember modelless.source modellessCall object member) :
    object.kind = "member_expression" ∧ object.field? "property" = none := by
  rcases h with ⟨callee, _, hcalls, _, hobject, _, _⟩
  rcases hcalls.function with ⟨⟩
  rcases hobject with ⟨⟩
  exact ⟨rfl, rfl⟩

/-- A call of `create` on `axios` is no remote call, though the unit gives the name `axios` a
client. A call of an operation of `prisma` is one, though its model is missing. -/
theorem calls_beside_forms :
    (factoryCall ∈ selfAssigned.root.preorder ∧ selfAssigned.HoldsClient "axios" ∧
        CallsOn selfAssigned.source factoryCall "axios" "create" ∧
        selfAssigned.facts.calls = []) ∧
      (∀ n ∈ modelless.root.preorder, n.kind = "call_expression" → n = modellessCall) ∧
        (∀ name, ¬ CallsName modelless.source modellessCall name) ∧
        (∀ name member, ¬ CallsOn modelless.source modellessCall name member) ∧
        (∀ root model operation,
          ¬ CallsModel modelless.source modellessCall root (some model) operation) ∧
        modelless.facts.calls.length = 1 := by
  have hcreate : CallsOn selfAssigned.source factoryCall "axios" "create" :=
    ⟨_, ⟨_, _, ⟨rfl, rfl⟩, rfl, rfl, rfl, by decide +kernel⟩, rfl, by decide +kernel⟩
  refine ⟨⟨?_, ?_, hcreate, by decide +kernel⟩, ?_, ?_, ?_, ?_, by decide +kernel⟩
  -- `axios = axios.create()`: the call is in the tree, and the assignment makes a client
  · exact List.mem_of_getElem? (i := 4) rfl
  · refine ⟨_, List.mem_of_getElem? (i := 1) rfl, .inr ⟨rfl, ?_⟩⟩
    exact ⟨_, factoryCall, rfl, rfl, by decide +kernel, rfl, hcreate⟩
  -- `prisma..find()`: there is one call, and it has none of the three forms
  · intro n hn hkind
    have hcalls : modelless.root.preorder.filter (·.kind == "call_expression") =
        [modellessCall] := rfl
    rw [← List.mem_singleton, ← hcalls, List.mem_filter]
    exact ⟨hn, beq_iff_eq.mpr hkind⟩
  · rintro name ⟨callee, hcalls, hkind, _⟩
    rcases hcalls.function with ⟨⟩
    exact absurd hkind (by decide)
  · rintro name member ⟨object, hmember, hkind, _⟩
    rw [(callsMember_modellessCall hmember).1] at hkind
    exact absurd hkind (by decide)
  · rintro root model operation ⟨object, base, hmember, _, _, _, _, hmodel⟩
    rw [(callsMember_modellessCall hmember).2] at hmodel
    cases hmodel

end ParsedUnit

end SourceFlow
