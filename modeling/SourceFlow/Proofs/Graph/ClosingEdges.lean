import SourceFlow.Proofs.Graph.Completeness
import SourceFlow.Proofs.Project

/-!
# Each cycle is found once

A cycle is recorded when its closing edge is looked at, and the neighbours
of a node are looked at once each in the whole search. Whether a neighbour
is on the path below its node does not change while the node is on the
path. So either every occurrence of a neighbour closes a cycle or none
does, and with neighbour lists without repetitions no edge closes two.

The invariant `Tallied` keeps the count for one edge: as long as the node
is on the path, the cycles recorded and the occurrences still pending add
up to the occurrences in the neighbour list.
-/

namespace SourceFlow.Graph

/-- The edge that closes a cycle, from its last node to its first. -/
def closingEdge (c : List String) : Option String × Option String :=
  (c.getLast?, c.head?)

/-- How many of the cycles end in `u` and begin with `v`. -/
def closings (cycles : List (List String)) (u v : String) : Nat :=
  (cycles.map closingEdge).count (some u, some v)

/-- A cycle more counts for its own closing edge. -/
theorem closings_concat (cycles : List (List String)) (c : List String) (u v : String) :
    closings (cycles ++ [c]) u v =
      closings cycles u v + if closingEdge c = (some u, some v) then 1 else 0 := by
  rw [closings, List.map_append, List.count_append, List.map_singleton, List.count_singleton]
  simp only [closings, beq_iff_eq]

namespace Search

variable {order : List String} {adj : Adjacency} {s s' : Search} {u v : String}

/-! ## The tally of an edge -/

/-- The tally of the edge from the node of a frame to `v`, with `n` cycles recorded: if `v` is on
the path, at the frame or below it, these cycles and the occurrences pending make up all
occurrences; if not, no cycle is recorded. -/
def Tally (adj : Adjacency) (n : Nat) (v : String) (f : Frame) (below : List Frame) : Prop :=
  (v ∈ f.node :: below.map (·.node) → n + f.pending.count v = (adj.neighbours f.node).count v) ∧
    (v ∉ f.node :: below.map (·.node) → n = 0)

/-- Looking at a neighbour that is not on the path leaves the tally. -/
theorem Tally.look {n : Nat} {node next : String} {rest : List String} {below : List Frame}
    (hnext : next ∉ node :: below.map (·.node)) (h : Tally adj n v ⟨node, next :: rest⟩ below) :
    Tally adj n v ⟨node, rest⟩ below := by
  refine ⟨?_, h.2⟩
  intro hv
  have hne : next ≠ v := by
    rintro rfl
    exact hnext hv
  have hcount := h.1 hv
  rw [List.count_cons_of_ne hne] at hcount
  exact hcount

/-- How often the edge from `u` to `v` has closed a cycle, before `u` is entered, while it is on the
path and when it is finished. -/
structure Tallied (adj : Adjacency) (u v : String) (s : Search) : Prop where
  fresh : u ∉ s.entered → closings s.cycles u v = 0
  onPath : ∀ f below, f :: below <:+ s.frames → f.node = u →
    Tally adj (closings s.cycles u v) v f below
  finished : u ∈ s.finished →
    closings s.cycles u v = 0 ∨ closings s.cycles u v = (adj.neighbours u).count v

theorem tallied_init : Tallied adj u v {} := by
  refine ⟨fun _ => rfl, ?_, fun _ => Or.inl rfl⟩
  intro f below hsuffix
  exact absurd (List.suffix_nil.mp hsuffix) (List.cons_ne_nil _ _)

/-- With all its neighbours pending, a node that has closed no cycle begins its tally. -/
theorem tally_enter {n : Nat} {node : String} {below : List Frame} (hn : n = 0) :
    Tally adj n v ⟨node, adj.neighbours node⟩ below := by
  rw [hn]
  exact ⟨fun _ => Nat.zero_add _, fun _ => rfl⟩

/-- A start is entered with an empty path, and its tally begins. -/
theorem tallied_enter {start : String} (hframes : s.frames = []) (hnew : start ∉ s.finished)
    (h : Tallied adj u v s) : Tallied adj u v (s.enter adj start) := by
  have hstart : start ∉ s.entered := by
    rw [mem_entered, onPathNodes, hframes]
    rintro (hpath | hfin)
    · cases hpath
    · exact hnew hfin
  refine ⟨?_, ?_, h.finished⟩
  · intro hu
    exact h.fresh fun hin => hu (List.mem_cons_of_mem _ hin)
  · intro f below hsuffix hf
    rcases List.suffix_cons_iff.mp hsuffix with heq | hsuffix
    · -- the new frame is the only one
      rcases List.cons.inj heq with ⟨rfl, rfl⟩
      subst hf
      exact tally_enter (h.fresh hstart)
    · rw [hframes] at hsuffix
      exact absurd (List.suffix_nil.mp hsuffix) (List.cons_ne_nil _ _)

/-! ## What a step does to it -/

/-- The node of a frame further down is not the current node. -/
theorem ne_of_suffix_below {finished : List String} {current : Frame} {below below' : List Frame}
    {cycles : List (List String)} {f : Frame}
    (hinv : Inv order adj ⟨finished, current :: below, cycles⟩)
    (hsuffix : f :: below' <:+ below) : current.node ≠ f.node := by
  have hnot : current.node ∉ below.map (·.node) :=
    (List.nodup_cons.mp (List.nodup_append.mp hinv.distinct).1).1
  intro heq
  apply hnot
  rw [heq]
  exact List.mem_map_of_mem (hsuffix.subset List.mem_cons_self)

/-- A node that is finished keeps its count. -/
theorem Tallied.finish {finished : List String} {node : String} {below : List Frame}
    {cycles : List (List String)} (h : Tallied adj u v ⟨finished, ⟨node, []⟩ :: below, cycles⟩) :
    Tallied adj u v ⟨node :: finished, below, cycles⟩ := by
  refine ⟨?_, ?_, ?_⟩
  · intro hu
    exact h.fresh fun hin => hu (List.perm_middle.mem_iff.mpr hin)
  · intro f below' hsuffix hf
    exact h.onPath f below' (hsuffix.trans (List.suffix_cons _ _)) hf
  · intro hu
    rcases List.mem_cons.mp hu with rfl | hu
    · -- nothing is pending, so the count is complete
      have htally := h.onPath ⟨u, []⟩ below (List.suffix_refl _) rfl
      by_cases hv : v ∈ u :: below.map (·.node)
      · exact Or.inr (htally.1 hv)
      · exact Or.inl (htally.2 hv)
    · exact h.finished hu

/-- A cycle is counted for the current node, whose neighbour was pending before. -/
theorem Tallied.close {finished : List String} {node next : String} {rest : List String}
    {below : List Frame} {cycles : List (List String)} {before after : List String}
    (hinv : Inv order adj ⟨finished, ⟨node, next :: rest⟩ :: below, cycles⟩)
    (hcut : (node :: below.map (·.node)).reverse = before ++ next :: after)
    (h : Tallied adj u v ⟨finished, ⟨node, next :: rest⟩ :: below, cycles⟩) :
    Tallied adj u v ⟨finished, ⟨node, rest⟩ :: below, cycles ++ [next :: after]⟩ := by
  have hedge : closingEdge (next :: after) = (some node, some next) := by
    rw [closingEdge, (simpleCycle_of_cut hinv hcut).2]
    rfl
  have hclosings : closings (cycles ++ [next :: after]) u v =
      closings cycles u v + if node = u ∧ next = v then 1 else 0 := by
    rw [closings_concat, hedge]
    simp only [Prod.mk.injEq, Option.some.injEq]
  -- only the current node is counted
  have hother : node ≠ u → closings (cycles ++ [next :: after]) u v = closings cycles u v := by
    intro hne
    rw [hclosings, if_neg fun hand => hne hand.1]
    rfl
  -- `u` not yet entered, on the path, finished
  refine ⟨?_, ?_, ?_⟩
  · intro hu
    have hne : node ≠ u := by
      rintro rfl
      exact hu (mem_entered.mpr (Or.inl List.mem_cons_self))
    exact (hother hne).trans (h.fresh hu)
  · intro f below' hsuffix hf
    rcases List.suffix_cons_iff.mp hsuffix with heq | hsuffix
    · rcases List.cons.inj heq with ⟨rfl, rfl⟩
      have hnode : node = u := hf
      subst hnode
      have htally := h.onPath ⟨node, next :: rest⟩ below' (List.suffix_refl _) rfl
      by_cases hnext : next = v
      · -- one occurrence less is pending, one cycle more is recorded
        subst hnext
        have hon : next ∈ node :: below'.map (·.node) := mem_of_cut hcut
        refine ⟨?_, fun hnot => absurd hon hnot⟩
        intro _
        have hcount : closings cycles node next + (next :: rest).count next =
            (adj.neighbours node).count next := htally.1 hon
        rw [List.count_cons_self] at hcount
        show closings (cycles ++ [next :: after]) node next + rest.count next =
          (adj.neighbours node).count next
        rw [hclosings, if_pos ⟨rfl, rfl⟩]
        omega
      · have hsame : closings (cycles ++ [next :: after]) node v = closings cycles node v := by
          rw [hclosings, if_neg fun hand => hnext hand.2]
          rfl
        rw [hsame]
        refine ⟨?_, htally.2⟩
        intro hv
        have hcount := htally.1 hv
        rw [List.count_cons_of_ne hnext] at hcount
        exact hcount
    · have hne := ne_of_suffix_below hinv hsuffix
      rw [hf] at hne
      rw [hother hne]
      exact h.onPath f below' (hsuffix.trans (List.suffix_cons _ _)) hf
  · intro hu
    have hne : node ≠ u := by
      rintro rfl
      exact (List.nodup_append.mp hinv.distinct).2.2 _ List.mem_cons_self _ hu rfl
    rw [hother hne]
    exact h.finished hu

/-- The frames after a look at a neighbour that is not on the path. -/
theorem Tallied.look {finished : List String} {node next : String} {rest : List String}
    {below : List Frame} {cycles : List (List String)} (hnext : next ∉ node :: below.map (·.node))
    (h : Tallied adj u v ⟨finished, ⟨node, next :: rest⟩ :: below, cycles⟩) :
    ∀ f below', f :: below' <:+ (⟨node, rest⟩ :: below) → f.node = u →
      Tally adj (closings cycles u v) v f below' := by
  intro f below' hsuffix hf
  rcases List.suffix_cons_iff.mp hsuffix with heq | hsuffix
  · rcases List.cons.inj heq with ⟨rfl, rfl⟩
    exact (h.onPath ⟨node, next :: rest⟩ below' (List.suffix_refl _) hf).look hnext
  · exact h.onPath f below' (hsuffix.trans (List.suffix_cons _ _)) hf

/-- Every step keeps the tally of every edge. -/
theorem Step.tallied (hstep : Step order adj s s') (hinv : Inv order adj s)
    (h : Tallied adj u v s) : Tallied adj u v s' := by
  have hentered : ∀ x, x ∈ s.entered → x ∈ s'.entered := fun _ => hstep.entered_mono
  cases hstep with
  | finish => exact h.finish
  | close hcut _ => exact h.close hinv hcut
  | enter hmem hnew =>
    refine ⟨fun hu => h.fresh fun hin => hu (hentered u hin), ?_, h.finished⟩
    intro f below' hsuffix hf
    rcases List.suffix_cons_iff.mp hsuffix with heq | hsuffix
    · rcases List.cons.inj heq with ⟨rfl, rfl⟩
      subst hf
      exact tally_enter (h.fresh hnew)
    · exact h.look (fun hin => hnew (List.mem_append_left _ hin)) f below' hsuffix hf
  -- the neighbour is not on the path, so it closes nothing
  | pass hpath _ =>
    exact ⟨fun hu => h.fresh fun hin => hu (hentered u hin), h.look hpath, h.finished⟩

/-- So the tally holds at the end of the search. -/
theorem tallied_final (order : List String) (adj : Adjacency) (u v : String) :
    Tallied adj u v (final order adj) :=
  final_of_inv tallied_init (fun _ _ _ hframes hnew h => tallied_enter hframes hnew h)
    fun _ _ hstep hinv h => hstep.tallied hinv h

end Search

/-! ## The cycles found -/

/-- An edge closes no cycle, or one for each of its occurrences. -/
theorem closings_cycles (order : List String) (adj : Adjacency) (u v : String) :
    closings (cycles order adj) u v = 0 ∨
      closings (cycles order adj) u v = (adj.neighbours u).count v := by
  have htallied := Search.tallied_final order adj u v
  by_cases hu : u ∈ order
  · exact htallied.finished (Search.mem_finished_final hu)
  · exact Or.inl (htallied.fresh fun hin => hu ((Search.inv_final order adj).within u hin))

-- an edge listed twice closes two cycles, and these are equal
example : cycles ["a", "b"] [("a", ["b"]), ("b", ["a", "a"])] = [["a", "b"], ["a", "b"]] := by cbv

/-- If no neighbour is listed twice, no edge closes two cycles. -/
theorem nodup_closingEdges {order : List String} {adj : Adjacency}
    (h : ∀ u, (adj.neighbours u).Nodup) : ((cycles order adj).map closingEdge).Nodup := by
  rw [List.nodup_iff_count_le_one]
  intro edge
  by_cases hmem : edge ∈ (cycles order adj).map closingEdge
  · rcases List.mem_map.mp hmem with ⟨c, hc, rfl⟩
    -- a cycle found is not empty, so it has a first and a last node
    rcases List.exists_cons_of_ne_nil (simpleCycle_of_mem_cycles hc).nonempty with ⟨v, rest, rfl⟩
    have hlast := List.getLast?_eq_getLast_of_ne_nil (List.cons_ne_nil v rest)
    have hedge : closingEdge (v :: rest) =
        (some ((v :: rest).getLast (List.cons_ne_nil v rest)), some v) := by
      rw [closingEdge, hlast]
      rfl
    rw [hedge]
    rcases closings_cycles order adj ((v :: rest).getLast (List.cons_ne_nil v rest)) v with
      hzero | hall
    · exact hzero.le.trans (Nat.zero_le 1)
    · exact hall.le.trans (List.nodup_iff_count_le_one.mp (h _) v)
  · rw [List.count_eq_zero_of_not_mem hmem]
    exact Nat.zero_le 1

/-- No cycle is found twice. An edge closes either no cycle or one for each time it is listed. The
dependency lists of a project have no repetitions, so no two of its cycles have the same closing
edge, and all of them differ. -/
theorem cycles_closed_once :
    (∀ (order : List String) (adj : Adjacency) (u v : String),
        closings (cycles order adj) u v = 0 ∨
          closings (cycles order adj) u v = (adj.neighbours u).count v) ∧
      ∀ units : List UnitFacts,
        (∀ e ∈ (Project.ofUnits units).graph, e.2.Nodup) ∧
          ((Project.ofUnits units).cycles.map closingEdge).Nodup ∧
          (Project.ofUnits units).cycles.Nodup := by
  refine ⟨closings_cycles, ?_⟩
  intro units
  have hedges : ((Project.ofUnits units).cycles.map closingEdge).Nodup :=
    nodup_closingEdges (Project.nodup_neighbours_dependencyGraph units)
  exact ⟨fun _ he => Project.nodup_of_mem_dependencyGraph he, hedges, hedges.of_map⟩

end SourceFlow.Graph
