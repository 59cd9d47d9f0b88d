import SourceFlow.Proofs.Graph.Soundness

/-!
# No cycle goes unnoticed

Every edge from a finished node leads to a node that was finished before
it, unless the edge closes a recorded cycle. So the order of finishing
leaves no closed walk once the closing edges are taken away. The invariant
behind this says of each node on the path where its edges lead: to a
neighbour still pending, to a finished node, to a node further up the
path, or back to where they close a recorded cycle.
-/

namespace SourceFlow.Graph

open Relation

/-- Further cycles do not take a closing edge away. -/
theorem Closes.append_left {cs : List (List String)} {u v : String} (h : Closes cs u v)
    (cs' : List (List String)) : Closes (cs ++ cs') u v := by
  obtain ⟨c, hc, hlast, hhead⟩ := h
  exact ⟨c, List.mem_append_left _ hc, hlast, hhead⟩

/-! ## The order of finishing -/

/-- Every edge from a node of the list leads to a node behind it in the list or closes a cycle. -/
def Layered (order : List String) (adj : Adjacency) (cycles : List (List String)) :
    List String → Prop
  | [] => True
  | u :: rest =>
    (∀ v, Edge order adj u v → v ∈ rest ∨ Closes cycles u v) ∧ Layered order adj cycles rest

namespace Layered

variable {order : List String} {adj : Adjacency} {cycles : List (List String)}
  {nodes : List String} {u v : String}

/-- Further cycles only account for more edges. -/
theorem append_cycles (h : Layered order adj cycles nodes) (found : List (List String)) :
    Layered order adj (cycles ++ found) nodes := by
  induction nodes with
  | nil => trivial
  | cons w rest ih =>
    refine ⟨?_, ih h.2⟩
    intro v hv
    rcases h.1 v hv with hmem | hcl
    · exact Or.inl hmem
    · exact Or.inr (hcl.append_left found)

/-- Edges that close no cycle do not lead out of the list. -/
theorem mem_of_edge (h : Layered order adj cycles nodes) (hu : u ∈ nodes)
    (hedge : Edge order adj u v ∧ ¬ Closes cycles u v) : v ∈ nodes := by
  induction nodes with
  | nil => cases hu
  | cons w rest ih =>
    rcases List.mem_cons.mp hu with rfl | hu
    · exact List.mem_cons_of_mem _ ((h.1 v hedge.1).resolve_right hedge.2)
    · exact List.mem_cons_of_mem _ (ih h.2 hu)

/-- So walks that avoid the closing edges stay in the list. -/
theorem mem_of_walk (h : Layered order adj cycles nodes) (hu : u ∈ nodes)
    (hwalk : ReflTransGen (fun a b => Edge order adj a b ∧ ¬ Closes cycles a b) u v) :
    v ∈ nodes := by
  induction hwalk with
  | refl => exact hu
  | tail _ hedge ih => exact h.mem_of_edge ih hedge

/-- Without the edges that close a cycle no walk from a node of the list leads back to it. -/
theorem not_transGen (h : Layered order adj cycles nodes) (hnodup : nodes.Nodup) (hu : u ∈ nodes) :
    ¬ TransGen (fun a b => Edge order adj a b ∧ ¬ Closes cycles a b) u u := by
  induction nodes with
  | nil => cases hu
  | cons w rest ih =>
    obtain ⟨hw, hrest⟩ := List.nodup_cons.mp hnodup
    rcases List.mem_cons.mp hu with rfl | hu
    · intro hwalk
      -- the first edge leads behind `u`, and the walk stays there
      obtain ⟨v, hedge, hback⟩ := TransGen.head'_iff.mp hwalk
      have hv : v ∈ rest := (h.1 v hedge.1).resolve_right hedge.2
      exact hw (h.2.mem_of_walk hv hback)
    · exact ih h.2 hrest hu

end Layered

/-! ## The invariant of the path -/

namespace Search

variable {order : List String} {adj : Adjacency} {s s' : Search}

/-- Every edge from a node on the path leads to a neighbour still pending, to a finished node, to a
node further up the path, or closes a cycle. `above` are the nodes further up than the frames. -/
def Examined (order : List String) (adj : Adjacency) (finished : List String)
    (cycles : List (List String)) : List String → List Frame → Prop
  | _, [] => True
  | above, f :: below =>
    (∀ v, Edge order adj f.node v →
      v ∈ f.pending ∨ v ∈ finished ∨ v ∈ above ∨ Closes cycles f.node v) ∧
    Examined order adj finished cycles (f.node :: above) below

/-- Nodes may move from above to the finished ones, and both and the cycles may grow. -/
theorem Examined.mono {finished finished' above above' : List String}
    {cycles cycles' : List (List String)} {frames : List Frame}
    (hnodes : ∀ v, v ∈ finished ∨ v ∈ above → v ∈ finished' ∨ v ∈ above')
    (hcycles : ∀ u v, Closes cycles u v → Closes cycles' u v)
    (h : Examined order adj finished cycles above frames) :
    Examined order adj finished' cycles' above' frames := by
  induction frames generalizing above above' with
  | nil => trivial
  | cons f below ih =>
    refine ⟨?_, ih ?_ h.2⟩
    · intro v hv
      -- where the edge led before decides where it leads now
      rcases h.1 v hv with hp | hf | ha | hc
      · exact Or.inl hp
      · exact Or.inr ((hnodes v (Or.inl hf)).imp_right Or.inl)
      · exact Or.inr ((hnodes v (Or.inr ha)).imp_right Or.inl)
      · exact Or.inr (Or.inr (Or.inr (hcycles _ _ hc)))
    · intro v hv
      rcases hv with hf | ha
      · exact (hnodes v (Or.inl hf)).imp_right (List.mem_cons_of_mem _)
      · rcases List.mem_cons.mp ha with rfl | ha
        · exact Or.inr List.mem_cons_self
        · exact (hnodes v (Or.inr ha)).imp_right (List.mem_cons_of_mem _)

/-- A neighbour just looked at is no longer pending, if its edge is accounted for otherwise. -/
theorem Examined.look {finished above : List String} {cycles cycles' : List (List String)}
    {node next : String} {rest : List String} {below : List Frame}
    (hcycles : ∀ u v, Closes cycles u v → Closes cycles' u v)
    (hnext : Edge order adj node next →
      next ∈ finished ∨ next ∈ above ∨ Closes cycles' node next)
    (h : Examined order adj finished cycles [] (⟨node, next :: rest⟩ :: below)) :
    Examined order adj finished cycles' above (⟨node, rest⟩ :: below) := by
  refine ⟨?_, h.2.mono ?_ hcycles⟩
  · intro v hv
    rcases h.1 v hv with hp | hf | ha | hc
    · rcases List.mem_cons.mp hp with rfl | hp
      · exact Or.inr (hnext hv)
      · exact Or.inl hp
    · exact Or.inr (Or.inl hf)
    · cases ha
    · exact Or.inr (Or.inr (Or.inr (hcycles _ _ hc)))
  · intro v hv
    rcases hv with hf | ha
    · exact Or.inl hf
    · rw [List.mem_singleton.mp ha]
      exact Or.inr List.mem_cons_self

/-- Every edge from an entered node is accounted for. -/
structure Accounted (order : List String) (adj : Adjacency) (s : Search) : Prop where
  path : Examined order adj s.finished s.cycles [] s.frames
  finished : Layered order adj s.cycles s.finished

/-- A node that is entered has all its neighbours pending. -/
theorem accounted_enter (hframes : s.frames = []) (start : String)
    (h : Accounted order adj s) : Accounted order adj (s.enter adj start) := by
  refine ⟨⟨fun v hv => Or.inl hv.2.2, ?_⟩, h.finished⟩
  rw [hframes]
  trivial

/-- Every step keeps all edges accounted for. -/
theorem Step.accounted (hstep : Step order adj s s') (hinv : Inv order adj s)
    (h : Accounted order adj s) : Accounted order adj s' := by
  obtain ⟨hpath, hfinished⟩ := h
  cases hstep with
  | finish =>
    -- the node moves from above the others to the finished ones
    refine ⟨hpath.2.mono ?_ (fun _ _ hc => hc), ?_, hfinished⟩
    · intro v hv
      rcases hv with hf | ha
      · exact Or.inl (List.mem_cons_of_mem _ hf)
      · rw [List.mem_singleton.mp ha]
        exact Or.inl List.mem_cons_self
    · -- nothing is pending, and nothing is further up
      intro v hv
      rcases hpath.1 v hv with hp | hf | ha | hc
      · cases hp
      · exact Or.inl hf
      · cases ha
      · exact Or.inr hc
  | @close _ node next _ _ cycles _ after hcut _ =>
    -- the edge just looked at closes the cycle that is recorded
    have hlast := (simpleCycle_of_cut hinv hcut).2
    have hcloses : Closes (cycles ++ [next :: after]) node next :=
      ⟨next :: after, by simp, hlast, rfl⟩
    exact ⟨hpath.look (fun _ _ hc => hc.append_left _) fun _ => Or.inr (Or.inr hcloses),
      hfinished.append_cycles _⟩
  | enter =>
    -- the new node is further up than the one that looked at it
    refine ⟨⟨fun v hv => Or.inl hv.2.2, ?_⟩, hfinished⟩
    exact hpath.look (fun _ _ hc => hc) fun _ => Or.inr (Or.inl List.mem_cons_self)
  | pass _ hold =>
    -- an edge leads to a node of the order, and that is finished
    exact ⟨hpath.look (fun _ _ hc => hc) fun hedge => Or.inl (hold hedge.2.1), hfinished⟩

/-! ## The end of the search -/

/-- What has been entered is finished when a run ends. -/
theorem mem_finished_run {x : String} (h : x ∈ s.entered) : x ∈ (run order adj s).finished := by
  have hrun : x ∈ (run order adj s).entered :=
    run_preserves (P := fun s => x ∈ s.entered) (fun _ _ hstep hx => hstep.entered_mono hx) h
  rwa [entered, onPathNodes, frames_run] at hrun

/-- Searching from a node finishes it, and what was finished stays so. -/
theorem mem_finished_explore {x start : String} (h : x = start ∨ x ∈ s.finished) :
    x ∈ (explore order adj s start).finished := by
  unfold explore
  split
  · rename_i hstart
    rcases h with rfl | h
    · simpa using hstart
    · exact h
  · apply mem_finished_run
    rcases h with rfl | h
    · exact mem_entered.mpr (Or.inl List.mem_cons_self)
    · exact mem_entered.mpr (Or.inr h)

/-- Searching from many nodes finishes them all. -/
theorem mem_finished_foldl {x : String} {starts : List String}
    (h : x ∈ starts ∨ x ∈ s.finished) : x ∈ (starts.foldl (explore order adj) s).finished := by
  induction starts generalizing s with
  | nil => exact h.resolve_left List.not_mem_nil
  | cons start rest ih =>
    apply ih
    rcases h with hx | hx
    · rcases List.mem_cons.mp hx with rfl | hx
      · exact Or.inr (mem_finished_explore (Or.inl rfl))
      · exact Or.inl hx
    · exact Or.inr (mem_finished_explore (Or.inr hx))

/-- In the end every node of the order is finished. -/
theorem mem_finished_final {x : String} (h : x ∈ order) : x ∈ (final order adj).finished :=
  mem_finished_foldl (Or.inl h)

/-- In the end all edges are accounted for. -/
theorem accounted_final (order : List String) (adj : Adjacency) :
    Accounted order adj (final order adj) :=
  final_of_inv ⟨trivial, trivial⟩ (fun _ start _ hframes _ h => accounted_enter hframes start h)
    fun _ _ hstep hinv h => hstep.accounted hinv h

end Search

/-! ## Completeness -/

section

variable (order : List String) (adj : Adjacency)

/-- Without the edges that close the cycles found, no closed walk is left. -/
theorem acyclic_without_closing :
    Acyclic fun u v => Edge order adj u v ∧ ¬ Closes (cycles order adj) u v := by
  intro u hu
  obtain ⟨v, hedge, _⟩ := TransGen.head'_iff.mp hu
  have hnodup := (List.nodup_append.mp (Search.inv_final order adj).distinct).2.1
  exact (Search.accounted_final order adj).finished.not_transGen hnodup
    (Search.mem_finished_final hedge.1.1) hu

/-- A closed walk has one of the cycles found in its component. -/
theorem exists_cycle_sameComponent {v : String} (h : TransGen (Edge order adj) v v) :
    ∃ c ∈ cycles order adj, c ≠ [] ∧ ∀ x ∈ c, SameComponent (Edge order adj) x v := by
  rcases walk_avoids_or_passes (Closes (cycles order adj)) h with hav | ⟨a, b, hab, hcl, hva, hbv⟩
  · exact absurd hav (acyclic_without_closing order adj v)
  · -- the walk passes over the closing edge of a cycle, so the cycle is in its component
    obtain ⟨c, hc, hlast, _⟩ := hcl
    have hcycle := simpleCycle_of_mem_cycles hc
    refine ⟨c, hc, hcycle.nonempty, ?_⟩
    intro x hx
    obtain ⟨hxa, hax⟩ := hcycle.sameComponent_last hlast hx
    exact ⟨hxa.trans ((ReflTransGen.single hab).trans hbv), hva.trans hax⟩

/-- Nothing is found exactly if there is nothing to find. -/
theorem cycles_eq_nil_iff : cycles order adj = [] ↔ Acyclic (Edge order adj) := by
  constructor
  · intro hnil v hv
    obtain ⟨c, hc, _⟩ := exists_cycle_sameComponent order adj hv
    rw [hnil] at hc
    cases hc
  · intro hacyclic
    rw [List.eq_nil_iff_forall_not_mem]
    intro c hc
    obtain ⟨u, hu⟩ := (simpleCycle_of_mem_cycles hc).transGen_self
    exact hacyclic u hu

/-- The search misses no cycle. Taking away the closing edges of the cycles it finds leaves an
acyclic graph; it finds nothing exactly if the graph is acyclic; and it finds a cycle within every
strongly connected component that has a closed walk. -/
theorem cycles_complete :
    (Acyclic fun u v => Edge order adj u v ∧ ¬ Closes (cycles order adj) u v) ∧
      (cycles order adj = [] ↔ Acyclic (Edge order adj)) ∧
      ∀ v, TransGen (Edge order adj) v v →
        ∃ c ∈ cycles order adj, c ≠ [] ∧ ∀ x ∈ c, SameComponent (Edge order adj) x v :=
  ⟨acyclic_without_closing order adj, cycles_eq_nil_iff order adj,
    fun _ hv => exists_cycle_sameComponent order adj hv⟩

end

/-- Whether there is a cycle depends only on which nodes and which neighbours there are. -/
theorem cycles_eq_nil_congr {order order' : List String} {adj adj' : Adjacency}
    (horder : ∀ x, x ∈ order ↔ x ∈ order')
    (hadj : ∀ u v, v ∈ adj.neighbours u ↔ v ∈ adj'.neighbours u) :
    cycles order adj = [] ↔ cycles order' adj' = [] := by
  have hedge : Edge order adj = Edge order' adj' := by
    funext u v
    simp only [Edge, horder, hadj]
  rw [cycles_eq_nil_iff, cycles_eq_nil_iff, hedge]

end SourceFlow.Graph
