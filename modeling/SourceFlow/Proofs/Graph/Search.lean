import SourceFlow.Proofs.Graph.Directed

/-!
# Runs of the cycle search

What one step of the search can do is said once, by `Step`; what holds of
a whole run is then derived by induction over its steps. The basic
invariant `Inv` says that the nodes entered so far are distinct nodes of
the order, that the path is a path of the graph, and that a frame has
some of the last neighbours of its node still pending.
-/

namespace SourceFlow.Graph.Search

variable {order : List String} {adj : Adjacency} {s s' : Search}

/-! ## Steps -/

/-- The nodes on the path, the current one first. -/
def onPathNodes (s : Search) : List String :=
  s.frames.map (·.node)

/-- The nodes entered so far: those on the path and those finished. -/
def entered (s : Search) : List String :=
  s.onPathNodes ++ s.finished

/-- What one step can do. In `close` the path is cut in front of the neighbour: it has `before` and
then the cycle. -/
inductive Step (order : List String) (adj : Adjacency) : Search → Search → Prop
  | finish {finished : List String} {node : String} {below : List Frame}
      {cycles : List (List String)} :
      Step order adj ⟨finished, ⟨node, []⟩ :: below, cycles⟩ ⟨node :: finished, below, cycles⟩
  | close {finished : List String} {node next : String} {rest : List String} {below : List Frame}
      {cycles : List (List String)} {before after : List String}
      (hpath : (node :: below.map (·.node)).reverse = before ++ next :: after)
      (hbefore : next ∉ before) :
      Step order adj ⟨finished, ⟨node, next :: rest⟩ :: below, cycles⟩
        ⟨finished, ⟨node, rest⟩ :: below, cycles ++ [next :: after]⟩
  | enter {finished : List String} {node next : String} {rest : List String} {below : List Frame}
      {cycles : List (List String)} (hmem : next ∈ order)
      (hnew : next ∉ node :: below.map (·.node) ++ finished) :
      Step order adj ⟨finished, ⟨node, next :: rest⟩ :: below, cycles⟩
        ⟨finished, ⟨next, adj.neighbours next⟩ :: ⟨node, rest⟩ :: below, cycles⟩
  | pass {finished : List String} {node next : String} {rest : List String} {below : List Frame}
      {cycles : List (List String)} (hpath : next ∉ node :: below.map (·.node))
      (hold : next ∈ order → next ∈ finished) :
      Step order adj ⟨finished, ⟨node, next :: rest⟩ :: below, cycles⟩
        ⟨finished, ⟨node, rest⟩ :: below, cycles⟩

@[simp] theorem onPath_iff (s : Search) (x : String) : s.onPath x = true ↔ x ∈ s.onPathNodes := by
  simp only [onPath, onPathNodes, List.any_eq_true, List.mem_map, beq_iff_eq]

theorem onPathNodes_enter (s : Search) (adj : Adjacency) (node : String) :
    (s.enter adj node).onPathNodes = node :: s.onPathNodes :=
  rfl

theorem mem_entered {x : String} : x ∈ s.entered ↔ x ∈ s.onPathNodes ∨ x ∈ s.finished :=
  List.mem_append

/-- Dropping in front of a node cuts the path there. -/
theorem dropWhile_cut {x : String} {before after : List String} (h : x ∉ before) :
    (before ++ x :: after).dropWhile (· != x) = x :: after := by
  have hbefore : ∀ y ∈ before, (y != x) = true := by
    intro y hy
    rw [bne_iff_ne]
    rintro rfl
    exact h hy
  rw [List.dropWhile_append_of_pos hbefore]
  simp

theorem mem_of_cut {node next : String} {below : List Frame} {before after : List String}
    (hpath : (node :: below.map (·.node)).reverse = before ++ next :: after) :
    next ∈ node :: below.map (·.node) := by
  rw [← List.mem_reverse, hpath]
  exact List.mem_append_right _ List.mem_cons_self

/-- `Step` says what the step function does, so there is only one step from a state. -/
theorem Step.eq_step (h : Step order adj s s') : s.step order adj = s' := by
  cases h with
  | finish => rfl
  | @close finished node next rest below cycles before after hpath hbefore =>
    have hon : onPath ⟨finished, ⟨node, next :: rest⟩ :: below, cycles⟩ next = true :=
      (onPath_iff _ _).mpr (mem_of_cut hpath)
    have hcycle : cycleFrom ⟨finished, ⟨node, next :: rest⟩ :: below, cycles⟩ next =
        next :: after := by
      rw [cycleFrom, path, List.map_cons, hpath, dropWhile_cut hbefore]
    simp only [step, hon, hcycle, if_true]
  | @enter finished node next rest below cycles hmem hnew =>
    rw [List.mem_append, not_or] at hnew
    have hon : onPath ⟨finished, ⟨node, next :: rest⟩ :: below, cycles⟩ next = false := by
      rw [← Bool.not_eq_true, onPath_iff]
      exact hnew.1
    have hb : (order.contains next && !finished.contains next) = true := by
      simpa using ⟨hmem, hnew.2⟩
    simp only [step, hon, hb, Bool.false_eq_true, if_false, if_true]
    rfl
  | @pass finished node next rest below cycles hpath hold =>
    have hon : onPath ⟨finished, ⟨node, next :: rest⟩ :: below, cycles⟩ next = false := by
      rw [← Bool.not_eq_true, onPath_iff]
      exact hpath
    have hb : (order.contains next && !finished.contains next) = false := by simpa using hold
    simp only [step, hon, hb, Bool.false_eq_true, if_false]

/-- As long as the path is not empty there is a step. -/
theorem step_spec (order : List String) (adj : Adjacency) (s : Search) (h : s.frames ≠ []) :
    Step order adj s (s.step order adj) := by
  -- it is enough to find any step, since the function takes the only one
  suffices hex : ∃ s', Step order adj s s' by
    obtain ⟨s', hs'⟩ := hex
    rw [hs'.eq_step]
    exact hs'
  obtain ⟨finished, frames, cycles⟩ := s
  match frames, h with
  | ⟨node, []⟩ :: below, _ => exact ⟨_, .finish⟩
  | ⟨node, next :: rest⟩ :: below, _ =>
    by_cases hpath : next ∈ node :: below.map (·.node)
    · obtain ⟨before, after, hcut, hbefore⟩ :=
        List.eq_append_cons_of_mem (List.mem_reverse.mpr hpath)
      exact ⟨_, .close hcut hbefore⟩
    -- a neighbour that is not on the path is entered if it is new, and passed over otherwise
    · by_cases hnew : next ∈ order ∧ next ∉ finished
      · refine ⟨_, .enter hnew.1 ?_⟩
        rw [List.mem_append]
        exact fun hor => hor.elim hpath hnew.2
      · refine ⟨_, .pass hpath ?_⟩
        intro hmem
        by_contra hnot
        exact hnew ⟨hmem, hnot⟩

theorem Step.frames_ne_nil (h : Step order adj s s') : s.frames ≠ [] := by
  cases h <;> exact List.cons_ne_nil _ _

/-- A step leaves the entered nodes as they are, up to order, or adds a new one. -/
theorem Step.entered (h : Step order adj s s') :
    s'.entered.Perm s.entered ∨
      ∃ next ∈ order, next ∉ s.entered ∧ s'.entered = next :: s.entered := by
  cases h with
  | finish => exact Or.inl List.perm_middle
  | close => exact Or.inl (.refl _)
  | enter hmem hnew => exact Or.inr ⟨_, hmem, hnew, rfl⟩
  | pass => exact Or.inl (.refl _)

/-- What has been entered stays entered. -/
theorem Step.entered_mono {x : String} (h : Step order adj s s') (hx : x ∈ s.entered) :
    x ∈ s'.entered := by
  rcases h.entered with hperm | ⟨next, _, _, heq⟩
  · exact hperm.mem_iff.mpr hx
  · rw [heq]
    exact List.mem_cons_of_mem _ hx

/-! ## Runs -/

/-- A run ends with an empty path. -/
@[simp] theorem frames_run (order : List String) (adj : Adjacency) (s : Search) :
    (run order adj s).frames = [] := by
  fun_induction run order adj s with
  | case1 s h => exact h
  | case2 s h ih => exact ih

/-- What every step preserves a run preserves. -/
theorem run_preserves {P : Search → Prop} (hstep : ∀ s s', Step order adj s s' → P s → P s')
    (h : P s) : P (run order adj s) := by
  fun_induction run order adj s with
  | case1 s _ => exact h
  | case2 s hne ih => exact ih (hstep _ _ (step_spec order adj s hne) h)

/-- The state in which the search from every node of the order in turn ends. -/
def final (order : List String) (adj : Adjacency) : Search :=
  order.foldl (explore order adj) {}

/-- Between two starts the path is empty. -/
theorem frames_explore (hframes : s.frames = []) (start : String) :
    (explore order adj s start).frames = [] := by
  unfold explore
  split
  · exact hframes
  · exact frames_run order adj _

/-- What entering a start node and every step preserve, exploring from a start preserves. -/
theorem explore_preserves {P : Search → Prop}
    (henter : ∀ s, ∀ start ∈ order, s.frames = [] → start ∉ s.finished → P s →
      P (s.enter adj start))
    (hstep : ∀ s s', Step order adj s s' → P s → P s') {start : String} (hmem : start ∈ order)
    (hframes : s.frames = []) (h : P s) : P (explore order adj s start) := by
  unfold explore
  split
  · exact h
  · rename_i hnot
    have hnew : start ∉ s.finished := by simpa using hnot
    exact run_preserves hstep (henter s start hmem hframes hnew h)

/-- So searching from many starts preserves it. -/
theorem foldl_explore_preserves {P : Search → Prop}
    (henter : ∀ s, ∀ start ∈ order, s.frames = [] → start ∉ s.finished → P s →
      P (s.enter adj start))
    (hstep : ∀ s s', Step order adj s s' → P s → P s')
    {starts : List String} (hstarts : ∀ x ∈ starts, x ∈ order) (hframes : s.frames = [])
    (h : P s) : P (starts.foldl (explore order adj) s) := by
  induction starts generalizing s with
  | nil => exact h
  | cons start rest ih =>
    have hexplore := explore_preserves henter hstep (hstarts start List.mem_cons_self) hframes h
    exact ih (fun x hx => hstarts x (List.mem_cons_of_mem _ hx))
      (frames_explore hframes start) hexplore

/-- What holds at first, and is preserved by entering a start node and by every step, holds in the
end. -/
theorem final_preserves {P : Search → Prop} (hinit : P {})
    (henter : ∀ s, ∀ start ∈ order, s.frames = [] → start ∉ s.finished → P s →
      P (s.enter adj start))
    (hstep : ∀ s s', Step order adj s s' → P s → P s') : P (final order adj) :=
  foldl_explore_preserves henter hstep (fun _ hx => hx) rfl hinit

/-! ## The basic invariant -/

/-- The invariant of the search: which nodes have been entered, and how the path lies in the
graph. -/
structure Inv (order : List String) (adj : Adjacency) (s : Search) : Prop where
  distinct : s.entered.Nodup
  within : ∀ x ∈ s.entered, x ∈ order
  linked : s.onPathNodes.IsChain fun u v => u ∈ adj.neighbours v
  pending : ∀ f ∈ s.frames, f.pending <:+ adj.neighbours f.node

/-- The neighbour that a node on the path is about to look at is a neighbour of it. -/
theorem Inv.mem_neighbours {finished : List String} {node next : String} {rest : List String}
    {below : List Frame} {cycles : List (List String)}
    (h : Inv order adj ⟨finished, ⟨node, next :: rest⟩ :: below, cycles⟩) :
    next ∈ adj.neighbours node :=
  (h.pending _ List.mem_cons_self).subset List.mem_cons_self

/-- The path has only nodes of the order. -/
theorem Inv.mem_order_of_path {x : String} (h : Inv order adj s) (hx : x ∈ s.onPathNodes) :
    x ∈ order :=
  h.within x (mem_entered.mpr (Or.inl hx))

/-- There is an edge to the neighbour about to be looked at, if it is a node at all. -/
theorem Inv.edge_next {finished : List String} {node next : String} {rest : List String}
    {below : List Frame} {cycles : List (List String)}
    (h : Inv order adj ⟨finished, ⟨node, next :: rest⟩ :: below, cycles⟩) (hmem : next ∈ order) :
    Edge order adj node next :=
  ⟨h.mem_order_of_path List.mem_cons_self, hmem, h.mem_neighbours⟩

theorem inv_init : Inv order adj {} :=
  ⟨List.nodup_nil, fun _ hx => absurd hx List.not_mem_nil, .nil,
    fun _ hf => absurd hf List.not_mem_nil⟩

/-- Entering a start node on an empty path keeps the invariant. -/
theorem inv_enter (hframes : s.frames = []) {start : String} (hmem : start ∈ order)
    (hnew : start ∉ s.finished) (h : Inv order adj s) : Inv order adj (s.enter adj start) := by
  obtain ⟨finished, frames, cycles⟩ := s
  subst hframes
  refine ⟨List.nodup_cons.mpr ⟨hnew, h.distinct⟩, ?_, .singleton _, ?_⟩
  · intro x hx
    rcases List.mem_cons.mp hx with rfl | hx
    · exact hmem
    · exact h.within x hx
  · intro f hf
    obtain rfl := List.mem_singleton.mp hf
    exact List.suffix_refl _

/-- Looking at a neighbour leaves fewer neighbours pending. -/
theorem pending_look {node next : String} {rest : List String} {below : List Frame}
    (h : ∀ f ∈ (⟨node, next :: rest⟩ : Frame) :: below, f.pending <:+ adj.neighbours f.node) :
    ∀ f ∈ (⟨node, rest⟩ : Frame) :: below, f.pending <:+ adj.neighbours f.node := by
  intro f hf
  rcases List.mem_cons.mp hf with rfl | hf
  · exact (List.suffix_cons next rest).trans (h _ List.mem_cons_self)
  · exact h f (List.mem_cons_of_mem _ hf)

/-- Every step keeps the invariant. -/
theorem Step.inv (hstep : Step order adj s s') (h : Inv order adj s) : Inv order adj s' := by
  -- what is entered only changes by one new node of the order
  have hdistinct : s'.entered.Nodup := by
    rcases hstep.entered with hperm | ⟨next, _, hnew, heq⟩
    · exact hperm.nodup_iff.mpr h.distinct
    · rw [heq]
      exact List.nodup_cons.mpr ⟨hnew, h.distinct⟩
  have hwithin : ∀ x ∈ s'.entered, x ∈ order := by
    intro x hx
    rcases hstep.entered with hperm | ⟨next, hmem, _, heq⟩
    · exact h.within x (hperm.mem_iff.mp hx)
    · rw [heq] at hx
      rcases List.mem_cons.mp hx with rfl | hx
      · exact hmem
      · exact h.within x hx
  have hpending := h.pending
  refine ⟨hdistinct, hwithin, ?_, ?_⟩
  · cases hstep with
    | finish => exact h.linked.tail
    | close => exact h.linked
    | enter =>
      -- the new node is the neighbour that the current one was about to look at
      exact List.isChain_cons_cons.mpr ⟨h.mem_neighbours, h.linked⟩
    | pass => exact h.linked
  · cases hstep with
    | finish => exact fun f hf => hpending f (List.mem_cons_of_mem _ hf)
    | close => exact pending_look hpending
    | enter =>
      intro f hf
      rcases List.mem_cons.mp hf with rfl | hf
      · exact List.suffix_refl _
      · exact pending_look hpending f hf
    | pass => exact pending_look hpending

/-- So does the search from a start. -/
theorem inv_explore (h : Inv order adj s) (hframes : s.frames = []) {start : String}
    (hmem : start ∈ order) : Inv order adj (explore order adj s start) :=
  explore_preserves (fun _ _ hmem hframes hnew h => inv_enter hframes hmem hnew h)
    (fun _ _ hstep h => hstep.inv h) hmem hframes h

/-- The invariant holds at the end of the search. -/
theorem inv_final (order : List String) (adj : Adjacency) : Inv order adj (final order adj) :=
  final_preserves inv_init (fun _ _ hmem hframes hnew h => inv_enter hframes hmem hnew h)
    fun _ _ hstep h => hstep.inv h

/-- What holds at first, and is preserved by entering a start node and by every step of a state with
the invariant, holds in the end. -/
theorem final_of_inv {P : Search → Prop} (hinit : P {})
    (henter : ∀ s, ∀ start ∈ order, s.frames = [] → start ∉ s.finished → P s →
      P (s.enter adj start))
    (hstep : ∀ s s', Step order adj s s' → Inv order adj s → P s → P s') :
    P (final order adj) := by
  -- the invariant is carried along, so that steps may use it
  have h : Inv order adj (final order adj) ∧ P (final order adj) := by
    refine final_preserves (P := fun s => Inv order adj s ∧ P s) ⟨inv_init, hinit⟩ ?_ ?_
    · intro s start hmem hframes hnew hs
      exact ⟨inv_enter hframes hmem hnew hs.1, henter s start hmem hframes hnew hs.2⟩
    · intro s s' hs' hs
      exact ⟨hs'.inv hs.1, hstep s s' hs' hs.1 hs.2⟩
  exact h.2

end SourceFlow.Graph.Search
