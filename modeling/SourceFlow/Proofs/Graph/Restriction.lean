import SourceFlow.Proofs.Graph.Search

/-!
# Searching a part of a graph

Some nodes of a graph can be left out without a change to the cycles
found: those from which no edge leads to a node that is kept, and among
which every edge raises a rank. A search that enters them comes back
without a cycle and has finished nothing but them. So the search of the
whole graph, seen on the kept nodes only, is the search of the part: each
of its steps is a step there or changes nothing there.
-/

namespace SourceFlow.Graph

/-- Whether a neighbour is in the part that is kept. -/
def inPart (order : List String) (keep : String → Bool) (v : String) : Bool :=
  keep v && order.contains v

/-- Neighbours in the part are kept nodes of the order. -/
theorem inPart_iff {order : List String} {keep : String → Bool} {v : String} :
    inPart order keep v = true ↔ keep v = true ∧ v ∈ order := by
  simp [inPart]

/-- The part of a graph that is kept: its neighbour lists are those of the whole, without the nodes
left out and those outside the order, and no edge from a node left out leads back to it. -/
structure Part (order : List String) (adj : Adjacency) (keep : String → Bool)
    (rank : String → Nat) (part : Adjacency) : Prop where
  neighbours : ∀ u ∈ order, keep u = true →
    part.neighbours u = (adj.neighbours u).filter (inPart order keep)
  left_out : ∀ u v, Edge order adj u v → keep u = false → keep v = false ∧ rank u < rank v

namespace Search

variable {order : List String} {adj part : Adjacency} {keep : String → Bool}
  {rank : String → Nat} {s s' : Search}

/-- The frames of the kept nodes, without the neighbours that are left out. -/
def restrictFrames (order : List String) (keep : String → Bool) (frames : List Frame) :
    List Frame :=
  (frames.filter fun f => keep f.node).map fun f => ⟨f.node, f.pending.filter (inPart order keep)⟩

/-- A state seen on the kept nodes only. -/
def restrict (order : List String) (keep : String → Bool) (s : Search) : Search :=
  ⟨s.finished.filter keep, restrictFrames order keep s.frames, s.cycles⟩

/-- The frame of a kept node is seen, with the neighbours in the part. -/
theorem restrictFrames_kept {node : String} (h : keep node = true) (pending : List String)
    (below : List Frame) :
    restrictFrames order keep (⟨node, pending⟩ :: below) =
      ⟨node, pending.filter (inPart order keep)⟩ :: restrictFrames order keep below := by
  simp only [restrictFrames, List.filter_cons, h, if_true, List.map_cons]

/-- The frame of a node left out is not. -/
theorem restrictFrames_left_out {node : String} (h : keep node = false) (pending : List String)
    (below : List Frame) :
    restrictFrames order keep (⟨node, pending⟩ :: below) = restrictFrames order keep below := by
  simp only [restrictFrames, List.filter_cons, h, Bool.false_eq_true, if_false]

/-- On the path only the kept nodes are seen. -/
theorem map_node_restrictFrames (frames : List Frame) :
    (restrictFrames order keep frames).map (·.node) = (frames.map (·.node)).filter keep := by
  rw [restrictFrames, List.map_map, List.filter_map]
  rfl

/-! ## The path -/

/-- Once the path has entered the nodes left out it stays there, and ranks grow along it. -/
theorem left_out_path (hpart : Part order adj keep rank part) (hinv : Inv order adj s)
    {node : String} {below : List String} (hnodes : s.onPathNodes = node :: below) {x : String}
    (hx : x ∈ s.onPathNodes) (hout : keep x = false) : keep node = false ∧ rank x ≤ rank node := by
  have hchain : s.onPathNodes.IsChain fun u v => Edge order adj v u := by
    apply hinv.linked.imp_of_mem_imp
    intro u v hu hv huv
    exact ⟨hinv.mem_order_of_path hv, hinv.mem_order_of_path hu, huv⟩
  -- from the current node downwards: what a node left out reaches is left out too
  refine hchain.induction (fun y => keep y = false → keep node = false ∧ rank y ≤ rank node) _
    ?_ ?_ x hx hout
  · intro child parent hedge hchild hparent
    obtain ⟨hout, hlt⟩ := hpart.left_out parent child hedge hparent
    obtain ⟨hnode, hle⟩ := hchild hout
    exact ⟨hnode, by omega⟩
  · intro hne hout
    have hhead : s.onPathNodes.head hne = node := by simp [hnodes]
    rw [hhead] at hout ⊢
    exact ⟨hout, Nat.le_refl _⟩

/-- While the current node is kept, the whole path is. -/
theorem keep_path (hpart : Part order adj keep rank part) (hinv : Inv order adj s)
    {node : String} {below : List String} (hnodes : s.onPathNodes = node :: below)
    (hkeep : keep node = true) {x : String} (hx : x ∈ s.onPathNodes) : keep x = true := by
  by_contra hnot
  have hout : keep x = false := by simpa using hnot
  have h := (left_out_path hpart hinv hnodes hx hout).1
  rw [hkeep] at h
  cases h

/-! ## Steps -/

/-- Looking at a neighbour that is left out, or at any from a node left out, is not seen. -/
theorem restrict_look {finished rest : List String} {node next : String} {below : List Frame}
    {cycles : List (List String)} (h : keep node = false ∨ inPart order keep next = false) :
    restrict order keep ⟨finished, ⟨node, rest⟩ :: below, cycles⟩ =
      restrict order keep ⟨finished, ⟨node, next :: rest⟩ :: below, cycles⟩ := by
  by_cases hnode : keep node = true
  · have hnext : inPart order keep next = false := by
      rcases h with h | h
      · rw [hnode] at h
        cases h
      · exact h
    simp only [restrict, restrictFrames_kept hnode, List.filter_cons, hnext, Bool.false_eq_true,
      if_false]
  · have hout : keep node = false := by simpa using hnode
    simp only [restrict, restrictFrames_left_out hout]

/-- Finishing a node is seen just if the node is kept. -/
theorem Step.restrict_finish (finished : List String) (node : String) (below : List Frame)
    (cycles : List (List String)) :
    restrict order keep ⟨node :: finished, below, cycles⟩ =
        restrict order keep ⟨finished, ⟨node, []⟩ :: below, cycles⟩ ∨
      Step (order.filter keep) part (restrict order keep ⟨finished, ⟨node, []⟩ :: below, cycles⟩)
        (restrict order keep ⟨node :: finished, below, cycles⟩) := by
  by_cases hnode : keep node = true
  · right
    simp only [Search.restrict, restrictFrames_kept hnode, List.filter_cons_of_pos hnode]
    exact .finish
  · left
    have hout : keep node = false := by simpa using hnode
    simp only [Search.restrict, restrictFrames_left_out hout, List.filter_cons_of_neg hnode]

/-- A cycle closes on kept nodes only. -/
theorem Step.restrict_close (hpart : Part order adj keep rank part) {finished : List String}
    {node next : String} {rest : List String} {below : List Frame} {cycles : List (List String)}
    (hinv : Inv order adj ⟨finished, ⟨node, next :: rest⟩ :: below, cycles⟩)
    {before after : List String}
    (hpath : (node :: below.map (·.node)).reverse = before ++ next :: after)
    (hbefore : next ∉ before) :
    Step (order.filter keep) part
      (restrict order keep ⟨finished, ⟨node, next :: rest⟩ :: below, cycles⟩)
      (restrict order keep ⟨finished, ⟨node, rest⟩ :: below, cycles ++ [next :: after]⟩) := by
  have hon : next ∈ node :: below.map (·.node) := mem_of_cut hpath
  have hmem : next ∈ order := hinv.mem_order_of_path hon
  by_cases hnode : keep node = true
  · -- the whole path is kept, so it is cut in the same place
    have hall : ∀ x ∈ node :: below.map (·.node), keep x = true := fun x hx =>
      keep_path hpart hinv rfl hnode hx
    have hlook : inPart order keep next = true := inPart_iff.mpr ⟨hall next hon, hmem⟩
    simp only [Search.restrict, restrictFrames_kept hnode, List.filter_cons_of_pos hlook]
    refine .close ?_ hbefore
    rw [map_node_restrictFrames, List.filter_eq_self.mpr, hpath]
    exact fun x hx => hall x (List.mem_cons_of_mem _ hx)
  · -- a rank cannot grow along the path and back to its beginning
    exfalso
    have hout : keep node = false := by simpa using hnode
    obtain ⟨hkeep, hlt⟩ := hpart.left_out node next (hinv.edge_next hmem) hout
    have hle : rank next ≤ rank node := (left_out_path hpart hinv rfl hon hkeep).2
    omega

/-- Entering a node is seen just if that node is kept. -/
theorem Step.restrict_enter (hpart : Part order adj keep rank part) {finished : List String}
    {node next : String} {rest : List String} {below : List Frame} {cycles : List (List String)}
    (hinv : Inv order adj ⟨finished, ⟨node, next :: rest⟩ :: below, cycles⟩)
    (hmem : next ∈ order) (hnew : next ∉ node :: below.map (·.node) ++ finished) :
    restrict order keep
          ⟨finished, ⟨next, adj.neighbours next⟩ :: ⟨node, rest⟩ :: below, cycles⟩ =
        restrict order keep ⟨finished, ⟨node, next :: rest⟩ :: below, cycles⟩ ∨
      Step (order.filter keep) part
        (restrict order keep ⟨finished, ⟨node, next :: rest⟩ :: below, cycles⟩)
        (restrict order keep
          ⟨finished, ⟨next, adj.neighbours next⟩ :: ⟨node, rest⟩ :: below, cycles⟩) := by
  by_cases hnext : keep next = true
  · right
    -- a node left out does not lead to one that is kept
    have hnode : keep node = true := by
      by_contra hnot
      have hout := (hpart.left_out node next (hinv.edge_next hmem) (by simpa using hnot)).1
      rw [hnext] at hout
      cases hout
    have hlook : inPart order keep next = true := inPart_iff.mpr ⟨hnext, hmem⟩
    simp only [Search.restrict, restrictFrames_kept hnode, restrictFrames_kept hnext,
      List.filter_cons_of_pos hlook, ← hpart.neighbours next hmem hnext]
    refine .enter (List.mem_filter.mpr ⟨hmem, hnext⟩) ?_
    rw [map_node_restrictFrames]
    intro hin
    apply hnew
    simp only [List.cons_append, List.mem_cons, List.mem_append, List.mem_filter] at hin ⊢
    rcases hin with hin | hin | hin
    · exact Or.inl hin
    · exact Or.inr (Or.inl hin.1)
    · exact Or.inr (Or.inr hin.1)
  · left
    have hout : keep next = false := by simpa using hnext
    have hlook : inPart order keep next = false := by simp [inPart, hout]
    rw [← restrict_look (Or.inr hlook), Search.restrict, restrictFrames_left_out hout]
    rfl

/-- Passing over a neighbour is seen just if both ends are in the part. -/
theorem Step.restrict_pass {finished : List String} {node next : String} {rest : List String}
    {below : List Frame} {cycles : List (List String)}
    (hpath : next ∉ node :: below.map (·.node)) (hold : next ∈ order → next ∈ finished) :
    restrict order keep ⟨finished, ⟨node, rest⟩ :: below, cycles⟩ =
        restrict order keep ⟨finished, ⟨node, next :: rest⟩ :: below, cycles⟩ ∨
      Step (order.filter keep) part
        (restrict order keep ⟨finished, ⟨node, next :: rest⟩ :: below, cycles⟩)
        (restrict order keep ⟨finished, ⟨node, rest⟩ :: below, cycles⟩) := by
  by_cases hnode : keep node = true
  · by_cases hlook : inPart order keep next = true
    · right
      obtain ⟨hnext, hmem⟩ := inPart_iff.mp hlook
      simp only [Search.restrict, restrictFrames_kept hnode, List.filter_cons_of_pos hlook]
      refine .pass ?_ fun _ => List.mem_filter.mpr ⟨hold hmem, hnext⟩
      rw [map_node_restrictFrames]
      intro hin
      apply hpath
      rcases List.mem_cons.mp hin with rfl | hin
      · exact List.mem_cons_self
      · exact List.mem_cons_of_mem _ (List.mem_filter.mp hin).1
    · exact Or.inl (restrict_look (Or.inr (by simpa using hlook)))
  · exact Or.inl (restrict_look (Or.inl (by simpa using hnode)))

/-- A step of the whole search is a step of the search of the part, or is not seen there. -/
theorem Step.restrict (hpart : Part order adj keep rank part) (hinv : Inv order adj s)
    (hstep : Step order adj s s') :
    s'.restrict order keep = s.restrict order keep ∨
      Step (order.filter keep) part (s.restrict order keep) (s'.restrict order keep) := by
  cases hstep with
  | finish => exact restrict_finish _ _ _ _
  | close hpath hbefore => exact Or.inr (restrict_close hpart hinv hpath hbefore)
  | enter hmem hnew => exact restrict_enter hpart hinv hmem hnew
  | pass hpath hold => exact restrict_pass hpath hold

/-! ## Runs -/

/-- The run of the whole search, seen on the part, is the run of the search of the part. -/
theorem run_restrict (hpart : Part order adj keep rank part) (hinv : Inv order adj s) :
    run (order.filter keep) part (s.restrict order keep) =
      (run order adj s).restrict order keep := by
  fun_induction run order adj s with
  | case1 s hnil =>
    rw [run, if_pos]
    rw [Search.restrict, hnil]
    rfl
  -- a step that is not seen leaves the restricted state, which runs on as before
  | case2 s hne ih =>
    have hstep := step_spec order adj s hne
    rw [← ih (hstep.inv hinv)]
    rcases hstep.restrict hpart hinv with heq | hsmall
    · rw [heq]
    · rw [run, if_neg hsmall.frames_ne_nil, hsmall.eq_step]

/-- A start that is left out starts nothing that is seen. -/
theorem explore_restrict (hpart : Part order adj keep rank part) (hinv : Inv order adj s)
    (hframes : s.frames = []) {start : String} (hmem : start ∈ order) :
    (explore order adj s start).restrict order keep =
      if keep start = true then explore (order.filter keep) part (s.restrict order keep) start
      else s.restrict order keep := by
  have hempty : (s.restrict order keep).frames = [] := by
    rw [Search.restrict, hframes]
    rfl
  unfold explore
  by_cases hfin : start ∈ s.finished
  · -- nothing happens in either search
    rw [if_pos (by simpa using hfin)]
    split
    · rename_i hkeep
      rw [if_pos]
      simpa [Search.restrict] using ⟨hfin, hkeep⟩
    · rfl
  · rw [if_neg (by simpa using hfin), ← run_restrict hpart (inv_enter hframes hmem hfin hinv)]
    split
    · rename_i hkeep
      rw [if_neg (by simp [Search.restrict, hfin])]
      congr 1
      simp only [Search.restrict, enter, restrictFrames_kept hkeep,
        hpart.neighbours start hmem hkeep]
    -- the search runs through nodes left out, and comes back without a trace
    · rename_i hout
      have hsame : (s.enter adj start).restrict order keep = s.restrict order keep := by
        simp only [Search.restrict, enter, restrictFrames_left_out (by simpa using hout)]
      rw [hsame, run, if_pos hempty]

/-- So the starts that are seen are the kept ones, in the same order. -/
theorem foldl_explore_restrict (hpart : Part order adj keep rank part) (hinv : Inv order adj s)
    (hframes : s.frames = []) {starts : List String} (hstarts : ∀ x ∈ starts, x ∈ order) :
    (starts.foldl (explore order adj) s).restrict order keep =
      (starts.filter keep).foldl (explore (order.filter keep) part) (s.restrict order keep) := by
  induction starts generalizing s with
  | nil => rfl
  | cons start rest ih =>
    have hmem := hstarts start List.mem_cons_self
    rw [List.foldl_cons, ih (inv_explore hinv hframes hmem) (frames_explore hframes start)
      fun x hx => hstarts x (List.mem_cons_of_mem _ hx), explore_restrict hpart hinv hframes hmem]
    by_cases hkeep : keep start = true
    · rw [if_pos hkeep, List.filter_cons_of_pos hkeep, List.foldl_cons]
    · rw [if_neg hkeep, List.filter_cons_of_neg hkeep]

end Search

/-- The cycles of a graph are those of a part of it that leaves out only nodes without cycles. -/
theorem Part.cycles_eq {order : List String} {adj part : Adjacency} {keep : String → Bool}
    {rank : String → Nat} (hpart : Part order adj keep rank part) :
    cycles (order.filter keep) part = cycles order adj := by
  have h := Search.foldl_explore_restrict hpart Search.inv_init rfl fun _ hx => hx
  exact (congrArg Search.cycles h).symm

end SourceFlow.Graph
