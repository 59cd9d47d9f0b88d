import Mathlib.Data.List.Nodup
import SourceFlow.Proofs.Flow.Build
import SourceFlow.Report.Outline

/-!
# Outlines are bounded unfoldings

An outline shows the walks of the graph: read off a path down from a root
the ids it passes, and the result is a walk that visits no node twice,
except that its last node may be one it has visited before. Every such
walk that is not too long is read off one path, and only one. Where a path
ends tells how long it is and whether it has come back to itself.

The paths below a node depend on what stands above it, so everything is
said first of a node with its ancestors (`mem_ids_paths_unfold`,
`endsAfter_of_mem_paths_unfold`) and then of the roots, which have none.
-/

namespace SourceFlow

/-! ## Walks -/

/-- An edge of the graph leads from one id to another. -/
def FlowGraph.Joins (g : FlowGraph) (u v : String) : Prop :=
  ∃ e ∈ g.edges, e.source = u ∧ e.target = v

instance (g : FlowGraph) (u v : String) : Decidable (g.Joins u v) :=
  inferInstanceAs (Decidable (∃ e ∈ g.edges, e.source = u ∧ e.target = v))

/-- Some ids are those of a walk: they are ids of nodes, the first is where the walk starts, and
each is joined to the next. -/
structure FlowGraph.IsWalk (g : FlowGraph) (start : String) (w : List String) : Prop where
  starts : w.head? = some start
  known : ∀ v ∈ w, v ∈ g.nodes.map (·.id)
  joined : w.IsChain g.Joins

namespace FlowGraph.IsWalk

variable {g : FlowGraph} {u v : String} {w : List String}

theorem ne_nil (h : g.IsWalk u w) : w ≠ [] := by
  rintro rfl
  cases h.starts

theorem singleton (hu : u ∈ g.nodes.map (·.id)) : g.IsWalk u [u] := by
  refine ⟨rfl, ?_, List.isChain_singleton u⟩
  intro x hx
  rw [List.mem_singleton.mp hx]
  exact hu

/-- A walk begins one edge earlier. -/
theorem cons (hu : u ∈ g.nodes.map (·.id)) (hjoin : g.Joins u v) (h : g.IsWalk v w) :
    g.IsWalk u (u :: w) := by
  refine ⟨rfl, ?_, ?_⟩
  · intro x hx
    rcases List.mem_cons.mp hx with rfl | hx
    · exact hu
    · exact h.known x hx
  · rw [List.isChain_cons]
    refine ⟨?_, h.joined⟩
    intro x hx
    rw [h.starts] at hx
    rw [← Option.some.inj hx]
    exact hjoin

/-- A walk stays where it starts, or goes on from the end of an edge. -/
theorem eq_singleton_or (h : g.IsWalk u w) :
    w = [u] ∨ ∃ v w', w = u :: w' ∧ g.Joins u v ∧ g.IsWalk v w' := by
  match w, h with
  -- a walk of no ids starts nowhere
  | [], h => exact absurd rfl h.ne_nil
  | [x], h =>
    left
    rw [Option.some.inj h.starts]
  | x :: v :: t, h =>
    right
    obtain rfl : x = u := Option.some.inj h.starts
    obtain ⟨hjoin, hjoined⟩ := List.isChain_cons_cons.mp h.joined
    exact ⟨v, v :: t, rfl, hjoin, rfl, fun y hy => h.known y (List.mem_cons_of_mem _ hy), hjoined⟩

end FlowGraph.IsWalk

namespace Outline

/-! ## Paths -/

mutual

/-- The paths down from a node, each as the nodes it passes: the node alone, and the node followed
by a path down from one of its children. -/
def paths : Outline → List (List Outline)
  | ⟨id, kind, label, level, sourcePath, children, isBackReference⟩ =>
    let o : Outline := ⟨id, kind, label, level, sourcePath, children, isBackReference⟩
    [o] :: (rowPaths children).map (o :: ·)

/-- The paths down from the nodes of a row of siblings. -/
def rowPaths : List Outline → List (List Outline)
  | [] => []
  | o :: rest => paths o ++ rowPaths rest

end

/-- The ids that a path passes. -/
def pathIds (path : List Outline) : List String :=
  path.map (·.id)

theorem rowPaths_eq (row : List Outline) : rowPaths row = row.flatMap paths := by
  induction row with
  | nil => rfl
  | cons o rest ih => rw [rowPaths, ih, List.flatMap_cons]

/-- The node alone, then all paths that go on below one of its children. -/
theorem paths_eq (o : Outline) : o.paths = [o] :: (o.children.flatMap paths).map (o :: ·) := by
  obtain ⟨id, kind, label, level, sourcePath, children, isBackReference⟩ := o
  rw [paths, rowPaths_eq]

/-- A path stays at its first node, or goes on below one of the node's children. -/
theorem mem_paths {o : Outline} {path : List Outline} :
    path ∈ o.paths ↔ path = [o] ∨ ∃ c ∈ o.children, ∃ rest ∈ c.paths, path = o :: rest := by
  rw [paths_eq, List.mem_cons, List.mem_map]
  simp only [List.mem_flatMap]
  constructor
  · rintro (h | ⟨rest, ⟨c, hc, hrest⟩, rfl⟩)
    · exact Or.inl h
    · exact Or.inr ⟨c, hc, rest, hrest, rfl⟩
  · rintro (h | ⟨c, hc, rest, hrest, rfl⟩)
    · exact Or.inl h
    · exact Or.inr ⟨rest, ⟨c, hc, hrest⟩, rfl⟩

theorem exists_cons_of_mem_paths {o : Outline} {path : List Outline} (h : path ∈ o.paths) :
    ∃ rest, path = o :: rest := by
  rcases mem_paths.mp h with rfl | ⟨_, _, rest, _, rfl⟩
  · exact ⟨[], rfl⟩
  · exact ⟨rest, rfl⟩

/-- The ids on paths, in the same two cases. -/
theorem mem_ids_paths {o : Outline} {w : List String} :
    w ∈ o.paths.map pathIds ↔
      w = [o.id] ∨ ∃ c ∈ o.children, ∃ w' ∈ c.paths.map pathIds, w = o.id :: w' := by
  constructor
  · intro h
    obtain ⟨path, hpath, rfl⟩ := List.mem_map.mp h
    rcases mem_paths.mp hpath with rfl | ⟨c, hc, rest, hrest, rfl⟩
    · exact Or.inl rfl
    · exact Or.inr ⟨c, hc, pathIds rest, List.mem_map_of_mem hrest, rfl⟩
  · rintro (rfl | ⟨c, hc, w', hw', rfl⟩)
    · exact List.mem_map.mpr ⟨[o], mem_paths.mpr (Or.inl rfl), rfl⟩
    · obtain ⟨rest, hrest, rfl⟩ := List.mem_map.mp hw'
      exact List.mem_map.mpr
        ⟨o :: rest, mem_paths.mpr (Or.inr ⟨c, hc, rest, hrest, rfl⟩), rfl⟩

/-- If the children of a node have distinct ids, and paths below each of them are told apart by
their ids, then so are the paths below the node. -/
theorem nodup_ids_paths {o : Outline} (hids : o.children.Pairwise fun c d => c.id ≠ d.id)
    (hbelow : ∀ c ∈ o.children, (c.paths.map pathIds).Nodup) : (o.paths.map pathIds).Nodup := by
  have hmap : o.paths.map pathIds =
      [o.id] :: ((o.children.flatMap fun c => c.paths.map pathIds).map (o.id :: ·)) := by
    rw [paths_eq, List.map_cons, List.map_map, ← List.map_flatMap, List.map_map]
    rfl
  rw [hmap, List.nodup_cons]
  constructor
  · -- a path below a child passes the child
    intro hmem
    obtain ⟨w', hw', heq⟩ := List.mem_map.mp hmem
    obtain ⟨c, _, hc⟩ := List.mem_flatMap.mp hw'
    obtain ⟨path, hpath, rfl⟩ := List.mem_map.mp hc
    obtain ⟨rest, rfl⟩ := exists_cons_of_mem_paths hpath
    cases heq
  · apply List.Nodup.map fun _ _ h => (List.cons.inj h).2
    rw [List.nodup_flatMap]
    refine ⟨hbelow, hids.imp ?_⟩
    intro c d hne w hc hd
    obtain ⟨path, hpath, rfl⟩ := List.mem_map.mp hc
    obtain ⟨path', hpath', heq⟩ := List.mem_map.mp hd
    obtain ⟨rest, rfl⟩ := exists_cons_of_mem_paths hpath
    obtain ⟨rest', rfl⟩ := exists_cons_of_mem_paths hpath'
    exact hne (List.cons.inj heq).1.symm

/-! ## One step of the unfolding -/

theorem nodeOf?_eq_some {nodes : List FlowNode} {id : String} {n : FlowNode}
    (h : nodeOf? nodes id = some n) : n ∈ nodes ∧ n.id = id := by
  refine ⟨List.mem_reverse.mp (List.mem_of_find?_eq_some h), ?_⟩
  have hid := List.find?_some h
  simpa using hid

theorem exists_nodeOf? {nodes : List FlowNode} {id : String} (h : id ∈ nodes.map (·.id)) :
    ∃ n, nodeOf? nodes id = some n := by
  obtain ⟨n, hn, rfl⟩ := List.mem_map.mp h
  apply Option.isSome_iff_exists.mp
  rw [nodeOf?, List.find?_isSome]
  exact ⟨n, List.mem_reverse.mpr hn, by simp⟩

theorem id_unfold (nodes : List FlowNode) (adj : Graph.Adjacency) (depth : Nat) (level : Int)
    (path : List String) (n : FlowNode) : (unfold nodes adj depth level path n).id = n.id := by
  cases depth with
  | zero => rfl
  | succ depth => rfl

/-- What is shown below a node, `path` being the ids from it up to the root, for a target of one of
its edges. -/
def shown (nodes : List FlowNode) (adj : Graph.Adjacency) (depth : Nat) (level : Int)
    (path : List String) (child : FlowNode) : Outline :=
  if child.id ∈ path then leaf (level + 1) child true
  else unfold nodes adj depth (level + 1) (child.id :: path) child

theorem shown_of_mem (nodes : List FlowNode) (adj : Graph.Adjacency) (depth : Nat) (level : Int)
    {path : List String} {child : FlowNode} (h : child.id ∈ path) :
    shown nodes adj depth level path child = leaf (level + 1) child true :=
  if_pos h

theorem shown_of_not_mem (nodes : List FlowNode) (adj : Graph.Adjacency) (depth : Nat) (level : Int)
    {path : List String} {child : FlowNode} (h : child.id ∉ path) :
    shown nodes adj depth level path child =
      unfold nodes adj depth (level + 1) (child.id :: path) child :=
  if_neg h

theorem id_shown (nodes : List FlowNode) (adj : Graph.Adjacency) (depth : Nat) (level : Int)
    (path : List String) (child : FlowNode) :
    (shown nodes adj depth level path child).id = child.id := by
  unfold shown
  split
  · rfl
  · exact id_unfold ..

/-- The children are the targets of the edges, each once, as far as they are nodes. -/
theorem children_unfold (nodes : List FlowNode) (adj : Graph.Adjacency) (depth : Nat) (level : Int)
    (path : List String) (n : FlowNode) :
    (unfold nodes adj (depth + 1) level path n).children =
      ((adj.neighbours n.id).eraseDups.filterMap (nodeOf? nodes)).map
        (shown nodes adj depth level path) := by
  rw [List.map_filterMap]
  apply List.filterMap_congr
  intro target _
  cases hchild : nodeOf? nodes target with
  | none => rfl
  | some child =>
    obtain ⟨_, rfl⟩ := nodeOf?_eq_some hchild
    simp only [Option.map_some, shown, List.contains_iff_mem]

/-- The children of a node are what is shown for the nodes it is joined to. -/
theorem mem_children_unfold {g : FlowGraph} {depth : Nat} {level : Int} {path : List String}
    {n : FlowNode} {c : Outline} :
    c ∈ (unfold g.nodes (adjacencyOf g.edges) (depth + 1) level path n).children ↔
      ∃ child, nodeOf? g.nodes child.id = some child ∧ g.Joins n.id child.id ∧
        c = shown g.nodes (adjacencyOf g.edges) depth level path child := by
  rw [children_unfold, List.mem_map]
  constructor
  · rintro ⟨child, hmem, rfl⟩
    obtain ⟨target, htarget, hchild⟩ := List.mem_filterMap.mp hmem
    obtain ⟨_, rfl⟩ := nodeOf?_eq_some hchild
    rw [List.mem_eraseDups] at htarget
    exact ⟨child, hchild, mem_neighbours_adjacencyOf.mp htarget, rfl⟩
  · rintro ⟨child, hchild, hjoin, rfl⟩
    refine ⟨child, List.mem_filterMap.mpr ⟨child.id, ?_, hchild⟩, rfl⟩
    rw [List.mem_eraseDups]
    exact mem_neighbours_adjacencyOf.mpr hjoin

/-- No target is shown twice below a node, also if several edges lead to it. -/
theorem pairwise_children_unfold (nodes : List FlowNode) (adj : Graph.Adjacency)
    (depth : Nat) (level : Int) (path : List String) (n : FlowNode) :
    (unfold nodes adj (depth + 1) level path n).children.Pairwise fun c d => c.id ≠ d.id := by
  rw [children_unfold, List.pairwise_map, List.pairwise_filterMap]
  apply (nodup_eraseDups _).imp
  intro target target' hne child hchild child' hchild'
  rw [id_shown, id_shown, (nodeOf?_eq_some hchild).2, (nodeOf?_eq_some hchild').2]
  exact hne

/-! ## Paths are walks -/

theorem paths_leaf (level : Int) (n : FlowNode) (isBackReference : Bool) :
    (leaf level n isBackReference).paths = [[leaf level n isBackReference]] := by
  rw [paths_eq]
  rfl

/-- What stands in front of the end of a walk, with the ancestors of its start, one step on. -/
theorem passed_cons (above : List String) (u : String) {w : List String} (hw : w ≠ []) :
    above.reverse ++ (u :: w).dropLast = (u :: above).reverse ++ w.dropLast := by
  rw [List.dropLast_cons_of_ne_nil hw, List.reverse_cons, List.append_assoc]
  rfl

theorem nodup_passed_singleton {above : List String} {u : String} (h : (u :: above).Nodup) :
    (above.reverse ++ [u].dropLast).Nodup := by
  rw [List.dropLast_singleton, List.append_nil]
  exact List.nodup_reverse.mpr (List.nodup_cons.mp h).2

section Below

variable {g : FlowGraph} {above path : List String} {n child : FlowNode}

/-- The paths below a child pass the walks that visit none of the nodes above again before their
end, if this holds of the child when it is unfolded. -/
theorem mem_ids_paths_shown {depth : Nat} {level : Int} (hpath : path.Nodup)
    (hchild : child.id ∈ g.nodes.map (·.id))
    (hunfold : child.id ∉ path → ∀ w,
      w ∈ (unfold g.nodes (adjacencyOf g.edges) depth (level + 1) (child.id :: path)
          child).paths.map pathIds ↔
        g.IsWalk child.id w ∧ w.length ≤ depth + 1 ∧ (path.reverse ++ w.dropLast).Nodup)
    (w : List String) :
    w ∈ (shown g.nodes (adjacencyOf g.edges) depth level path child).paths.map pathIds ↔
      g.IsWalk child.id w ∧ w.length ≤ depth + 1 ∧ (path.reverse ++ w.dropLast).Nodup := by
  by_cases hmem : child.id ∈ path
  · rw [shown_of_mem _ _ _ _ hmem, paths_leaf]
    constructor
    · intro hw
      obtain rfl : w = [child.id] := List.mem_singleton.mp hw
      exact ⟨.singleton hchild, by simp, by simpa using hpath⟩
    · rintro ⟨hwalk, _, hdistinct⟩
      rcases hwalk.eq_singleton_or with rfl | ⟨v, w', rfl, _, hw'⟩
      · exact List.mem_singleton.mpr rfl
      · -- the walk would go on from a node that it may only end in
        exfalso
        rw [List.dropLast_cons_of_ne_nil hw'.ne_nil, List.nodup_append] at hdistinct
        exact hdistinct.2.2 _ (List.mem_reverse.mpr hmem) _ List.mem_cons_self rfl
  · rw [shown_of_not_mem _ _ _ _ hmem]
    exact hunfold hmem w

/-- The paths down from a node with the ancestors `above` pass the walks from the node that visit
none of the ancestors and no node twice before their end. -/
theorem mem_ids_paths_unfold (depth : Nat) (level : Int) (hn : n.id ∈ g.nodes.map (·.id))
    (hpath : (n.id :: above).Nodup) (w : List String) :
    w ∈ (unfold g.nodes (adjacencyOf g.edges) depth level (n.id :: above) n).paths.map pathIds ↔
      g.IsWalk n.id w ∧ w.length ≤ depth + 1 ∧ (above.reverse ++ w.dropLast).Nodup := by
  induction depth generalizing level above n w with
  | zero =>
    -- no level is left, so the node stands alone and longer walks are too long
    rw [unfold, paths_leaf]
    constructor
    · intro hw
      obtain rfl : w = [n.id] := List.mem_singleton.mp hw
      exact ⟨.singleton hn, Nat.le_refl _, nodup_passed_singleton hpath⟩
    · rintro ⟨hwalk, hlength, _⟩
      rcases hwalk.eq_singleton_or with rfl | ⟨v, w', rfl, _, hw'⟩
      · exact List.mem_singleton.mpr rfl
      · have hpos := List.length_pos_iff.mpr hw'.ne_nil
        rw [List.length_cons] at hlength
        omega
  | succ depth ih =>
    -- a child is a reference back, or the induction hypothesis holds of it, one level further down
    have hshown : ∀ {child : FlowNode}, nodeOf? g.nodes child.id = some child → ∀ w,
        w ∈ (shown g.nodes (adjacencyOf g.edges) depth level (n.id :: above) child).paths.map
            pathIds ↔
          g.IsWalk child.id w ∧ w.length ≤ depth + 1 ∧
            ((n.id :: above).reverse ++ w.dropLast).Nodup := by
      intro child hchild
      have hknown : child.id ∈ g.nodes.map (·.id) := List.mem_map_of_mem (nodeOf?_eq_some hchild).1
      apply mem_ids_paths_shown hpath hknown
      intro hnot w
      exact ih (level + 1) hknown (List.nodup_cons.mpr ⟨hnot, hpath⟩) w
    rw [mem_ids_paths, id_unfold]
    constructor
    · rintro (rfl | ⟨c, hc, w', hw', rfl⟩)
      · exact ⟨.singleton hn, by simp, nodup_passed_singleton hpath⟩
      · obtain ⟨child, hchild, hjoin, rfl⟩ := mem_children_unfold.mp hc
        obtain ⟨hwalk, hlength, hdistinct⟩ := (hshown hchild w').mp hw'
        rw [passed_cons above n.id hwalk.ne_nil]
        exact ⟨hwalk.cons hn hjoin, Nat.succ_le_succ hlength, hdistinct⟩
    · rintro ⟨hwalk, hlength, hdistinct⟩
      rcases hwalk.eq_singleton_or with rfl | ⟨v, w', rfl, hjoin, hw'⟩
      · exact Or.inl rfl
      · obtain ⟨child, hchild⟩ := exists_nodeOf? (hw'.known v (List.mem_of_head? hw'.starts))
        obtain ⟨_, rfl⟩ := nodeOf?_eq_some hchild
        rw [passed_cons above n.id hw'.ne_nil] at hdistinct
        refine Or.inr ⟨_, mem_children_unfold.mpr ⟨child, hchild, hjoin, rfl⟩, w', ?_, rfl⟩
        exact (hshown hchild w').mpr ⟨hw', Nat.le_of_succ_le_succ hlength, hdistinct⟩

/-- Paths are told apart by the ids they pass. -/
theorem nodup_ids_paths_unfold (nodes : List FlowNode) (adj : Graph.Adjacency) (depth : Nat)
    (level : Int) (path : List String) (n : FlowNode) :
    ((unfold nodes adj depth level path n).paths.map pathIds).Nodup := by
  induction depth generalizing level path n with
  | zero =>
    rw [unfold, paths_leaf]
    exact List.nodup_singleton _
  | succ depth ih =>
    apply nodup_ids_paths (pairwise_children_unfold ..)
    intro c hc
    rw [children_unfold] at hc
    obtain ⟨child, _, rfl⟩ := List.mem_map.mp hc
    unfold shown
    split
    · rw [paths_leaf]
      exact List.nodup_singleton _
    · exact ih ..

/-! ## Where paths end -/

/-- The node at the end of a path that passes the ids `passed` before: it tells how many these are,
and it is a reference back just if its own id is among them. -/
structure EndsAfter (passed : List String) (o : Outline) : Prop where
  level : o.level = passed.length
  back : o.isBackReference = true ↔ o.id ∈ passed
  bare : o.isBackReference = true → o.children = []

/-- A node that is unfolded is none of its ancestors, and fits them. -/
theorem endsAfter_unfold (nodes : List FlowNode) (adj : Graph.Adjacency) (depth : Nat)
    (hn : n.id ∉ above) :
    EndsAfter above.reverse (unfold nodes adj depth above.length (n.id :: above) n) := by
  have hlevel : (unfold nodes adj depth above.length (n.id :: above) n).level = above.length := by
    cases depth <;> rfl
  have hplain : (unfold nodes adj depth above.length (n.id :: above) n).isBackReference =
      false := by
    cases depth <;> rfl
  refine ⟨by rw [hlevel, List.length_reverse], ?_, ?_⟩
  · rw [hplain, id_unfold, List.mem_reverse]
    exact ⟨nofun, fun hmem => absurd hmem hn⟩
  · rw [hplain]
    exact nofun

/-- A leaf for one of the ancestors is a reference back. -/
theorem endsAfter_reference (hchild : child.id ∈ path) :
    EndsAfter path.reverse (leaf path.length child true) := by
  refine ⟨?_, ⟨fun _ => List.mem_reverse.mpr hchild, fun _ => rfl⟩, fun _ => rfl⟩
  rw [List.length_reverse]
  rfl

/-- Every path ends in a node that fits what it has passed, the ancestors of its first node
included. -/
theorem endsAfter_of_mem_paths_unfold (nodes : List FlowNode) (adj : Graph.Adjacency) (depth : Nat)
    (hpath : (n.id :: above).Nodup) {p : List Outline} {o : Outline}
    (hmem : p ∈ (unfold nodes adj depth above.length (n.id :: above) n).paths)
    (hlast : p.getLast? = some o) : EndsAfter (above.reverse ++ (pathIds p).dropLast) o := by
  induction depth generalizing above n p with
  | zero =>
    have hfirst := endsAfter_unfold nodes adj 0 (List.nodup_cons.mp hpath).1
    rw [unfold] at hfirst hmem
    rw [paths_leaf] at hmem
    obtain rfl := List.mem_singleton.mp hmem
    obtain rfl := Option.some.inj hlast
    simpa [pathIds] using hfirst
  | succ depth ih =>
    rcases mem_paths.mp hmem with rfl | ⟨c, hc, rest, hrest, rfl⟩
    · obtain rfl := Option.some.inj hlast
      simpa [pathIds] using endsAfter_unfold nodes adj (depth + 1) (List.nodup_cons.mp hpath).1
    · obtain ⟨after, rfl⟩ := exists_cons_of_mem_paths hrest
      rw [List.getLast?_cons_cons] at hlast
      have hids : pathIds (c :: after) ≠ [] := List.cons_ne_nil _ _
      -- the first node of the path becomes the last of the ancestors
      have hpassed : above.reverse ++ (pathIds (unfold nodes adj (depth + 1) above.length
          (n.id :: above) n :: c :: after)).dropLast =
          (n.id :: above).reverse ++ (pathIds (c :: after)).dropLast := by
        rw [← passed_cons above n.id hids]
        rfl
      rw [hpassed]
      rw [children_unfold] at hc
      obtain ⟨child, _, rfl⟩ := List.mem_map.mp hc
      -- below a reference back no path goes on
      by_cases hchild : child.id ∈ n.id :: above
      · rw [shown_of_mem _ _ _ _ hchild] at hrest hlast ⊢
        rw [paths_leaf] at hrest
        obtain ⟨_, rfl⟩ := List.cons.inj (List.mem_singleton.mp hrest)
        obtain rfl := Option.some.inj hlast
        simpa [pathIds] using endsAfter_reference hchild
      · rw [shown_of_not_mem _ _ _ _ hchild] at hrest hlast ⊢
        exact ih (List.nodup_cons.mpr ⟨hchild, hpath⟩) hrest hlast

end Below

/-! ## Roots -/

/-- Grouping by kind loses no node and adds none. -/
theorem mem_grouped {nodes : List FlowNode} {n : FlowNode} : n ∈ grouped nodes ↔ n ∈ nodes := by
  rw [grouped, List.mem_append, List.mem_flatMap]
  constructor
  · rintro (⟨kind, _, h⟩ | h)
    · exact (List.mem_filter.mp h).1
    · exact (List.mem_filter.mp h).1
  · intro hn
    -- nodes of other kinds come after the groups
    by_cases hkind : n.kind ∈ NodeKind.known
    · exact Or.inl ⟨n.kind, hkind, List.mem_filter.mpr ⟨hn, beq_self_eq_true _⟩⟩
    · exact Or.inr (List.mem_filter.mpr ⟨hn, by simpa using hkind⟩)

theorem nodup_ids_rootNodes (g : FlowGraph) : ((rootNodes g).map (·.id)).Nodup :=
  Ordered.nodup_map_firstBy _ _

/-- Entry points that are no nodes give no root, and every node gives one. -/
theorem mem_ids_rootNodes {g : FlowGraph} {id : String} :
    id ∈ (rootNodes g).map (·.id) ↔ id ∈ g.nodes.map (·.id) := by
  rw [rootNodes, Ordered.mem_map_firstBy]
  constructor
  · intro h
    obtain ⟨n, hn, rfl⟩ := List.mem_map.mp h
    rcases List.mem_append.mp hn with hentry | hn
    · obtain ⟨entry, _, hnode⟩ := List.mem_filterMap.mp hentry
      exact List.mem_map_of_mem (nodeOf?_eq_some hnode).1
    · exact List.mem_map_of_mem (mem_grouped.mp hn)
  · intro h
    obtain ⟨n, hn, rfl⟩ := List.mem_map.mp h
    exact List.mem_map_of_mem (List.mem_append_right _ (mem_grouped.mpr hn))

theorem ids_ofGraph (g : FlowGraph) (depth : Int) :
    (ofGraph g depth).map (·.id) = (rootNodes g).map (·.id) := by
  rw [ofGraph, List.map_map]
  apply List.map_congr_left
  intro n _
  exact id_unfold ..

/-! ## Whole outlines -/

/-- The outline shows just the walks of the graph from its root that have at most `depth` edges and
visit no node twice before their end, each on one path, and every path ends as it has to. -/
structure Unfolds (g : FlowGraph) (depth : Int) (root : Outline) : Prop where
  walks : ∀ w, w ∈ root.paths.map pathIds ↔
    g.IsWalk root.id w ∧ (w.length : Int) ≤ max 0 depth + 1 ∧ w.dropLast.Nodup
  once : (root.paths.map pathIds).Nodup
  ends : ∀ path ∈ root.paths, ∀ o, path.getLast? = some o → o.EndsAfter (pathIds path).dropLast

/-- Every outline of a graph shows the walks from its root. -/
theorem unfolds_of_mem_ofGraph {g : FlowGraph} {depth : Int} {root : Outline}
    (h : root ∈ ofGraph g depth) : Unfolds g depth root := by
  obtain ⟨n, hroot, rfl⟩ := List.mem_map.mp h
  have hn : n.id ∈ g.nodes.map (·.id) := mem_ids_rootNodes.mp (List.mem_map_of_mem hroot)
  have hpath : [n.id].Nodup := List.nodup_singleton _
  refine ⟨?_, nodup_ids_paths_unfold .., ?_⟩
  · intro w
    -- a depth below zero is no depth
    have hlength : w.length ≤ depth.toNat + 1 ↔ (w.length : Int) ≤ max 0 depth + 1 := by omega
    rw [mem_ids_paths_unfold _ _ hn hpath, id_unfold, hlength]
    rfl
  · intro path hmem o hlast
    exact endsAfter_of_mem_paths_unfold _ _ _ hpath hmem hlast

/-- The outlines of a graph have one root for each id of a node, and each is the unfolding of the
graph from its root. -/
theorem ofGraph_unfolds (g : FlowGraph) (depth : Int) :
    ((ofGraph g depth).map (·.id)).Nodup ∧
      (∀ id, id ∈ (ofGraph g depth).map (·.id) ↔ id ∈ g.nodes.map (·.id)) ∧
      ∀ root ∈ ofGraph g depth, Unfolds g depth root := by
  rw [ids_ofGraph]
  exact ⟨nodup_ids_rootNodes g, fun _ => mem_ids_rootNodes, fun _ => unfolds_of_mem_ofGraph⟩

end Outline

end SourceFlow
