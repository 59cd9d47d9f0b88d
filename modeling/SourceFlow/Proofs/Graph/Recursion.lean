import Mathlib.Logic.Function.Iterate
import SourceFlow.Proofs.Graph.Coloured

/-!
# The search by recursion

The search as it is usually written: a visit paints its node gray, looks
at the neighbours in order and visits the white ones on the way, and
paints the node black at its end. There is no stack of frames; what is
still to be looked at is in the pending calls.

The search with a stack does the same. A frame stands for a call, and the
neighbours pending in it for what the call still has to look at: running
down the neighbours of the top frame comes to the state that looking at
them by recursion comes to, with the frames below untouched.
-/

namespace SourceFlow.Graph

/-- State of the recursive search. The path begins with the start node. -/
structure RecursiveSearch where
  colour : List (String × Colour)
  path : List String := []
  cycles : List (List String) := []

namespace RecursiveSearch

/-- How many nodes are white. -/
def whites (r : RecursiveSearch) : Nat :=
  r.colour.countP fun e => e.2 == .white

/-- Paints a node gray and puts it on the path. -/
def enter (r : RecursiveSearch) (node : String) : RecursiveSearch :=
  { r with colour := Ordered.put node .gray r.colour, path := r.path ++ [node] }

/-- Records the end of the path from a node on. -/
def record (r : RecursiveSearch) (node : String) : RecursiveSearch :=
  { r with cycles := r.cycles ++ [r.path.drop (r.path.idxOf node)] }

/-- Takes the last node off the path and paints it black. -/
def leave (r : RecursiveSearch) (node : String) : RecursiveSearch :=
  { r with colour := Ordered.put node .black r.colour, path := r.path.dropLast }

/-- Entering a white node leaves one white node less. -/
theorem whites_enter_lt {r : RecursiveSearch} {node : String}
    (h : Ordered.get? r.colour node = some .white) : (r.enter node).whites < r.whites :=
  Ordered.countP_put_lt (p := (· == Colour.white)) rfl rfl h

theorem whites_leave_le (r : RecursiveSearch) (node : String) :
    (r.leave node).whites ≤ r.whites :=
  Ordered.countP_put_le (p := (· == Colour.white)) rfl node r.colour

mutual

/-- Visits a white node: enters it, looks at its neighbours and leaves it. Fewer nodes are white
afterwards. -/
def visit (adj : Adjacency) (r : RecursiveSearch) (node : String)
    (hwhite : Ordered.get? r.colour node = some .white) :
    { r' : RecursiveSearch // r'.whites < r.whites } :=
  -- entering takes one white node away, and nothing below gives one back
  have hlt := whites_enter_lt hwhite
  let looked := look adj (r.enter node) (adj.neighbours node)
  ⟨looked.1.leave node,
    Nat.lt_of_le_of_lt (Nat.le_trans (whites_leave_le looked.1 node) looked.2) hlt⟩
termination_by (r.whites, 0)

/-- Looks at neighbours one after the other: a gray one closes a cycle, a white one is visited, and
any other, black or without a colour, is passed over. -/
def look (adj : Adjacency) (r : RecursiveSearch) :
    List String → { r' : RecursiveSearch // r'.whites ≤ r.whites }
  | [] => ⟨r, Nat.le_refl _⟩
  | next :: rest =>
    if Ordered.get? r.colour next = some .gray then
      let looked := look adj (r.record next) rest
      ⟨looked.1, looked.2⟩
    else if hwhite : Ordered.get? r.colour next = some .white then
      let visited := visit adj r next hwhite
      have hlt := visited.2
      let looked := look adj visited.1 rest
      ⟨looked.1, Nat.le_trans looked.2 (Nat.le_of_lt hlt)⟩
    else look adj r rest
termination_by pending => (r.whites, pending.length + 1)

end

/-- Visits a start node if it is white. -/
def explore (adj : Adjacency) (r : RecursiveSearch) (start : String) : RecursiveSearch :=
  if hwhite : Ordered.get? r.colour start = some .white then (visit adj r start hwhite).1 else r

/-- The search before its first start: every node of the order is white. -/
def init (order : List String) : RecursiveSearch :=
  { colour := Ordered.ofPairs (order.map (·, .white)) }

/-- The cycles found by visiting, in turn, every node of the order that is still white. -/
def cyclesOf (order : List String) (adj : Adjacency) : List (List String) :=
  (order.foldl (explore adj) (init order)).cycles

/-! ## What the calls do -/

variable {adj : Adjacency} {r : RecursiveSearch} {node next : String} {rest : List String}

/-- What a visit does, without the proof that it ends. -/
theorem visit_eq (h : Ordered.get? r.colour node = some .white) :
    (visit adj r node h).1 = (look adj (r.enter node) (adj.neighbours node)).1.leave node := by
  rw [visit]

theorem look_nil : (look adj r []).1 = r := by
  rw [look]

theorem look_gray (h : Ordered.get? r.colour next = some .gray) :
    (look adj r (next :: rest)).1 = (look adj (r.record next) rest).1 := by
  rw [look, if_pos h]

/-- A white neighbour is visited, and the rest is looked at in the state the visit leaves. -/
theorem look_white (h : Ordered.get? r.colour next = some .white) :
    (look adj r (next :: rest)).1 = (look adj (visit adj r next h).1 rest).1 := by
  have hgray : Ordered.get? r.colour next ≠ some .gray := by simp [h]
  rw [look, if_neg hgray, dif_pos h]

theorem look_pass (hgray : Ordered.get? r.colour next ≠ some .gray)
    (hwhite : Ordered.get? r.colour next ≠ some .white) :
    (look adj r (next :: rest)).1 = (look adj r rest).1 := by
  rw [look, if_neg hgray, dif_neg hwhite]

/-- Looking at neighbours leaves the path as it was: what a visit puts on it, it takes off. -/
theorem path_look (adj : Adjacency) (r : RecursiveSearch) (pending : List String) :
    (look adj r pending).1.path = r.path := by
  -- visits and looks call each other, so both are shown together
  induction r, pending using look.induct adj
    (fun r node h => (visit adj r node h).1.path = r.path) with
  | case1 r node h _ ih => rw [visit_eq, leave, ih, enter, List.dropLast_concat]
  | case2 r => rw [look_nil]
  | case3 r next rest h ih => rw [look_gray h, ih, record]
  | case4 r next rest _ h visited _ hvisit ih => rw [look_white h, ih, hvisit]
  | case5 r next rest hgray hwhite ih => rw [look_pass hgray hwhite, ih]

theorem path_visit (h : Ordered.get? r.colour node = some .white) :
    (visit adj r node h).1.path = r.path := by
  rw [visit_eq, leave, path_look, enter, List.dropLast_concat]

theorem path_explore (adj : Adjacency) (r : RecursiveSearch) (start : String) :
    (explore adj r start).path = r.path := by
  unfold explore
  split
  · rename_i hwhite
    exact path_visit hwhite
  · rfl

/-! ## Frames and pending calls -/

/-- The state with a stack of frames for the calls that have not returned. -/
def withStack (r : RecursiveSearch) (stack : List Frame) : ColouredSearch :=
  ⟨r.colour, r.path, stack, r.cycles⟩

theorem run?_of_stack_eq_nil {c : ColouredSearch} (h : c.stack = []) :
    ColouredSearch.run? adj c = some c := by
  rw [ColouredSearch.run?, if_pos h]

/-- A run that does not fail has a first step, unless there is no frame. -/
theorem exists_step?_of_run? {c d : ColouredSearch} (hne : c.stack ≠ [])
    (h : ColouredSearch.run? adj c = some d) :
    ∃ c', c.step? adj = some c' ∧ ColouredSearch.run? adj c' = some d := by
  rw [ColouredSearch.run?, if_neg hne] at h
  split at h
  · cases h
  · rename_i c' hstep
    exact ⟨c', hstep, h⟩

/-- A frame without pending neighbours returns. -/
theorem run?_leave {below : List Frame} {d : ColouredSearch}
    (h : ColouredSearch.run? adj (r.withStack (⟨node, []⟩ :: below)) = some d) :
    ColouredSearch.run? adj ((r.leave node).withStack below) = some d := by
  rcases exists_step?_of_run? (List.cons_ne_nil _ _) h with ⟨c, hstep, hrun⟩
  have hleave : (if r.path.isEmpty then none else some ((r.leave node).withStack below)) =
      some c := hstep
  split at hleave
  · cases hleave
  · rw [Option.some.inj hleave]
    exact hrun

/-- A gray neighbour is found on the path, and the cycle recorded is the one that the recursion
records. -/
theorem run?_gray {below : List Frame} {d : ColouredSearch}
    (hgray : Ordered.get? r.colour next = some .gray)
    (h : ColouredSearch.run? adj (r.withStack (⟨node, next :: rest⟩ :: below)) = some d) :
    ColouredSearch.run? adj ((r.record next).withStack (⟨node, rest⟩ :: below)) = some d := by
  rcases exists_step?_of_run? (List.cons_ne_nil _ _) h with ⟨c, hstep, hrun⟩
  simp only [ColouredSearch.step?, withStack, hgray] at hstep
  rcases Option.map_eq_some_iff.mp hstep with ⟨i, hi, hc⟩
  have hidx : r.path.idxOf next = i := by
    rw [List.idxOf_eq_getD_idxOf?, hi, Option.getD_some]
  rw [withStack, record, hidx, hc]
  exact hrun

/-- A white neighbour gets a frame of its own, with all its neighbours pending. -/
theorem run?_white {below : List Frame} {d : ColouredSearch}
    (hwhite : Ordered.get? r.colour next = some .white)
    (h : ColouredSearch.run? adj (r.withStack (⟨node, next :: rest⟩ :: below)) = some d) :
    ColouredSearch.run? adj ((r.enter next).withStack
      (⟨next, adj.neighbours next⟩ :: ⟨node, rest⟩ :: below)) = some d := by
  rcases exists_step?_of_run? (List.cons_ne_nil _ _) h with ⟨c, hstep, hrun⟩
  simp only [ColouredSearch.step?, withStack, hwhite] at hstep
  rw [← Option.some.inj hstep] at hrun
  exact hrun

/-- Any other neighbour is passed over. -/
theorem run?_pass {below : List Frame} {d : ColouredSearch}
    (hgray : Ordered.get? r.colour next ≠ some .gray)
    (hwhite : Ordered.get? r.colour next ≠ some .white)
    (h : ColouredSearch.run? adj (r.withStack (⟨node, next :: rest⟩ :: below)) = some d) :
    ColouredSearch.run? adj (r.withStack (⟨node, rest⟩ :: below)) = some d := by
  rcases exists_step?_of_run? (List.cons_ne_nil _ _) h with ⟨c, hstep, hrun⟩
  -- black or without a colour, it is not looked at again
  have hpass : c = r.withStack (⟨node, rest⟩ :: below) := by
    rcases hcolour : Ordered.get? r.colour next with _ | colour
    · simp only [ColouredSearch.step?, withStack, hcolour] at hstep
      exact (Option.some.inj hstep).symm
    · cases colour with
      | white => exact absurd hcolour hwhite
      | gray => exact absurd hcolour hgray
      | black =>
        simp only [ColouredSearch.step?, withStack, hcolour] at hstep
        exact (Option.some.inj hstep).symm
  rw [← hpass]
  exact hrun

/-- Running down the neighbours of the top frame is looking at them by recursion, whatever frames
are below. -/
theorem run?_look (adj : Adjacency) (r : RecursiveSearch) (pending : List String) :
    ∀ (node : String) (below : List Frame) (d : ColouredSearch),
      ColouredSearch.run? adj (r.withStack (⟨node, pending⟩ :: below)) = some d →
        ColouredSearch.run? adj ((look adj r pending).1.withStack (⟨node, []⟩ :: below)) =
          some d := by
  -- a visit goes from the frame of its node just pushed to that frame gone
  induction r, pending using look.induct adj
    (fun r node h => ∀ (below : List Frame) (d : ColouredSearch),
      ColouredSearch.run? adj
          ((r.enter node).withStack (⟨node, adj.neighbours node⟩ :: below)) = some d →
        ColouredSearch.run? adj ((visit adj r node h).1.withStack below) = some d) with
  | case1 r node h _ ih below d hrun =>
    rw [visit_eq]
    exact run?_leave (ih node below d hrun)
  | case2 r =>
    intro node below d hrun
    rw [look_nil]
    exact hrun
  | case3 r next rest h ih =>
    intro node below d hrun
    rw [look_gray h]
    exact ih node below d (run?_gray h hrun)
  | case4 r next rest _ h visited _ hvisit ih =>
    intro node below d hrun
    rw [look_white h]
    have hvisited := hvisit (⟨node, rest⟩ :: below) d (run?_white h hrun)
    exact ih node below d hvisited
  | case5 r next rest hgray hwhite ih =>
    intro node below d hrun
    rw [look_pass hgray hwhite]
    exact ih node below d (run?_pass hgray hwhite hrun)

/-- Searching from a start node with a stack is visiting it. -/
theorem explore?_eq {start : String} {d : ColouredSearch} (hpath : r.path = [])
    (h : ColouredSearch.explore? adj (r.withStack []) start = some d) :
    d = (explore adj r start).withStack [] := by
  rcases hcolour : Ordered.get? r.colour start with _ | colour
  · simp [ColouredSearch.explore?, withStack, hcolour] at h
  · by_cases hwhite : colour = .white
    · subst hwhite
      -- the search clears the path before it starts, and it is clear already
      simp only [ColouredSearch.explore?, withStack, hcolour] at h
      have hrun : ColouredSearch.run? adj
          ((r.enter start).withStack [⟨start, adj.neighbours start⟩]) = some d := by
        rw [← h, withStack, enter, hpath]
        rfl
      have hvisit := run?_leave (run?_look adj (r.enter start) _ start [] d hrun)
      rw [← visit_eq hcolour, run?_of_stack_eq_nil rfl] at hvisit
      rw [explore, dif_pos hcolour]
      exact (Option.some.inj hvisit).symm
    -- a node that is not white is not searched from in either way
    · have hsame : some (r.withStack []) = some d := by
        rw [← h]
        cases colour with
        | white => exact absurd rfl hwhite
        | gray => simp only [ColouredSearch.explore?, withStack, hcolour]
        | black => simp only [ColouredSearch.explore?, withStack, hcolour]
      rw [explore, dif_neg (by simp [hcolour, hwhite])]
      exact (Option.some.inj hsame).symm

/-- Searching from many nodes is visiting those that are still white. -/
theorem foldlM_explore?_eq {starts : List String} {d : ColouredSearch} (hpath : r.path = [])
    (h : starts.foldlM (ColouredSearch.explore? adj) (r.withStack []) = some d) :
    d = (starts.foldl (explore adj) r).withStack [] := by
  induction starts generalizing r with
  | nil => exact (Option.some.inj h).symm
  | cons start rest ih =>
    rw [List.foldlM_cons] at h
    rcases Option.bind_eq_some_iff.mp h with ⟨c, hstart, hrest⟩
    rw [explore?_eq hpath hstart] at hrest
    exact ih ((path_explore adj r start).trans hpath) hrest

/-- The search with a stack finds the cycles that the recursion finds, in the same order. -/
theorem cyclesOf_eq (order : List String) (adj : Adjacency) :
    cyclesOf order adj = Graph.cycles order adj := by
  rcases Option.map_eq_some_iff.mp (ColouredSearch.cycles?_eq order adj) with ⟨d, hd, hcycles⟩
  rw [← hcycles, foldlM_explore?_eq (r := init order) rfl hd]
  rfl

end RecursiveSearch

/-- Stepping comes to an end, wherever it begins: after finitely many steps there is no frame, and
that is the state in which the run ends. -/
theorem Search.exists_iterate_step (order : List String) (adj : Adjacency) (s : Search) :
    ∃ n, ((step order adj)^[n] s).frames = [] ∧ run order adj s = (step order adj)^[n] s := by
  fun_induction run order adj s with
  | case1 s hnil => exact ⟨0, hnil, rfl⟩
  | case2 s hne ih =>
    rcases ih with ⟨n, hframes, hrun⟩
    exact ⟨n + 1, hframes, hrun⟩

/-- The search with a stack ends, and it is the recursive search: it finds the same cycles in the
same order. -/
theorem cycles_eq_recursive (order : List String) (adj : Adjacency) :
    (∀ s : Search, ∃ n, ((Search.step order adj)^[n] s).frames = [] ∧
        Search.run order adj s = (Search.step order adj)^[n] s) ∧
      cycles order adj = RecursiveSearch.cyclesOf order adj :=
  ⟨Search.exists_iterate_step order adj, (RecursiveSearch.cyclesOf_eq order adj).symm⟩

end SourceFlow.Graph
