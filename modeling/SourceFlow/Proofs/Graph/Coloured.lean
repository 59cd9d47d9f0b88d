import SourceFlow.Proofs.Graph.Soundness
import SourceFlow.Proofs.Ordered

/-!
# The search with colours

The search once more, with every part of its state kept on its own: a map
of colours, the path, the stack of frames and the cycles. Nothing ties
these together but the steps themselves, and looking up a colour that is
not there, cutting the path at a node that is not on it, or shortening an
empty path fails. It never does: the coloured search runs in step with the
search whose path is its stack, with the gray nodes always those of the
path, and comes to the same cycles.
-/

namespace SourceFlow.Graph

/-- The colour of a node: white before it is entered, gray on the path, black when finished. -/
inductive Colour where
  | white
  | gray
  | black
deriving DecidableEq, Repr

/-- State of the coloured search. The path begins with the start node, the stack with the current
one. -/
structure ColouredSearch where
  colour : List (String × Colour)
  path : List String := []
  stack : List Frame := []
  cycles : List (List String) := []

namespace ColouredSearch

/-- Paints a node gray and puts it on the path and the stack. -/
def enter (adj : Adjacency) (c : ColouredSearch) (node : String) : ColouredSearch :=
  { c with
    colour := Ordered.put node .gray c.colour
    path := c.path ++ [node]
    stack := ⟨node, adj.neighbours node⟩ :: c.stack }

/-- One step. Finishing a node needs a path to shorten, and a gray neighbour has to be found on the
path. -/
def step? (adj : Adjacency) (c : ColouredSearch) : Option ColouredSearch :=
  match c.stack with
  | [] => some c
  | ⟨node, []⟩ :: below =>
    if c.path.isEmpty then none
    else
      some { c with
        colour := Ordered.put node .black c.colour, path := c.path.dropLast, stack := below }
  | ⟨node, next :: rest⟩ :: below =>
    let looked := { c with stack := ⟨node, rest⟩ :: below }
    -- a neighbour without a colour is outside of the order and passed over, as a black one is
    match Ordered.get? c.colour next with
    | some .gray =>
      (c.path.idxOf? next).map fun i => { looked with cycles := c.cycles ++ [c.path.drop i] }
    | some .white => some (looked.enter adj next)
    | _ => some looked

def whites (c : ColouredSearch) : Nat :=
  c.colour.countP fun e => e.2 == .white

/-- How many looks and finishes the stack still holds. -/
def work (c : ColouredSearch) : Nat :=
  Search.work { frames := c.stack }

/-- Each step paints a white node or leaves less work, whatever colours, path and stack are. -/
theorem step?_decreases {adj : Adjacency} {c c' : ColouredSearch} (hne : c.stack ≠ [])
    (h : c.step? adj = some c') :
    c'.whites < c.whites ∨ c'.whites ≤ c.whites ∧ c'.work < c.work := by
  obtain ⟨colour, path, stack, cycles⟩ := c
  match stack, hne with
  | ⟨node, []⟩ :: below, _ =>
    right
    simp only [step?] at h
    split at h
    · cases h
    · obtain rfl := Option.some.inj h
      exact ⟨Ordered.countP_put_le (p := (· == Colour.white)) rfl node colour,
        by simp [work, Search.work]⟩
  | ⟨node, next :: rest⟩ :: below, _ =>
    have hwork : work ⟨colour, path, ⟨node, rest⟩ :: below, cycles⟩ <
        work ⟨colour, path, ⟨node, next :: rest⟩ :: below, cycles⟩ := by
      simp [work, Search.work]
    simp only [step?] at h
    split at h
    · obtain ⟨i, _, rfl⟩ := Option.map_eq_some_iff.mp h
      exact Or.inr ⟨Nat.le_refl _, hwork⟩
    · -- the stack grows, but a white node turns gray
      rename_i hwhite
      obtain rfl := Option.some.inj h
      exact Or.inl (Ordered.countP_put_lt (p := (· == Colour.white)) rfl rfl hwhite)
    · obtain rfl := Option.some.inj h
      exact Or.inr ⟨Nat.le_refl _, hwork⟩

/-- Steps until the stack is empty. -/
def run? (adj : Adjacency) (c : ColouredSearch) : Option ColouredSearch :=
  if c.stack = [] then some c
  else
    match _hstep : c.step? adj with
    | none => none
    | some next => run? adj next
termination_by (c.whites, c.work)
decreasing_by
  rename_i hne
  rcases step?_decreases hne _hstep with hlt | ⟨hle, hlt⟩
  · exact Prod.Lex.left _ _ hlt
  · rcases Nat.lt_or_eq_of_le hle with hlt' | heq
    · exact Prod.Lex.left _ _ hlt'
    · rw [heq]
      exact Prod.Lex.right _ hlt

/-- Searches from a start node, if it is white. It has to have a colour. -/
def explore? (adj : Adjacency) (c : ColouredSearch) (start : String) : Option ColouredSearch :=
  match Ordered.get? c.colour start with
  | none => none
  | some .white => run? adj (enter adj { c with path := [], stack := [] } start)
  | some _ => some c

/-- The search before its first start: every node of the order is white. -/
def init (order : List String) : ColouredSearch :=
  { colour := Ordered.ofPairs (order.map (·, .white)) }

/-- The cycles found by searching from every node of the order in turn, if nothing fails. -/
def cycles? (order : List String) (adj : Adjacency) : Option (List (List String)) :=
  (order.foldlM (explore? adj) (init order)).map (·.cycles)

/-! ## In step with the search -/

/-- The colour of a node in a state of the search. -/
def colourIn (order : List String) (s : Search) (x : String) : Option Colour :=
  if x ∈ order then
    some (if x ∈ s.onPathNodes then .gray else if x ∈ s.finished then .black else .white)
  else none

/-- The two searches are at the same point. -/
structure Agrees (order : List String) (c : ColouredSearch) (s : Search) : Prop where
  stack : c.stack = s.frames
  path : c.path = s.path
  cycles : c.cycles = s.cycles
  colour : ∀ x, Ordered.get? c.colour x = colourIn order s x

variable {order : List String} {adj : Adjacency} {c : ColouredSearch} {s s' : Search}

/-- The colour of a node that is on the path and finished as before is as before. -/
theorem colourIn_congr {x : String} (hpath : x ∈ s'.onPathNodes ↔ x ∈ s.onPathNodes)
    (hfin : x ∈ s'.finished ↔ x ∈ s.finished) : colourIn order s' x = colourIn order s x := by
  unfold colourIn
  by_cases hp : x ∈ s.onPathNodes
  · rw [if_pos hp, if_pos (hpath.mpr hp)]
  · rw [if_neg hp, if_neg (fun h => hp (hpath.mp h))]
    by_cases hf : x ∈ s.finished
    · rw [if_pos hf, if_pos (hfin.mpr hf)]
    · rw [if_neg hf, if_neg (fun h => hf (hfin.mp h))]

/-- Cutting the path at a node gives the cycle from that node on. -/
theorem idxOf?_cut {before after : List String} {x : String} (h : x ∉ before) :
    (before ++ x :: after).idxOf? x = some before.length := by
  induction before with
  | nil => simp [List.idxOf?_cons]
  | cons y rest ih =>
    have hne : y ≠ x := by
      rintro rfl
      exact h List.mem_cons_self
    have hrest : x ∉ rest := fun hmem => h (List.mem_cons_of_mem _ hmem)
    rw [List.cons_append, List.idxOf?_cons, ih hrest]
    simp [hne]

/-- Painting a node gray and putting it on the path are done together. -/
theorem agrees_enter (h : Agrees order c s) {node : String} (hmem : node ∈ order) :
    Agrees order (c.enter adj node) (s.enter adj node) := by
  refine ⟨?_, ?_, h.cycles, ?_⟩
  · simp only [enter, Search.enter, h.stack]
  · simp only [enter, Search.enter, h.path, Search.path, List.map_cons, List.reverse_cons]
  · intro x
    by_cases heq : x = node
    · subst heq
      simp [enter, colourIn, hmem, Search.onPathNodes_enter]
    · rw [enter, Ordered.get?_put_ne heq, h.colour x]
      symm
      apply colourIn_congr
      · simp [heq, Search.onPathNodes_enter]
      · rfl

/-- Looking at a neighbour changes only the stack. -/
theorem agrees_look {finished : List String} {node next : String} {rest : List String}
    {below : List Frame} {cycles : List (List String)}
    (h : Agrees order c ⟨finished, ⟨node, next :: rest⟩ :: below, cycles⟩) :
    Agrees order { c with stack := ⟨node, rest⟩ :: below }
      ⟨finished, ⟨node, rest⟩ :: below, cycles⟩ :=
  ⟨rfl, h.path, h.cycles, h.colour⟩

/-- Painting a node black and taking it off the path are done together. -/
theorem agrees_finish {finished : List String} {node : String} {below : List Frame}
    {cycles : List (List String)}
    (h : Agrees order c ⟨finished, ⟨node, []⟩ :: below, cycles⟩) (hmem : node ∈ order)
    (hnot : node ∉ below.map (·.node)) :
    Agrees order
      { c with
        colour := Ordered.put node .black c.colour, path := c.path.dropLast, stack := below }
      ⟨node :: finished, below, cycles⟩ := by
  refine ⟨rfl, ?_, h.cycles, ?_⟩
  · simp only [h.path, Search.path, List.map_cons, List.reverse_cons, List.dropLast_concat]
  · intro x
    by_cases heq : x = node
    · subst heq
      have hpath : x ∉ Search.onPathNodes ⟨x :: finished, below, cycles⟩ := hnot
      rw [Ordered.get?_put_self, colourIn, if_pos hmem, if_neg hpath]
      simp
    · rw [Ordered.get?_put_ne heq, h.colour x]
      symm
      apply colourIn_congr
      · simp [Search.onPathNodes, heq]
      · simp [heq]

/-- Each step of the search is a step of the coloured search, which does not fail. -/
theorem step?_agrees (h : Agrees order c s) (hinv : Search.Inv order adj s)
    (hstep : Search.Step order adj s s') : ∃ c', c.step? adj = some c' ∧ Agrees order c' s' := by
  have hstack := h.stack
  cases hstep with
  | @finish _ node below _ =>
    have hne : c.path.isEmpty = false := by
      simp [h.path, Search.path]
    have hnot : node ∉ below.map (·.node) :=
      (List.nodup_cons.mp (List.nodup_append.mp hinv.distinct).1).1
    refine ⟨_, ?_, agrees_finish h (hinv.within node List.mem_cons_self) hnot⟩
    simp only [step?, hstack, hne, Bool.false_eq_true, if_false]
  | @close finished node next rest below cycles before after hcut hbefore =>
    -- the neighbour is on the path, so it is gray, and the cut is where it is found
    have hon : next ∈ node :: below.map (·.node) := Search.mem_of_cut hcut
    have hgray : Ordered.get? c.colour next = some .gray := by
      rw [h.colour, colourIn, if_pos (hinv.mem_order_of_path hon)]
      exact congrArg some (if_pos hon)
    have hpath : c.path = before ++ next :: after := by
      rw [h.path, ← hcut]
      rfl
    refine ⟨{ c with stack := ⟨node, rest⟩ :: below, cycles := c.cycles ++ [next :: after] }, ?_,
      rfl, h.path, ?_, h.colour⟩
    · simp only [step?, hstack, hgray, hpath, idxOf?_cut hbefore, Option.map_some,
        List.drop_left]
    · simp only [h.cycles]
  -- neither on the path nor finished, so the neighbour is white
  | @enter _ node next rest below _ hmem hnew =>
    have hwhite : Ordered.get? c.colour next = some .white := by
      rw [h.colour, colourIn, if_pos hmem]
      rw [List.mem_append, not_or] at hnew
      simp only [Search.onPathNodes, List.map_cons, hnew.1, hnew.2, if_false]
    refine ⟨_, ?_, agrees_enter (agrees_look h) hmem⟩
    simp only [step?, hstack, hwhite]
  -- finished or outside of the order, so it is black or has no colour
  | @pass finished node next rest below _ hpath hold =>
    refine ⟨_, ?_, agrees_look h⟩
    have hcolour : Ordered.get? c.colour next = if next ∈ order then some .black else none := by
      rw [h.colour, colourIn]
      split
      · rename_i hmem
        simp only [Search.onPathNodes, List.map_cons, hpath, hold hmem, if_false, if_true]
      · rfl
    by_cases hmem : next ∈ order
    · simp only [step?, hstack, hcolour, hmem, if_true]
    · simp only [step?, hstack, hcolour, hmem, if_false]

/-- A run goes on with what a step leaves. -/
theorem run?_of_step? {c' : ColouredSearch} (hne : c.stack ≠ []) (h : c.step? adj = some c') :
    run? adj c = run? adj c' := by
  rw [run?, if_neg hne]
  split
  · rename_i hnone
    rw [hnone] at h
    cases h
  · rename_i hsome
    rw [hsome] at h
    rw [Option.some.inj h]

/-- Runs in step end in step. -/
theorem run?_agrees (h : Agrees order c s) (hinv : Search.Inv order adj s) :
    ∃ c', run? adj c = some c' ∧ Agrees order c' (Search.run order adj s) := by
  -- the induction follows the search that cannot fail
  fun_induction Search.run order adj s generalizing c with
  | case1 s hnil =>
    refine ⟨c, ?_, h⟩
    rw [run?, if_pos (h.stack.trans hnil)]
  | case2 s hne ih =>
    have hstep := Search.step_spec order adj s hne
    obtain ⟨c', hc', hagrees⟩ := step?_agrees h hinv hstep
    obtain ⟨c'', hc'', hagrees'⟩ := ih hagrees (hstep.inv hinv)
    refine ⟨c'', ?_, hagrees'⟩
    have hstack : c.stack ≠ [] := by
      rw [h.stack]
      exact hne
    rw [run?_of_step? hstack hc', hc'']

/-- So do searches from a start node of the order. -/
theorem explore?_agrees {start : String} (h : Agrees order c s) (hinv : Search.Inv order adj s)
    (hframes : s.frames = []) (hmem : start ∈ order) :
    ∃ c', explore? adj c start = some c' ∧ Agrees order c' (Search.explore order adj s start) := by
  -- between two starts the path and the stack are empty, so clearing them changes nothing
  have hpath : c.path = [] := by
    rw [h.path, Search.path, hframes]
    rfl
  have hstack : c.stack = [] := h.stack.trans hframes
  have hclear : { c with path := [], stack := [] } = c := by
    rw [← hpath, ← hstack]
  have hcolour : Ordered.get? c.colour start =
      some (if start ∈ s.finished then .black else .white) := by
    rw [h.colour, colourIn, if_pos hmem, Search.onPathNodes, hframes]
    rfl
  unfold explore? Search.explore
  by_cases hfin : start ∈ s.finished
  · refine ⟨c, ?_, ?_⟩
    · simp only [hcolour, hfin, if_true]
    · simpa [hfin] using h
  · obtain ⟨c', hrun, hagrees⟩ :=
      run?_agrees (agrees_enter h hmem) (Search.inv_enter hframes hmem hfin hinv)
    refine ⟨c', ?_, ?_⟩
    · simp only [hcolour, hfin, if_false, hclear]
      exact hrun
    · simpa [hfin] using hagrees

/-- And so do searches from many starts, one after the other. -/
theorem foldlM_explore?_agrees {starts : List String} (h : Agrees order c s)
    (hinv : Search.Inv order adj s) (hframes : s.frames = [])
    (hstarts : ∀ x ∈ starts, x ∈ order) :
    ∃ c', starts.foldlM (explore? adj) c = some c' ∧
      Agrees order c' (starts.foldl (Search.explore order adj) s) := by
  induction starts generalizing c s with
  | nil => exact ⟨c, rfl, h⟩
  | cons start rest ih =>
    have hmem := hstarts start List.mem_cons_self
    obtain ⟨c', hc', hagrees⟩ := explore?_agrees h hinv hframes hmem
    have hnext := Search.inv_explore hinv hframes hmem
    obtain ⟨c'', hc'', hagrees'⟩ := ih hagrees hnext (Search.frames_explore hframes start)
      fun x hx => hstarts x (List.mem_cons_of_mem _ hx)
    refine ⟨c'', ?_, hagrees'⟩
    rw [List.foldlM_cons, hc']
    exact hc''

/-- At first all nodes are white, and none is on the path or finished. -/
theorem agrees_init (order : List String) : Agrees order (init order) {} := by
  refine ⟨rfl, rfl, rfl, ?_⟩
  intro x
  rw [init, Ordered.ofPairs, Ordered.get?_foldl_put_const, colourIn]
  rfl

/-- The coloured search fails nowhere, ends, and finds the same cycles. -/
theorem cycles?_eq (order : List String) (adj : Adjacency) :
    cycles? order adj = some (Graph.cycles order adj) := by
  have hinv : Search.Inv order adj {} := Search.inv_init
  obtain ⟨c, hc, hagrees⟩ := foldlM_explore?_agrees (agrees_init order) hinv rfl fun _ hx => hx
  rw [cycles?, hc, Option.map_some, hagrees.cycles]
  rfl

end ColouredSearch

/-- The search finds only simple cycles on the nodes of the order, and nothing fails on the way:
kept as colours, path and stack on their own, it finds every colour and every gray neighbour on the
path that it looks for. -/
theorem cycles_sound (order : List String) (adj : Adjacency) :
    (∀ c ∈ cycles order adj, SimpleCycle order adj c) ∧
      ColouredSearch.cycles? order adj = some (cycles order adj) :=
  ⟨fun _ hc => simpleCycle_of_mem_cycles hc, ColouredSearch.cycles?_eq order adj⟩

end SourceFlow.Graph
