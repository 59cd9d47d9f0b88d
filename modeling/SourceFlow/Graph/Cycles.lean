import SourceFlow.Graph.Adjacency

/-!
# Cycle search

A depth-first search over the nodes of a given order. The nodes on the
path from the start to the current node are kept as frames, each with the
neighbours still to be looked at, so a path may be of any length. A
neighbour on the path closes a cycle, which is recorded as found: the
path from that neighbour on. A neighbour that is finished, or that is not
in the order, is passed over.

The search is a machine with one step. Each step either finishes a node,
or looks at one neighbour; it ends because every look uses up a neighbour
of a frame and every node is entered at most once.
-/

namespace SourceFlow.Graph

/-- A node on the path, with the neighbours not looked at yet. -/
structure Frame where
  node : String
  pending : List String
deriving DecidableEq, Repr

/-- State of the search: the finished nodes, the path with the current node first, and the cycles
found so far. -/
structure Search where
  finished : List String := []
  frames : List Frame := []
  cycles : List (List String) := []
deriving DecidableEq, Repr

namespace Search

def path (s : Search) : List String :=
  (s.frames.map (·.node)).reverse

def onPath (s : Search) (node : String) : Bool :=
  s.frames.any (·.node == node)

/-- Whether a node has been neither entered nor finished. -/
def isFresh (s : Search) (node : String) : Bool :=
  !s.onPath node && !s.finished.contains node

/-- The cycle that an edge from the current node back to a node of the path closes. -/
def cycleFrom (s : Search) (node : String) : List String :=
  s.path.dropWhile (· != node)

def enter (adj : Adjacency) (s : Search) (node : String) : Search :=
  { s with frames := ⟨node, adj.neighbours node⟩ :: s.frames }

/-- One step: looks at the next neighbour of the current node, or finishes the node if there is
none. Nothing happens if the path is empty. -/
def step (order : List String) (adj : Adjacency) (s : Search) : Search :=
  match s.frames with
  | [] => s
  | ⟨node, []⟩ :: below => { s with frames := below, finished := node :: s.finished }
  | ⟨node, next :: rest⟩ :: below =>
    let looked := { s with frames := ⟨node, rest⟩ :: below }
    -- a node of the path closes a cycle each time an edge leads back to it
    if s.onPath next then { looked with cycles := s.cycles ++ [s.cycleFrom next] }
    -- nodes outside the order are passed over
    else if order.contains next && !s.finished.contains next then looked.enter adj next
    else looked

/-! ## Termination -/

/-- How many entries of the order are fresh. -/
def freshCount (order : List String) (s : Search) : Nat :=
  (order.filter s.isFresh).length

/-- How many looks and finishes the path still holds. -/
def work (s : Search) : Nat :=
  (s.frames.flatMap fun f => f.node :: f.pending).length

theorem length_filter_lt {p q : String → Bool} {order : List String}
    (himp : ∀ x, q x = true → p x = true) {v : String} (hv : v ∈ order) (hp : p v = true)
    (hq : q v = false) : (order.filter q).length < (order.filter p).length := by
  induction order with
  | nil => cases hv
  | cons x rest ih =>
    have hle : (rest.filter q).length ≤ (rest.filter p).length := by
      rw [← List.countP_eq_length_filter, ← List.countP_eq_length_filter]
      exact List.countP_mono_left fun y _ hy => himp y hy
    rw [List.filter_cons, List.filter_cons]
    rcases List.mem_cons.mp hv with rfl | hmem
    · simp only [hp, hq, if_true, Bool.false_eq_true, if_false, List.length_cons]
      omega
    · have hlt := ih hmem
      by_cases hx : q x = true
      · simp only [hx, himp x hx, if_true, List.length_cons]
        omega
      · simp only [hx, if_false, Bool.false_eq_true]
        split
        · simp only [List.length_cons]; omega
        · exact hlt

/-- Each step enters a fresh node or leaves less work. -/
theorem step_decreases (order : List String) (adj : Adjacency) (s : Search)
    (h : s.frames ≠ []) :
    (s.step order adj).freshCount order < s.freshCount order ∨
      (s.step order adj).freshCount order = s.freshCount order ∧
        (s.step order adj).work < s.work := by
  obtain ⟨finished, frames, cycles⟩ := s
  match frames, h with
  | ⟨node, []⟩ :: below, _ =>
    right
    constructor
    · -- the finished node moves from the path to the finished nodes
      have hf : ∀ x, isFresh ⟨node :: finished, below, cycles⟩ x =
          isFresh ⟨finished, ⟨node, []⟩ :: below, cycles⟩ x := by
        intro x
        by_cases hx : node = x
        · subst hx
          simp [isFresh, onPath]
        · have hb : (node == x) = false := by simpa using hx
          have hx' : ¬ x = node := fun h => hx h.symm
          simp [isFresh, onPath, hb, hx']
      simp only [step, freshCount]
      rw [List.filter_congr fun x _ => hf x]
    · simp [step, work]
  | ⟨node, next :: rest⟩ :: below, _ =>
    have hlooked : ∀ (cs : List (List String)) (x : String),
        isFresh ⟨finished, ⟨node, rest⟩ :: below, cs⟩ x =
          isFresh ⟨finished, ⟨node, next :: rest⟩ :: below, cycles⟩ x := fun _ _ => rfl
    by_cases hpath : onPath ⟨finished, ⟨node, next :: rest⟩ :: below, cycles⟩ next = true
    · right
      refine ⟨?_, ?_⟩
      · simp only [step, hpath, if_true, freshCount]
        rw [List.filter_congr fun x _ => hlooked _ x]
      · simp only [step, hpath, if_true, work, List.flatMap_cons, List.length_append,
          List.length_cons]
        omega
    · by_cases hnew : (order.contains next && !finished.contains next) = true
      · left
        -- entering a fresh node of the order
        have hmem : next ∈ order := by
          have h := (Bool.and_eq_true _ _ ▸ hnew : _ ∧ _).1
          simpa using h
        have hnf : finished.contains next = false := by
          have h := (Bool.and_eq_true _ _ ▸ hnew : _ ∧ _).2
          simpa using h
        have hp : onPath ⟨finished, ⟨node, next :: rest⟩ :: below, cycles⟩ next = false := by
          simpa using hpath
        simp only [step, hp, Bool.false_eq_true, if_false, hnew, if_true, freshCount, enter]
        refine length_filter_lt ?_ hmem ?_ ?_
        · intro x hx
          simp only [isFresh, onPath, List.any_cons, Bool.and_eq_true, Bool.not_eq_true',
            Bool.or_eq_false_iff] at hx ⊢
          exact ⟨hx.1.2, hx.2⟩
        · simp only [isFresh, hp, hnf, Bool.not_false, Bool.and_self]
        · simp [isFresh, onPath]
      · right
        have hp : onPath ⟨finished, ⟨node, next :: rest⟩ :: below, cycles⟩ next = false := by
          simpa using hpath
        have hn : (order.contains next && !finished.contains next) = false := by
          simpa using hnew
        refine ⟨?_, ?_⟩
        · simp only [step, hp, hn, Bool.false_eq_true, if_false, freshCount]
          rw [List.filter_congr fun x _ => hlooked _ x]
        · simp only [step, hp, hn, Bool.false_eq_true, if_false, work, List.flatMap_cons,
            List.length_append, List.length_cons]
          omega

/-! ## The search -/

/-- Steps until the path is empty. -/
def run (order : List String) (adj : Adjacency) (s : Search) : Search :=
  if s.frames = [] then s else run order adj (s.step order adj)
termination_by (s.freshCount order, s.work)
decreasing_by
  rename_i h
  rcases step_decreases order adj s h with hlt | ⟨heq, hlt⟩
  · exact Prod.Lex.left _ _ hlt
  · rw [heq]
    exact Prod.Lex.right _ hlt

/-- Searches from a start node, unless it is finished already. -/
def explore (order : List String) (adj : Adjacency) (s : Search) (start : String) : Search :=
  if s.finished.contains start then s else run order adj (s.enter adj start)

end Search

/-- The cycles found by searching from every node of the order in turn. -/
def cycles (order : List String) (adj : Adjacency) : List (List String) :=
  (order.foldl (Search.explore order adj) {}).cycles

end SourceFlow.Graph
