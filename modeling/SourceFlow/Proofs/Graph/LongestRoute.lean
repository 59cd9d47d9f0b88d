import Mathlib.Data.List.Perm.Subperm
import Mathlib.Order.Lattice.Nat
import SourceFlow.Proofs.Graph.Routes
import SourceFlow.Proofs.Ordered

/-!
# The depth is that of the longest route

A route cannot go on for ever: all its nodes but the last have neighbours
and are different, so it has at most one node more than there are entries
in the graph. The depth is the number of nodes on the longest route from an
entry point, or the limit if that is smaller (`depth_eq_longest_route`).

The search gives up a row of neighbours once it has reached the limit. A
search that always looks at all of them finds the same depth.
-/

namespace SourceFlow.Graph

/-! ## Searching without shortcuts -/

/-- The largest of some values, zero without any. -/
def largest (values : List Nat) : Nat :=
  values.foldl max 0

/-- As `levelsBelow`, looking at every neighbour. -/
def levelsBelowAll (adj : Adjacency) : Nat → List String → String → Nat
  | 0, _, _ => 0
  | levels + 1, passed, node =>
    if passed.contains node then 0
    else
      largest ((adj.neighbours node).map fun next =>
        1 + levelsBelowAll adj levels (node :: passed) next)

/-- As `depth`, looking at every neighbour and every entry point. -/
def depthOfAll (entries : List String) (adj : Adjacency) (limit : Int) : Int :=
  if entries.isEmpty then 0
  else min limit ((1 + largest (entries.map (levelsBelowAll adj (limit - 1).toNat [])) : Nat))

/-- Values that are not larger than the best change nothing. -/
theorem foldl_max_of_le {best : Nat} {values : List Nat} (h : ∀ v ∈ values, v ≤ best) :
    values.foldl max best = best := by
  induction values with
  | nil => rfl
  | cons v rest ih =>
    rw [List.foldl_cons, Nat.max_eq_left (h v List.mem_cons_self)]
    exact ih fun w hw => h w (List.mem_cons_of_mem _ hw)

/-- Once the limit is reached, looking further changes nothing. -/
theorem bestUpTo_eq_foldl {α : Type} {cap : Nat} {f : α → Nat} {xs : List α}
    (hf : ∀ x ∈ xs, f x ≤ cap) (best : Nat) :
    bestUpTo cap f best xs = (xs.map f).foldl max best := by
  induction xs generalizing best with
  | nil => rfl
  | cons x rest ih =>
    have hrest : ∀ y ∈ rest, f y ≤ cap := fun y hy => hf y (List.mem_cons_of_mem _ hy)
    rw [List.map_cons, List.foldl_cons, bestUpTo]
    split
    · rename_i hcap
      refine (foldl_max_of_le ?_).symm
      intro v hv
      rcases List.mem_map.mp hv with ⟨y, hy, rfl⟩
      exact Nat.le_trans (hrest y hy) hcap
    · exact ih hrest _

/-- Giving up a row of neighbours early misses no level. -/
theorem levelsBelow_eq_all (adj : Adjacency) (levels : Nat) (passed : List String)
    (node : String) :
    levelsBelow adj levels passed node = levelsBelowAll adj levels passed node := by
  induction levels generalizing passed node with
  | zero => rfl
  | succ levels ih =>
    have hbound : ∀ next ∈ adj.neighbours node,
        1 + levelsBelow adj levels (node :: passed) next ≤ levels + 1 := by
      intro next _
      have hle := levelsBelow_le adj levels (node :: passed) next
      omega
    unfold levelsBelow levelsBelowAll
    rw [bestUpTo_eq_foldl hbound]
    simp only [ih, largest]

/-- So the search without shortcuts finds the same depth. -/
theorem depth_eq_ofAll (entries : List String) (adj : Adjacency) (limit : Int) :
    depth entries adj limit = depthOfAll entries adj limit := by
  have hbound : ∀ entry ∈ entries, levelsBelow adj (limit - 1).toNat [] entry ≤
      (limit - 1).toNat := fun entry _ => levelsBelow_le adj _ [] entry
  have hsame : levelsBelow adj (limit - 1).toNat [] = levelsBelowAll adj (limit - 1).toNat [] := by
    funext entry
    exact levelsBelow_eq_all adj _ [] entry
  unfold depth depthOfAll deepest
  rw [bestUpTo_eq_foldl hbound, hsame]
  rfl

/-! ## The longest route -/

/-- How many nodes there are on walks from an entry point that visit no node twice before their
end. -/
def walkLengths (entries : List String) (adj : Adjacency) : Set Nat :=
  {k | ∃ w : List String, w.length = k ∧ (∃ entry ∈ entries, w.head? = some entry) ∧
    (w.IsChain fun u v => v ∈ adj.neighbours u) ∧ w.dropLast.Nodup}

/-- Walks from an entry point are routes that have passed nothing. -/
theorem mem_walkLengths {entries : List String} {adj : Adjacency} {k : Nat} :
    k ∈ walkLengths entries adj ↔
      ∃ entry ∈ entries, ∃ w, adj.IsRoute [] entry w ∧ w.length = k := by
  constructor
  · rintro ⟨w, hlength, ⟨entry, hentry, hstarts⟩, hlinked, hdistinct⟩
    exact ⟨entry, hentry, w, ⟨hstarts, hlinked, hdistinct, fun _ _ => List.not_mem_nil⟩, hlength⟩
  · rintro ⟨entry, hentry, w, hw, hlength⟩
    exact ⟨w, hlength, ⟨entry, hentry, hw.starts⟩, hw.linked, hw.distinct⟩

/-- All nodes of a walk but the last have neighbours. -/
theorem exists_next_of_mem_dropLast {adj : Adjacency} {w : List String}
    (h : w.IsChain fun u v => v ∈ adj.neighbours u) {u : String} (hu : u ∈ w.dropLast) :
    ∃ v, v ∈ adj.neighbours u := by
  induction w with
  | nil => cases hu
  | cons x rest ih =>
    cases rest with
    | nil => cases hu
    | cons y rest =>
      rcases List.isChain_cons_cons.mp h with ⟨hxy, hlinked⟩
      rcases List.mem_cons.mp hu with rfl | hmem
      · exact ⟨y, hxy⟩
      · exact ih hlinked hmem

/-- A node with a neighbour has an entry in the graph. -/
theorem mem_names_of_mem_neighbours {adj : Adjacency} {u v : String}
    (h : v ∈ adj.neighbours u) : u ∈ Ordered.names adj := by
  rw [← Ordered.isSome_get?_iff]
  unfold Adjacency.neighbours at h
  cases hget : Ordered.get? adj u with
  | none => rw [hget] at h; cases h
  | some _ => rfl

/-- A route has at most one node more than there are nodes with neighbours. -/
theorem le_of_mem_walkLengths {entries : List String} {adj : Adjacency} {k : Nat}
    (h : k ∈ walkLengths entries adj) : k ≤ adj.length + 1 := by
  rcases h with ⟨w, rfl, _, hlinked, hdistinct⟩
  -- all nodes but the last have entries, and they are different
  have hnames : w.dropLast ⊆ Ordered.names adj := by
    intro u hu
    rcases exists_next_of_mem_dropLast hlinked hu with ⟨v, hv⟩
    exact mem_names_of_mem_neighbours hv
  have hle := (List.subperm_of_subset hdistinct hnames).length_le
  rw [List.length_dropLast, Ordered.names, List.length_map] at hle
  omega

/-- If there are entry points, some route from one of them is longest. -/
theorem exists_isGreatest_walkLengths {entries : List String} (hentries : entries ≠ [])
    (adj : Adjacency) : ∃ k, IsGreatest (walkLengths entries adj) k := by
  have hbdd : BddAbove (walkLengths entries adj) :=
    ⟨adj.length + 1, fun _ hk => le_of_mem_walkLengths hk⟩
  have hnonempty : (walkLengths entries adj).Nonempty := by
    rcases List.exists_mem_of_ne_nil entries hentries with ⟨entry, hentry⟩
    exact ⟨1, mem_walkLengths.mpr ⟨entry, hentry, [entry], .singleton adj [] entry, rfl⟩⟩
  exact ⟨sSup (walkLengths entries adj), Nat.sSup_mem hnonempty hbdd, fun _ h => le_csSup hbdd h⟩

/-- The depth is the length of the longest route, cut off at the limit. -/
theorem depth_eq_min {entries : List String} {adj : Adjacency} {longest : Nat}
    (h : IsGreatest (walkLengths entries adj) longest) (limit : Int) :
    depth entries adj limit = min limit longest := by
  rcases mem_walkLengths.mp h.1 with ⟨entry, hentry, w, hw, rfl⟩
  have hpos : 0 < w.length := List.length_pos_of_ne_nil hw.ne_nil
  have hdepth : depth entries adj limit = min limit (deepest entries adj (limit - 1).toNat) := by
    rw [depth, if_neg]
    rw [List.isEmpty_iff]
    rintro rfl
    cases hentry
  have hdeepest : 0 < deepest entries adj (limit - 1).toNat := by
    unfold deepest
    omega
  -- both sides exceed the same natural numbers
  have hiff : ∀ n : Nat, (n : Int) < depth entries adj limit ↔
      (n : Int) < limit ∧ n < w.length := by
    intro n
    rw [lt_depth_iff]
    refine and_congr_right fun _ => ⟨?_, ?_⟩
    · rintro ⟨entry', hentry', w', hw', hn⟩
      exact Nat.lt_of_lt_of_le hn (h.2 (mem_walkLengths.mpr ⟨entry', hentry', w', hw', rfl⟩))
    · intro hn
      exact ⟨entry, hentry, w, hw, hn⟩
  -- one number just below the minimum and the minimum itself are enough
  have hbelow := hiff (min limit w.length - 1).toNat
  have habove := hiff (min limit w.length).toNat
  omega

/-- Without entry points the depth is zero. With entry points it is the number of nodes on the
longest walk from one of them that visits no node twice before its end, or the limit, whatever that
is, if it is smaller. A search that looks at everything finds the same, and the order in which entry
points and neighbours are listed does not matter. -/
theorem depth_eq_longest_route (entries : List String) (adj : Adjacency) (limit : Int) :
    (entries = [] → depth entries adj limit = 0) ∧
      (entries ≠ [] → ∃ longest, IsGreatest (walkLengths entries adj) longest ∧
        depth entries adj limit = min limit longest) ∧
      depth entries adj limit = depthOfAll entries adj limit ∧
      ∀ (entries' : List String) (adj' : Adjacency), entries.Perm entries' →
        (∀ u, (adj.neighbours u).Perm (adj'.neighbours u)) →
        depth entries adj limit = depth entries' adj' limit := by
  refine ⟨?_, ?_, depth_eq_ofAll entries adj limit, ?_⟩
  · rintro rfl
    rfl
  · intro hentries
    rcases exists_isGreatest_walkLengths hentries adj with ⟨longest, hlongest⟩
    exact ⟨longest, hlongest, depth_eq_min hlongest limit⟩
  · intro entries' adj' hperm hneighbours
    exact depth_congr (fun _ => hperm.mem_iff) (fun u _ => (hneighbours u).mem_iff) limit

/-- A loop of two nodes with a third below the second. -/
def loopWithTail : Adjacency :=
  [("a", ["b"]), ("b", ["c", "a"])]

/-- The same with everything in another order. -/
def loopWithTailTurned : Adjacency :=
  [("b", ["a", "c"]), ("a", ["b"])]

/-- Neighbours come in another order, and are the same. -/
theorem loopWithTail_turned (u : String) :
    (loopWithTail.neighbours u).Perm (loopWithTailTurned.neighbours u) := by
  by_cases ha : u = "a"
  · rw [ha]
    decide
  · by_cases hb : u = "b"
    · rw [hb]
      decide
    · have ha' : "a" ≠ u := Ne.symm ha
      have hb' : "b" ≠ u := Ne.symm hb
      simp [loopWithTail, loopWithTailTurned, Adjacency.neighbours, Ordered.get?, ha', hb']

/-- From `a` the longest walk comes back to `a`, and its last node counts: three nodes, in either
order. -/
theorem depth_eq_longest_route_loopWithTail :
    depth [] loopWithTail 7 = 0 ∧ IsGreatest (walkLengths ["a"] loopWithTail) 3 ∧
      depth ["a"] loopWithTail 7 = 3 ∧ depth ["a"] loopWithTailTurned 7 = 3 := by
  have hempty := (depth_eq_longest_route [] loopWithTail 7).1 rfl
  have hdepth : depth ["a"] loopWithTail 7 = 3 := by decide
  rcases depth_eq_longest_route ["a"] loopWithTail 7 with ⟨_, hlongest, _, horder⟩
  rcases hlongest (by decide) with ⟨longest, hgreatest, heq⟩
  -- the depth is three, so the longest walk is not shorter, and the limit of seven cuts nothing off
  obtain rfl : longest = 3 := by omega
  exact ⟨hempty, hgreatest, hdepth,
    (horder ["a"] loopWithTailTurned (List.Perm.refl _) loopWithTail_turned).symm.trans hdepth⟩

end SourceFlow.Graph
