import Mathlib.Data.List.Chain
import SourceFlow.Proofs.Graph.Depth

/-!
# Depth counts the nodes of routes

A route is a walk along neighbour lists that visits no node twice, except
that its last node may be one it has visited before. The search for the
depth follows just the routes: it leaves a branch at a node that the
branch has passed, which is where a route has to end. So the depth is the
largest number of nodes on a route from an entry point, cut off at the
limit (`lt_depth_iff`).
-/

namespace SourceFlow.Graph

/-! ## Routes -/

/-- Some nodes are those of a route that goes on from a branch which has passed `passed`: the route
begins at `start`, each node is a neighbour of the one before, and no node but the last was passed
or comes twice. -/
structure Adjacency.IsRoute (adj : Adjacency) (passed : List String) (start : String)
    (w : List String) : Prop where
  starts : w.head? = some start
  linked : w.IsChain fun u v => v ∈ adj.neighbours u
  distinct : w.dropLast.Nodup
  fresh : ∀ v ∈ w.dropLast, v ∉ passed

namespace Adjacency.IsRoute

variable {adj : Adjacency} {passed w : List String} {u v : String}

theorem ne_nil (h : adj.IsRoute passed u w) : w ≠ [] := by
  rintro rfl
  cases h.starts

theorem singleton (adj : Adjacency) (passed : List String) (u : String) :
    adj.IsRoute passed u [u] :=
  ⟨rfl, List.isChain_singleton u, List.nodup_nil, fun _ hv => absurd hv List.not_mem_nil⟩

/-- A route begins one node earlier, if that node was not passed. -/
theorem cons (hnew : u ∉ passed) (hnext : v ∈ adj.neighbours u)
    (h : adj.IsRoute (u :: passed) v w) : adj.IsRoute passed u (u :: w) := by
  have hdrop : (u :: w).dropLast = u :: w.dropLast := List.dropLast_cons_of_ne_nil h.ne_nil
  refine ⟨rfl, ?_, ?_, ?_⟩
  · rw [List.isChain_cons]
    refine ⟨?_, h.linked⟩
    intro x hx
    rw [h.starts] at hx
    rw [← Option.some.inj hx]
    exact hnext
  -- the new node was passed for the rest of the route, so it does not come again before the end
  · rw [hdrop, List.nodup_cons]
    exact ⟨fun hu => h.fresh u hu List.mem_cons_self, h.distinct⟩
  · rw [hdrop]
    intro x hx
    rcases List.mem_cons.mp hx with rfl | hx
    · exact hnew
    · exact fun hpassed => h.fresh x hx (List.mem_cons_of_mem _ hpassed)

/-- A route stays where it begins, or it goes on from a neighbour and does not come back before its
end. -/
theorem eq_singleton_or (h : adj.IsRoute passed u w) :
    w = [u] ∨ u ∉ passed ∧ ∃ v ∈ adj.neighbours u, ∃ w', w = u :: w' ∧
      adj.IsRoute (u :: passed) v w' := by
  match w, h with
  | [], h => exact absurd rfl h.ne_nil
  | [x], h =>
    left
    rw [Option.some.inj h.starts]
  | x :: v :: t, h =>
    right
    obtain rfl : x = u := Option.some.inj h.starts
    obtain ⟨hnext, hlinked⟩ := List.isChain_cons_cons.mp h.linked
    obtain ⟨hx, hdistinct⟩ : x ∉ (v :: t).dropLast ∧ (v :: t).dropLast.Nodup :=
      List.nodup_cons.mp h.distinct
    refine ⟨h.fresh x List.mem_cons_self, v, hnext, v :: t, rfl, rfl, hlinked, hdistinct, ?_⟩
    intro y hy hpassed
    rcases List.mem_cons.mp hpassed with rfl | hpassed
    · exact hx hy
    · exact h.fresh y (List.mem_cons_of_mem _ hy) hpassed

end Adjacency.IsRoute

/-! ## Levels -/

/-- There are as many levels below a node as a route from it has nodes behind the first, up to the
limit. -/
theorem le_levelsBelow_iff (adj : Adjacency) (levels : Nat) (passed : List String) (node : String)
    (k : Nat) :
    k ≤ levelsBelow adj levels passed node ↔
      k ≤ levels ∧ ∃ w, adj.IsRoute passed node w ∧ k < w.length := by
  induction levels generalizing passed node k with
  -- no level may be gone down, and any route has one node
  | zero =>
    constructor
    · intro hk
      obtain rfl : k = 0 := Nat.le_zero.mp hk
      exact ⟨Nat.le_refl 0, [node], .singleton adj passed node, Nat.zero_lt_one⟩
    · intro h
      exact h.1
  | succ levels ih =>
    cases k with
    | zero =>
      -- the node alone is a route
      constructor
      · intro _
        exact ⟨Nat.zero_le _, [node], .singleton adj passed node, Nat.zero_lt_one⟩
      · intro _
        exact Nat.zero_le _
    | succ k =>
      unfold levelsBelow
      split
      · -- a node that was passed ends every route
        rename_i hpassed
        constructor
        · intro hk
          omega
        · rintro ⟨_, w, hw, hlength⟩
          rcases hw.eq_singleton_or with rfl | ⟨hnew, _⟩
          · rw [List.length_singleton] at hlength
            omega
          · exact absurd (List.contains_iff_mem.mp hpassed) hnew
      · rename_i hnot
        have hnew : node ∉ passed := fun hmem => hnot (List.contains_iff_mem.mpr hmem)
        have hbound : ∀ next ∈ adj.neighbours node,
            1 + levelsBelow adj levels (node :: passed) next ≤ levels + 1 := by
          intro next _
          have hle := levelsBelow_le adj levels (node :: passed) next
          omega
        -- a deeper level lies below a neighbour, just as a longer route goes on from one
        rw [le_bestUpTo_iff (Nat.zero_le _) hbound]
        constructor
        · rintro (hzero | ⟨next, hnext, hk⟩)
          · omega
          · have hbelow : k ≤ levelsBelow adj levels (node :: passed) next := by omega
            obtain ⟨hle, w, hw, hlength⟩ := (ih _ _ _).mp hbelow
            exact ⟨Nat.succ_le_succ hle, node :: w, hw.cons hnew hnext, Nat.succ_lt_succ hlength⟩
        · rintro ⟨hle, w, hw, hlength⟩
          rcases hw.eq_singleton_or with rfl | ⟨_, next, hnext, w', rfl, hw'⟩
          · rw [List.length_singleton] at hlength
            omega
          · have hbelow : k ≤ levelsBelow adj levels (node :: passed) next :=
              (ih _ _ _).mpr ⟨Nat.le_of_succ_le_succ hle, w', hw', Nat.lt_of_succ_lt_succ hlength⟩
            exact Or.inr ⟨next, hnext, by omega⟩

/-- The depth is more than `n` just if the limit is and a route from an entry point has more than
`n` nodes. -/
theorem lt_depth_iff (entries : List String) (adj : Adjacency) (limit : Int) (n : Nat) :
    (n : Int) < depth entries adj limit ↔
      (n : Int) < limit ∧ ∃ entry ∈ entries, ∃ w, adj.IsRoute [] entry w ∧ n < w.length := by
  unfold depth
  split
  · rename_i hempty
    obtain rfl : entries = [] := List.isEmpty_iff.mp hempty
    constructor
    · intro hn
      omega
    · rintro ⟨_, entry, hentry, _⟩
      cases hentry
  · rename_i hsome
    have hbound : ∀ entry ∈ entries, levelsBelow adj (limit - 1).toNat [] entry ≤
        (limit - 1).toNat := fun entry _ => levelsBelow_le adj _ [] entry
    have hdeepest : (n : Int) < deepest entries adj (limit - 1).toNat ↔
        n ≤ bestUpTo (limit - 1).toNat (levelsBelow adj (limit - 1).toNat []) 0 entries := by
      unfold deepest
      omega
    rw [Int.lt_min, hdeepest, le_bestUpTo_iff (Nat.zero_le _) hbound]
    constructor
    · rintro ⟨hlimit, hzero | ⟨entry, hentry, hlevels⟩⟩
      · -- any entry point is a route of one node
        have hne : entries ≠ [] := fun hnil => hsome (List.isEmpty_iff.mpr hnil)
        obtain ⟨entry, hentry⟩ := List.exists_mem_of_ne_nil entries hne
        exact ⟨hlimit, entry, hentry, [entry], .singleton adj [] entry, Nat.lt_succ_of_le hzero⟩
      · exact ⟨hlimit, entry, hentry, ((le_levelsBelow_iff ..).mp hlevels).2⟩
    · rintro ⟨hlimit, entry, hentry, hroute⟩
      have hle : n ≤ (limit - 1).toNat := by omega
      exact ⟨hlimit, Or.inr ⟨entry, hentry, (le_levelsBelow_iff ..).mpr ⟨hle, hroute⟩⟩⟩

end SourceFlow.Graph
