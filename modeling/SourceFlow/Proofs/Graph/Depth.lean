import SourceFlow.Graph.Depth

/-!
# Depth does not depend on order

A search that stops once it has reached the limit still finds the largest
value, because no value is above the limit. So the depth depends only on
which nodes are entry points and which are neighbours, not on the order in
which they come or how often.
-/

namespace SourceFlow.Graph

/-! ## The largest value -/

/-- Values below the limit are found whenever they are there. -/
theorem le_bestUpTo_iff {α : Type} {cap best : Nat} {f : α → Nat} {xs : List α}
    (hbest : best ≤ cap) (hf : ∀ x ∈ xs, f x ≤ cap) (k : Nat) :
    k ≤ bestUpTo cap f best xs ↔ k ≤ best ∨ ∃ x ∈ xs, k ≤ f x := by
  induction xs generalizing best with
  | nil => simp [bestUpTo]
  | cons x rest ih =>
    have hx : f x ≤ cap := hf x List.mem_cons_self
    have hrest : ∀ y ∈ rest, f y ≤ cap := fun y hy => hf y (List.mem_cons_of_mem _ hy)
    have hhead : k ≤ max best (f x) ↔ k ≤ best ∨ k ≤ f x := by omega
    simp only [bestUpTo, List.mem_cons, exists_eq_or_imp]
    split
    · -- the limit is reached, and nothing later is larger
      rename_i hcap
      constructor
      · intro h
        rcases hhead.mp h with h | h
        · exact Or.inl h
        · exact Or.inr (Or.inl h)
      · intro h
        rcases h with h | h | ⟨y, hy, h⟩
        · exact hhead.mpr (Or.inl h)
        · exact hhead.mpr (Or.inr h)
        · have hle := hrest y hy
          omega
    · rw [ih (by omega) hrest, hhead, or_assoc]

/-- No value is above the limit, so the largest is not. -/
theorem bestUpTo_le {α : Type} {cap best : Nat} {f : α → Nat} {xs : List α} (hbest : best ≤ cap)
    (hf : ∀ x ∈ xs, f x ≤ cap) : bestUpTo cap f best xs ≤ cap := by
  rcases (le_bestUpTo_iff hbest hf _).mp (Nat.le_refl _) with h | ⟨x, hx, h⟩
  · exact Nat.le_trans h hbest
  · exact Nat.le_trans h (hf x hx)

/-- The largest value depends only on which values there are. -/
theorem bestUpTo_congr {α : Type} {cap best : Nat} {f : α → Nat} {xs ys : List α}
    (hbest : best ≤ cap) (hf : ∀ x ∈ xs, f x ≤ cap) (hmem : ∀ x, x ∈ xs ↔ x ∈ ys) :
    bestUpTo cap f best xs = bestUpTo cap f best ys := by
  have hf' : ∀ y ∈ ys, f y ≤ cap := fun y hy => hf y ((hmem y).mpr hy)
  have hiff : ∀ k, k ≤ bestUpTo cap f best xs ↔ k ≤ bestUpTo cap f best ys := by
    intro k
    rw [le_bestUpTo_iff hbest hf, le_bestUpTo_iff hbest hf']
    simp only [hmem]
  exact Nat.le_antisymm ((hiff _).mp (Nat.le_refl _)) ((hiff _).mpr (Nat.le_refl _))

/-! ## Levels -/

/-- The search goes down no more levels than it may. -/
theorem levelsBelow_le (adj : Adjacency) (levels : Nat) (passed : List String) (node : String) :
    levelsBelow adj levels passed node ≤ levels := by
  induction levels generalizing passed node with
  | zero => exact Nat.le_refl 0
  | succ levels ih =>
    unfold levelsBelow
    split
    · exact Nat.zero_le _
    · apply bestUpTo_le (Nat.zero_le _)
      intro next _
      have hle := ih (node :: passed) next
      omega

/-- How many levels there are depends only on which nodes are neighbours. -/
theorem levelsBelow_congr {adj adj' : Adjacency}
    (h : ∀ u v, v ∈ adj.neighbours u ↔ v ∈ adj'.neighbours u) (levels : Nat)
    (passed : List String) (node : String) :
    levelsBelow adj levels passed node = levelsBelow adj' levels passed node := by
  induction levels generalizing passed node with
  | zero => rfl
  | succ levels ih =>
    have hbound : ∀ next ∈ adj.neighbours node,
        1 + levelsBelow adj levels (node :: passed) next ≤ levels + 1 := by
      intro next _
      have hle := levelsBelow_le adj levels (node :: passed) next
      omega
    unfold levelsBelow
    rw [bestUpTo_congr (Nat.zero_le _) hbound (h node)]
    simp only [ih]

/-- The depth depends only on which nodes are entry points and which are neighbours. -/
theorem depth_congr {entries entries' : List String} {adj adj' : Adjacency}
    (hentries : ∀ x, x ∈ entries ↔ x ∈ entries')
    (h : ∀ u v, v ∈ adj.neighbours u ↔ v ∈ adj'.neighbours u) (limit : Int) :
    depth entries adj limit = depth entries' adj' limit := by
  have hempty : entries.isEmpty = entries'.isEmpty := by
    rw [Bool.eq_iff_iff, List.isEmpty_iff, List.isEmpty_iff, List.eq_nil_iff_forall_not_mem,
      List.eq_nil_iff_forall_not_mem]
    simp only [hentries]
  -- the entry points are exchanged first, then the neighbours below each of them
  have hdeepest : deepest entries adj (limit - 1).toNat =
      deepest entries' adj' (limit - 1).toNat := by
    unfold deepest
    rw [bestUpTo_congr (Nat.zero_le _) (fun x _ => levelsBelow_le adj _ [] x) hentries]
    congr 2
    funext x
    exact levelsBelow_congr h _ [] x
  unfold depth
  rw [hempty, hdeepest]

end SourceFlow.Graph
