import Mathlib.Data.List.Nodup
import SourceFlow.Proofs.Graph.Search

/-!
# The cycles found are cycles

A cycle is recorded when the current node has a neighbour on the path. It
is the end of the path from that neighbour on, so its nodes are distinct
and joined by edges because those of the path are, and the edge just
looked at leads from its last node to its first.
-/

namespace SourceFlow.Graph

namespace Search

variable {order : List String} {adj : Adjacency} {s s' : Search}

/-- A neighbour of the current node that is on the path closes a simple cycle. -/
theorem simpleCycle_of_cut {finished : List String} {node next : String} {rest : List String}
    {below : List Frame} {cycles : List (List String)} {before after : List String}
    (h : Inv order adj ⟨finished, ⟨node, next :: rest⟩ :: below, cycles⟩)
    (hpath : (node :: below.map (·.node)).reverse = before ++ next :: after) :
    SimpleCycle order adj (next :: after) ∧ (next :: after).getLast? = some node := by
  -- the path is kept from the current node down, the cycle is written the other way
  have hsuffix : next :: after <:+ (node :: below.map (·.node)).reverse := by
    rw [hpath]
    exact List.suffix_append _ _
  have hlast : (next :: after).getLast? = some node := by
    have h₁ := congrArg List.getLast? hpath
    rw [List.reverse_cons, List.getLast?_append_of_ne_nil _ (List.cons_ne_nil _ _),
      List.getLast?_append_of_ne_nil _ (List.cons_ne_nil _ _)] at h₁
    exact h₁.symm
  have hnodup : (node :: below.map (·.node)).Nodup := (List.nodup_append.mp h.distinct).1
  have hchain : (node :: below.map (·.node)).reverse.IsChain fun u v => v ∈ adj.neighbours u :=
    List.isChain_reverse.mpr h.linked
  refine ⟨⟨List.cons_ne_nil _ _, ?_, ?_, hchain.suffix hsuffix, ?_⟩, hlast⟩
  · exact (List.nodup_reverse.mpr hnodup).sublist hsuffix.sublist
  · intro x hx
    have hmem : x ∈ node :: below.map (·.node) := List.mem_reverse.mp (hsuffix.subset hx)
    exact h.mem_order_of_path hmem
  -- the last node is the current one, and it was just looking at the first
  · intro u v hu hv
    rw [hlast] at hu
    rw [← Option.some.inj hu, ← Option.some.inj hv]
    exact h.mem_neighbours

/-- Steps record only simple cycles. -/
theorem Step.sound (hstep : Step order adj s s') (hinv : Inv order adj s)
    (h : ∀ c ∈ s.cycles, SimpleCycle order adj c) : ∀ c ∈ s'.cycles, SimpleCycle order adj c := by
  cases hstep with
  | finish => exact h
  | close hpath _ =>
    intro c hc
    rcases List.mem_append.mp hc with hc | hc
    · exact h c hc
    · rw [List.mem_singleton.mp hc]
      exact (simpleCycle_of_cut hinv hpath).1
  | enter => exact h
  | pass => exact h

end Search

/-- Everything found is a simple cycle of the graph. -/
theorem simpleCycle_of_mem_cycles {order : List String} {adj : Adjacency} {c : List String}
    (hc : c ∈ cycles order adj) : SimpleCycle order adj c := by
  have h : ∀ c ∈ (Search.final order adj).cycles, SimpleCycle order adj c :=
    Search.final_of_inv (P := fun s => ∀ c ∈ s.cycles, SimpleCycle order adj c)
      (fun _ hc => absurd hc List.not_mem_nil) (fun _ _ _ _ _ hs => hs)
      (fun _ _ hstep hinv hs => hstep.sound hinv hs)
  exact h c hc

end SourceFlow.Graph
