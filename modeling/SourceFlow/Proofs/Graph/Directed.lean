import Mathlib.Data.List.Chain
import Mathlib.Logic.Relation
import SourceFlow.Graph.Cycles

/-!
# Neighbour lists as a directed graph

The graph that neighbour lists induce on the nodes of an order, what a
simple cycle of it is, and how cycles, closed walks and strongly connected
components go together. Neighbours outside the order give no edge, and a
neighbour listed twice gives one edge.
-/

namespace SourceFlow.Graph

open Relation

/-! ## Neighbour lists -/

namespace Adjacency

/-- Neighbour lists are the same if every node is looked up the same. -/
theorem neighbours_congr {adj adj' : Adjacency}
    (h : ∀ u, Ordered.get? adj u = Ordered.get? adj' u) : adj.neighbours = adj'.neighbours := by
  funext u
  rw [neighbours, neighbours, h u]

/-- Linking edges one after the other adds their targets behind the neighbours there are. -/
theorem neighbours_foldl_link (edges : List (String × String)) (adj : Adjacency) (u : String) :
    neighbours (edges.foldl (fun adj e => adj.link e.1 e.2) adj) u =
      adj.neighbours u ++ (edges.filter (·.1 == u)).map (·.2) := by
  induction edges generalizing adj with
  | nil => simp
  | cons e rest ih =>
    rw [List.foldl_cons, ih]
    -- the edge begins at the node, or it does not touch its list
    by_cases h : e.1 = u
    · subst h
      simp [neighbours_link_self]
    · have hne : u ≠ e.1 := fun heq => h heq.symm
      simp [neighbours_link_ne adj hne, h]

/-- The neighbours of a node are the targets of its edges, in order. -/
theorem neighbours_ofEdges (edges : List (String × String)) (u : String) :
    (ofEdges edges).neighbours u = (edges.filter (·.1 == u)).map (·.2) := by
  rw [ofEdges, neighbours_foldl_link]
  rfl

/-- The neighbour lists without the neighbours outside an order. -/
def within (order : List String) (adj : Adjacency) : Adjacency :=
  adj.map fun e => (e.1, e.2.filter order.contains)

/-- A node keeps its neighbours in the order, as they come. -/
theorem neighbours_within (order : List String) (adj : Adjacency) (u : String) :
    (within order adj).neighbours u = (adj.neighbours u).filter order.contains := by
  induction adj with
  | nil => rfl
  | cons e rest ih =>
    unfold within neighbours at ih ⊢
    by_cases h : e.1 = u
    · simp [Ordered.get?, h]
    · simpa [Ordered.get?, h] using ih

end Adjacency

/-! ## Edges, walks and cycles -/

/-- There is an edge between two nodes of the order. -/
def Edge (order : List String) (adj : Adjacency) (u v : String) : Prop :=
  u ∈ order ∧ v ∈ order ∧ v ∈ adj.neighbours u

/-- No walk of one or more edges leads back to where it began. -/
def Acyclic (r : String → String → Prop) : Prop :=
  ∀ v, ¬ TransGen r v v

/-- Two nodes lie in one strongly connected component: each can be reached from the other. -/
def SameComponent (r : String → String → Prop) (u v : String) : Prop :=
  ReflTransGen r u v ∧ ReflTransGen r v u

/-- The edge from `u` to `v` closes one of the cycles: the cycle ends in `u` and begins with `v`. -/
def Closes (cycles : List (List String)) (u v : String) : Prop :=
  ∃ c ∈ cycles, c.getLast? = some u ∧ c.head? = some v

/-- A simple directed cycle on the nodes of the order, written without its first node repeated at
the end. -/
structure SimpleCycle (order : List String) (adj : Adjacency) (c : List String) : Prop where
  nonempty : c ≠ []
  nodup : c.Nodup
  within : ∀ x ∈ c, x ∈ order
  linked : c.IsChain fun u v => v ∈ adj.neighbours u
  closed : ∀ u v, c.getLast? = some u → c.head? = some v → v ∈ adj.neighbours u

/-! ## Walks -/

/-- Fewer edges make no cycle. -/
theorem Acyclic.mono {r r' : String → String → Prop} (h : Acyclic r')
    (hle : ∀ u v, r u v → r' u v) : Acyclic r := by
  intro v hv
  exact h v (TransGen.mono hle _ _ hv)

/-- Either a walk uses no removed edge, or it passes over one. -/
theorem walk_avoids_or_passes {r : String → String → Prop} (removed : String → String → Prop)
    {u v : String} (h : TransGen r u v) :
    TransGen (fun a b => r a b ∧ ¬ removed a b) u v ∨
      ∃ a b, r a b ∧ removed a b ∧ ReflTransGen r u a ∧ ReflTransGen r b v := by
  induction h with
  | @single w he =>
    by_cases hrem : removed u w
    · exact Or.inr ⟨u, w, he, hrem, .refl, .refl⟩
    · exact Or.inl (.single ⟨he, hrem⟩)
  -- the last edge decides only if the walk up to it avoids all removed edges
  | @tail w x huw he ih =>
    rcases ih with hav | ⟨a, b, hab, hrem, hua, hbw⟩
    · by_cases hrem : removed w x
      · exact Or.inr ⟨w, x, he, hrem, huw.to_reflTransGen, .refl⟩
      · exact Or.inl (hav.tail ⟨he, hrem⟩)
    · exact Or.inr ⟨a, b, hab, hrem, hua, hbw.tail he⟩

/-! ## Cycles -/

namespace SimpleCycle

variable {order : List String} {adj : Adjacency} {c : List String}

theorem isChain_edge (h : SimpleCycle order adj c) : c.IsChain (Edge order adj) := by
  apply h.linked.imp_of_mem_imp
  intro u v hu hv huv
  exact ⟨h.within u hu, h.within v hv, huv⟩

theorem edge_closing (h : SimpleCycle order adj c) {u v : String} (hu : c.getLast? = some u)
    (hv : c.head? = some v) : Edge order adj u v :=
  ⟨h.within u (List.mem_of_getLast? hu), h.within v (List.mem_of_head? hv), h.closed u v hu hv⟩

/-- Every node of a cycle lies in the component of its last node. -/
theorem sameComponent_last (h : SimpleCycle order adj c) {u x : String}
    (hu : c.getLast? = some u) (hx : x ∈ c) : SameComponent (Edge order adj) x u := by
  obtain ⟨v, hv⟩ : ∃ v, c.head? = some v := by
    rcases hc : c with _ | ⟨v, rest⟩
    · exact absurd hc h.nonempty
    · exact ⟨v, rfl⟩
  have hedge := h.edge_closing hu hv
  constructor
  · -- along the rest of the cycle to its last node
    refine h.isChain_edge.backwards_induction (fun y => ReflTransGen (Edge order adj) y u) c
      (fun _ _ hab hb => hb.head hab) ?_ x hx
    intro hne
    rw [List.getLast?_eq_getLast_of_ne_nil hne] at hu
    rw [Option.some.inj hu]
  · -- over the closing edge, then along the cycle from its first node
    refine h.isChain_edge.induction (fun y => ReflTransGen (Edge order adj) u y) c
      (fun _ _ hab ha => ha.tail hab) ?_ x hx
    intro hne
    rw [List.head?_eq_some_head hne] at hv
    rw [Option.some.inj hv]
    exact .single hedge

/-- A cycle is a closed walk. -/
theorem transGen_self (h : SimpleCycle order adj c) : ∃ u, TransGen (Edge order adj) u u := by
  rcases hc : c with _ | ⟨v, rest⟩
  · exact absurd hc h.nonempty
  · subst hc
    have hlast := List.getLast?_eq_getLast_of_ne_nil (List.cons_ne_nil v rest)
    have hedge := h.edge_closing hlast rfl
    have hback := (h.sameComponent_last hlast List.mem_cons_self).1
    exact ⟨_, TransGen.head' hedge hback⟩

end SimpleCycle

end SourceFlow.Graph
