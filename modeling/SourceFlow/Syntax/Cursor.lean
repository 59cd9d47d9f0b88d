import SourceFlow.Syntax.Node

/-!
# Cursors

A cursor is a node together with what stands around it: the sibling just
before it and the nodes above it. Moving down to the children keeps that
context, so facts that depend on a parent or on a comment in front of a
statement are plain functions of a cursor.
-/

namespace SourceFlow.Syntax

/-- A node with the sibling before it. -/
structure Step where
  node : Node
  previous : Option Node := none

/-- A node with the sibling before it and the nodes above it, nearest first. -/
structure Cursor where
  node : Node
  previous : Option Node := none
  above : List Step := []

namespace Cursor

def root (n : Node) : Cursor :=
  { node := n }

def parent? (c : Cursor) : Option Cursor :=
  match c.above with
  | [] => none
  | s :: rest => some ⟨s.node, s.previous, rest⟩

/-- Cursors at the nodes of a row of siblings, the first of which stands after `previous`. -/
def row (above : List Step) : Option Node → List Node → List Cursor
  | _, [] => []
  | previous, n :: rest => ⟨n, previous, above⟩ :: row above (some n) rest

def children (c : Cursor) : List Cursor :=
  -- the first child has no sibling before it
  row (⟨c.node, c.previous⟩ :: c.above) none c.node.children

/-- Whether the node stands directly below a node of a kind. -/
def isUnder (c : Cursor) (kind : String) : Bool :=
  match c.above with
  | [] => false
  | s :: _ => s.node.kind == kind

/-! ## Size -/

/-- A row of cursors has the nodes of its siblings. -/
theorem map_node_row (above : List Step) (previous : Option Node) (nodes : List Node) :
    (row above previous nodes).map (·.node) = nodes := by
  induction nodes generalizing previous with
  | nil => rfl
  | cons n rest ih => simp [row, ih]

/-- The children have one node less than the cursor has. -/
theorem sizeAll_children (c : Cursor) :
    Node.sizeAll (c.children.map (·.node)) + 1 = c.node.size := by
  rw [children, map_node_row, Node.size_eq]

end Cursor

end SourceFlow.Syntax
