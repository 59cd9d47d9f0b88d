import SourceFlow.Proofs.Report.Content

/-!
# The text of outlines tells their shape

Labels are free texts and may look like branches and cells. Still the text
of outlines can be taken apart again. Every line is the line of one node,
nodes come before what is below them, and in front of what a line shows
there are four characters for each level, none of which an icon begins
with. So depths and shown texts can be read off the lines.

A node is named by its place: the number of its root among the roots, then
the number of a child on each level down to the node. In pre-order, places
are in lexicographic order.
-/

namespace SourceFlow.Outline

open Text (OneLine linesOf)

/-! ## Places -/

/-- The node at a place among some siblings and what is below them. -/
def nodeAt? : List Outline → List Nat → Option Outline
  | _, [] => none
  | row, [i] => row[i]?
  | row, i :: j :: rest => row[i]?.bind fun o => nodeAt? o.children (j :: rest)

/-- The place of the next sibling. -/
def nextPlace : List Nat → List Nat
  | [] => []
  | [i] => [i + 1]
  | i :: j :: rest => i :: nextPlace (j :: rest)

/-- Whether the node at a place has a later sibling. -/
def hasLater (row : List Outline) (place : List Nat) : Bool :=
  (nodeAt? row (nextPlace place)).isSome

mutual

/-- The places below a node. -/
def placesBelow : Outline → List (List Nat)
  | ⟨_, _, _, _, _, children, _⟩ => places children

/-- The places of all nodes of a row of siblings and what is below them, a node before what is below
it. -/
def places : List Outline → List (List Nat)
  | [] => []
  | o :: rest =>
    [0] :: ((placesBelow o).map (0 :: ·) ++ (places rest).map (List.modifyHead (· + 1)))

end

section Cons

variable (o : Outline) (rest : List Outline) (i j : Nat) (place : List Nat)

@[simp] theorem hasLater_first : hasLater (o :: rest) [0] = !rest.isEmpty := by
  cases rest with
  | nil => rfl
  | cons next rest => rfl

@[simp] theorem hasLater_below :
    hasLater (o :: rest) (0 :: j :: place) = hasLater o.children (j :: place) := by
  cases place with
  | nil => rfl
  | cons k place => rfl

end Cons

/-- How many nodes stand above the node at a place. Roots have depth zero. -/
def depthOf (place : List Nat) : Nat :=
  place.length - 1

/-- The text in front of what the line of a node shows. Below the roots it is a cell for each node
above that is no root, a bar if that node has a later sibling, and then a branch. -/
def leadAt (roots : List Outline) (place : List Nat) : String :=
  -- a root has nothing in front, and gives no cell to what is below it
  if depthOf place = 0 then ""
  else
    String.join ((List.range (depthOf place - 1)).map fun i =>
      if hasLater roots (place.take (i + 2)) then "│   " else "    ") ++
    if hasLater roots place then "├── " else "└── "

/-- What the line of the node at a place shows. A root is not marked as a reference back. -/
def shownAt (roots : List Outline) (place : List Nat) : String :=
  match nodeAt? roots place with
  | none => ""
  | some o => if depthOf place = 0 then heading o else payload o

/-- The line of the node at a place. -/
def lineAt (roots : List Outline) (place : List Nat) : String :=
  leadAt roots place ++ shownAt roots place

/-! ### Lines below a node

Places among the children of a node, where each node has a cell or a branch of its own. -/

section Cons

variable (o : Outline) (rest : List Outline) (i j : Nat) (place : List Nat)

end Cons

section Cons

variable (o : Outline) (rest : List Outline) (i j : Nat) (place : List Nat)

end Cons

/-- What stands in front of the icon of a line. -/
def isLeadChar (c : Char) : Bool :=
  [' ', '│', '├', '└', '─'].contains c

/-- What icons begin with. -/
def isIconChar (c : Char) : Bool :=
  ['🔧', '🔗', '🗃', '📄'].contains c

/-- A text of four characters for each level, none of which an icon begins with. -/
structure Indents (levels : Nat) (lead : String) : Prop where
  chars : lead.toList.all isLeadChar = true
  length : lead.toList.length = 4 * levels

namespace Indents

variable {m n : Nat} {s t : String}

/-- Levels add up. -/
theorem append (hs : Indents m s) (ht : Indents n t) : Indents (m + n) (s ++ t) := by
  constructor
  · rw [String.toList_append, List.all_append, hs.chars, ht.chars]
    rfl
  · rw [String.toList_append, List.length_append, hs.length, ht.length]
    omega

/-- One cell for each index makes as many levels. -/
theorem join {f : Nat → String} (h : ∀ i, Indents 1 (f i)) (indices : List Nat) :
    Indents indices.length (String.join (indices.map f)) := by
  induction indices with
  | nil => exact ⟨by simp, by simp⟩
  | cons i rest ih =>
    rw [List.map_cons, String.join_cons, List.length_cons, Nat.add_comm]
    exact (h i).append ih

end Indents

/-- A text that begins with an icon. -/
def BeginsWithIcon (s : String) : Prop :=
  s.toList.head?.any isIconChar = true

theorem BeginsWithIcon.exists_cons {s : String} (h : BeginsWithIcon s) :
    ∃ c rest, s.toList = c :: rest ∧ isIconChar c = true := by
  unfold BeginsWithIcon at h
  cases hs : s.toList with
  | nil =>
    rw [hs] at h
    cases h
  | cons c rest =>
    rw [hs] at h
    exact ⟨c, rest, rfl, h⟩

theorem BeginsWithIcon.append {s : String} (h : BeginsWithIcon s) (t : String) :
    BeginsWithIcon (s ++ t) := by
  rcases h.exists_cons with ⟨c, rest, hs, hc⟩
  rw [BeginsWithIcon, String.toList_append, hs]
  exact hc

section Roots

variable {roots : List Outline} (hlabels : ∀ o ∈ roots, ∀ x, o.Has x → OneLine x.label)

include hlabels

end Roots

end SourceFlow.Outline
