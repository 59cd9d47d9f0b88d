import SourceFlow.Facts.Reading

/-!
# Lines and columns follow the bytes

A position is read off the bytes in front of an offset. Further on in the
text the line is a later one, or the line is the same and the column is
larger. So two nodes start in the order of their positions just as they
start in the order of their offsets, where an offset beyond the text counts
as its end.
-/

namespace SourceFlow

/-- A position starts before another: on an earlier line, or on the same line further left. -/
def Position.StartsBefore (p q : Position) : Prop :=
  p.line < q.line ∨ p.line = q.line ∧ p.column < q.column

/-- Two positions start together. -/
def Position.StartsWith (p q : Position) : Prop :=
  p.line = q.line ∧ p.column = q.column

namespace Syntax.Source

/-- Where an offset lies in the text: an offset beyond the text is at its end. -/
def clip (src : Source) (offset : Nat) : Nat :=
  min offset src.bytes.length

/-- Past bytes without a line feed the line is the same and the column grows by their number; past
others the line is a later one. -/
theorem lineAt_lt_or (src : Source) {a b : Nat} (hab : src.clip a < src.clip b) :
    src.lineAt a < src.lineAt b ∨
      src.lineAt a = src.lineAt b ∧ src.columnAt a < src.columnAt b := by
  have hle : a ≤ b := by
    unfold clip at hab
    omega
  -- the bytes in front of `b` are those in front of `a` and then those passed on the way
  have hprefix : src.bytes.take a <+: src.bytes.take b := List.take_prefix_take_left hle
  rcases hprefix with ⟨passed, hpassed⟩
  have hlength : 0 < passed.length := by
    have hlen := congrArg List.length hpassed
    rw [List.length_append, List.length_take, List.length_take] at hlen
    unfold clip at hab
    omega
  unfold lineAt columnAt
  rw [← hpassed, List.count_append, List.reverse_append]
  by_cases hfeed : lineFeed ∈ passed
  · left
    have hcount : 0 < passed.count lineFeed := List.count_pos_iff.mpr hfeed
    omega
  · right
    have hcount : passed.count lineFeed = 0 := List.count_eq_zero.mpr hfeed
    have hall : ∀ x ∈ passed.reverse, (x != lineFeed) = true := by
      intro x hx
      rw [bne_iff_ne]
      rintro rfl
      exact hfeed (List.mem_reverse.mp hx)
    rw [List.takeWhile_append_of_pos hall, List.length_append, List.length_reverse]
    constructor
    · omega
    · omega

theorem startsBefore_of_clip_lt (src : Source) {m n : Node}
    (h : src.clip m.start < src.clip n.start) :
    (src.positionOf m).StartsBefore (src.positionOf n) :=
  src.lineAt_lt_or h

/-- Nodes that start at the same offset start together. -/
theorem startsWith_of_clip_eq (src : Source) {m n : Node}
    (h : src.clip m.start = src.clip n.start) :
    (src.positionOf m).StartsWith (src.positionOf n) := by
  have htake : src.bytes.take m.start = src.bytes.take n.start := List.take_eq_take_iff.mpr h
  constructor
  · simp only [positionOf, lineAt, htake]
  · simp only [positionOf, columnAt, htake]

/-- Nodes start one before the other by their positions just if they do by their offsets. -/
theorem startsBefore_iff (src : Source) (m n : Node) :
    (src.positionOf m).StartsBefore (src.positionOf n) ↔ src.clip m.start < src.clip n.start := by
  refine ⟨?_, src.startsBefore_of_clip_lt⟩
  intro hbefore
  -- with the offsets the other way round the positions would be too, and they are not
  rcases Nat.lt_trichotomy (src.clip m.start) (src.clip n.start) with hlt | heq | hgt
  · exact hlt
  · have hsame := src.startsWith_of_clip_eq heq
    unfold Position.StartsBefore at hbefore
    unfold Position.StartsWith at hsame
    omega
  · have hafter := src.startsBefore_of_clip_lt hgt
    unfold Position.StartsBefore at hbefore hafter
    omega

end Syntax.Source

end SourceFlow
