import SourceFlow.Proofs.Text.Joined
import SourceFlow.Text.Lines

/-!
# Lines of a text

What is written as lines is read back as the same lines, as long as no
line has a line feed of its own: joined, with a line feed after the last
line or without one, and with the line feeds at the end taken off.

Folding line ends leaves no carriage return, and changes nothing where there
was none.
-/

namespace SourceFlow.Text

/-! ## Texts of one line -/

/-- The text has no line feed. -/
def OneLine (s : String) : Prop :=
  '\n' ∉ s.toList

instance : DecidablePred OneLine := fun s =>
  inferInstanceAs (Decidable ('\n' ∉ s.toList))

@[simp] theorem oneLine_append {s t : String} : OneLine (s ++ t) ↔ OneLine s ∧ OneLine t := by
  rw [OneLine, String.toList_append, List.mem_append, not_or]
  rfl

theorem OneLine.takeFirst {s : String} (h : OneLine s) (n : Nat) : OneLine (takeFirst n s) := by
  rw [OneLine, Text.takeFirst, String.toList_ofList]
  intro hfeed
  exact h (List.mem_of_mem_take hfeed)

theorem oneLine_intercalate {separator : String} (hsep : OneLine separator) {texts : List String}
    (htexts : ∀ s ∈ texts, OneLine s) : OneLine (separator.intercalate texts) := by
  induction texts with
  | nil =>
    rw [String.intercalate_nil]
    decide
  | cons s rest ih =>
    have hs := htexts s List.mem_cons_self
    have hrest := ih fun t ht => htexts t (List.mem_cons_of_mem _ ht)
    cases rest with
    | nil =>
      rw [String.intercalate_singleton]
      exact hs
    | cons t rest =>
      rw [String.intercalate_cons_cons]
      exact oneLine_append.mpr ⟨oneLine_append.mpr ⟨hs, hsep⟩, hrest⟩

@[simp] theorem oneLine_repr (n : Nat) : OneLine n.repr := by
  intro hfeed
  rw [Nat.toList_repr] at hfeed
  have hdigit : '\n'.isDigit = true :=
    Nat.isDigit_of_mem_toDigits (by decide) (by decide) hfeed
  cases hdigit

@[simp] theorem oneLine_decimal (n : Int) : OneLine (decimal n) := by
  cases n with
  | ofNat n => exact oneLine_repr n
  | negSucc n =>
    have hminus : OneLine "-" := by decide
    exact oneLine_append.mpr ⟨hminus, oneLine_repr (n + 1)⟩

@[simp] theorem oneLine_zeroPadded (width n : Nat) : OneLine (zeroPadded width n) := by
  rw [OneLine, zeroPadded, String.toList_ofList, List.mem_append, not_or]
  constructor
  · intro hfeed
    cases List.eq_of_mem_replicate hfeed
  · exact oneLine_repr n

/-! ## Folding line ends -/

/-- No carriage return is left, be it alone or in front of a line feed. -/
theorem return_not_mem_foldNewlines (cs : List Char) : '\r' ∉ foldNewlines cs := by
  fun_induction foldNewlines cs with
  | case1 => exact List.not_mem_nil
  | case2 rest ih =>
    -- a carriage return and a line feed become one line feed
    rw [List.mem_cons, not_or]
    exact ⟨by decide, ih⟩
  | case3 c rest _ ih =>
    rw [List.mem_cons, not_or]
    refine ⟨?_, ih⟩
    split
    · decide
    · exact fun h => absurd h.symm ‹_›

/-- Where there was none, nothing is folded. -/
theorem foldNewlines_of_not_mem {cs : List Char} (h : '\r' ∉ cs) : foldNewlines cs = cs := by
  fun_induction foldNewlines cs with
  | case1 => rfl
  | case2 rest _ => exact absurd List.mem_cons_self h
  | case3 c rest _ ih =>
    have hc : c ≠ '\r' := fun heq => h (heq ▸ List.mem_cons_self)
    rw [if_neg hc, ih fun hrest => h (List.mem_cons_of_mem _ hrest)]

/-! ## Joining lines -/

theorem joinLines_append {lines more : List String} (hlines : lines ≠ []) (hmore : more ≠ []) :
    joinLines (lines ++ more) = joinLines lines ++ "\n" ++ joinLines more :=
  String.intercalate_append_of_ne_nil hlines hmore

theorem joinLines_concat_empty {lines : List String} (h : lines ≠ []) :
    joinLines (lines ++ [""]) = joinLines lines ++ "\n" := by
  rw [joinLines_append h (List.cons_ne_nil _ _)]
  show joinLines lines ++ "\n" ++ "\n".intercalate [""] = _
  rw [String.intercalate_singleton, String.append_empty]

theorem joinLines_cons (line : String) {more : List String} (hmore : more ≠ []) :
    joinLines (line :: more) = line ++ "\n" ++ joinLines more := by
  rw [← List.singleton_append, joinLines_append (List.cons_ne_nil _ _) hmore, joinLines,
    String.intercalate_singleton]

/-- Lines that were joined before are as good as one line. -/
theorem joinLines_append_joinLines (before : List String) {lines more : List String}
    (hlines : lines ≠ []) (hmore : more ≠ []) :
    joinLines (before ++ joinLines lines :: more) = joinLines (before ++ (lines ++ more)) := by
  have hjoin : joinLines (joinLines lines :: more) = joinLines (lines ++ more) := by
    rw [joinLines_cons _ hmore, joinLines_append hlines hmore]
  by_cases hbefore : before = []
  · rw [hbefore, List.nil_append, List.nil_append, hjoin]
  · have hne : lines ++ more ≠ [] := List.append_ne_nil_of_left_ne_nil hlines more
    rw [joinLines_append hbefore (List.cons_ne_nil _ _), joinLines_append hbefore hne, hjoin]

/-- Joined lines are told apart again. -/
theorem splitOn_joinLines {lines : List String} (hne : lines ≠ [])
    (h : ∀ line ∈ lines, OneLine line) :
    ((joinLines lines).toList.splitOn '\n').map String.ofList = lines :=
  splitOn_intercalate_pieces rfl hne h

/-! ## Reading lines -/

/-- The lines of a text. A line feed ends a line, so after the last one there is a line only if
there is something left. -/
def linesOf (s : String) : List String :=
  let pieces := (s.toList.splitOn '\n').map String.ofList
  if pieces.getLast? = some "" then pieces.dropLast else pieces

/-- The text is made of the lines, the last of which is not empty. A line feed may or may not stand
after it. -/
structure MadeOf (s : String) (lines : List String) : Prop where
  oneLine : ∀ line ∈ lines, OneLine line
  ends : ∃ line, lines.getLast? = some line ∧ line ≠ ""
  text : s = joinLines lines ∨ s = joinLines lines ++ "\n"

namespace MadeOf

variable {s : String} {lines : List String}

theorem ne_nil (h : MadeOf s lines) : lines ≠ [] := by
  rcases h.ends with ⟨line, hline, _⟩
  rintro rfl
  cases hline

/-- The lines are those that are read. -/
theorem linesOf_eq (h : MadeOf s lines) : linesOf s = lines := by
  rcases h.ends with ⟨last, hlast, hlast_ne⟩
  rcases h.text with htext | htext
  · have hkeep : lines.getLast? ≠ some "" := by
      rw [hlast]
      exact fun heq => hlast_ne (Option.some.inj heq)
    rw [linesOf, htext, splitOn_joinLines h.ne_nil h.oneLine]
    exact if_neg hkeep
  -- the line feed at the end is one empty line more, which is not counted
  · have hall : ∀ line ∈ lines ++ [""], OneLine line := by
      intro line hline
      rcases List.mem_append.mp hline with hline | hline
      · exact h.oneLine line hline
      · rw [List.mem_singleton.mp hline]
        decide
    rw [linesOf, htext, ← joinLines_concat_empty h.ne_nil, splitOn_joinLines (by simp) hall]
    simp

theorem ne_empty (h : MadeOf s lines) : s ≠ "" := by
  rintro rfl
  have hnone : linesOf "" = [] := by decide
  rw [h.linesOf_eq] at hnone
  exact h.ne_nil hnone

/-- Only the line feed after the last line is taken off. -/
theorem dropTrailingNewlines_eq (h : MadeOf s lines) :
    dropTrailingNewlines s = joinLines lines := by
  -- the last line ends with some character, and so do all the lines joined
  have hfront : ∃ front c, (joinLines lines).toList = front ++ [c] ∧ c ≠ '\n' := by
    rcases h.ends with ⟨last, hlast, hlast_ne⟩
    rcases List.getLast?_eq_some_iff.mp hlast with ⟨init, rfl⟩
    exact exists_toList_intercalate "\n" init hlast_ne (h.oneLine last (by simp))
  rcases hfront with ⟨front, c, hfront, hc⟩
  have hkeep : dropTrailing (· == '\n') (front ++ [c]) = front ++ [c] := by
    simp [dropTrailing, hc]
  have hdrop : dropTrailing (· == '\n') (front ++ [c] ++ ['\n']) = front ++ [c] := by
    simp [dropTrailing, hc]
  rcases h.text with rfl | rfl
  · rw [dropTrailingNewlines, hfront, hkeep, ← hfront, String.ofList_toList]
  · rw [dropTrailingNewlines, String.toList_append, hfront]
    show String.ofList (dropTrailing (· == '\n') (front ++ [c] ++ ['\n'])) = _
    rw [hdrop, ← hfront, String.ofList_toList]

end MadeOf

end SourceFlow.Text
