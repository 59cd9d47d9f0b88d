import Mathlib.Data.List.Basic

/-!
# Pieces joined by a separator

Paths are parts joined by slashes, and texts are lines joined by line
feeds. As long as no piece has the separator in it, the pieces can be told
from what they were joined to, and it ends as its last piece does. Ids are
free texts with a separator and a name or a number behind them. If only
what stands behind has no separator in it, both can be told from the id.
-/

namespace SourceFlow.Text

/-- What stands between separators has no separator in it. -/
theorem not_mem_of_mem_splitOn {sep : Char} {cs piece : List Char} (h : piece ∈ cs.splitOn sep) :
    sep ∉ piece := by
  induction cs generalizing piece with
  | nil =>
    rw [List.splitOn_nil, List.mem_singleton] at h
    rw [h]
    exact List.not_mem_nil
  | cons c rest ih =>
    rw [List.splitOn_cons_eq_if_modifyHead] at h
    split at h
    · rcases List.mem_cons.mp h with rfl | hrest
      · exact List.not_mem_nil
      · exact ih hrest
    · rename_i hne
      -- another character is put in front of the first piece
      cases hsplit : rest.splitOn sep with
      | nil => exact absurd hsplit (List.splitOn_ne_nil _ _)
      | cons first more =>
        rw [hsplit, List.modifyHead_cons] at h
        rcases List.mem_cons.mp h with rfl | hmore
        · have hfirst : sep ∉ first := ih (hsplit ▸ List.mem_cons_self)
          intro hmem
          rcases List.mem_cons.mp hmem with rfl | hmem
          · exact hne (beq_self_eq_true _)
          · exact hfirst hmem
        · exact ih (hsplit ▸ List.mem_cons_of_mem _ hmore)

variable {separator : String} {sep : Char}

/-- Pieces without separators can be told from the text. -/
theorem splitOn_intercalate_pieces (hsep : separator.toList = [sep]) {pieces : List String}
    (hne : pieces ≠ []) (h : ∀ piece ∈ pieces, sep ∉ piece.toList) :
    ((separator.intercalate pieces).toList.splitOn sep).map String.ofList = pieces := by
  have hchars : ∀ cs ∈ pieces.map String.toList, sep ∉ cs := by
    intro cs hcs
    rcases List.mem_map.mp hcs with ⟨piece, hpiece, rfl⟩
    exact h piece hpiece
  have hid : String.ofList ∘ String.toList = id := by
    funext s
    exact String.ofList_toList
  rw [String.toList_intercalate, hsep, List.splitOn_intercalate sep hchars (by simpa using hne),
    List.map_map, hid, List.map_id]

/-- The text ends in the characters of the last piece. -/
theorem toList_intercalate_concat (separator : String) (init : List String) (last : String) :
    ∃ before, (separator.intercalate (init ++ [last])).toList = before ++ last.toList := by
  by_cases hinit : init = []
  · refine ⟨[], ?_⟩
    rw [hinit, List.nil_append, String.intercalate_singleton, List.nil_append]
  · refine ⟨(separator.intercalate init ++ separator).toList, ?_⟩
    rw [String.intercalate_append_of_ne_nil hinit (List.cons_ne_nil _ _),
      String.intercalate_singleton, String.toList_append]

/-- A last piece that is not empty keeps separators away from the end of the text. -/
theorem exists_toList_intercalate (separator : String) (init : List String) {last : String}
    (hlast : last ≠ "") (hsep : sep ∉ last.toList) :
    ∃ front c, (separator.intercalate (init ++ [last])).toList = front ++ [c] ∧ c ≠ sep := by
  rcases toList_intercalate_concat separator init last with ⟨before, hbefore⟩
  rcases List.eq_nil_or_concat' last.toList with hnil | ⟨front, c, hc⟩
  · exact absurd (String.toList_eq_nil_iff.mp hnil) hlast
  · refine ⟨before ++ front, c, ?_, ?_⟩
    · rw [hbefore, hc, List.append_assoc]
    · rintro rfl
      apply hsep
      rw [hc]
      exact List.mem_append_right _ List.mem_cons_self

/-! ## The last separator -/

/-- What stands before and after the last separator can be told from the text. -/
theorem append_separator_inj (hsep : separator.toList = [sep]) {s t a b : String}
    (ha : sep ∉ a.toList) (hb : sep ∉ b.toList) (h : s ++ separator ++ a = t ++ separator ++ b) :
    s = t ∧ a = b := by
  have hchars : s.toList ++ sep :: a.toList = t.toList ++ sep :: b.toList := by
    have hlists := congrArg String.toList h
    simpa [hsep] using hlists
  -- if one text before the separator were longer, it would end among what stands after the other
  rcases List.append_eq_append_iff.mp hchars with ⟨more, ht, hmore⟩ | ⟨more, hs, hmore⟩
  · cases more with
    | nil =>
      rw [List.append_nil] at ht
      exact ⟨String.toList_inj.mp ht.symm, String.toList_inj.mp (List.cons.inj hmore).2⟩
    | cons c more =>
      exfalso
      apply ha
      rw [(List.cons.inj hmore).2]
      exact List.mem_append_right _ List.mem_cons_self
  · cases more with
    | nil =>
      rw [List.append_nil] at hs
      exact ⟨String.toList_inj.mp hs, String.toList_inj.mp (List.cons.inj hmore).2.symm⟩
    | cons c more =>
      exfalso
      apply hb
      rw [(List.cons.inj hmore).2]
      exact List.mem_append_right _ List.mem_cons_self

/-- A number in decimal has no separator in it, as long as that is no digit. -/
theorem not_mem_repr (hdigit : sep.isDigit = false) (n : Nat) : sep ∉ n.repr.toList := by
  intro hmem
  rw [Nat.toList_repr] at hmem
  rw [Nat.isDigit_of_mem_toDigits (by decide) (by decide) hmem] at hdigit
  cases hdigit

/-- A number behind the last separator can be told from the text. -/
theorem append_repr_inj (hsep : separator.toList = [sep]) (hdigit : sep.isDigit = false)
    {s t : String} {m n : Nat} (h : s ++ separator ++ m.repr = t ++ separator ++ n.repr) :
    s = t ∧ m = n := by
  have hparts := append_separator_inj hsep (not_mem_repr hdigit m) (not_mem_repr hdigit n) h
  have hread := congrArg (fun s : String => Nat.ofDigitChars 10 s.toList 0) hparts.2
  simp only [Nat.toList_repr, Nat.ofDigitChars_ten_toDigits] at hread
  exact ⟨hparts.1, hread⟩

end SourceFlow.Text
