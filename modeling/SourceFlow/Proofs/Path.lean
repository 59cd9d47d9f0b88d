import SourceFlow.Path.Basic

/-!
# Names and extensions

Names and extensions are what paths end in. A name has at most one cut at a
last dot, so what stands behind the dot can be told from any way to write the
name around a dot without further dots behind it. Cuts do not depend on the
case of letters.
-/

/-! ## Case of letters -/

namespace SourceFlow.Text

/-- A character before the letters is the lower case of itself only. -/
theorem toLower_eq_iff {x : Char} (hx : x.toNat < 65) (c : Char) : c.toLower = x ↔ c = x := by
  unfold Char.toLower
  split
  · rename_i hupper
    have hlow : 65 ≤ c.toNat := hupper.1
    have hhigh : c.toNat ≤ 90 := hupper.2
    -- the lower case of a capital letter is a letter, so it is not before the letters
    constructor
    · rintro rfl
      have hlower : (c.val + ('a'.val - 'A'.val)).toNat = c.toNat + 32 := by
        have hval : c.val.toNat = c.toNat := rfl
        have hstep : ('a'.val - 'A'.val).toNat = 32 := by decide
        rw [UInt32.toNat_add, hval, hstep]
        omega
      have hx' : (c.val + ('a'.val - 'A'.val)).toNat < 65 := hx
      omega
    · rintro rfl
      omega
  · rfl

theorem toList_lowerAscii (s : String) : (lowerAscii s).toList = s.toList.map Char.toLower :=
  String.toList_ofList

/-- So lower-casing neither makes nor removes such a character. -/
theorem mem_map_toLower_iff {x : Char} (hx : x.toNat < 65) {cs : List Char} :
    x ∈ cs.map Char.toLower ↔ x ∈ cs := by
  rw [List.mem_map]
  constructor
  · rintro ⟨c, hc, hlower⟩
    rwa [← (toLower_eq_iff hx c).mp hlower]
  · intro hmem
    exact ⟨x, hmem, (toLower_eq_iff hx x).mpr rfl⟩

end SourceFlow.Text

/-! ## What paths end in -/

namespace SourceFlow.Path

theorem nameChars_suffix (path : String) : nameChars path <:+ path.toList := by
  have h := List.takeWhile_prefix (l := path.toList.reverse) (p := (· != '/'))
  rw [nameChars, ← List.reverse_prefix, List.reverse_reverse]
  exact h

/-- Cutting at the last dot takes the name apart there. -/
theorem eq_of_cutAtLastDot {name stem rest : List Char}
    (h : cutAtLastDot name = some (stem, rest)) : name = stem ++ '.' :: rest := by
  have hsplit : name.reverse.takeWhile (· != '.') ++ name.reverse.dropWhile (· != '.') =
      name.reverse := List.takeWhile_append_dropWhile
  unfold cutAtLastDot at h
  split at h
  · cases h
  · rename_i c before hdrop
    -- what is left begins with the character at which the search stopped
    have hdot : c = '.' := by
      have hhead := List.head?_dropWhile_not (· != '.') name.reverse
      rw [hdrop] at hhead
      simpa using hhead
    obtain ⟨rfl, rfl⟩ := Prod.mk.inj (Option.some.inj h)
    rw [hdrop, hdot] at hsplit
    calc name = name.reverse.reverse := (List.reverse_reverse name).symm
      _ = (name.reverse.takeWhile (· != '.') ++ '.' :: before).reverse := by rw [hsplit]
      _ = before.reverse ++ '.' :: (name.reverse.takeWhile (· != '.')).reverse := by simp

/-- A path ends in its extension. -/
theorem extension_suffix (path : String) : (extension path).toList <:+ path.toList := by
  unfold extension
  split
  · exact List.nil_suffix
  · rename_i stem rest hcut
    split
    · have hname : '.' :: rest <:+ nameChars path := by
        rw [eq_of_cutAtLastDot hcut]
        exact List.suffix_append _ _
      rw [String.toList_ofList]
      exact hname.trans (nameChars_suffix path)
    · exact List.nil_suffix

/-! ## Cuts -/

theorem ne_of_mem_reverse {sep : Char} {cs : List Char} (h : sep ∉ cs) :
    ∀ c ∈ cs.reverse, (c != sep) = true := by
  intro c hc
  rw [bne_iff_ne]
  rintro rfl
  exact h (List.mem_reverse.mp hc)

/-- A name is cut at a dot with no dot behind it. -/
theorem cutAtLastDot_append (stem : List Char) {rest : List Char} (h : '.' ∉ rest) :
    cutAtLastDot (stem ++ '.' :: rest) = some (stem, rest) := by
  have hrest := ne_of_mem_reverse h
  have hreverse : (stem ++ '.' :: rest).reverse = rest.reverse ++ '.' :: stem.reverse := by simp
  rw [cutAtLastDot, hreverse, List.dropWhile_append_of_pos hrest,
    List.takeWhile_append_of_pos hrest, List.dropWhile_cons_of_neg (by decide),
    List.takeWhile_cons_of_neg (by decide)]
  simp

/-- The suffix of a name is what stands from its last dot on, if there is something on both sides of
the dot. -/
theorem suffix_append {stem rest : List Char} (hstem : stem ≠ []) (hrest : rest ≠ [])
    (hdot : '.' ∉ rest) {name : String} (hname : name.toList = stem ++ '.' :: rest) :
    suffix name = String.ofList ('.' :: rest) := by
  rw [suffix, hname, cutAtLastDot_append stem hdot]
  cases stem with
  | nil => exact absurd rfl hstem
  | cons a stem =>
    cases rest with
    | nil => exact absurd rfl hrest
    | cons b rest => rfl

/-- A suffix stands behind something. -/
theorem exists_stem_of_suffix {name : String} (h : suffix name ≠ "") :
    ∃ stem, stem ≠ [] ∧ name.toList = stem ++ (suffix name).toList := by
  unfold suffix at h ⊢
  split at h
  · rename_i a stem c rest hcut
    refine ⟨a :: stem, List.cons_ne_nil _ _, ?_⟩
    rw [eq_of_cutAtLastDot hcut, String.toList_ofList]
  · exact absurd rfl h

end SourceFlow.Path
