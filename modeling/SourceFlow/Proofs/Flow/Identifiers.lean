import SourceFlow.Flow.Build
import SourceFlow.Proofs.Path

/-!
# Identifiers of nodes

The ids of units, functions and endpoints can be told apart by how they
end: the path of a script in one of a few extensions, the id of a function
in the decimal digits of its index, the id of an endpoint in its resource.
The index of a function can be read off its id, whatever unit and name
stand before it.
-/

namespace SourceFlow

/-- The last two letters of the extensions of scripts, the last one first. -/
def ScriptKind.endings : List (List Char) :=
  [['s', 't'], ['x', 's'], ['s', 'j']]

/-- Eight extensions have three endings. -/
theorem ScriptKind.ending_of_mem {extension : String} {kind : ScriptKind}
    (h : (extension, kind) ∈ byExtension) :
    extension.toList.reverse.take 2 ∈ endings ∧ 2 ≤ extension.toList.length := by
  simp only [byExtension, List.mem_cons, Prod.mk.injEq, List.not_mem_nil, or_false] at h
  rcases h with ⟨rfl, _⟩ | ⟨rfl, _⟩ | ⟨rfl, _⟩ | ⟨rfl, _⟩ | ⟨rfl, _⟩ | ⟨rfl, _⟩ | ⟨rfl, _⟩ |
    ⟨rfl, _⟩ <;> simp [endings]

/-- The path of a script ends as one of the extensions does. -/
theorem ScriptKind.ending_of_isSome {path : String} (h : (ofPath? path).isSome) :
    (Text.lowerAscii path).toList.reverse.take 2 ∈ endings := by
  obtain ⟨kind, hkind⟩ := Option.isSome_iff_exists.mp h
  obtain ⟨before, after, hlist, _⟩ := List.lookup_eq_some_iff.mp hkind
  have hmem : (Path.extension (Text.lowerAscii path), kind) ∈ byExtension := by
    rw [hlist]
    exact List.mem_append_right _ List.mem_cons_self
  obtain ⟨hending, hlength⟩ := ending_of_mem hmem
  -- the last two characters of the path are those of its extension
  obtain ⟨stem, hstem⟩ := Path.extension_suffix (Text.lowerAscii path)
  rw [← hstem, List.reverse_append, List.take_append_of_le_length (by simpa using hlength)]
  exact hending

namespace Flow

/-! ## Functions -/

/-- The id of a function ends in its index in decimal digits, with a mark before it. -/
theorem toList_functionId (unit name : String) (index : Nat) :
    (functionId unit index name).toList =
      (unit ++ "::" ++ name).toList ++ '#' :: Nat.toDigits 10 index := by
  have hdigits : (Text.decimal (index : Int)).toList = Nat.toDigits 10 index := Nat.toList_repr
  rw [functionId, String.toList_append, String.toList_append, hdigits, List.append_assoc]
  rfl

/-- The number at the end of an id, after its last `#`. -/
def trailingIndex (id : String) : Nat :=
  Nat.ofDigitChars 10 (id.toList.reverse.takeWhile (· != '#')).reverse 0

/-- The id of a function tells its index. -/
theorem trailingIndex_functionId (unit name : String) (index : Nat) :
    trailingIndex (functionId unit index name) = index := by
  -- reading from the end, the digits go up to the mark and no further
  have hdigits : ∀ c ∈ (Nat.toDigits 10 index).reverse, (c != '#') = true := by
    intro c hc
    have hdigit := Nat.isDigit_of_mem_toDigits (by decide) (by decide) (List.mem_reverse.mp hc)
    rw [bne_iff_ne]
    rintro rfl
    exact absurd hdigit (by decide)
  have htake : (functionId unit index name).toList.reverse.takeWhile (· != '#') =
      (Nat.toDigits 10 index).reverse := by
    rw [toList_functionId, List.reverse_append, List.reverse_cons, List.append_assoc,
      List.takeWhile_append_of_pos hdigits]
    simp
  rw [trailingIndex, htake, List.reverse_reverse, Nat.ofDigitChars_ten_toDigits]

theorem toLower_of_isDigit {c : Char} (h : c.isDigit) : c.toLower = c := by
  have hle := (Char.isDigit_iff_toNat.mp h).2
  have hnine : '9'.toNat = 57 := rfl
  exact (Text.toLower_eq_iff (by omega) c).mpr rfl

/-- The id of a function is not the path of a script. -/
theorem ofPath?_functionId (unit name : String) (index : Nat) :
    ScriptKind.ofPath? (functionId unit index name) = none := by
  rw [← Option.not_isSome_iff_eq_none]
  intro hsome
  have hending := ScriptKind.ending_of_isSome hsome
  -- the last character is a digit, which no extension ends in
  obtain ⟨digit, before, hreverse⟩ : ∃ digit before,
      (Nat.toDigits 10 index).reverse = digit :: before := by
    apply List.exists_cons_of_ne_nil
    simp [Nat.toDigits_ne_nil]
  have hmem : digit ∈ Nat.toDigits 10 index := by
    rw [← List.mem_reverse, hreverse]
    exact List.mem_cons_self
  have hdigit := Nat.isDigit_of_mem_toDigits (by decide) (by decide) hmem
  have hhead : ∃ tail, (Text.lowerAscii (functionId unit index name)).toList.reverse.take 2 =
      digit :: tail := by
    rw [Text.lowerAscii, String.toList_ofList, ← List.map_reverse, toList_functionId,
      List.reverse_append, List.reverse_cons, hreverse]
    exact ⟨_, by rw [List.cons_append, List.cons_append, List.map_cons, toLower_of_isDigit hdigit,
      List.take_succ_cons]⟩
  obtain ⟨tail, htail⟩ := hhead
  rw [htail] at hending
  have hletter : ∀ e ∈ ScriptKind.endings, e.head?.any Char.isDigit = false := by decide
  have hnot : digit.isDigit = false := hletter _ hending
  rw [hdigit] at hnot
  cases hnot

/-! ## Endpoints -/

/-- The id of an endpoint is not the path of a script. -/
theorem ofPath?_endpointId (unit verb : String) :
    ScriptKind.ofPath? (endpointId unit verb) = none := by
  rw [← Option.not_isSome_iff_eq_none]
  intro hsome
  have hending := ScriptKind.ending_of_isSome hsome
  -- every endpoint has the same resource, and that ends in `rs`
  have hlast : (Text.lowerAscii (endpointId unit verb)).toList.reverse.take 2 = ['s', 'r'] := by
    have hresource : (endpointId unit verb).toList =
        (unit ++ "::" ++ (verb ++ " ")).toList ++ placeholderResource.toList := by
      simp [endpointId, endpointLabel]
    rw [Text.lowerAscii, String.toList_ofList, ← List.map_reverse, hresource, List.reverse_append]
    rfl
  rw [hlast] at hending
  exact absurd hending (by decide)

end Flow

end SourceFlow
