import SourceFlow.Facts.Reading
import SourceFlow.Project.Resolution
import SourceFlow.Proofs.Path.Normal

/-!
# Where references lead

A reference denotes a place in the project, found by following its parts
from the directory of the importing unit, or from the root if it begins
with a slash. References are resolved on texts instead: a literal
candidate, a joined and simplified path, and suffixes put behind it. For
units with normal paths the two agree: whatever is looked for at the place
is found, wherever below the root the place is (`target_mem_of_place`).

Less is looked for than a reader may expect. A path with a suffix gets no
second one, and one without is not tried as it is (`importable_missed`).
-/

namespace SourceFlow.Resolution

open SourceFlow.Path

/-! ## Places -/

/-- The place that a reference denotes, seen from an importing unit, as the parts of its path; none
if the reference leads out of the project. -/
def place? (reference importer : String) : Option (List String) :=
  follow (if Text.startsWith reference "/" then [] else directories importer) (parts reference)

/-- Slashes in front lead nowhere. -/
theorem follow_dropSlashes (place : List String) (cs : List Char) :
    follow place (parts (String.ofList (cs.dropWhile (· == '/')))) =
      follow place (parts (String.ofList cs)) := by
  induction cs with
  | nil => rfl
  | cons c rest ih =>
    by_cases hc : c = '/'
    · have hparts : parts (String.ofList (c :: rest)) = "" :: parts (String.ofList rest) :=
        parts_cons_slash (by rw [String.toList_ofList, hc])
      rw [List.dropWhile_cons_of_pos (by simp [hc]), ih, hparts, follow, if_pos (Or.inl rfl)]
    · rw [List.dropWhile_cons_of_neg (by simp [hc])]

/-- None are left once they are dropped. -/
theorem startsWith_dropLeadingSlashes (reference : String) :
    Text.startsWith (dropLeadingSlashes reference) "/" = false := by
  rw [Bool.eq_false_iff]
  intro hslash
  rcases (startsWith_slash_iff _).mp hslash with ⟨rest, hrest⟩
  rw [dropLeadingSlashes, String.toList_ofList] at hrest
  have hhead := List.head?_dropWhile_not (· == '/') reference.toList
  rw [hrest] at hhead
  cases hhead

/-- Below the root, the path that is looked up for a reference is that of the place it denotes. -/
theorem denoted?_of_place {reference importer : String} (himporter : IsNormal importer)
    (hstyle : styleOf reference ≠ .verbatim) {place : List String}
    (hplace : place? reference importer = some place) (hne : place ≠ []) :
    denoted? reference importer = some (ofParts place) := by
  unfold place? at hplace
  -- a reference is followed from the root or from the directory of the importer
  cases hslash : Text.startsWith reference "/" with
  | true =>
    have hrooted : styleOf reference = .rooted := by
      rw [styleOf, if_pos hslash]
    rw [hslash, if_pos rfl] at hplace
    have hfollow := follow_dropSlashes [] reference.toList
    rw [String.ofList_toList, hplace] at hfollow
    rw [denoted?, hrooted]
    exact congrArg some
      (normalize_of_follow (startsWith_dropLeadingSlashes reference) hfollow hne)
  | false =>
    have hrelative : styleOf reference = .relative := by
      rw [styleOf, if_neg (by simp [hslash])] at hstyle ⊢
      split
      · rfl
      · rename_i hnot
        rw [if_neg hnot] at hstyle
        exact absurd rfl hstyle
    rw [hslash, if_neg Bool.false_ne_true] at hplace
    rcases parts_join himporter.directories (fun _ => slash_not_mem_of_mem_directories) hslash with
      ⟨hparts, hjoin⟩
    have hfollow : follow [] (parts (join (ofParts (directories importer)) reference)) =
        some place := by
      rw [hparts, follow_plain himporter.directories, List.nil_append, hplace]
    rw [denoted?, hrelative, directory_of_isNormal himporter]
    exact congrArg some (normalize_of_follow hjoin hfollow hne)

/-! ## Looking up -/

/-- A known literal candidate is what a reference names. -/
theorem target_of_literal {reference importer : String} {known : List String}
    (h : literal reference ∈ known) : target reference importer known = literal reference := by
  rw [target, if_pos (List.contains_iff_mem.mpr h)]

/-- A reference that is no path names nothing else. -/
theorem target_of_not_denoted {reference importer : String} {known : List String}
    (hliteral : literal reference ∉ known) (hpath : denoted? reference importer = none) :
    target reference importer known = literal reference := by
  rw [target, if_neg (by simpa using hliteral), hpath]

/-- Otherwise the first known option is. -/
theorem target_of_denoted {reference importer path : String} {known : List String}
    (hliteral : literal reference ∉ known) (hpath : denoted? reference importer = some path) :
    target reference importer known =
      ((options path).find? known.contains).getD (literal reference) := by
  rw [target, if_neg (by simpa using hliteral), hpath]

/-- If an option is known, a known unit is found. -/
theorem target_mem_of_option {reference importer path : String} {known : List String}
    (hpath : denoted? reference importer = some path)
    (h : ∃ unit ∈ options path, unit ∈ known) : target reference importer known ∈ known := by
  -- a known literal candidate is taken first, and is as good
  by_cases hliteral : literal reference ∈ known
  · rw [target_of_literal hliteral]
    exact hliteral
  · rcases h with ⟨unit, hoption, hunit⟩
    have hsome : ((options path).find? known.contains).isSome = true := by
      rw [List.find?_isSome]
      exact ⟨unit, hoption, List.contains_iff_mem.mpr hunit⟩
    rcases Option.isSome_iff_exists.mp hsome with ⟨found, hfound⟩
    rw [target_of_denoted hliteral hpath, hfound]
    exact List.contains_iff_mem.mp (List.find?_some hfound)

/-! ## Places and the units that stand for them -/

/-- A place has plain parts, without slashes. -/
theorem parts_of_place {reference importer : String} (himporter : IsNormal importer)
    {place : List String} (h : place? reference importer = some place) :
    (∀ p ∈ place, IsPlain p) ∧ ∀ p ∈ place, '/' ∉ p.toList := by
  unfold place? at h
  have hstart : ∀ p ∈ (if Text.startsWith reference "/" then [] else directories importer),
      p ∈ directories importer := by
    intro p hp
    split at hp
    · cases hp
    · exact hp
  refine ⟨(foldl_pushPart_of_follow (fun p hp => himporter.directories p (hstart p hp)) h).2, ?_⟩
  intro p hp
  rcases mem_of_follow h hp with hin | hin
  · exact slash_not_mem_of_mem_directories (hstart p hin)
  · exact slash_not_mem_of_mem_parts hin

/-- The index unit of a place stands one part below it. -/
theorem join_index {place : List String} (hplain : ∀ p ∈ place, IsPlain p)
    (hslash : ∀ p ∈ place, '/' ∉ p.toList) {suffix : String} (hsuffix : suffix ∈ suffixes) :
    join (ofParts place) (indexStem ++ suffix) = ofParts (place ++ [indexStem ++ suffix]) := by
  have hindex : parts (indexStem ++ suffix) = [indexStem ++ suffix] ∧
      Text.startsWith (indexStem ++ suffix) "/" = false := by
    simp only [suffixes, List.mem_cons, List.not_mem_nil, or_false] at hsuffix
    -- each of the four names is a single part
    rcases hsuffix with rfl | rfl | rfl | rfl <;> decide
  rw [← ofParts_parts (join (ofParts place) (indexStem ++ suffix)),
    (parts_join hplain hslash hindex.2).1, hindex.1]

/-- Whether some unit can be imported at a place: one with the path itself, one with a suffix behind
it, or the index of the directory. -/
def Importable (place known : List String) : Prop :=
  ofParts place ∈ known ∨ (∃ suffix ∈ suffixes, ofParts place ++ suffix ∈ known) ∨
    ∃ suffix ∈ suffixes, ofParts (place ++ [indexStem ++ suffix]) ∈ known

instance (place known : List String) : Decidable (Importable place known) :=
  inferInstanceAs (Decidable (_ ∨ _ ∨ _))

/-- Whether a unit is looked for at a place: one with the path itself if that has a suffix, one with
a suffix behind it if not, or the index of the directory. -/
def LookedFor (place known : List String) : Prop :=
  (hasSuffix (ofParts place) = true ∧ ofParts place ∈ known) ∨
    (hasSuffix (ofParts place) = false ∧ ∃ suffix ∈ suffixes, ofParts place ++ suffix ∈ known) ∨
    ∃ suffix ∈ suffixes, ofParts (place ++ [indexStem ++ suffix]) ∈ known

/-- What is looked for is among the options. -/
theorem exists_option_of_lookedFor {place known : List String} (hplain : ∀ p ∈ place, IsPlain p)
    (hslash : ∀ p ∈ place, '/' ∉ p.toList) (h : LookedFor place known) :
    ∃ unit ∈ options (ofParts place), unit ∈ known := by
  unfold options
  rcases h with ⟨hsuffix, hknown⟩ | ⟨hsuffix, suffix, hmem, hknown⟩ | ⟨suffix, hmem, hknown⟩
  · refine ⟨_, List.mem_append_left _ ?_, hknown⟩
    rw [if_pos hsuffix]
    exact List.mem_cons_self
  · refine ⟨_, List.mem_append_left _ ?_, hknown⟩
    rw [if_neg (by simp [hsuffix])]
    exact List.mem_map_of_mem hmem
  · refine ⟨_, List.mem_append_right _ (List.mem_map_of_mem hmem), ?_⟩
    rw [join_index hplain hslash hmem]
    exact hknown

/-- A reference that begins with `./`, `../` or a slash and denotes a place below the root names a
known unit, if a unit that is looked for there is known. -/
theorem target_mem_of_place (reference importer : String) (known place : List String)
    (himporter : IsNormal importer)
    (hreference : Text.startsWith reference "./" = true ∨ Text.startsWith reference "../" = true ∨
      Text.startsWith reference "/" = true)
    (hplace : place? reference importer = some place) (hroot : place ≠ [])
    (hknown : LookedFor place known) : target reference importer known ∈ known := by
  have hstyle : styleOf reference ≠ .verbatim := by
    unfold styleOf
    rcases hreference with h | h | h <;> simp only [h, Bool.true_or, Bool.or_true, if_true]
    · split <;> simp
    · split <;> simp
    · simp
  rcases parts_of_place himporter hplace with ⟨hplain, hslash⟩
  exact target_mem_of_option (denoted?_of_place himporter hstyle hplace hroot)
    (exists_option_of_lookedFor hplain hslash hknown)

/-- A directory below the one two levels up, named with dots and a slash at its end: its index is
found. -/
theorem target_mem_of_place_index :
    place? "../../models/./" "src/app/main.ts" = some ["models"] ∧
      LookedFor ["models"] ["src/app/main.ts", "models/index.js"] ∧
      target "../../models/./" "src/app/main.ts" ["src/app/main.ts", "models/index.js"] ∈
        ["src/app/main.ts", "models/index.js"] := by
  have hplace : place? "../../models/./" "src/app/main.ts" = some ["models"] := by decide +kernel
  have hknown : LookedFor ["models"] ["src/app/main.ts", "models/index.js"] :=
    Or.inr (Or.inr ⟨".js", by decide, by decide⟩)
  exact ⟨hplace, hknown, target_mem_of_place _ _ _ _ (by decide +kernel) (Or.inr (Or.inl rfl))
    hplace (by decide) hknown⟩

/-- A reference into the project denotes a place where a unit can be imported, all paths are normal,
and yet no known unit is named. -/
structure Misses (reference importer : String) (known place : List String) : Prop where
  isLocal : isExternalReference reference = false
  normalImporter : IsNormal importer
  normalKnown : ∀ unit ∈ known, IsNormal unit
  leads : place? reference importer = some place
  importable : Importable place known
  misses : target reference importer known ∉ known

/-- Not every unit that can be imported is found: not one with a suffix behind a suffix, not one
with another suffix, and neither the index of a directory that is named by dots alone nor that of
the root. -/
theorem importable_missed :
    Misses "./util.js" "src/a.ts" ["src/util.js.ts"] ["src", "util.js"] ∧
      Misses "./util.mjs" "src/a.ts" ["src/util.mjs"] ["src", "util.mjs"] ∧
      Misses "." "src/a.ts" ["src/index.ts"] ["src"] ∧
      Misses "../" "src/a.ts" ["index.ts"] [] := by
  refine ⟨⟨?_, ?_, ?_, ?_, ?_, ?_⟩, ⟨?_, ?_, ?_, ?_, ?_, ?_⟩, ⟨?_, ?_, ?_, ?_, ?_, ?_⟩,
    ⟨?_, ?_, ?_, ?_, ?_, ?_⟩⟩
  all_goals decide +kernel

end SourceFlow.Resolution
