import Mathlib.Data.List.Induction
import SourceFlow.Proofs.Resolution.Places

/-!
# References between units

From the paths of two units a reference can be worked out that leads from
one to the other: up to the directory that they share, and down again. It
is resolved to just that unit (`target_referenceTo`). The literal
candidate comes first, but it can only get in the way of a reference that
does not go up.
-/

namespace SourceFlow.Resolution

open SourceFlow.Path

/-! ## The reference from one unit to another -/

/-- The longest list that two lists begin with. -/
def sharedPrefix : List String → List String → List String
  | x :: xs, y :: ys => if x = y then x :: sharedPrefix xs ys else []
  | _, _ => []

/-- What both lists begin with is what the shared one begins with. -/
theorem prefix_sharedPrefix_iff (c xs ys : List String) :
    c <+: sharedPrefix xs ys ↔ c <+: xs ∧ c <+: ys := by
  induction xs generalizing c ys with
  | nil =>
    simp only [sharedPrefix, List.prefix_nil]
    constructor
    · rintro rfl
      exact ⟨rfl, List.nil_prefix⟩
    · exact fun h => h.1
  | cons x xs ih =>
    cases ys with
    | nil =>
      simp only [sharedPrefix, List.prefix_nil]
      constructor
      · rintro rfl
        exact ⟨List.nil_prefix, rfl⟩
      · exact fun h => h.2
    | cons y ys =>
      cases c with
      | nil => simp
      | cons z c =>
        rw [sharedPrefix, List.cons_prefix_cons, List.cons_prefix_cons]
        -- the heads are equal, and the tails are compared, or nothing is shared
        split
        · rename_i heq
          rw [List.cons_prefix_cons, ih, ← heq]
          constructor
          · rintro ⟨hz, hxs, hys⟩
            exact ⟨⟨hz, hxs⟩, hz, hys⟩
          · rintro ⟨⟨hz, hxs⟩, _, hys⟩
            exact ⟨hz, hxs, hys⟩
        · rename_i hne
          constructor
          · intro h
            cases List.prefix_nil.mp h
          · rintro ⟨⟨hzx, _⟩, hzy, _⟩
            exact absurd (hzx.symm.trans hzy) hne

/-- The directories that two units have in common, from the root on. -/
def sharedDirectories (importer unit : String) : List String :=
  sharedPrefix (directories importer) (directories unit)

/-- How many directories lead from a unit up to one that it shares with another unit. -/
def stepsUp (importer unit : String) : Nat :=
  ((directories importer).drop (sharedDirectories importer unit).length).length

/-- What is left of the path of a unit below the directories it shares with another. -/
def partsBelow (importer unit : String) : List String :=
  (parts unit).drop (sharedDirectories importer unit).length

/-- A path with `../` in front, so many times. -/
def climb : Nat → String → String
  | 0, path => path
  | n + 1, path => "../" ++ climb n path

/-- The reference from one unit to another by the directory that they share. -/
def referenceTo (importer unit : String) : String :=
  if stepsUp importer unit = 0 then "./" ++ ofParts (partsBelow importer unit)
  else climb (stepsUp importer unit) (ofParts (partsBelow importer unit))

/-- Going up so many times puts as many `..` in front. -/
theorem parts_climb (n : Nat) (path : String) :
    parts (climb n path) = List.replicate n ".." ++ parts path := by
  induction n with
  | zero => rfl
  | succ n ih =>
    have htext : climb (n + 1) path = ".." ++ "/" ++ climb n path := rfl
    have habove : parts ".." = [".."] := by decide
    rw [htext, parts_append_slash, habove, ih, List.replicate_succ]
    rfl

/-- Going up as many times as there are directories takes them all back. -/
theorem follow_climb (place up ps : List String) :
    follow (place ++ up) (List.replicate up.length ".." ++ ps) = follow place ps := by
  induction up using List.reverseRecOn with
  | nil => simp
  | append_singleton up last ih =>
    have hlength : (up ++ [last]).length = up.length + 1 := by simp
    have hne : place ++ (up ++ [last]) ≠ [] := by simp
    have hdrop : (place ++ (up ++ [last])).dropLast = place ++ up := by
      rw [← List.append_assoc, List.dropLast_concat]
    rw [hlength, List.replicate_succ, List.cons_append, follow, if_neg (by decide), if_pos rfl,
      if_neg hne, hdrop, ih]

/-- Whether a path ends in a text without slashes shows in its last part. -/
theorem endsWith_of_parts {path name suffix : String} {dirs : List String}
    (h : parts path = dirs ++ [name]) (hsuffix : '/' ∉ suffix.toList) :
    Text.endsWith path suffix = Text.endsWith name suffix := by
  have hpath := ofParts_parts path
  rw [h] at hpath
  by_cases hdirs : dirs = []
  · rw [hdirs, List.nil_append, ofParts_singleton] at hpath
    rw [hpath]
  · rw [ofParts_append hdirs (List.cons_ne_nil _ _), ofParts_singleton] at hpath
    have htext : path.toList = (ofParts dirs).toList ++ '/' :: name.toList := by
      rw [← hpath]
      simp
    have hname : '/' :: name.toList <:+ path.toList := by
      rw [htext]
      exact List.suffix_append _ _
    rw [Text.endsWith, Text.endsWith, Bool.eq_iff_iff, List.isSuffixOf_iff_suffix,
      List.isSuffixOf_iff_suffix]
    constructor
    · intro hends
      -- a longer suffix would have the slash in it
      rcases List.suffix_or_suffix_of_suffix hends hname with hshort | hlong
      · rcases List.suffix_cons_iff.mp hshort with heq | hin
        · exact absurd (heq ▸ List.mem_cons_self) hsuffix
        · exact hin
      · exact absurd (hlong.subset List.mem_cons_self) hsuffix
    · intro hends
      exact hends.trans ((List.suffix_cons _ _).trans hname)

/-- So whether a path has a suffix shows in its last part. -/
theorem hasSuffix_of_parts {path name : String} {dirs : List String}
    (h : parts path = dirs ++ [name]) : hasSuffix path = hasSuffix name := by
  have hslash : ∀ suffix ∈ suffixes, '/' ∉ suffix.toList := by decide
  rw [hasSuffix, hasSuffix, Bool.eq_iff_iff, List.any_eq_true, List.any_eq_true]
  constructor
  · rintro ⟨suffix, hmem, hends⟩
    exact ⟨suffix, hmem, endsWith_of_parts h (hslash suffix hmem) ▸ hends⟩
  · rintro ⟨suffix, hmem, hends⟩
    exact ⟨suffix, hmem, (endsWith_of_parts h (hslash suffix hmem)).symm ▸ hends⟩

section Between

variable (importer unit : String)

/-- Both units lie below the directories that they share. -/
theorem sharedDirectories_begins :
    sharedDirectories importer unit <+: directories importer ∧
      sharedDirectories importer unit <+: directories unit :=
  (prefix_sharedPrefix_iff _ _ _).mp (List.prefix_refl _)

/-- The directories of the importing unit are the shared ones and those that are left again. -/
theorem exists_directories_eq :
    ∃ up, directories importer = sharedDirectories importer unit ++ up ∧
      up.length = stepsUp importer unit := by
  rcases (sharedDirectories_begins importer unit).1 with ⟨up, hup⟩
  refine ⟨up, hup.symm, ?_⟩
  rw [stepsUp, ← hup, List.drop_left]

/-- The path of the other unit goes on below the shared directories, to its name. -/
theorem exists_partsBelow_eq :
    ∃ dirs name, partsBelow importer unit = dirs ++ [name] ∧
      parts unit = sharedDirectories importer unit ++ dirs ++ [name] := by
  rcases exists_parts_eq unit with ⟨name, hname⟩
  rcases (sharedDirectories_begins importer unit).2 with ⟨dirs, hdirs⟩
  have hparts : parts unit = sharedDirectories importer unit ++ dirs ++ [name] := by
    rw [hdirs, hname]
  refine ⟨dirs, name, ?_, hparts⟩
  rw [partsBelow, hparts, List.append_assoc, List.drop_left]

/-- What is left of a path is a path with just these parts. -/
theorem parts_ofParts_partsBelow :
    parts (ofParts (partsBelow importer unit)) = partsBelow importer unit := by
  rcases exists_partsBelow_eq importer unit with ⟨dirs, name, hbelow, _⟩
  apply parts_ofParts
  · rw [hbelow]
    exact List.append_ne_nil_of_right_ne_nil _ (List.cons_ne_nil _ _)
  · exact fun p hp => slash_not_mem_of_mem_parts (List.drop_subset _ _ hp)

/-- The parts of a reference go up, if they have to, and then down to the unit. -/
theorem parts_referenceTo :
    parts (referenceTo importer unit) =
      (if stepsUp importer unit = 0 then ["."] else List.replicate (stepsUp importer unit) "..") ++
        partsBelow importer unit := by
  unfold referenceTo
  split
  · have htext : "./" ++ ofParts (partsBelow importer unit) =
        "." ++ "/" ++ ofParts (partsBelow importer unit) := rfl
    have hhere : parts "." = ["."] := by decide
    rw [htext, parts_append_slash, hhere, parts_ofParts_partsBelow]
  · rw [parts_climb, parts_ofParts_partsBelow]

/-- The reference from one unit to another denotes the other's path. -/
theorem place?_referenceTo (hunit : IsNormal unit) :
    place? (referenceTo importer unit) importer = some (parts unit) := by
  rcases exists_directories_eq importer unit with ⟨up, hup, hlength⟩
  rcases exists_partsBelow_eq importer unit with ⟨dirs, name, hbelow, hunitParts⟩
  have hplain : ∀ p ∈ partsBelow importer unit, IsPlain p :=
    fun p hp => hunit p (List.drop_subset _ _ hp)
  -- from the shared directories on, all parts lead down
  have hdown : follow (sharedDirectories importer unit) (partsBelow importer unit) =
      some (parts unit) := by
    have hend := follow_plain hplain (sharedDirectories importer unit) []
    rw [List.append_nil] at hend
    rw [hend, hunitParts, hbelow, List.append_assoc]
    rfl
  have hparts := parts_referenceTo importer unit
  unfold place?
  -- the importing unit lies in the shared directory itself, or below it
  by_cases hsteps : stepsUp importer unit = 0
  · rw [if_pos hsteps, List.singleton_append] at hparts
    rw [startsWith_slash_of_parts hparts (by decide), if_neg Bool.false_ne_true, hparts, follow,
      if_pos (Or.inr rfl), hup, List.length_eq_zero_iff.mp (hlength.trans hsteps), List.append_nil,
      hdown]
  · rw [if_neg hsteps, ← hlength] at hparts
    rcases Nat.exists_eq_succ_of_ne_zero (fun hzero => hsteps (hlength.symm.trans hzero)) with
      ⟨n, hn⟩
    have hfirst : parts (referenceTo importer unit) =
        ".." :: (List.replicate n ".." ++ partsBelow importer unit) := by
      rw [hparts, hn, List.replicate_succ, List.cons_append]
    rw [startsWith_slash_of_parts hfirst (by decide), if_neg Bool.false_ne_true, hparts, hup,
      follow_climb, hdown]

end Between

/-! ## Where references between units lead -/

theorem startsWith_append (start path : String) : Text.startsWith (start ++ path) start = true := by
  rw [Text.startsWith_iff]
  exact ⟨path.toList, String.toList_append⟩

theorem styleOf_here (path : String) : styleOf ("./" ++ path) = .relative := by
  have hroot : Text.startsWith ("./" ++ path) "/" = false := by
    rw [Text.startsWith, String.toList_append]
    rfl
  rw [styleOf, hroot, startsWith_append "./" path]
  rfl

/-- What begins with `../` is relative, whatever follows. -/
theorem styleOf_above (path : String) : styleOf ("../" ++ path) = .relative := by
  have hroot : Text.startsWith ("../" ++ path) "/" = false := by
    rw [Text.startsWith, String.toList_append]
    rfl
  rw [styleOf, hroot, startsWith_append "../" path, Bool.or_true]
  rfl

/-- The literal candidate of a reference from here is taken from the root. -/
theorem literal_here (path : String) : literal ("./" ++ path) = withSuffix path := by
  have hdrop : Text.dropFirst 2 ("./" ++ path) = path := by
    rw [Text.dropFirst, String.toList_append]
    exact String.ofList_toList
  simp only [literal, styleOf_here, startsWith_append, if_true, hdrop]

/-- That of a reference that goes up keeps its `..`. -/
theorem literal_above (path : String) :
    literal ("../" ++ path) = withSuffix ("../" ++ path) := by
  have hhere : Text.startsWith ("../" ++ path) "./" = false := by
    rw [Text.startsWith, String.toList_append]
    rfl
  simp only [literal, styleOf_above, hhere, Bool.false_eq_true, if_false]

theorem withSuffix_of_hasSuffix {path : String} (h : hasSuffix path = true) :
    withSuffix path = path := by
  rw [withSuffix, if_pos h]

/-- If the literal candidate is not known, a known path with a suffix is found at its place. -/
theorem target_of_place {reference importer unit : String} {known : List String}
    (himporter : IsNormal importer) (hstyle : styleOf reference ≠ .verbatim)
    (hplace : place? reference importer = some (parts unit)) (hsuffix : hasSuffix unit = true)
    (hknown : unit ∈ known) (hliteral : literal reference ∉ known) :
    target reference importer known = unit := by
  have hdenoted := denoted?_of_place himporter hstyle hplace (parts_ne_nil unit)
  rw [ofParts_parts] at hdenoted
  have hfound : (options unit).find? known.contains = some unit := by
    rw [options, if_pos hsuffix, List.singleton_append]
    exact List.find?_cons_of_pos (List.contains_iff_mem.mpr hknown)
  rw [target_of_denoted hliteral hdenoted, hfound]
  rfl

/-- The reference ends as the path of the unit does. -/
theorem hasSuffix_referenceTo (importer unit : String) :
    hasSuffix (referenceTo importer unit) = hasSuffix unit ∧
      hasSuffix (ofParts (partsBelow importer unit)) = hasSuffix unit := by
  rcases exists_partsBelow_eq importer unit with ⟨dirs, name, hbelow, hunit⟩
  have hreference := parts_referenceTo importer unit
  have hrest := parts_ofParts_partsBelow importer unit
  rw [hbelow, ← List.append_assoc] at hreference
  rw [hbelow] at hrest
  rw [hasSuffix_of_parts hreference, hasSuffix_of_parts hunit, hbelow, hasSuffix_of_parts hrest]
  exact ⟨rfl, rfl⟩

section Known

variable {importer unit : String} {known : List String} (himporter : IsNormal importer)
  (hnormal : ∀ k ∈ known, IsNormal k) (hunit : unit ∈ known) (hsuffix : hasSuffix unit = true)

include himporter hnormal hunit hsuffix

/-- A reference that goes up is no normal path and so not known itself. -/
theorem target_referenceTo_up (hsteps : 1 ≤ stepsUp importer unit) :
    target (referenceTo importer unit) importer known = unit := by
  have hplace := place?_referenceTo importer unit (hnormal unit hunit)
  have hparts := parts_referenceTo importer unit
  have hends := (hasSuffix_referenceTo importer unit).1
  have hzero : stepsUp importer unit ≠ 0 := by omega
  rcases Nat.exists_eq_add_of_le' hsteps with ⟨n, hn⟩
  have htext : referenceTo importer unit =
      "../" ++ climb n (ofParts (partsBelow importer unit)) := by
    rw [referenceTo, if_neg hzero, hn]
    rfl
  -- going up at least once, the reference has a part that no normal path has
  have habove : ".." ∈ parts (referenceTo importer unit) := by
    rw [hparts, if_neg hzero, hn, List.replicate_succ]
    exact List.mem_append_left _ List.mem_cons_self
  have hliteral : literal (referenceTo importer unit) = referenceTo importer unit := by
    rw [htext, literal_above, ← htext]
    exact withSuffix_of_hasSuffix (hends.trans hsuffix)
  refine target_of_place himporter ?_ hplace hsuffix hunit ?_
  · rw [htext, styleOf_above]
    decide
  · rw [hliteral]
    intro hknown
    exact (hnormal _ hknown _ habove).ne_above rfl

/-- A reference that does not go up is its own literal candidate, once `./` is taken away. -/
theorem target_referenceTo_down (hsteps : stepsUp importer unit = 0) :
    target (referenceTo importer unit) importer known =
      if ofParts (partsBelow importer unit) ∈ known then ofParts (partsBelow importer unit)
      else unit := by
  have hplace := place?_referenceTo importer unit (hnormal unit hunit)
  have hends := (hasSuffix_referenceTo importer unit).2
  have htext : referenceTo importer unit = "./" ++ ofParts (partsBelow importer unit) := by
    rw [referenceTo, if_pos hsteps]
  have hliteral : literal (referenceTo importer unit) = ofParts (partsBelow importer unit) := by
    rw [htext, literal_here]
    exact withSuffix_of_hasSuffix (hends.trans hsuffix)
  rw [← hliteral]
  split
  · rename_i hknown
    exact target_of_literal hknown
  · rename_i hnot
    refine target_of_place himporter ?_ hplace hsuffix hunit hnot
    rw [htext, styleOf_here]
    decide

end Known

/-- Among units with normal paths, the reference from one unit to another, by the longest list of
directories that they share, leads to the other unit. Only if it does not go up can it lead to
another one, and then to the one whose path is the reference itself, taken from the root. -/
theorem target_referenceTo (importer unit : String) (known : List String)
    (himporter : IsNormal importer) (hnormal : ∀ k ∈ known, IsNormal k) (hunit : unit ∈ known)
    (hsuffix : hasSuffix unit = true) :
    (∀ dirs, dirs <+: sharedDirectories importer unit ↔
        dirs <+: directories importer ∧ dirs <+: directories unit) ∧
      (1 ≤ stepsUp importer unit →
        target (referenceTo importer unit) importer known = unit) ∧
      (stepsUp importer unit = 0 →
        target (referenceTo importer unit) importer known =
          if ofParts (partsBelow importer unit) ∈ known then ofParts (partsBelow importer unit)
          else unit) :=
  ⟨fun _ => prefix_sharedPrefix_iff _ _ _,
    target_referenceTo_up himporter hnormal hunit hsuffix,
    target_referenceTo_down himporter hnormal hunit hsuffix⟩

/-- Up from `src/app` and down into `src/lib`, and down from `src` with and without a unit of the
same path at the root. -/
theorem target_referenceTo_sample :
    referenceTo "src/app/main.ts" "src/lib/b.tsx" = "../lib/b.tsx" ∧
      target "../lib/b.tsx" "src/app/main.ts" ["src/lib/b.tsx", "lib/b.tsx"] = "src/lib/b.tsx" ∧
      referenceTo "src/a.ts" "src/lib/b.tsx" = "./lib/b.tsx" ∧
      target "./lib/b.tsx" "src/a.ts" ["src/lib/b.tsx"] = "src/lib/b.tsx" ∧
      target "./lib/b.tsx" "src/a.ts" ["src/lib/b.tsx", "lib/b.tsx"] = "lib/b.tsx" := by
  have hup : referenceTo "src/app/main.ts" "src/lib/b.tsx" = "../lib/b.tsx" := by decide +kernel
  have hdown : referenceTo "src/a.ts" "src/lib/b.tsx" = "./lib/b.tsx" := by decide +kernel
  have hboth : ∀ k ∈ ["src/lib/b.tsx", "lib/b.tsx"], IsNormal k := by decide +kernel
  have hone : ∀ k ∈ ["src/lib/b.tsx"], IsNormal k := by decide +kernel
  have hfar := (target_referenceTo "src/app/main.ts" "src/lib/b.tsx" _ (by decide +kernel) hboth
    (by decide) (by decide +kernel)).2.1 (by decide +kernel)
  have hnear := (target_referenceTo "src/a.ts" "src/lib/b.tsx" _ (by decide +kernel) hone
    (by decide) (by decide +kernel)).2.2 (by decide +kernel)
  have hother := (target_referenceTo "src/a.ts" "src/lib/b.tsx" _ (by decide +kernel) hboth
    (by decide) (by decide +kernel)).2.2 (by decide +kernel)
  rw [hup] at hfar
  rw [hdown] at hnear hother
  refine ⟨hup, hfar, hdown, hnear.trans ?_, hother.trans ?_⟩
  · decide +kernel
  · decide +kernel

end SourceFlow.Resolution
