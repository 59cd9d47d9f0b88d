import Mathlib.Data.List.TakeWhile
import SourceFlow.Proofs.Path
import SourceFlow.Proofs.Text.Joined

/-!
# Normal paths

A relative path in its simplest form has no empty part, no `.` and no `..`.
Such paths are the same as lists of plain parts, and the operations on the
texts of paths are operations on those lists: the directory leaves out the
last part, joining appends, and simplifying follows the parts one by one,
where `..` goes back to the directory above.
-/

namespace SourceFlow.Path

/-! ## Parts -/

theorem ofParts_singleton (part : String) : ofParts [part] = part :=
  String.intercalate_singleton

theorem ofParts_append {ps qs : List String} (hps : ps ≠ []) (hqs : qs ≠ []) :
    ofParts (ps ++ qs) = ofParts ps ++ "/" ++ ofParts qs :=
  String.intercalate_append_of_ne_nil hps hqs

theorem parts_ne_nil (path : String) : parts path ≠ [] := by
  rw [parts, ne_eq, List.map_eq_nil_iff]
  exact List.splitOn_ne_nil _ _

/-- Putting the parts together gives the path back. -/
theorem ofParts_parts (path : String) : ofParts (parts path) = path := by
  apply String.toList_injective
  have hslash : "/".toList = ['/'] := rfl
  rw [ofParts, String.toList_intercalate, parts, List.map_map, hslash]
  have hid : (String.toList ∘ String.ofList) = id := by
    funext cs
    exact String.toList_ofList
  rw [hid, List.map_id, List.intercalate_splitOn]

/-- Parts without slashes can be told from the path. -/
theorem parts_ofParts {ps : List String} (hne : ps ≠ []) (h : ∀ p ∈ ps, '/' ∉ p.toList) :
    parts (ofParts ps) = ps :=
  Text.splitOn_intercalate_pieces rfl hne h

/-- A slash divides the parts before it from those behind it. -/
theorem parts_append_slash (a b : String) : parts (a ++ "/" ++ b) = parts a ++ parts b := by
  have htext : (a ++ "/" ++ b).toList = a.toList ++ '/' :: b.toList := by
    rw [String.toList_append, String.toList_append, List.append_assoc]
    rfl
  rw [parts, htext, List.splitOn_append_cons_self, List.map_append]
  rfl

theorem slash_not_mem_of_mem_parts {path part : String} (h : part ∈ parts path) :
    '/' ∉ part.toList := by
  rcases List.mem_map.mp h with ⟨piece, hpiece, rfl⟩
  rw [String.toList_ofList]
  exact Text.not_mem_of_mem_splitOn hpiece

/-! ## Plain parts -/

/-- A part that names something: it is not empty, and neither `.` nor `..`. -/
structure IsPlain (part : String) : Prop where
  ne_empty : part ≠ ""
  ne_here : part ≠ "."
  ne_above : part ≠ ".."

instance (part : String) : Decidable (IsPlain part) :=
  decidable_of_iff (part ≠ "" ∧ part ≠ "." ∧ part ≠ "..")
    ⟨fun h => ⟨h.1, h.2.1, h.2.2⟩, fun h => ⟨h.ne_empty, h.ne_here, h.ne_above⟩⟩

/-- A relative path in its simplest form. -/
def IsNormal (path : String) : Prop :=
  ∀ part ∈ parts path, IsPlain part

instance (path : String) : Decidable (IsNormal path) :=
  inferInstanceAs (Decidable (∀ part ∈ parts path, IsPlain part))

def directories (path : String) : List String :=
  (parts path).dropLast

/-- A path is its directories and a name. -/
theorem exists_parts_eq (path : String) : ∃ name, parts path = directories path ++ [name] :=
  ⟨(parts path).getLast (parts_ne_nil path),
    (List.dropLast_concat_getLast (parts_ne_nil path)).symm⟩

variable {path : String}

theorem IsNormal.directories (h : IsNormal path) : ∀ part ∈ directories path, IsPlain part :=
  fun part hpart => h part (List.dropLast_subset _ hpart)

theorem slash_not_mem_of_mem_directories {part : String} (h : part ∈ directories path) :
    '/' ∉ part.toList :=
  slash_not_mem_of_mem_parts (List.dropLast_subset _ h)

/-- Plain parts make a text that is not empty. -/
theorem ofParts_ne_empty {ps : List String} (hne : ps ≠ []) (hplain : ∀ p ∈ ps, IsPlain p) :
    ofParts ps ≠ "" := by
  rcases List.eq_nil_or_concat' ps with hnil | ⟨before, last, rfl⟩
  · exact absurd hnil hne
  · have hlast := hplain last (List.mem_append_right _ List.mem_cons_self)
    rcases Text.toList_intercalate_concat "/" before last with ⟨start, hstart⟩
    intro hempty
    rw [ofParts] at hempty
    rw [hempty] at hstart
    have hnil := (List.append_eq_nil_iff.mp hstart.symm).2
    exact hlast.ne_empty (String.toList_eq_nil_iff.mp hnil)

/-- The text of plain parts ends in a character that is no slash. -/
theorem exists_toList_ofParts {ps : List String} (hne : ps ≠ []) (hplain : ∀ p ∈ ps, IsPlain p)
    (hslash : ∀ p ∈ ps, '/' ∉ p.toList) :
    ∃ front c, (ofParts ps).toList = front ++ [c] ∧ c ≠ '/' := by
  rcases List.eq_nil_or_concat' ps with hnil | ⟨before, last, rfl⟩
  · exact absurd hnil hne
  · have hlast : last ∈ before ++ [last] := List.mem_append_right _ List.mem_cons_self
    exact Text.exists_toList_intercalate "/" before (hplain last hlast).ne_empty
      (hslash last hlast)

/-! ## Directories as texts -/

/-- Cutting a path at its last slash. -/
theorem dropWhile_reverse_append {name : List Char} (h : '/' ∉ name) (front : List Char) :
    ((front ++ '/' :: name).reverse.dropWhile (· != '/')).reverse = front ++ ['/'] := by
  have hreverse : (front ++ '/' :: name).reverse = name.reverse ++ '/' :: front.reverse := by simp
  rw [hreverse, List.dropWhile_append_of_pos (ne_of_mem_reverse h),
    List.dropWhile_cons_of_neg (by decide)]
  simp

/-- The directory of a normal path has all its parts but the last. -/
theorem directory_of_isNormal (h : IsNormal path) :
    directory path = ofParts (directories path) := by
  rcases exists_parts_eq path with ⟨name, hparts⟩
  have hmem : name ∈ parts path := by
    rw [hparts]
    exact List.mem_append_right _ List.mem_cons_self
  have hname := slash_not_mem_of_mem_parts hmem
  have hpath := ofParts_parts path
  rw [hparts] at hpath
  by_cases hdirs : directories path = []
  · -- a bare name has nothing before its last slash
    rw [hdirs, List.nil_append, ofParts_singleton] at hpath
    have hhead : path.toList.reverse.dropWhile (· != '/') = [] := by
      rw [List.dropWhile_eq_nil_iff]
      intro c hc
      rw [bne_iff_ne]
      rintro rfl
      rw [hpath] at hname
      exact hname (List.mem_reverse.mp hc)
    rw [directory, hhead, hdirs]
    rfl
  · rcases exists_toList_ofParts hdirs h.directories fun _ => slash_not_mem_of_mem_directories with
      ⟨front, c, hfront, hc⟩
    -- the last slash stands behind the directories, and the name has none
    have htext : path.toList = (front ++ [c]) ++ '/' :: name.toList := by
      rw [← hpath, ofParts_append hdirs (List.cons_ne_nil _ _), ofParts_singleton, ← hfront]
      simp
    have hall : ((front ++ [c]) ++ ['/']).all (· == '/') = false := by
      simp [hc]
    have htrim : Text.dropTrailing (· == '/') ((front ++ [c]) ++ ['/']) = front ++ [c] := by
      simp [Text.dropTrailing, hc]
    rw [directory, htext, dropWhile_reverse_append hname, hall, htrim, ← hfront]
    exact String.ofList_toList

/-! ## Rooted texts -/

theorem startsWith_slash_iff (path : String) :
    Text.startsWith path "/" = true ↔ ∃ rest, path.toList = '/' :: rest :=
  Text.startsWith_iff path "/"

/-- A path that begins with a slash has an empty part in front. -/
theorem parts_cons_slash {rest : List Char} (h : path.toList = '/' :: rest) :
    parts path = "" :: parts (String.ofList rest) := by
  rw [parts, parts, h, List.splitOn_cons_eq_if_modifyHead, if_pos (beq_self_eq_true _),
    String.toList_ofList]
  rfl

/-- A path whose first part is not empty is not rooted. -/
theorem startsWith_slash_of_parts {first : String} {more : List String}
    (h : parts path = first :: more) (hfirst : first ≠ "") :
    Text.startsWith path "/" = false := by
  rw [Bool.eq_false_iff]
  intro hslash
  rcases (startsWith_slash_iff path).mp hslash with ⟨rest, hrest⟩
  rw [parts_cons_slash hrest] at h
  exact hfirst (List.cons.inj h).1.symm

/-- A path that is not rooted has no slashes in front. -/
theorem leadingSlashes_of_not_rooted (h : Text.startsWith path "/" = false) :
    leadingSlashes path = 0 := by
  cases htext : path.toList with
  | nil => rw [leadingSlashes, htext]; rfl
  | cons c rest =>
    have hc : (c == '/') = false := by
      rw [beq_eq_false_iff_ne]
      rintro rfl
      rw [(startsWith_slash_iff path).mpr ⟨rest, htext⟩] at h
      cases h
    rw [leadingSlashes, htext, List.takeWhile_cons_of_neg (by simp [hc])]
    rfl

/-! ## Joining -/

/-- Joining appends the parts, and the result is as little rooted as the path is. -/
theorem parts_join {dirs : List String} (hplain : ∀ p ∈ dirs, IsPlain p)
    (hslash : ∀ p ∈ dirs, '/' ∉ p.toList) (hpath : Text.startsWith path "/" = false) :
    parts (join (ofParts dirs) path) = dirs ++ parts path ∧
      Text.startsWith (join (ofParts dirs) path) "/" = false := by
  -- without directories nothing is put in front
  cases dirs with
  | nil =>
    have hjoin : join (ofParts []) path = path := by
      rw [join, hpath]
      exact String.empty_append
    rw [hjoin]
    exact ⟨rfl, hpath⟩
  | cons first more =>
    rcases exists_toList_ofParts (List.cons_ne_nil first more) hplain hslash with
      ⟨front, c, hfront, hc⟩
    have hne : (ofParts (first :: more)).isEmpty = false := by
      rw [Bool.eq_false_iff, ne_eq, String.isEmpty_iff]
      exact ofParts_ne_empty (List.cons_ne_nil first more) hplain
    -- the last directory is not empty and has no slash, so one is put between
    have hend : Text.endsWith (ofParts (first :: more)) "/" = false := by
      rw [Text.endsWith, hfront, Bool.eq_false_iff, ne_eq, List.isSuffixOf_iff_suffix]
      rintro ⟨t, ht⟩
      exact hc (List.cons.inj (List.append_inj' ht rfl).2).1.symm
    have hjoin : join (ofParts (first :: more)) path = ofParts (first :: more) ++ "/" ++ path := by
      rw [join, hpath, hne, hend]
      rfl
    have hparts : parts (join (ofParts (first :: more)) path) = first :: (more ++ parts path) := by
      rw [hjoin, parts_append_slash, parts_ofParts (List.cons_ne_nil first more) hslash]
      rfl
    exact ⟨hparts, startsWith_slash_of_parts hparts (hplain first List.mem_cons_self).ne_empty⟩

/-! ## Following parts -/

/-- Where some parts lead from a directory, if they do not lead above the root: `..` goes back to
the directory above, and empty parts and `.` lead nowhere else. -/
def follow : List String → List String → Option (List String)
  | place, [] => some place
  | place, part :: rest =>
    if part = "" ∨ part = "." then follow place rest
    else if part = ".." then if place = [] then none else follow place.dropLast rest
    else follow (place ++ [part]) rest

/-- Plain parts lead down, one directory after the other. -/
theorem follow_plain {dirs : List String} (h : ∀ p ∈ dirs, IsPlain p) (place ps : List String) :
    follow place (dirs ++ ps) = follow (place ++ dirs) ps := by
  induction dirs generalizing place with
  | nil => rw [List.nil_append, List.append_nil]
  | cons d rest ih =>
    have hd := h d List.mem_cons_self
    have hskip : ¬ (d = "" ∨ d = ".") := not_or.mpr ⟨hd.ne_empty, hd.ne_here⟩
    rw [List.cons_append, follow, if_neg hskip, if_neg hd.ne_above,
      ih (fun p hp => h p (List.mem_cons_of_mem _ hp)), List.append_assoc, List.singleton_append]

/-- Following adds no parts of its own. -/
theorem mem_of_follow {place ps found : List String} (h : follow place ps = some found)
    {p : String} (hp : p ∈ found) : p ∈ place ∨ p ∈ ps := by
  induction ps generalizing place with
  | nil =>
    obtain rfl := Option.some.inj h
    exact Or.inl hp
  | cons part rest ih =>
    rw [follow] at h
    split at h
    · exact (ih h).imp_right (List.mem_cons_of_mem _)
    · split at h
      · split at h
        · cases h
        · exact (ih h).imp (fun hin => List.dropLast_subset _ hin) (List.mem_cons_of_mem _)
      · rcases ih h with hin | hin
        · rcases List.mem_append.mp hin with hin | hin
          · exact Or.inl hin
          · rw [List.mem_singleton.mp hin]
            exact Or.inr List.mem_cons_self
        · exact Or.inr (List.mem_cons_of_mem _ hin)

theorem pushPart_skip {part : String} (h : part = "" ∨ part = ".") (rooted : Bool)
    (done : List String) : pushPart rooted done part = done := by
  unfold pushPart
  rw [if_pos h]

theorem pushPart_plain {part : String} (h : IsPlain part) (rooted : Bool) (done : List String) :
    pushPart rooted done part = part :: done := by
  unfold pushPart
  rw [if_neg (not_or.mpr ⟨h.ne_empty, h.ne_here⟩), if_neg h.ne_above]

theorem pushPart_above {last : String} (h : IsPlain last) (rooted : Bool) (before : List String) :
    pushPart rooted (last :: before) ".." = before := by
  unfold pushPart
  rw [if_neg (by decide), if_pos rfl]
  exact if_neg h.ne_above

/-- What is left after simplifying are the parts of the place that the parts lead to. -/
theorem foldl_pushPart_of_follow {place ps found : List String}
    (hplace : ∀ p ∈ place, IsPlain p) (h : follow place ps = some found) :
    ps.foldl (pushPart false) place.reverse = found.reverse ∧ ∀ p ∈ found, IsPlain p := by
  induction ps generalizing place with
  | nil =>
    obtain rfl := Option.some.inj h
    exact ⟨rfl, hplace⟩
  | cons part rest ih =>
    rw [follow] at h
    rw [List.foldl_cons]
    split at h
    · rename_i hskip
      rw [pushPart_skip hskip]
      exact ih hplace h
    · rename_i hskip
      split at h
      · -- the part leads back, from a place that is not the root
        rename_i habove
        split at h
        · cases h
        · rename_i hne
          rcases List.eq_nil_or_concat' place with hnil | ⟨before, last, rfl⟩
          · exact absurd hnil hne
          · have hlast := hplace last (List.mem_append_right _ List.mem_cons_self)
            rw [List.dropLast_concat] at h
            rw [habove, List.reverse_append, List.reverse_singleton, List.singleton_append,
              pushPart_above hlast]
            exact ih (fun p hp => hplace p (List.mem_append_left _ hp)) h
      · rename_i habove
        have hpart : IsPlain part :=
          ⟨fun he => hskip (Or.inl he), fun he => hskip (Or.inr he), habove⟩
        rw [pushPart_plain hpart, ← List.reverse_concat']
        refine ih ?_ h
        intro p hp
        rcases List.mem_append.mp hp with hp | hp
        · exact hplace p hp
        · rw [List.mem_singleton.mp hp]
          exact hpart

/-- The simplest text of a path below the root names the place that its parts lead to. -/
theorem normalize_of_follow {found : List String} (hpath : Text.startsWith path "/" = false)
    (h : follow [] (parts path) = some found) (hne : found ≠ []) :
    normalize path = ofParts found := by
  rcases foldl_pushPart_of_follow (fun _ hp => absurd hp List.not_mem_nil) h with ⟨hfold, hplain⟩
  -- simplifying keeps the parts in reverse, the last one first
  have hsimplify : simplify false (parts path) = found := by
    rw [simplify, ← List.reverse_nil, hfold, List.reverse_reverse]
  have htext : String.ofList (List.replicate 0 '/') ++ ofParts found = ofParts found :=
    String.empty_append
  have hempty : (ofParts found).isEmpty = false := by
    rw [Bool.eq_false_iff, ne_eq, String.isEmpty_iff]
    exact ofParts_ne_empty hne hplain
  unfold normalize
  rw [leadingSlashes_of_not_rooted hpath]
  simp only [bne_self_eq_false, hsimplify, htext, hempty]
  rfl

end SourceFlow.Path
