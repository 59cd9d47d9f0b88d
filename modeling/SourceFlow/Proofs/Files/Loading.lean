import SourceFlow.Files.Sources
import SourceFlow.Proofs.Files.Listing
import SourceFlow.Proofs.Path
import SourceFlow.Proofs.Path.Normal

/-!
# Which files are loaded

Loading a directory lists all files below it, keeps those to be read, sorts
them and makes a unit of each. Nothing is lost or repeated on the way: there is
one unit for each file whose name has a supported suffix, which is small enough
and which no passed-over directory encloses. Units come in the order of their
places, name by name, so `a/b` stands before `a-b` although the texts compare
the other way round.
-/

namespace SourceFlow.Sources

/-! ## Suffixes -/

/-- A name with something in front of a supported suffix, in any case of letters. -/
def HasSupportedSuffix (name : String) : Prop :=
  ∃ stem ext, name = stem ++ ext ∧ stem ≠ "" ∧ Text.lowerAscii ext ∈ supportedSuffixes

/-- The only dot of a supported suffix is its first character. -/
theorem exists_rest_of_supported {ext : String} (h : Text.lowerAscii ext ∈ supportedSuffixes) :
    ∃ rest, ext.toList = '.' :: rest ∧ rest ≠ [] ∧ '.' ∉ rest := by
  have hform : ∀ s ∈ supportedSuffixes, ∃ low, s.toList = '.' :: low ∧ low ≠ [] ∧ '.' ∉ low := by
    intro s hs
    simp only [supportedSuffixes, List.mem_cons, List.not_mem_nil, or_false] at hs
    rcases hs with rfl | rfl | rfl | rfl | rfl | rfl <;>
      exact ⟨_, rfl, by decide, by decide⟩
  obtain ⟨low, hlow, hne, hdot⟩ := hform _ h
  rw [Text.toList_lowerAscii] at hlow
  obtain ⟨c, rest, hext, hc, rfl⟩ := List.map_eq_cons_iff.mp hlow
  -- a dot is no letter, so lower-casing neither makes nor removes one
  refine ⟨rest, ?_, ?_, ?_⟩
  · rw [hext, (Text.toLower_eq_iff (by decide) c).mp hc]
  · rintro rfl
    exact hne rfl
  · intro hmem
    exact hdot ((Text.mem_map_toLower_iff (by decide)).mpr hmem)

/-- What the suffix of a name is compared with decides whether something stands before a supported
suffix. -/
theorem lowerAscii_suffix_mem_iff (name : String) :
    Text.lowerAscii (Path.suffix name) ∈ supportedSuffixes ↔ HasSupportedSuffix name := by
  constructor
  · intro h
    -- no supported suffix is empty, so the name has a suffix and a stem before it
    have hne : Path.suffix name ≠ "" := by
      intro hempty
      rw [hempty] at h
      exact absurd h (by decide)
    obtain ⟨stem, hstem, hname⟩ := Path.exists_stem_of_suffix hne
    refine ⟨String.ofList stem, Path.suffix name, ?_, ?_, h⟩
    · apply String.toList_injective
      rw [String.toList_append, String.toList_ofList, hname]
    · intro hempty
      have hnil := congrArg String.toList hempty
      rw [String.toList_ofList] at hnil
      exact hstem hnil
  · rintro ⟨stem, ext, rfl, hstem, hext⟩
    obtain ⟨rest, hrest, hne, hdot⟩ := exists_rest_of_supported hext
    have hstem' : stem.toList ≠ [] := fun hnil => hstem (String.toList_eq_nil_iff.mp hnil)
    have hname : (stem ++ ext).toList = stem.toList ++ '.' :: rest := by
      rw [String.toList_append, hrest]
    rw [Path.suffix_append hstem' hne hdot hname, ← hrest, String.ofList_toList]
    exact hext

/-! ## The order of places -/

/-- Places are compared name by name. -/
theorem placeLe_iff (p q : List String) : placeLe p q = true ↔ ¬ q < p := by
  induction p generalizing q with
  | nil =>
    rw [placeLe]
    exact ⟨fun _ => List.not_lt_nil q, fun _ => rfl⟩
  | cons a as ih =>
    cases q with
    | nil =>
      rw [placeLe]
      exact ⟨nofun, fun h => absurd (List.nil_lt_cons a as) h⟩
    | cons b bs =>
      rw [placeLe, List.cons_lt_cons_iff]
      -- equal first names leave the decision to the rest
      by_cases hab : a = b
      · subst hab
        rw [if_pos rfl, ih]
        constructor
        · rintro hle (hlt | ⟨_, hlt⟩)
          · exact String.lt_irrefl a hlt
          · exact hle hlt
        · intro hle hlt
          exact hle (Or.inr ⟨rfl, hlt⟩)
      · rw [if_neg hab, decide_eq_true_eq]
        constructor
        · rintro hlt (hgt | ⟨heq, _⟩)
          · exact String.lt_asymm hlt hgt
          · exact hab heq.symm
        · intro hle
          -- of two names that differ, one comes before the other
          by_cases hlt : a < b
          · exact hlt
          · have hge : ¬ b < a := fun hgt => hle (Or.inl hgt)
            exact absurd (String.le_antisymm (String.not_lt.mp hge) (String.not_lt.mp hlt)) hab

theorem placeLe_trans (p q r : List String) (hpq : placeLe p q = true) (hqr : placeLe q r = true) :
    placeLe p r = true := by
  rw [placeLe_iff, List.not_lt] at hpq hqr ⊢
  exact List.le_trans hpq hqr

theorem placeLe_total (p q : List String) : (placeLe p q || placeLe q p) = true := by
  rw [Bool.or_eq_true, placeLe_iff, placeLe_iff, List.not_lt, List.not_lt]
  exact List.le_total p q

/-- Of two places that differ, the one that is not after the other is before it. -/
theorem lt_of_placeLe {p q : List String} (hle : placeLe p q = true) (hne : p ≠ q) : p < q := by
  rw [placeLe_iff, List.not_lt] at hle
  rw [← List.not_le]
  intro hge
  exact hne (List.le_antisymm hle hge)

/-! ## The files that are read -/

/-- A file is to be read: its name has a supported suffix, it is not too large, and none of the
directories around it is passed over. -/
structure IsRead (limit : Int) (place : List String) (content : FileContent) : Prop where
  suffix : ∃ name, place.getLast? = some name ∧ HasSupportedSuffix name
  size : (content.bytes.length : Int) ≤ limit
  outside : ∀ name ∈ place.dropLast, name ∉ skippedDirectories

/-- What a file is chosen by: the end of its place, and the directories on the way to it. -/
theorem isSource_iff (place : List String) :
    isSource place = true ↔
      (∃ name, place.getLast? = some name ∧ HasSupportedSuffix name) ∧
        ∀ name ∈ place.dropLast, name ∉ skippedDirectories := by
  have hname : Text.lowerAscii (Path.suffix (place.getLast?.getD "")) ∈ supportedSuffixes ↔
      ∃ name, place.getLast? = some name ∧ HasSupportedSuffix name := by
    cases place.getLast? with
    | none =>
      constructor
      · intro h
        exact absurd h (by decide)
      · rintro ⟨name, hnone, _⟩
        cases hnone
    | some name =>
      rw [Option.getD_some, lowerAscii_suffix_mem_iff]
      constructor
      · intro h
        exact ⟨name, rfl, h⟩
      · rintro ⟨name', hname', h⟩
        rwa [Option.some.inj hname']
  rw [isSource, Bool.and_eq_true, List.contains_iff_mem, hname, Bool.not_eq_true',
    List.any_eq_false]
  simp only [List.contains_iff_mem]

variable {t : FileTree}

/-- The files chosen are the sources that stand somewhere in the tree. -/
theorem mem_select_iff (h : t.IsProper) (place : List String) (content : FileContent) :
    (place, content) ∈ select t ↔ t.fileAt? place = some content ∧ isSource place = true := by
  rw [select, List.mem_mergeSort, List.mem_filter, FileTree.mem_files_iff h]

/-- The files that are read are in strict order, since no two have one place. -/
theorem pairwise_select (h : t.IsProper) : (select t).Pairwise fun f g => f.1 < g.1 := by
  have hsorted : (select t).Pairwise fun f g => placeLe f.1 g.1 = true :=
    List.pairwise_mergeSort (fun f g k => placeLe_trans f.1 g.1 k.1)
      (fun f g => placeLe_total f.1 g.1) _
  have hperm : (select t).Perm (t.files.filter fun f => isSource f.1) := List.mergeSort_perm _ _
  -- being distinct does not depend on the order, so sorting keeps it
  have hdistinct : (select t).Pairwise fun f g => f.1 ≠ g.1 := by
    have hfiles : t.files.Pairwise fun f g => f.1 ≠ g.1 :=
      List.pairwise_map.mp (FileTree.nodup_places_files h)
    exact (hperm.pairwise_iff fun hne => Ne.symm hne).mpr (hfiles.filter _)
  refine (hsorted.and hdistinct).imp ?_
  rintro f g ⟨hle, hne⟩
  exact lt_of_placeLe hle hne

/-! ## Units -/

def unitAt (parser : Parser) (f : List String × FileContent) : SourceUnit :=
  .parsedBy parser (Path.ofParts f.1) (textOf f.2.bytes)

/-- The files that are read and not too large. -/
def smallFiles (limit : Int) (t : FileTree) : List (List String × FileContent) :=
  (select t).filter fun f => decide ((f.2.bytes.length : Int) ≤ limit)

/-- Files that are too large are left out, and each of the others becomes a unit. -/
theorem unitsIn_eq (parser : Parser) (limit : Int) (t : FileTree) :
    unitsIn parser limit t = (smallFiles limit t).map (unitAt parser) := by
  rw [unitsIn, smallFiles]
  induction select t with
  | nil => rfl
  | cons f rest ih =>
    rw [List.filterMap_cons, readUnit?]
    by_cases hsize : (f.2.bytes.length : Int) ≤ limit
    · rw [if_neg (by omega), List.filter_cons_of_pos (by simpa using hsize), List.map_cons, ← ih]
      rfl
    · rw [if_pos (by omega), List.filter_cons_of_neg (by simpa using hsize), ← ih]

/-- Together these are the files to be read. -/
theorem mem_smallFiles_iff (h : t.IsProper) (limit : Int) (place : List String)
    (content : FileContent) :
    (place, content) ∈ smallFiles limit t ↔
      t.fileAt? place = some content ∧ IsRead limit place content := by
  rw [smallFiles, List.mem_filter, mem_select_iff h, isSource_iff, decide_eq_true_eq]
  constructor
  · rintro ⟨⟨hfile, hsuffix, houtside⟩, hsize⟩
    exact ⟨hfile, hsuffix, hsize, houtside⟩
  · rintro ⟨hfile, hread⟩
    exact ⟨⟨hfile, hread.suffix, hread.outside⟩, hread.size⟩

/-- The place of a file below a directory can be told from the id of its unit. -/
theorem parts_id_unitAt (parser : Parser) (h : t.IsProper) (hdir : t.isDirectory = true)
    {place : List String} {content : FileContent} (hfile : t.fileAt? place = some content) :
    Path.parts (unitAt parser (place, content)).id = place := by
  -- only a file stands at the empty place of itself, and the tree is a directory
  have hne : place ≠ [] := by
    rintro rfl
    cases t with
    | file _ => cases hdir
    | directory _ => cases hfile
  exact Path.parts_ofParts hne (FileTree.slash_not_mem_of_fileAt? h hfile)

/-- A path that leads to a directory is loaded as what is below the directory. -/
theorem loadPath_of_directory {files : FileTree} {path : PurePath} {place : List String}
    (hplace : path.place? = some place) (hroot : files.at? place = some t)
    (hdir : t.isDirectory = true) (parser : Parser) (limit : Int) :
    loadPath parser limit files path = unitsIn parser limit t := by
  rw [loadPath, hplace]
  dsimp only
  rw [load, hroot]
  cases t with
  | file _ => cases hdir
  | directory _ => rfl

/-- Loading a directory gives one unit for each file below it that is to be read, and no other. The
id of a unit is its path below the directory, the ids are distinct, and the units are in strict
order of their lists of names. -/
theorem loadPath_sorted_files {files root : FileTree} {path : PurePath} {place : List String}
    (hplace : path.place? = some place) (hroot : files.at? place = some root)
    (hdir : root.isDirectory = true) (hproper : root.IsProper) (parser : Parser) (limit : Int) :
    ∃ found : List (List String × FileContent),
      loadPath parser limit files path =
        found.map (fun f => .parsedBy parser (Path.ofParts f.1) (textOf f.2.bytes)) ∧
      (∀ place content, (place, content) ∈ found ↔
        root.fileAt? place = some content ∧ IsRead limit place content) ∧
      found.Pairwise (fun f g => f.1 < g.1) ∧
      (loadPath parser limit files path).map (fun u => Path.parts u.id) = found.map (·.1) ∧
      ((loadPath parser limit files path).map (·.id)).Nodup := by
  have hunits : loadPath parser limit files path =
      (smallFiles limit root).map (unitAt parser) := by
    rw [loadPath_of_directory hplace hroot hdir, unitsIn_eq]
  have hmem := mem_smallFiles_iff hproper limit
  have hsorted : (smallFiles limit root).Pairwise fun f g => f.1 < g.1 :=
    (pairwise_select hproper).filter _
  have hparts : (loadPath parser limit files path).map (fun u => Path.parts u.id) =
      (smallFiles limit root).map (·.1) := by
    rw [hunits, List.map_map]
    apply List.map_congr_left
    rintro ⟨place, content⟩ hf
    exact parts_id_unitAt parser hproper hdir ((hmem place content).mp hf).1
  refine ⟨smallFiles limit root, hunits, hmem, hsorted, hparts, ?_⟩
  -- ids differ because the places that can be told from them do
  have hplaces : ((smallFiles limit root).map (·.1)).Nodup := by
    rw [List.nodup_iff_pairwise_ne, List.pairwise_map]
    refine hsorted.imp ?_
    intro f g hlt heq
    rw [heq] at hlt
    exact List.lt_irrefl g.1 hlt
  rw [← hparts, List.nodup_iff_pairwise_ne, List.pairwise_map] at hplaces
  rw [List.nodup_iff_pairwise_ne, List.pairwise_map]
  refine hplaces.imp ?_
  intro u v hne heq
  exact hne (congrArg Path.parts heq)

/-- A parser for which every text is one node. -/
def oneNode : Parser := fun _ text => { kind := "program", start := 0, stop := text.utf8ByteSize }

/-- A directory where names mislead: `a-b.ts` comes before `a/b.TSX` as a text and after it as a
place, `dist` is a file, `c.js` is a directory, `..ts` has a suffix, and `build.mjs` has two
bytes. -/
def sampleDirectory : FileTree :=
  .directory
    [("a-b.ts", .file ⟨[]⟩),
     ("a", .directory [("b.TSX", .file ⟨[]⟩), ("dist", .file ⟨[]⟩)]),
     ("c.js", .directory [("..ts", .file ⟨[10]⟩)]),
     ("node_modules", .directory [("d.js", .file ⟨[]⟩)]),
     ("build.mjs", .file ⟨[10, 10]⟩)]

/-- Names differ in each directory of the sample, and no name has a slash in it. -/
theorem sampleDirectory_isProper : sampleDirectory.IsProper := by
  refine .directory (by decide) (by decide) ?_
  intro e he
  simp only [List.mem_cons, List.not_mem_nil, or_false] at he
  rcases he with rfl | rfl | rfl | rfl | rfl
  · exact .file _
  · exact .of_files (by decide) (by decide) (by decide)
  · exact .of_files (by decide) (by decide) (by decide)
  · exact .of_files (by decide) (by decide) (by decide)
  · exact .file _

/-- From the sample `a/b.TSX` and `c.js/..ts` are loaded, and neither what is in `node_modules` nor
the file of two bytes. -/
theorem loadPath_sorted_files_sample :
    ∃ found : List (List String × FileContent),
      (loadPath oneNode 1 sampleDirectory {}).map (fun u => Path.parts u.id) = found.map (·.1) ∧
      found.Pairwise (fun f g => f.1 < g.1) ∧
      (["a", "b.TSX"], ⟨[]⟩) ∈ found ∧ (["c.js", "..ts"], ⟨[10]⟩) ∈ found ∧
      (["node_modules", "d.js"], ⟨[]⟩) ∉ found ∧ (["build.mjs"], ⟨[10, 10]⟩) ∉ found ∧
      ((loadPath oneNode 1 sampleDirectory {}).map (·.id)).Nodup := by
  have hplace : ({} : PurePath).place? = some [] := rfl
  obtain ⟨found, -, hmem, hsorted, hparts, hnodup⟩ :=
    loadPath_sorted_files hplace rfl rfl sampleDirectory_isProper oneNode 1
  refine ⟨found, hparts, hsorted, ?_, ?_, ?_, ?_, hnodup⟩
  · have hsuffix : HasSupportedSuffix "b.TSX" := ⟨"b", ".TSX", rfl, by decide, by decide⟩
    exact (hmem _ _).mpr ⟨rfl, ⟨_, rfl, hsuffix⟩, by decide, by decide⟩
  · have hsuffix : HasSupportedSuffix "..ts" := ⟨".", ".ts", rfl, by decide, by decide⟩
    exact (hmem _ _).mpr ⟨rfl, ⟨_, rfl, hsuffix⟩, by decide, by decide⟩
  · intro hf
    exact absurd ((hmem _ _).mp hf).2.outside (by decide)
  · intro hf
    exact absurd ((hmem _ _).mp hf).2.size (by decide)

end SourceFlow.Sources
