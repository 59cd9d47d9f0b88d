import SourceFlow.Files.Tree
import SourceFlow.Proofs.Ordered

/-!
# All files of a tree

The list of all files of a tree has a file with a place just if the file
stands at that place, and no place twice. The first goes by the place, which
says at each step in which entry to go on; the second goes by the tree.
-/

namespace SourceFlow.FileTree

/-- A tree as it can stand on a disk: the names in a directory differ, and none has a slash in
it. -/
inductive IsProper : FileTree → Prop where
  | file (content : FileContent) : IsProper (.file content)
  | directory {entries : List (String × FileTree)} (distinct : (Ordered.names entries).Nodup)
      (noSlash : ∀ e ∈ entries, '/' ∉ e.1.toList) (below : ∀ e ∈ entries, e.2.IsProper) :
      IsProper (.directory entries)

/-- A directory with no directories in it has only its names to be checked. -/
theorem IsProper.of_files {entries : List (String × FileTree)}
    (distinct : (Ordered.names entries).Nodup) (noSlash : ∀ e ∈ entries, '/' ∉ e.1.toList)
    (files : ∀ e ∈ entries, e.2.isDirectory = false) : IsProper (.directory entries) := by
  refine .directory distinct noSlash ?_
  rintro ⟨name, t⟩ he
  cases t with
  | file content => exact .file content
  | directory below => cases files _ he

/-! ## Places of files -/

/-- A file in the entries of a directory is below one of them. -/
theorem mem_filesIn_iff (entries : List (String × FileTree)) (place : List String)
    (content : FileContent) :
    (place, content) ∈ filesIn entries ↔
      ∃ e ∈ entries, ∃ rest, place = e.1 :: rest ∧ (rest, content) ∈ e.2.files := by
  induction entries with
  | nil => simp [filesIn]
  | cons e entries ih =>
    rw [filesIn, List.mem_append, ih]
    constructor
    · rintro (hfirst | ⟨e', he', hplace⟩)
      · obtain ⟨f, hf, heq⟩ := List.mem_map.mp hfirst
        obtain ⟨rfl, rfl⟩ := Prod.mk.inj heq
        exact ⟨e, List.mem_cons_self, f.1, rfl, hf⟩
      · exact ⟨e', List.mem_cons_of_mem _ he', hplace⟩
    · rintro ⟨e', he', rest, rfl, hrest⟩
      rcases List.mem_cons.mp he' with rfl | he'
      · left
        exact List.mem_map.mpr ⟨(rest, content), hrest, rfl⟩
      · right
        exact ⟨e', he', rest, rfl, hrest⟩

/-- The first name of a place says in which entry to go on. -/
theorem fileAt?_cons (name : String) (place : List String) (entries : List (String × FileTree)) :
    (FileTree.directory entries).fileAt? (name :: place) =
      (Ordered.get? entries name).bind (fileAt? place) := by
  rw [fileAt?, at?]
  cases Ordered.get? entries name with
  | none => rfl
  | some t => rfl

/-- A file is listed with a place just if it stands there. -/
theorem mem_files_iff {t : FileTree} (h : t.IsProper) (place : List String)
    (content : FileContent) :
    (place, content) ∈ t.files ↔ t.fileAt? place = some content := by
  induction place generalizing t with
  | nil =>
    cases h with
    | file found => simp [files, fileAt?, at?, eq_comm]
    | directory _ _ _ =>
      rw [files, mem_filesIn_iff]
      simp [fileAt?, at?]
  | cons name place ih =>
    cases h with
    | file found => simp [files, fileAt?, at?]
    | directory distinct noSlash below =>
      rename_i entries
      -- names are distinct, so an entry with the first name is the one that is looked up
      rw [files, mem_filesIn_iff, fileAt?_cons, Option.bind_eq_some_iff]
      constructor
      · rintro ⟨e, he, rest, heq, hrest⟩
        obtain ⟨rfl, rfl⟩ := List.cons.inj heq
        exact ⟨e.2, (Ordered.get?_eq_some_iff distinct _ _).mpr he, (ih (below e he)).mp hrest⟩
      · rintro ⟨t, ht, hfile⟩
        have he := (Ordered.get?_eq_some_iff distinct _ _).mp ht
        exact ⟨(name, t), he, place, rfl, (ih (below _ he)).mpr hfile⟩

/-- Names on the way to a file have no slashes. -/
theorem slash_not_mem_of_fileAt? {t : FileTree} (h : t.IsProper) {place : List String}
    {content : FileContent} (hfile : t.fileAt? place = some content) :
    ∀ name ∈ place, '/' ∉ name.toList := by
  induction place generalizing t with
  | nil => exact List.forall_mem_nil _
  | cons name place ih =>
    cases h with
    | file found => simp [fileAt?, at?] at hfile
    | directory distinct noSlash below =>
      rw [fileAt?_cons, Option.bind_eq_some_iff] at hfile
      obtain ⟨t, ht, hfile⟩ := hfile
      have he := (Ordered.get?_eq_some_iff distinct _ _).mp ht
      rw [List.forall_mem_cons]
      exact ⟨noSlash _ he, ih (below _ he) hfile⟩

/-! ## No place twice -/

/-- Files below different entries differ in the first name of their places. -/
theorem nodup_places_filesIn {entries : List (String × FileTree)}
    (hnames : (Ordered.names entries).Nodup)
    (hbelow : ∀ e ∈ entries, (e.2.files.map (·.1)).Nodup) :
    ((filesIn entries).map (·.1)).Nodup := by
  induction entries with
  | nil => simp [filesIn]
  | cons e entries ih =>
    obtain ⟨hfirst, hrest⟩ := List.nodup_cons.mp hnames
    have hplaces : (e.2.files.map fun f => (e.1 :: f.1, f.2)).map (·.1) =
        (e.2.files.map (·.1)).map (e.1 :: ·) := by
      rw [List.map_map, List.map_map]
      rfl
    rw [filesIn, List.map_append, hplaces, List.nodup_append]
    refine ⟨?_, ih hrest fun e' he' => hbelow e' (List.mem_cons_of_mem _ he'), ?_⟩
    -- below the first entry, places stay different under its name
    · refine List.Pairwise.map _ ?_ (hbelow e List.mem_cons_self)
      intro a b hne heq
      exact hne (List.cons.inj heq).2
    -- a place below another entry begins with another name
    · intro place hplace other hother heq
      subst heq
      obtain ⟨rest, _, rfl⟩ := List.mem_map.mp hplace
      obtain ⟨⟨_, content⟩, hf, rfl⟩ := List.mem_map.mp hother
      obtain ⟨e', he', rest', heq, _⟩ := (mem_filesIn_iff entries _ content).mp hf
      have hname : e'.1 = e.1 := (List.cons.inj heq).1.symm
      exact hfirst (List.mem_map.mpr ⟨e', he', hname⟩)

/-- No two files of a proper tree have one place. -/
theorem nodup_places_files {t : FileTree} (h : t.IsProper) : (t.files.map (·.1)).Nodup := by
  induction h with
  | file content => simp [files]
  | directory distinct _ _ ih => exact nodup_places_filesIn distinct ih

end SourceFlow.FileTree
