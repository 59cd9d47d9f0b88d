import Mathlib.Data.List.Forall2
import SourceFlow.Proofs.Settings.Commands

/-!
# Saving where loading works

Loading takes an entry that is no table for defaults. Saving takes more entries
for tables than loading does, and fails on the others. So what is saved is what
was loaded, with the given values merged in, just if the entry can be taken as
a table (`TakenAs`) and that table has, for every setting that was not given,
what loading gave.
-/

namespace SourceFlow

/-! ## Merging with null values -/

/-- Looking from the end finds a name just if it is there. -/
theorem Ordered.get?_reverse_eq_none_iff {α : Type} (entries : List (String × α)) (name : String) :
    Ordered.get? entries.reverse name = none ↔ name ∉ Ordered.names entries := by
  rw [← Option.not_isSome_iff_eq_none, Ordered.isSome_get?_iff, Ordered.names, Ordered.names,
    List.map_reverse, List.mem_reverse]

namespace Settings

/-- The settings with those at their defaults whose last value given is null. -/
def withNulls (values : List (String × Value)) (s : Settings) : Settings :=
  fun setting =>
    if (Ordered.get? values.reverse setting.name).any (·.isNull) then setting.default
    else s setting

end Settings

namespace SettingsFile

/-! ## Entries taken as tables -/

/-- An item of a list stands for a name with a value: it is a list of a name and a value, a text of
two characters, or a table of two names. -/
inductive IsPair : Value → String × Value → Prop where
  | list (name : String) (value : Value) : IsPair (.list [.text name, value]) (name, value)
  | text {s : String} {a b : Char} (h : s.toList = [a, b]) :
      IsPair (.text s) (String.ofList [a], .text (String.ofList [b]))
  | table (a b : String) (u v : Value) : IsPair (.table [(a, u), (b, v)]) (a, .text b)

/-- What saving takes the entry of the settings for. -/
inductive TakenAs : Option Value → Table → Prop where
  | absent : TakenAs none []
  | table (t : Table) : TakenAs (some (.table t)) t
  | emptyText : TakenAs (some (.text "")) []
  | list {items : List Value} {pairs : List (String × Value)}
      (h : List.Forall₂ IsPair items pairs) : TakenAs (some (.list items)) (Ordered.ofPairs pairs)

/-- An item gives a pair with a name just if it stands for one. -/
theorem pairOf_named_iff (v : Value) (q : String × Value) :
    (∃ p, pairOf v = .ok p ∧ named? p = some q) ↔ IsPair v q := by
  constructor
  · rintro ⟨p, hp, hq⟩
    unfold pairOf at hp
    -- of the cases of the definition, only those that give a name are left
    split at hp
    · cases hp
      cases hq
      exact .table ..
    · split at hp
      · rename_i hchars
        cases hp
        cases hq
        exact .text hchars
      · cases hp
    · cases hp
      cases hq
      exact .list ..
    · cases hp
    · cases hp
    · cases hp
      cases hq
    · cases hp
    · cases hp
    · cases hp
  · intro h
    cases h with
    | list name value => exact ⟨_, rfl, rfl⟩
    | text hchars => exact ⟨_, by rw [pairOf, hchars], rfl⟩
    | table a b u v => exact ⟨_, rfl, rfl⟩

/-- All items of a list have names and values just if each stands for a pair. -/
theorem mapM_named_iff (items : List Value) (named : List (String × Value)) :
    (∃ pairs, items.mapM pairOf = .ok pairs ∧ pairs.mapM named? = some named) ↔
      List.Forall₂ IsPair items named := by
  induction items generalizing named with
  | nil =>
    constructor
    · rintro ⟨pairs, hpairs, hnamed⟩
      cases hpairs
      cases hnamed
      exact .nil
    · rintro ⟨⟩
      exact ⟨[], rfl, rfl⟩
  | cons v items ih =>
    constructor
    · rintro ⟨pairs, hpairs, hnamed⟩
      -- one item without a pair, or one pair without a name, and there is no list
      rw [List.mapM_cons] at hpairs
      cases hv : pairOf v with
      | error e =>
        rw [hv] at hpairs
        cases hpairs
      | ok p =>
        cases hitems : items.mapM pairOf with
        | error e =>
          rw [hv, hitems] at hpairs
          cases hpairs
        | ok rest =>
          rw [hv, hitems] at hpairs
          cases hpairs
          rw [List.mapM_cons] at hnamed
          obtain ⟨q, hq, hnamed⟩ := Option.bind_eq_some_iff.mp hnamed
          obtain ⟨more, hmore, hnamed⟩ := Option.bind_eq_some_iff.mp hnamed
          cases hnamed
          exact .cons ((pairOf_named_iff v q).mp ⟨p, hv, hq⟩) ((ih more).mp ⟨rest, hitems, hmore⟩)
    · intro h
      cases h with
      | cons hv hrest =>
        obtain ⟨p, hp, hq⟩ := (pairOf_named_iff v _).mpr hv
        obtain ⟨rest, hitems, hmore⟩ := (ih _).mpr hrest
        refine ⟨p :: rest, ?_, ?_⟩
        · rw [List.mapM_cons, hp, hitems]
          rfl
        · rw [List.mapM_cons, hq, hmore]
          rfl

/-- An entry can be made a table just if it is taken as one. -/
theorem tableOf?_eq_iff (entry : Option Value) (settings : Table) :
    tableOf? entry = .ok (some settings) ↔ TakenAs entry settings := by
  constructor
  · intro h
    unfold tableOf? at h
    split at h
    · cases h
      exact .absent
    · cases h
      exact .table _
    · split at h
      · rename_i hempty
        cases h
        rw [String.isEmpty_iff.mp hempty]
        exact .emptyText
      · cases h
    · rename_i items
      cases hpairs : items.mapM pairOf with
      | error e =>
        rw [hpairs] at h
        cases h
      | ok pairs =>
        rw [hpairs] at h
        obtain ⟨named, hnamed, rfl⟩ := Option.map_eq_some_iff.mp (Except.ok.inj h)
        exact .list ((mapM_named_iff items named).mp ⟨pairs, hpairs, hnamed⟩)
    · cases h
  · intro h
    cases h with
    | absent => rfl
    | table => rfl
    | emptyText => rfl
    | list hforall =>
      rename_i items named
      obtain ⟨pairs, hpairs, hnamed⟩ := (mapM_named_iff items named).mpr hforall
      rw [tableOf?, hpairs]
      simp only [Except.map, hnamed, Option.map_some]

/-! ## One call -/

/-- The entries that saving writes, given the table that the settings are taken for. -/
def saved (t settings : Table) (values : List (String × Value)) : Table :=
  Ordered.put tableName (.table (assignAll settings values)) t

variable {format : Toml.Format} {file : SettingsFile} {t : Table}

/-- Saving writes the entries with the values assigned. -/
theorem save_of_takenAs (hentries : file.entries format = .ok t) {settings : Table}
    (h : TakenAs (Ordered.get? t tableName) settings) (values : List (String × Value)) :
    file.save format values = file.write format (saved t settings values) := by
  rw [save, hentries]
  simp only [bind, Except.bind, (tableOf?_eq_iff _ _).mpr h]
  rfl

/-- An entry that is not taken as a table makes saving fail. -/
theorem save_error_of_not_takenAs (hentries : file.entries format = .ok t)
    (h : ∀ settings, ¬ TakenAs (Ordered.get? t tableName) settings)
    (values : List (String × Value)) : ∃ e, (file.save format values).1 = .error e := by
  rw [save, hentries]
  simp only [bind, Except.bind]
  cases htable : tableOf? (Ordered.get? t tableName) with
  | error e => exact ⟨e, rfl⟩
  | ok settings =>
    -- pairs without names are the one failure that comes after the table was made
    cases settings with
    | none => exact ⟨.unnamed, rfl⟩
    | some settings => exact absurd ((tableOf?_eq_iff _ _).mp htable) (h settings)

/-- What a setting holds after values were saved over a table of settings. -/
theorem ofTable_assignAll_apply (settings : Table) (values : List (String × Value))
    (setting : Setting) :
    Settings.ofTable (assignAll settings values) setting =
      match Ordered.get? values.reverse setting.name with
      | some value => if value.isNull then setting.default else value
      | none => Settings.ofTable settings setting := by
  rw [Settings.ofTable, get?_assignAll]
  -- a value that was given does not depend on the table
  cases Ordered.get? values.reverse setting.name with
  | none => rfl
  | some value => cases hnull : value.isNull <;> simp [hnull]

/-- Saving over a table gives what merging and the nulls say, for a setting that was given and for
one that was not if the table has what was loaded. -/
theorem content_saved_iff {values : List (String × Value)} {s m : Settings} {setting : Setting}
    (hm : match Ordered.get? values.reverse setting.name with
      | some value => value.isNull = false → m setting = value
      | none => m setting = s setting) (settings : Table) :
    (Settings.ofTable (assignAll settings values) setting).content =
        (m.withNulls values setting).content ↔
      (setting.name ∉ Ordered.names values →
        (Settings.ofTable settings setting).content = (s setting).content) := by
  rw [← Ordered.get?_reverse_eq_none_iff, ofTable_assignAll_apply, Settings.withNulls]
  cases hlast : Ordered.get? values.reverse setting.name with
  | none =>
    rw [hlast] at hm
    dsimp only at hm
    simp [hm]
  | some value =>
    -- the table does not matter: a null gives the default on both sides, another value itself
    rw [hlast] at hm
    cases hnull : value.isNull with
    | true => simp [hnull]
    | false => simp [hnull, hm hnull]

/-- Saving over a table that can be written and read again works, and the settings in the table are
loaded afterwards. -/
theorem load_save_of_takenAs (hplace : file ≠ .directory) (hentries : file.entries format = .ok t)
    {settings : Table} (h : TakenAs (Ordered.get? t tableName) settings)
    {values : List (String × Value)} (htrips : format.RoundTrips (saved t settings values)) :
    ∃ file' s', file.save format values = (.ok true, file') ∧ file'.load format = .ok s' ∧
      ∀ setting, (s' setting).content =
        (Settings.ofTable (assignAll settings values) setting).content := by
  obtain ⟨file', t', hwrite, _, hentries', hheld⟩ := write_of_roundTrips hplace htrips
  refine ⟨file', settingsIn t', ?_, ?_, ?_⟩
  · rw [save_of_takenAs hentries h, hwrite]
  · rw [load, hentries']
    rfl
  · intro setting
    have hsettings : settingsIn (saved t settings values) =
        Settings.ofTable (assignAll settings values) := by
      rw [settingsIn, saved, Ordered.get?_put_self]
    rw [content_settingsIn_congr hheld, hsettings]

/-- Saving works as loading promises: it succeeds, and what is loaded afterwards is what was loaded
before with the values merged in, at the default where a null was given. -/
def SavesAsLoaded (format : Toml.Format) (file : SettingsFile)
    (values : List (String × Value)) : Prop :=
  ∃ file' s s' m, file.save format values = (.ok true, file') ∧ file.load format = .ok s ∧
    file'.load format = .ok s' ∧ s.merge values = .ok m ∧
    ∀ setting, (s' setting).content = (m.withNulls values setting).content

/-- Saving works as loading promises just if the entry with the settings can be taken as a table
that has what was loaded for every setting not given. If it cannot be taken as a table at all,
saving fails. -/
theorem savesAsLoaded_iff (hplace : file ≠ .directory) (hentries : file.entries format = .ok t)
    {values : List (String × Value)}
    (hnames : ∀ v ∈ values, ∃ setting : Setting, v.1 = setting.name)
    (htrips : ∀ settings, TakenAs (Ordered.get? t tableName) settings →
      format.RoundTrips (saved t settings values)) :
    (file.SavesAsLoaded format values ↔
      ∃ settings, TakenAs (Ordered.get? t tableName) settings ∧
        ∀ setting : Setting, setting.name ∉ Ordered.names values →
          (Settings.ofTable settings setting).content = (settingsIn t setting).content) ∧
    ((∀ settings, ¬ TakenAs (Ordered.get? t tableName) settings) →
      ∃ e, (file.save format values).1 = .error e) := by
  have hload : file.load format = .ok (settingsIn t) := by
    rw [load, hentries]
    rfl
  obtain ⟨m, hmerge, hm⟩ := Settings.exists_merge hnames (settingsIn t)
  refine ⟨?_, fun hnone => save_error_of_not_takenAs hentries hnone values⟩
  constructor
  · rintro ⟨file₁, s, s₁, m₁, hsave₁, hload₁, hload₁', hmerge₁, hcontent₁⟩
    obtain rfl := Except.ok.inj (hload.symm.trans hload₁)
    obtain rfl := Except.ok.inj (hmerge.symm.trans hmerge₁)
    by_cases htaken : ∃ settings, TakenAs (Ordered.get? t tableName) settings
    · obtain ⟨settings, h⟩ := htaken
      refine ⟨settings, h, ?_⟩
      intro setting
      obtain ⟨file', s', hsave, hload', hcontent⟩ :=
        load_save_of_takenAs hplace hentries h (htrips settings h)
      obtain ⟨_, rfl⟩ := Prod.mk.inj (hsave.symm.trans hsave₁)
      obtain rfl := Except.ok.inj (hload'.symm.trans hload₁')
      rw [← content_saved_iff (hm setting), ← hcontent, hcontent₁]
    · -- a call that fails is none that succeeds
      have hnone : ∀ settings, ¬ TakenAs (Ordered.get? t tableName) settings :=
        fun settings h => htaken ⟨settings, h⟩
      obtain ⟨e, herror⟩ := save_error_of_not_takenAs hentries hnone values
      rw [hsave₁] at herror
      cases herror
  · rintro ⟨settings, h, hagree⟩
    obtain ⟨file', s', hsave, hload', hcontent⟩ :=
      load_save_of_takenAs hplace hentries h (htrips settings h)
    refine ⟨file', settingsIn t, s', m, hsave, hload, hload', hmerge, ?_⟩
    intro setting
    rw [hcontent, content_saved_iff (hm setting)]
    exact hagree setting

/-- A text where the table of settings should be: without characters it is taken as a table. -/
def emptyTextFile : SettingsFile := .text "flow = \"\"\n".toList

/-- Over an empty text a depth is saved, and a null changes nothing. -/
theorem savesAsLoaded_iff_emptyText :
    emptyTextFile.SavesAsLoaded Toml.format [("max_depth", .int 4), ("max_nodes", .null)] := by
  have hentries : emptyTextFile.entries Toml.format = .ok [("flow", .text "")] := rfl
  have hnames : ∀ v ∈ [("max_depth", Value.int 4), ("max_nodes", .null)],
      ∃ setting : Setting, v.1 = setting.name := by
    intro v hv
    simp only [List.mem_cons, List.not_mem_nil, or_false] at hv
    rcases hv with rfl | rfl
    · exact ⟨.maxDepth, rfl⟩
    · exact ⟨.maxNodes, rfl⟩
  have hwrite : Toml.format.write [("flow", .table [("max_depth", .int 4)])] =
      .ok "[flow]\nmax_depth = 4\n".toList := rfl
  have hread : Toml.format.read "[flow]\nmax_depth = 4\n".toList =
      .ok [("flow", .table [("max_depth", .int 4)])] := rfl
  have hplace : emptyTextFile ≠ .directory := nofun
  refine (savesAsLoaded_iff hplace hentries hnames ?_).1.mpr ⟨[], .emptyText, fun _ _ => rfl⟩
  intro settings h
  cases h with
  | emptyText => exact Toml.Format.roundTrips_of_perm hwrite hread .rfl (by decide)

/-- A number where the table of settings should be. -/
def numberFile : SettingsFile := .text "flow = 5\n".toList

/-- A list where the table of settings should be, with a table of two names in it. -/
def listFile : SettingsFile := .text "[[flow]]\nmax_depth = 1\nx = 2\n".toList

/-- Saving over the list makes the second name the value of the first. -/
theorem load_save_listFile :
    ∃ file' s', listFile.save Toml.format [("max_nodes", .int 9)] = (.ok true, file') ∧
      file'.load Toml.format = .ok s' ∧ s' .maxDepth = .text "x" := by
  have hentries : listFile.entries Toml.format =
      .ok [("flow", .list [.table [("max_depth", .int 1), ("x", .int 2)]])] := rfl
  have htaken : TakenAs (some (.list [.table [("max_depth", .int 1), ("x", .int 2)]]))
      [("max_depth", .text "x")] := .list (.cons (.table ..) .nil)
  have hwrite : Toml.format.write
        [("flow", .table [("max_depth", .text "x"), ("max_nodes", .int 9)])] =
      .ok "[flow]\nmax_depth = \"x\"\nmax_nodes = 9\n".toList := rfl
  have hread : Toml.format.read "[flow]\nmax_depth = \"x\"\nmax_nodes = 9\n".toList =
      .ok [("flow", .table [("max_depth", .text "x"), ("max_nodes", .int 9)])] := rfl
  have hsaved : saved [("flow", .list [.table [("max_depth", .int 1), ("x", .int 2)]])]
      [("max_depth", .text "x")] [("max_nodes", .int 9)] =
      [("flow", .table [("max_depth", .text "x"), ("max_nodes", .int 9)])] := rfl
  have htrips := Toml.Format.roundTrips_of_perm hwrite hread .rfl (by decide)
  rw [← hsaved] at htrips
  have hplace : listFile ≠ .directory := nofun
  obtain ⟨file', s', hsave, hload, hcontent⟩ := load_save_of_takenAs hplace hentries htaken htrips
  exact ⟨file', s', hsave, hload, Value.content_eq_text_iff.mp (hcontent .maxDepth)⟩

/-- Both files are loaded as defaults. Saving over the number fails, and saving over the list
changes a setting that was not given. -/
theorem entry_no_table_not_saved :
    (numberFile.load Toml.format = .ok .defaults ∧
      numberFile.save Toml.format [("max_depth", .int 4)] = (.error .notACollection, numberFile) ∧
      ¬ numberFile.SavesAsLoaded Toml.format [("max_depth", .int 4)]) ∧
    listFile.load Toml.format = .ok .defaults ∧
      ¬ listFile.SavesAsLoaded Toml.format [("max_nodes", .int 9)] := by
  have hnumber : numberFile.save Toml.format [("max_depth", .int 4)] =
      (.error .notACollection, numberFile) := rfl
  have hlist : listFile.load Toml.format = .ok .defaults := rfl
  refine ⟨⟨rfl, hnumber, ?_⟩, hlist, ?_⟩
  · rintro ⟨_, _, _, _, hsave, _⟩
    rw [hnumber] at hsave
    cases hsave
  · rintro ⟨file', s, s', m, hsave, hload, hload', hmerge, hcontent⟩
    obtain ⟨file₁, s₁, hsave₁, hload₁, hdepth⟩ := load_save_listFile
    obtain ⟨_, rfl⟩ := Prod.mk.inj (hsave₁.symm.trans hsave)
    obtain rfl := Except.ok.inj (hload₁.symm.trans hload')
    obtain rfl := Except.ok.inj (hlist.symm.trans hload)
    obtain rfl := Except.ok.inj hmerge
    have hcontents := hcontent .maxDepth
    rw [hdepth] at hcontents
    cases hcontents

-- a date is no table either
example : (SettingsFile.text "flow = 1979-05-27\n".toList).save Toml.format
      [("max_depth", .int 4)] =
    (.error .notACollection, .text "flow = 1979-05-27\n".toList) := rfl

end SettingsFile

end SourceFlow
