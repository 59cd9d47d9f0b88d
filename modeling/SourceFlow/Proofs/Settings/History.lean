import SourceFlow.Proofs.Settings.Content
import SourceFlow.Toml.Writer

/-!
# The settings file over whole histories

Each call reads the file, changes the table of settings and writes everything
anew. What is loaded after any number of calls can be told from the calls
alone: a setting has the value that it was given last since the last clearing.
Entries next to the settings keep what they hold. Nothing is assumed of the
format but that it is faithful to the tables written on the way.

One call is `apply_of_holds`, for what it does to the file, and
`held_settingsOf_change`, for what it does to a name; `run_of_holds` goes
through a whole history.
-/

namespace SourceFlow.SettingsFile

/-! ## Histories -/

/-- A call that changes the file. -/
inductive Call where
  | save (values : List (String × Value))
  | clear

/-- Makes a call. -/
def apply (format : Toml.Format) (file : SettingsFile) :
    Call → Except SettingsFileError Bool × SettingsFile
  | .save values => file.save format values
  | .clear => file.clear format

/-- The file after calls made one after the other, if all of them worked. -/
def run (format : Toml.Format) : SettingsFile → List Call → Option SettingsFile
  | file, [] => some file
  | file, c :: rest =>
    match file.apply format c with
    | (.ok true, file') => run format file' rest
    | _ => none

/-- The table of settings among the entries of a file, empty if there is none. -/
def settingsOf (t : Table) : Table :=
  match Ordered.get? t tableName with
  | some (.table settings) => settings
  | _ => []

/-- The entries that a call puts in place of the ones given. -/
def Call.change (t : Table) : Call → Table
  | .save values => Ordered.put tableName (.table (assignAll (settingsOf t) values)) t
  | .clear => Ordered.erase tableName t

/-- All the entries that are written during calls, one table for each call. -/
def written (format : Toml.Format) : SettingsFile → List Call → List Table
  | _, [] => []
  | file, c :: rest =>
    match file.entries format with
    | .ok t => c.change t :: written format (file.apply format c).2 rest
    | .error _ => []

/-- What a name holds after calls, the newest call first: what it was given last, unless that was
null, and nothing if everything was cleared since. Before all calls it held `initial`. -/
def lastSaved (initial : Option Content) (name : String) : List Call → Option Content
  | [] => initial
  | .clear :: _ => none
  | .save values :: earlier =>
    match Ordered.get? values.reverse name with
    | some value => if value.isNull then none else some value.content
    | none => lastSaved initial name earlier

/-- The file has the given entries and can be written, and its settings, if there are any, form a
table. -/
structure Holds (format : Toml.Format) (file : SettingsFile) (t : Table) : Prop where
  place : file ≠ .directory
  entries : file.entries format = .ok t
  settings : ∀ v, Ordered.get? t tableName = some v → ∃ settings, v = .table settings

section

variable {format : Toml.Format} {file : SettingsFile} {t : Table}

/-! ## One call on the file -/

/-- The settings in a file that holds entries are a table, empty if there is none. -/
theorem tableOf?_of_holds (h : file.Holds format t) :
    tableOf? (Ordered.get? t tableName) = .ok (some (settingsOf t)) := by
  rw [settingsOf]
  cases hv : Ordered.get? t tableName with
  | none => rfl
  | some v =>
    obtain ⟨settings, rfl⟩ := h.settings v hv
    rfl

/-- A call writes the entries that it changes. -/
theorem apply_eq_write (h : file.Holds format t) (c : Call) :
    file.apply format c = file.write format (c.change t) := by
  cases c with
  | save values =>
    rw [apply, save, h.entries]
    simp only [bind, Except.bind, tableOf?_of_holds h]
    rfl
  | clear => rw [apply, clear, h.entries, Call.change]

/-- What can be written is written wherever there is no directory. -/
theorem write_of_place (hplace : file ≠ .directory)
    {document : List Char} (hwrite : format.write t = .ok document) :
    file.write format t = (.ok true, .text document) := by
  cases file with
  | directory => exact absurd rfl hplace
  | _ => simp only [write, hwrite]

/-- Entries that can be written and read again are in the file afterwards, up to their order. -/
theorem write_of_roundTrips (hplace : file ≠ .directory)
    (h : format.RoundTrips t) :
    ∃ file' t', file.write format t = (.ok true, file') ∧ file' ≠ .directory ∧
      file'.entries format = .ok t' ∧ t'.held = t.held := by
  rcases h with ⟨document, hwrite, t', hread, hheld⟩
  refine ⟨.text document, t', write_of_place hplace hwrite, nofun, ?_, hheld⟩
  rw [SettingsFile.entries, entriesOf, hread]

/-- Entries with the same content as those that a call writes have a table of settings, if any. -/
theorem exists_table_of_held_change {t' : Table} {c : Call} (h : t'.held = (c.change t).held)
    {v : Value} (hv : Ordered.get? t' tableName = some v) : ∃ settings, v = .table settings := by
  have hheld : t'.held tableName = some v.content := by rw [Table.held, hv]; rfl
  rw [h] at hheld
  -- saving writes a table, and clearing leaves nothing under the name
  cases c with
  | save values =>
    rw [Call.change, Table.held_put, if_pos rfl, Value.content_table] at hheld
    obtain ⟨settings, rfl, _⟩ := Value.exists_table_of_content (Option.some.inj hheld).symm
    exact ⟨settings, rfl⟩
  | clear =>
    rw [Call.change, Table.held_erase, if_pos rfl] at hheld
    cases hheld

/-- A call whose entries can be written and read again works, and leaves a file that holds them. -/
theorem apply_of_holds (h : file.Holds format t) (c : Call)
    (htrips : format.RoundTrips (c.change t)) :
    ∃ file' t', file.apply format c = (.ok true, file') ∧ file'.Holds format t' ∧
      t'.held = (c.change t).held := by
  obtain ⟨file', t', hwrite, hplace, hentries, hheld⟩ := write_of_roundTrips h.place htrips
  have hholds : file'.Holds format t' :=
    ⟨hplace, hentries, fun v hv => exists_table_of_held_change hheld hv⟩
  refine ⟨file', t', ?_, hholds, hheld⟩
  rw [apply_eq_write h, hwrite]

theorem holds_text {document : List Char} (hread : format.read document = .ok t)
    (hsettings : ∀ v, Ordered.get? t tableName = some v → ∃ settings, v = .table settings) :
    (SettingsFile.text document).Holds format t :=
  ⟨nofun, by rw [SettingsFile.entries, entriesOf, hread], hsettings⟩

/-- What a call writes, and the calls after it. -/
theorem written_cons {u : Table} (h : file.Holds format t) {c : Call}
    (hchange : c.change t = u) {document : List Char} (hwrite : format.write u = .ok document)
    (rest : List Call) :
    file.written format (c :: rest) = u :: (SettingsFile.text document).written format rest := by
  subst hchange
  have happly : file.apply format c = (.ok true, .text document) := by
    rw [apply_eq_write h, write_of_place h.place hwrite]
  rw [written, h.entries, happly]

/-! ## One call on a name -/

/-- A call leaves everything next to the settings as it was. -/
theorem held_change_of_ne (t : Table) (c : Call) {name : String} (h : name ≠ tableName) :
    (c.change t).held name = t.held name := by
  cases c with
  | save values => rw [Call.change, Table.held_put, if_neg h]
  | clear => rw [Call.change, Table.held_erase, if_neg h]

/-- The settings among entries hold what the content of the entries says. -/
theorem held_settingsOf (t : Table) :
    (settingsOf t).held = match t.held tableName with
      | some (.table entries) => entries
      | _ => fun _ => none := by
  rw [settingsOf, Table.held]
  cases Ordered.get? t tableName with
  | none => rfl
  | some v =>
    -- anything that is no table holds no settings
    cases v with
    | table settings => simp
    | _ => rfl

/-- A null takes the name away. -/
theorem get?_assign (t : Table) (key : String) (value : Value) (name : String) :
    Ordered.get? (assign t key value) name =
      if key = name then (if value.isNull then none else some value) else Ordered.get? t name := by
  rw [assign]
  by_cases hname : key = name
  · subst hname
    cases value.isNull <;> simp
  · have hne : name ≠ key := fun h => hname h.symm
    cases value.isNull <;> simp [hname, hne]

/-- Of values assigned to one name in a row the last counts. -/
theorem get?_assignAll (t : Table) (values : List (String × Value)) (name : String) :
    Ordered.get? (assignAll t values) name =
      match Ordered.get? values.reverse name with
      | some value => if value.isNull then none else some value
      | none => Ordered.get? t name := by
  induction values generalizing t with
  | nil => rfl
  | cons v rest ih =>
    have hcons : assignAll t (v :: rest) = assignAll (assign t v.1 v.2) rest := rfl
    rw [hcons, ih, List.reverse_cons, Ordered.get?_append, get?_assign]
    -- a later value counts, and only without one the first
    cases Ordered.get? rest.reverse name with
    | some value => rfl
    | none => by_cases hname : v.1 = name <;> simp [Ordered.get?, hname]

theorem settingsOf_save (t : Table) (values : List (String × Value)) :
    settingsOf (Call.change t (.save values)) = assignAll (settingsOf t) values := by
  rw [Call.change, settingsOf, Ordered.get?_put_self]

/-- A call gives a name what the call says, or leaves it as it was. -/
theorem held_settingsOf_change (t : Table) (c : Call) (name : String) :
    (settingsOf (c.change t)).held name = lastSaved ((settingsOf t).held name) name [c] := by
  cases c with
  | save values =>
    rw [settingsOf_save, Table.held, get?_assignAll, lastSaved]
    cases Ordered.get? values.reverse name with
    | none => rfl
    | some value => cases hnull : value.isNull <;> simp [hnull]
  | clear =>
    have hsettings : settingsOf (Call.change t .clear) = [] := by
      rw [Call.change, settingsOf, Ordered.get?_erase_self]
    rw [hsettings]
    rfl

/-! ## Whole histories -/

/-- What a name holds after an oldest call and later ones. -/
theorem lastSaved_concat (initial : Option Content) (name : String) (later : List Call) (c : Call) :
    lastSaved initial name (later ++ [c]) = lastSaved (lastSaved initial name [c]) name later := by
  induction later with
  | nil => rfl
  | cons newest rest ih =>
    cases newest with
    | clear => rfl
    | save values => rw [List.cons_append, lastSaved, lastSaved, ih]

/-- Calls whose entries can be written and read again all work. They leave everything next to the
settings as it was, and each name with what it was given last. -/
theorem run_of_holds (h : file.Holds format t) (calls : List Call)
    (htrips : ∀ u ∈ file.written format calls, format.RoundTrips u) :
    ∃ file' t', file.run format calls = some file' ∧ file'.Holds format t' ∧
      (∀ name, name ≠ tableName → t'.held name = t.held name) ∧
      ∀ name, (settingsOf t').held name =
        lastSaved ((settingsOf t).held name) name calls.reverse := by
  induction calls generalizing file t with
  | nil => exact ⟨file, t, rfl, h, fun _ _ => rfl, fun _ => rfl⟩
  | cons c rest ih =>
    rw [written, h.entries] at htrips
    obtain ⟨file₁, t₁, happly, hholds, hheld⟩ :=
      apply_of_holds h c (htrips _ List.mem_cons_self)
    rw [happly] at htrips
    obtain ⟨file', t', hrun, hholds', hothers, hnames⟩ :=
      ih hholds fun u hu => htrips u (List.mem_cons_of_mem _ hu)
    refine ⟨file', t', ?_, hholds', ?_, ?_⟩
    · rw [run, happly]
      exact hrun
    · intro name hne
      rw [hothers name hne, hheld, held_change_of_ne t c hne]
    · intro name
      -- the table read back may have another order, but settings are looked up by name
      have hfirst : (settingsOf t₁).held = (settingsOf (c.change t)).held := by
        rw [held_settingsOf, held_settingsOf, hheld]
      rw [hnames, hfirst, held_settingsOf_change, List.reverse_cons, lastSaved_concat]

/-- The settings among entries are those of their table, defaults for the names it does not have. -/
theorem settingsIn_eq (t : Table) : settingsIn t = Settings.ofTable (settingsOf t) := by
  rw [settingsIn, settingsOf]
  cases Ordered.get? t tableName with
  | none => rfl
  | some v => cases v <;> rfl

theorem load_of_holds (h : file.Holds format t) :
    file.load format = .ok (settingsIn t) := by
  rw [load, h.entries]
  rfl

/-- After any calls that save and clear settings, everything next to the settings holds what it held
at first, and each setting what it was given last since the last clearing, or else its default. -/
theorem load_run (h : file.Holds format t) (calls : List Call)
    (htrips : ∀ u ∈ file.written format calls, format.RoundTrips u) :
    ∃ file' t' s, file.run format calls = some file' ∧
      (file'.entries format = .ok t' ∧ ∀ name, name ≠ tableName → t'.held name = t.held name) ∧
      file'.load format = .ok s ∧
      ∀ setting : Setting, (s setting).content =
        (lastSaved ((settingsOf t).held setting.name) setting.name calls.reverse).getD
          setting.default.content := by
  obtain ⟨file', t', hrun, hholds, hothers, hnames⟩ := run_of_holds h calls htrips
  refine ⟨file', t', settingsIn t', hrun, ⟨hholds.entries, hothers⟩, load_of_holds hholds, ?_⟩
  intro setting
  rw [settingsIn_eq, Settings.content_ofTable, hnames]

end

/-- A date in an array of tables that stands next to the settings. -/
def sampleArray : String × Value :=
  let day : Timestamp :=
    { year := 1979, month := 5, day := 27, hour := 0, minute := 0, second := 0 }
  ("a", .list [.table [("k", .moment (Toml.dateMoment day))]])

/-- A file with settings before another entry. -/
def sampleFile : SettingsFile :=
  .text "[flow]\nmax_nodes = 9\n\n[[a]]\nk = 1979-05-27\n".toList

/-- Calls that take a name away, clear everything, and save a name that is no setting. -/
def sampleCalls : List Call :=
  [.save [("max_depth", .int 4), ("max_nodes", .null)], .clear,
   .save [("max_depth", .int 5), ("x", .bool true)]]

theorem sampleFile_holds :
    sampleFile.Holds Toml.format [("flow", .table [("max_nodes", .int 9)]), sampleArray] :=
  holds_text rfl fun _ hv => ⟨_, (Option.some.inj hv).symm⟩

theorem sample_settings (settings : Table) : ∀ v,
    Ordered.get? [sampleArray, ("flow", .table settings)] tableName = some v →
      ∃ settings, v = .table settings :=
  fun _ hv => ⟨_, (Option.some.inj hv).symm⟩

set_option maxRecDepth 1024 in
/-- The three tables written on the way, each with what it is read back as. -/
theorem roundTrips_of_mem_sample :
    ∀ u ∈ sampleFile.written Toml.format sampleCalls, Toml.format.RoundTrips u := by
  have hwrite₁ : Toml.format.write [("flow", .table [("max_depth", .int 4)]), sampleArray] =
      .ok "[[a]]\nk = 1979-05-27\n\n[flow]\nmax_depth = 4\n".toList := rfl
  have hread₁ : Toml.format.read "[[a]]\nk = 1979-05-27\n\n[flow]\nmax_depth = 4\n".toList =
      .ok [sampleArray, ("flow", .table [("max_depth", .int 4)])] := rfl
  have hwrite₂ : Toml.format.write [sampleArray] = .ok "[[a]]\nk = 1979-05-27\n\n".toList := rfl
  have hread₂ : Toml.format.read "[[a]]\nk = 1979-05-27\n\n".toList = .ok [sampleArray] := rfl
  have hwrite₃ : Toml.format.write
      [sampleArray, ("flow", .table [("max_depth", .int 5), ("x", .bool true)])] =
      .ok "[[a]]\nk = 1979-05-27\n\n[flow]\nmax_depth = 5\nx = true\n".toList := rfl
  have hread₃ :
      Toml.format.read "[[a]]\nk = 1979-05-27\n\n[flow]\nmax_depth = 5\nx = true\n".toList =
      .ok [sampleArray, ("flow", .table [("max_depth", .int 5), ("x", .bool true)])] := rfl
  have hchange₁ : Call.change [("flow", .table [("max_nodes", .int 9)]), sampleArray]
      (.save [("max_depth", .int 4), ("max_nodes", .null)]) =
      [("flow", .table [("max_depth", .int 4)]), sampleArray] := rfl
  have hchange₂ : Call.change [sampleArray, ("flow", .table [("max_depth", .int 4)])] .clear =
      [sampleArray] := rfl
  have hchange₃ : Call.change [sampleArray] (.save [("max_depth", .int 5), ("x", .bool true)]) =
      [sampleArray, ("flow", .table [("max_depth", .int 5), ("x", .bool true)])] := rfl
  rw [sampleCalls, written_cons sampleFile_holds hchange₁ hwrite₁,
    written_cons (holds_text hread₁ (sample_settings _)) hchange₂ hwrite₂,
    written_cons (holds_text hread₂ nofun) hchange₃ hwrite₃, written]
  intro u hu
  simp only [List.mem_cons, List.not_mem_nil, or_false] at hu
  rcases hu with rfl | rfl | rfl
  -- the array of tables comes first when it is read back
  · exact Toml.Format.roundTrips_of_perm hwrite₁ hread₁ (.swap ..) (by decide)
  · exact Toml.Format.roundTrips_of_perm hwrite₂ hread₂ .rfl (by decide)
  · exact Toml.Format.roundTrips_of_perm hwrite₃ hread₃ .rfl (by decide)

/-- The depth is what was given last, and the nodes are at their default since the clearing. -/
theorem load_run_sample :
    ∃ file' t' s, sampleFile.run Toml.format sampleCalls = some file' ∧
      (file'.entries Toml.format = .ok t' ∧ t'.held "a" = some sampleArray.2.content) ∧
      file'.load Toml.format = .ok s ∧ s .maxDepth = .int 5 ∧ s .maxNodes = .int 1000 := by
  obtain ⟨file', t', s, hrun, ⟨hentries, hothers⟩, hload, hsettings⟩ :=
    load_run sampleFile_holds sampleCalls roundTrips_of_mem_sample
  refine ⟨file', t', s, hrun, ⟨hentries, hothers "a" (by decide)⟩, hload, ?_, ?_⟩
  · exact Value.content_eq_int_iff.mp (hsettings .maxDepth)
  · exact Value.content_eq_int_iff.mp (hsettings .maxNodes)

end SourceFlow.SettingsFile
