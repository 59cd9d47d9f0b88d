import SourceFlow.Command.Run
import SourceFlow.Proofs.Settings.History

/-!
# What is checked is what is stored

The command that stores settings checks the stored settings with the given
ones merged in, and then saves the given ones into the table of the file, which
is another way to merge. The two ways agree (`ofTable_assignAll`), so the
settings loaded after the command are those that passed the check, and settings
that pass the check stay stored along any run of commands.
-/

namespace SourceFlow

/-! ## Two ways to merge -/

/-- Values that can be merged and stored alike: they belong to settings, and none is null. -/
def Settings.Storable (values : List (String × Value)) : Prop :=
  ∀ v ∈ values, v.2.isNull = false ∧ ∃ setting : Setting, v.1 = setting.name

theorem Setting.ofName?_name (setting : Setting) : Setting.ofName? setting.name = some setting := by
  cases setting <;> rfl

theorem Setting.name_inj {a b : Setting} : a.name = b.name ↔ a = b := by
  constructor
  · intro h
    have hsome : some a = some b := by rw [← a.ofName?_name, ← b.ofName?_name, h]
    exact Option.some.inj hsome
  · rintro rfl
    rfl

/-- Settings that are given belong to names, and what is not given is left out. -/
theorem GivenSettings.storable_toList (given : GivenSettings) : Settings.Storable given.toList := by
  intro v hv
  obtain ⟨⟨setting, value?⟩, hmem, hv⟩ := List.mem_filterMap.mp hv
  obtain ⟨value, hvalue, rfl⟩ := Option.map_eq_some_iff.mp hv
  refine ⟨?_, setting, rfl⟩
  simp only [List.mem_cons, Prod.mk.injEq, List.not_mem_nil, or_false] at hmem
  -- whatever setting it is, its value is made of something given
  rcases hmem with ⟨_, rfl⟩ | ⟨_, rfl⟩ | ⟨_, rfl⟩ | ⟨_, rfl⟩ | ⟨_, rfl⟩ | ⟨_, rfl⟩ | ⟨_, rfl⟩ <;>
    obtain ⟨x, _, rfl⟩ := Option.map_eq_some_iff.mp hvalue <;> rfl

namespace Settings

/-- Merging values of settings works. A setting gets the last value for it if that is not null, and
one without values stays as it is. -/
theorem exists_merge {values : List (String × Value)}
    (h : ∀ v ∈ values, ∃ setting : Setting, v.1 = setting.name) (s : Settings) :
    ∃ m, s.merge values = .ok m ∧ ∀ setting : Setting,
      match Ordered.get? values.reverse setting.name with
      | some value => value.isNull = false → m setting = value
      | none => m setting = s setting := by
  induction values generalizing s with
  | nil => exact ⟨s, rfl, fun _ => rfl⟩
  | cons v rest ih =>
    obtain ⟨name, value⟩ := v
    obtain ⟨given, rfl⟩ : ∃ given : Setting, name = given.name := h _ List.mem_cons_self
    have hrest : ∀ v ∈ rest, ∃ setting : Setting, v.1 = setting.name :=
      fun v hv => h v (List.mem_cons_of_mem _ hv)
    -- a null value is passed over, any other is what the rest is merged into
    obtain ⟨m, hm, hvalues⟩ := ih hrest (if value.isNull then s else s.set given value)
    refine ⟨m, ?_, ?_⟩
    · rw [← hm, merge, Setting.ofName?_name]
      split <;> rfl
    · intro setting
      have hsetting := hvalues setting
      rw [List.reverse_cons, Ordered.get?_append]
      cases hlast : Ordered.get? rest.reverse setting.name with
      | some later =>
        rw [hlast] at hsetting
        exact hsetting
      | none =>
        rw [hlast] at hsetting
        dsimp only at hsetting
        -- the first value counts if the rest gives none for its setting
        by_cases hname : given = setting
        · subst hname
          simp only [Option.none_or, Ordered.get?, if_true]
          intro hnull
          rw [hsetting, hnull]
          simp [set]
        · have hne : ¬ given.name = setting.name := fun heq => hname (Setting.name_inj.mp heq)
          have hne' : ¬ setting = given := fun heq => hname heq.symm
          simp only [Option.none_or, Ordered.get?, if_neg hne]
          rw [hsetting]
          split
          · rfl
          · rw [set, if_neg hne']

/-- Merging values that are not null gives each setting the last value for it, if there is one. -/
theorem merge_of_storable {values : List (String × Value)} (h : Storable values) (s : Settings) :
    s.merge values =
      .ok fun setting => (Ordered.get? values.reverse setting.name).getD (s setting) := by
  obtain ⟨m, hm, hvalues⟩ := exists_merge (fun v hv => (h v hv).2) s
  rw [hm]
  congr 1
  funext setting
  have hsetting := hvalues setting
  cases hlast : Ordered.get? values.reverse setting.name with
  | none =>
    rw [hlast] at hsetting
    exact hsetting
  | some value =>
    rw [hlast] at hsetting
    have hmem := Ordered.mem_of_get?_eq_some hlast
    exact hsetting (h _ (List.mem_reverse.mp hmem)).1

/-- Saving values into a table merges them into its settings. -/
theorem ofTable_assignAll {values : List (String × Value)} (h : Storable values) (t : Table) :
    (ofTable t).merge values = .ok (ofTable (SettingsFile.assignAll t values)) := by
  rw [merge_of_storable h]
  congr 1
  funext setting
  rw [ofTable, ofTable, SettingsFile.get?_assignAll]
  cases hlast : Ordered.get? values.reverse setting.name with
  | none => rfl
  | some value =>
    have hmem := Ordered.mem_of_get?_eq_some hlast
    have hnull : value.isNull = false := (h _ (List.mem_reverse.mp hmem)).1
    simp [hnull]

end Settings

namespace SettingsFile

/-- Entries that hold the same have settings that hold the same. -/
theorem content_settingsIn_congr {t t' : Table} (h : t'.held = t.held) (setting : Setting) :
    (settingsIn t' setting).content = (settingsIn t setting).content := by
  have hsettings : (settingsOf t').held = (settingsOf t).held := by
    rw [held_settingsOf, held_settingsOf, h]
  rw [settingsIn_eq, settingsIn_eq, Settings.content_ofTable, Settings.content_ofTable, hsettings]

/-- Merging values into the settings of a file gives the settings of what saving them writes. -/
theorem merge_settingsIn {values : List (String × Value)} (h : Settings.Storable values)
    (t : Table) :
    (settingsIn t).merge values = .ok (settingsIn (Call.change t (.save values))) := by
  rw [settingsIn_eq, settingsIn_eq, settingsOf_save]
  exact Settings.ofTable_assignAll h _

end SettingsFile

/-! ## Commands -/

/-- A command that changes what is stored. -/
inductive SettingsCommand where
  | store (given : GivenSettings)
  | reset

namespace SettingsCommand

open SettingsFile (Call settingsIn)

/-- Runs a command. -/
def run (w : Workspace) : SettingsCommand → Outcome
  | .store given => Command.run w (.storeSettings given)
  | .reset => Command.run w .resetSettings

/-- The call on the settings file that a command makes. Settings to store are given up if there are
none or if they do not pass the check. -/
def call? (w : Workspace) : SettingsCommand → Option Call
  | .store given =>
    if given.toList.isEmpty then none
    else
      match w.effective given.toList with
      | .ok _ => some (.save given.toList)
      | .error _ => none
  | .reset => some .clear

end SettingsCommand

namespace Workspace

open SettingsFile (Call settingsIn)

/-- The workspace after commands run one after the other. -/
def after (w : Workspace) (commands : List SettingsCommand) : Workspace :=
  commands.foldl (fun w c => (c.run w).workspace) w

/-- All the entries that are written to the settings file while commands run. -/
def written : Workspace → List SettingsCommand → List Table
  | _, [] => []
  | w, c :: rest =>
    w.settings.written w.format (c.call? w).toList ++ written (c.run w).workspace rest

/-- Settings given to be stored are refused with a message, and nothing changes. -/
structure Refuses (w : Workspace) (given : GivenSettings) : Prop where
  ending : ∃ message, (w.storeSettings given).ending = .failed (.badParameter message)
  workspace : (w.storeSettings given).workspace = w

/-- Settings given to be stored are merged into the stored ones and pass the check, and what is
loaded afterwards are the settings that were checked. -/
structure Accepts (w : Workspace) (given : GivenSettings) (stored checked loaded : Settings) :
    Prop where
  ending : (w.storeSettings given).ending = .finished
  load_before : w.settings.load w.format = .ok stored
  merge_given : stored.merge given.toList = .ok checked
  check_merged : w.effective given.toList = .ok (checked, checked.options)
  load_after : (w.storeSettings given).workspace.settings.load w.format = .ok loaded
  content_loaded : ∀ setting, (loaded setting).content = (checked setting).content

/-! ## One command -/

/-- However the change of the settings file ended, only the settings file changes. -/
theorem workspace_settingsChanged (w : Workspace)
    (change : Except SettingsFileError Bool × SettingsFile) (success failure : String) :
    (w.settingsChanged change success failure).workspace = { w with settings := change.2 } := by
  unfold settingsChanged
  rcases change with ⟨result, file⟩
  rcases result with e | done
  · rfl
  · cases done <;> rfl

/-- No command changes how the settings file is read and written. -/
theorem format_run (w : Workspace) (c : SettingsCommand) :
    (c.run w).workspace.format = w.format := by
  cases c with
  | store given =>
    change (w.storeSettings given).workspace.format = w.format
    unfold storeSettings
    dsimp only
    split
    · rfl
    · split
      · rfl
      · rw [workspace_settingsChanged]
  | reset =>
    change w.resetSettings.workspace.format = w.format
    rw [resetSettings, workspace_settingsChanged]

/-- What is checked are the settings that would be stored. -/
theorem effective_of_holds {w : Workspace} {t : Table} (h : w.settings.Holds w.format t)
    (given : GivenSettings) :
    w.effective given.toList =
      match (settingsIn (Call.change t (.save given.toList))).check with
      | .error e => .error (.badParameter e.message)
      | .ok options => .ok (settingsIn (Call.change t (.save given.toList)), options) := by
  have hmerge := SettingsFile.merge_settingsIn given.storable_toList t
  rw [effective, SettingsFile.load_of_holds h]
  cases hcheck : (settingsIn (Call.change t (.save given.toList))).check <;>
    simp only [hmerge, hcheck]

/-- Without a call on the file, the given settings are refused. -/
theorem refuses_of_call?_eq_none {w : Workspace} {t : Table} (h : w.settings.Holds w.format t)
    {given : GivenSettings} (hcall : (SettingsCommand.store given).call? w = none) :
    w.Refuses given := by
  rw [SettingsCommand.call?] at hcall
  split at hcall
  · rename_i hempty
    have hrun : w.storeSettings given =
        { workspace := w
          ending := .failed (.badParameter "Nothing to set. Pass at least one option.") } := by
      rw [storeSettings, if_pos hempty]
    exact ⟨⟨_, by rw [hrun]⟩, by rw [hrun]⟩
  · rename_i hempty
    split at hcall
    · cases hcall
    · rename_i e heffective
      have hrun : w.storeSettings given = { workspace := w, ending := .failed e } := by
        rw [storeSettings, if_neg hempty, heffective]
      -- the file can be read, so only the check can have failed
      rw [effective_of_holds h] at heffective
      split at heffective
      · obtain rfl := Except.error.inj heffective
        exact ⟨⟨_, by rw [hrun]⟩, by rw [hrun]⟩
      · cases heffective

/-- With a call on the file, the settings were checked and the call saves them. -/
theorem check_of_call?_eq_some {w : Workspace} {t : Table} (h : w.settings.Holds w.format t)
    {given : GivenSettings} {call : Call}
    (hcall : (SettingsCommand.store given).call? w = some call) :
    let checked := settingsIn (Call.change t (.save given.toList))
    call = .save given.toList ∧ given.toList.isEmpty = false ∧ checked.check = .ok checked.options ∧
      w.effective given.toList = .ok (checked, checked.options) := by
  intro checked
  rw [SettingsCommand.call?] at hcall
  split at hcall
  · cases hcall
  · rename_i hempty
    split at hcall
    · rename_i r heffective
      have hsaved : call = .save given.toList := (Option.some.inj hcall).symm
      -- that the settings passed tells which options were made of them
      rw [effective_of_holds h] at heffective
      split at heffective
      · cases heffective
      · rename_i options hcheck
        obtain ⟨rfl, _⟩ := Settings.accepts_of_check hcheck
        refine ⟨hsaved, by simpa using hempty, hcheck, ?_⟩
        rw [effective_of_holds h, hcheck]
    · cases hcall

/-- Given settings are refused, or they are stored and pass the check from then on. -/
theorem store_of_holds {w : Workspace} {t : Table} (h : w.settings.Holds w.format t)
    (given : GivenSettings)
    (htrips : ∀ u ∈ w.settings.written w.format ((SettingsCommand.store given).call? w).toList,
      w.format.RoundTrips u) :
    w.Refuses given ∨ ∃ checked t', w.Accepts given (settingsIn t) checked (settingsIn t') ∧
      (w.storeSettings given).workspace.settings.Holds w.format t' ∧
      (settingsIn t').problems = [] := by
  cases hcall : (SettingsCommand.store given).call? w with
  | none => exact Or.inl (refuses_of_call?_eq_none h hcall)
  | some call =>
    right
    obtain ⟨rfl, hempty, hcheck, heffective⟩ := check_of_call?_eq_some h hcall
    have htrip : w.format.RoundTrips (Call.change t (.save given.toList)) := by
      rw [hcall] at htrips
      apply htrips
      rw [Option.toList_some, SettingsFile.written, h.entries]
      exact List.mem_cons_self
    obtain ⟨file', t', happly, hholds, hheld⟩ := SettingsFile.apply_of_holds h _ htrip
    -- both the check and the saving worked, so the command ends with the new file
    have hrun : w.storeSettings given =
        { workspace := { w with settings := file' }
          outputs := [.echo (savedText given.toList)] } := by
      have hsave : w.settings.save w.format given.toList = (.ok true, file') := happly
      rw [storeSettings, hempty, heffective, hsave]
      rfl
    have hcontent := SettingsFile.content_settingsIn_congr hheld
    refine ⟨settingsIn (Call.change t (.save given.toList)), t',
      ⟨?_, ?_, ?_, heffective, ?_, hcontent⟩, ?_, ?_⟩
    · rw [hrun]
    · exact SettingsFile.load_of_holds h
    · exact SettingsFile.merge_settingsIn given.storable_toList t
    · rw [hrun]
      exact SettingsFile.load_of_holds hholds
    · rw [hrun]
      exact hholds
    · have hproblems := (Settings.accepts_of_check hcheck).2
      rw [← Settings.problems_eq_nil_iff] at hproblems
      exact Settings.problems_eq_nil_of_content (fun setting => (hcontent setting).symm) hproblems

/-- After a reset the defaults are stored, and these pass the check. -/
theorem reset_of_holds {w : Workspace} {t : Table} (h : w.settings.Holds w.format t)
    (htrip : w.format.RoundTrips (Call.change t .clear)) :
    ∃ t', w.resetSettings.workspace.settings.Holds w.format t' ∧ (settingsIn t').problems = [] := by
  obtain ⟨file', t', happly, hholds, hheld⟩ := SettingsFile.apply_of_holds h .clear htrip
  have hrun : w.resetSettings.workspace = { w with settings := file' } := by
    have hclear : w.settings.clear w.format = (.ok true, file') := happly
    rw [resetSettings, hclear]
    rfl
  refine ⟨t', by rw [hrun]; exact hholds, ?_⟩
  have hdefaults : settingsIn (Call.change t .clear) = Settings.defaults := by
    rw [settingsIn, Call.change, Ordered.get?_erase_self]
  have hcontent := SettingsFile.content_settingsIn_congr hheld
  rw [hdefaults] at hcontent
  exact Settings.problems_eq_nil_of_content (fun setting => (hcontent setting).symm) rfl

/-- One command keeps settings stored that pass the check. -/
theorem run_of_holds {w : Workspace} {t : Table} (h : w.settings.Holds w.format t)
    (hvalid : (settingsIn t).problems = []) (c : SettingsCommand)
    (htrips : ∀ u ∈ w.settings.written w.format (c.call? w).toList, w.format.RoundTrips u) :
    ∃ t', (c.run w).workspace.settings.Holds w.format t' ∧ (settingsIn t').problems = [] := by
  cases c with
  | store given =>
    rcases store_of_holds h given htrips with hrefused | ⟨checked, t', _, hholds, hvalid'⟩
    · have hsame : ((SettingsCommand.store given).run w).workspace = w := hrefused.workspace
      rw [hsame]
      exact ⟨t, h, hvalid⟩
    · exact ⟨t', hholds, hvalid'⟩
  | reset =>
    have htrip : w.format.RoundTrips (Call.change t .clear) := by
      apply htrips
      rw [SettingsCommand.call?, Option.toList_some, SettingsFile.written, h.entries]
      exact List.mem_cons_self
    exact reset_of_holds h htrip

/-! ## Runs of commands -/

/-- What is written during commands is written during the first and then during the others. -/
theorem written_append (w : Workspace) (earlier later : List SettingsCommand) :
    w.written (earlier ++ later) = w.written earlier ++ (w.after earlier).written later := by
  induction earlier generalizing w with
  | nil => rfl
  | cons c rest ih =>
    rw [List.cons_append, written, written, ih, List.append_assoc]
    rfl

theorem format_after (w : Workspace) (commands : List SettingsCommand) :
    (w.after commands).format = w.format := by
  induction commands generalizing w with
  | nil => rfl
  | cons c rest ih => exact (ih _).trans (format_run w c)

/-- Stored settings that pass the check go on to pass it, whatever commands change them. -/
theorem after_of_holds {w : Workspace} {t : Table} (h : w.settings.Holds w.format t)
    (hvalid : (settingsIn t).problems = []) (commands : List SettingsCommand)
    (htrips : ∀ u ∈ w.written commands, w.format.RoundTrips u) :
    ∃ t', (w.after commands).settings.Holds w.format t' ∧ (settingsIn t').problems = [] := by
  induction commands generalizing w t with
  | nil => exact ⟨t, h, hvalid⟩
  | cons c rest ih =>
    obtain ⟨t₁, hholds, hvalid₁⟩ :=
      run_of_holds h hvalid c fun u hu => htrips u (List.mem_append_left _ hu)
    have htripsRest : ∀ u ∈ (c.run w).workspace.written rest, w.format.RoundTrips u :=
      fun u hu => htrips u (List.mem_append_right _ hu)
    -- the induction is about the workspace after the first command, which has the same format
    rw [← format_run w c] at hholds htripsRest ⊢
    exact ih hholds hvalid₁ htripsRest

/-- Along any run of commands that store and reset settings, the stored settings pass the check.
Each time settings are given to be stored they are refused, and nothing changes, or they are
accepted, and what is loaded afterwards is what was loaded before with the given settings merged in,
which is what was checked. -/
theorem stored_settings_checked {w : Workspace} {t : Table} (h : w.settings.Holds w.format t)
    {s : Settings} {options : Options} (hload : w.settings.load w.format = .ok s)
    (hvalid : s.check = .ok options) (commands : List SettingsCommand)
    (htrips : ∀ u ∈ w.written commands, w.format.RoundTrips u) :
    (∃ s' options', (w.after commands).settings.load w.format = .ok s' ∧ s'.check = .ok options') ∧
      ∀ earlier given later, commands = earlier ++ .store given :: later →
        (w.after earlier).Refuses given ∨
          ∃ stored checked loaded, (w.after earlier).Accepts given stored checked loaded := by
  have hsettings : s = settingsIn t := by
    rw [SettingsFile.load_of_holds h] at hload
    exact (Except.ok.inj hload).symm
  have hproblems : (settingsIn t).problems = [] := by
    rw [← hsettings, Settings.problems_eq_nil_iff]
    exact (Settings.accepts_of_check hvalid).2
  constructor
  · obtain ⟨t', hholds, hvalid'⟩ := after_of_holds h hproblems commands htrips
    refine ⟨settingsIn t', (settingsIn t').options, SettingsFile.load_of_holds hholds, ?_⟩
    exact Settings.check_of_accepts ((Settings.problems_eq_nil_iff _).mp hvalid')
  · rintro earlier given later rfl
    rw [written_append] at htrips
    obtain ⟨t₁, hholds, _⟩ := after_of_holds h hproblems earlier
      fun u hu => htrips u (List.mem_append_left _ hu)
    have htripsThis : ∀ u ∈ (w.after earlier).settings.written (w.after earlier).format
        ((SettingsCommand.store given).call? (w.after earlier)).toList, w.format.RoundTrips u :=
      fun u hu => htrips u (List.mem_append_right _ (List.mem_append_left _ hu))
    rw [← format_after w earlier] at hholds htripsThis
    rcases store_of_holds hholds given htripsThis with hrefused | ⟨checked, t', haccepted, _⟩
    · exact Or.inl hrefused
    · exact Or.inr ⟨_, checked, _, haccepted⟩

/-- A workspace with the given settings file. -/
def sampleWith (settings : SettingsFile) : Workspace :=
  { settings, now := ⟨2024, 1, 1, 9, 0, 0, 0, none⟩, format := Toml.format
    parser := fun _ _ => { kind := "program", start := 0, stop := 0 } }

/-- Settings that are stored, one that is refused, and a reset. -/
def sampleCommands : List SettingsCommand :=
  [.store { maxDepth := some 6 }, .store { format := some "pdf" }, .reset]

theorem roundTrips_of_mem_sampleCommands :
    ∀ u ∈ (sampleWith .absent).written sampleCommands, Toml.format.RoundTrips u := by
  -- the file is written by the first command and by the reset
  have hcall₁ : (SettingsCommand.store { maxDepth := some 6 }).call? (sampleWith .absent) =
      some (.save [("max_depth", .int 6)]) := rfl
  have hrun₁ : ((SettingsCommand.store { maxDepth := some 6 }).run (sampleWith .absent)).workspace =
      sampleWith (.text "[flow]\nmax_depth = 6\n".toList) := rfl
  have hcall₂ : (SettingsCommand.store { format := some "pdf" }).call?
      (sampleWith (.text "[flow]\nmax_depth = 6\n".toList)) = none := rfl
  have hrun₂ : ((SettingsCommand.store { format := some "pdf" }).run
      (sampleWith (.text "[flow]\nmax_depth = 6\n".toList))).workspace =
      sampleWith (.text "[flow]\nmax_depth = 6\n".toList) := rfl
  have hwrite : Toml.format.write [("flow", .table [("max_depth", .int 6)])] =
      .ok "[flow]\nmax_depth = 6\n".toList := rfl
  have hread : Toml.format.read "[flow]\nmax_depth = 6\n".toList =
      .ok [("flow", .table [("max_depth", .int 6)])] := rfl
  have hwriteEmpty : Toml.format.write [] = .ok [] := rfl
  have hreadEmpty : Toml.format.read [] = .ok [] := rfl
  have hwritten : (sampleWith .absent).written sampleCommands =
      [[("flow", .table [("max_depth", .int 6)])], []] := by
    rw [sampleCommands, written, hcall₁, hrun₁, written, hcall₂, hrun₂, written]
    rfl
  intro u hu
  rw [hwritten] at hu
  simp only [List.mem_cons, List.not_mem_nil, or_false] at hu
  rcases hu with rfl | rfl
  · exact Toml.Format.roundTrips_of_perm hwrite hread .rfl (by decide)
  · exact Toml.Format.roundTrips_of_perm hwriteEmpty hreadEmpty .rfl (by decide)

/-- A depth limit is accepted, then an unknown format is refused. -/
theorem stored_settings_checked_sample :
    (∃ s options, ((sampleWith .absent).after sampleCommands).settings.load Toml.format = .ok s ∧
      s.check = .ok options) ∧
    (∃ stored checked loaded,
      (sampleWith .absent).Accepts { maxDepth := some 6 } stored checked loaded) ∧
    ((sampleWith .absent).after [.store { maxDepth := some 6 }]).Refuses
      { format := some "pdf" } := by
  have hchecked := stored_settings_checked (w := sampleWith .absent) (t := []) ⟨nofun, rfl, nofun⟩
    rfl rfl sampleCommands roundTrips_of_mem_sampleCommands
  refine ⟨hchecked.1, ?_, ?_⟩
  · rcases hchecked.2 [] { maxDepth := some 6 } _ rfl with hrefused | haccepted
    · obtain ⟨message, hending⟩ := hrefused.ending
      cases hending
    · exact haccepted
  · rcases hchecked.2 [.store { maxDepth := some 6 }] { format := some "pdf" } _ rfl with
      hrefused | ⟨_, _, _, haccepted⟩
    · exact hrefused
    · cases haccepted.ending

end Workspace

end SourceFlow
