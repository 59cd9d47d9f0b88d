import SourceFlow.Settings.Options

/-!
# Which settings pass the check

What a setting may hold, said without the check, and that the check agrees:
it gives one problem for each setting that holds something else, in a fixed
order, and the problem is about that setting and names it. The limits of
settings that pass are read as they were given.
-/

namespace SourceFlow

namespace Setting

/-- The settings that are looked at, in order. The others may hold anything. -/
def checked : List Setting :=
  [.maxDepth, .maxNodes, .depthThreshold, .format, .entryPattern]

/-- The setting may hold the value. -/
def Accepts : Setting → Value → Prop
  | .maxDepth, v => ∃ n : Int, v = .int n ∧ 1 ≤ n ∧ n ≤ 256
  | .maxNodes, v => ∃ n : Int, v = .int n ∧ 1 ≤ n
  | .depthThreshold, v => v = .null ∨ ∃ n : Int, v = .int n ∧ 0 ≤ n
  | .format, v => v = .text "markdown" ∨ v = .text "json" ∨ v = .text "html"
  | .entryPattern, v => v = .null ∨ ∃ s : String, v = .text s
  | .detectCycles, _ => True
  | .drawDiagram, _ => True

/-- The problem with a value of the setting. -/
def problem? : Setting → Value → Option Problem
  | .maxDepth => Settings.depthProblem
  | .maxNodes => Settings.nodesProblem
  | .depthThreshold => Settings.thresholdProblem
  | .format => Settings.formatProblem
  | .entryPattern => Settings.patternProblem
  | .detectCycles => fun _ => none
  | .drawDiagram => fun _ => none

end Setting

/-- The setting that a problem is about. -/
def Problem.setting : Problem → Setting
  | .depthNotPositive _ | .depthAboveCeiling _ => .maxDepth
  | .nodesNotPositive _ => .maxNodes
  | .thresholdNegative _ => .depthThreshold
  | .formatUnknown _ | .cannotRender _ => .format
  | .patternNotText => .entryPattern

namespace Settings

theorem problems_eq (s : Settings) :
    s.problems = Setting.checked.filterMap fun setting => setting.problem? (s setting) :=
  rfl

/-! ## One setting -/

/-- The depth has two bounds, and the lower one is checked first. -/
theorem depthProblem_eq_none (v : Value) :
    depthProblem v = none ↔ ∃ n : Int, v = .int n ∧ 1 ≤ n ∧ n ≤ 256 := by
  cases v with
  | int n =>
    have hceiling : maxDepthCeiling = 256 := rfl
    simp only [depthProblem, Value.int.injEq, exists_eq_left']
    by_cases hlow : n < 1
    · rw [if_pos hlow]
      exact ⟨nofun, fun h => absurd h.1 (by omega)⟩
    · rw [if_neg hlow]
      by_cases hhigh : n > maxDepthCeiling
      · rw [if_pos hhigh]
        exact ⟨nofun, fun h => absurd h.2 (by omega)⟩
      · rw [if_neg hhigh]
        exact ⟨fun _ => ⟨by omega, by omega⟩, fun _ => rfl⟩
  | _ => simp [depthProblem]

theorem nodesProblem_eq_none (v : Value) :
    nodesProblem v = none ↔ ∃ n : Int, v = .int n ∧ 1 ≤ n := by
  cases v with
  | int n => simp [nodesProblem]
  | _ => simp [nodesProblem]

theorem thresholdProblem_eq_none (v : Value) :
    thresholdProblem v = none ↔ v = .null ∨ ∃ n : Int, v = .int n ∧ 0 ≤ n := by
  cases v with
  | int n => simp [thresholdProblem]
  | _ => simp [thresholdProblem]

/-- A format is known by its name. -/
theorem formatProblem_eq_none (v : Value) :
    formatProblem v = none ↔ v = .text "markdown" ∨ v = .text "json" ∨ v = .text "html" := by
  cases v with
  | text s =>
    have hname : (ReportFormat.ofName? s).isSome ↔ s = "markdown" ∨ s = "json" ∨ s = "html" := by
      rw [ReportFormat.ofName?, List.find?_isSome]
      simp only [ReportFormat.all, List.mem_cons, List.not_mem_nil, or_false, exists_eq_or_imp,
        exists_eq_left, ReportFormat.name, beq_iff_eq]
      simp only [eq_comm]
    simp only [formatProblem, ite_eq_left_iff, reduceCtorEq, imp_false, Decidable.not_not, hname,
      Value.text.injEq]
  | _ => simp [formatProblem]

theorem patternProblem_eq_none (v : Value) :
    patternProblem v = none ↔ v = .null ∨ ∃ s : String, v = .text s := by
  cases v <;> simp [patternProblem]

end Settings

namespace Setting

/-- A setting has no problem just with the values that it may hold. -/
theorem problem?_eq_none_iff (setting : Setting) (v : Value) :
    setting.problem? v = none ↔ setting.Accepts v := by
  cases setting with
  | maxDepth => exact Settings.depthProblem_eq_none v
  | maxNodes => exact Settings.nodesProblem_eq_none v
  | detectCycles => exact ⟨fun _ => trivial, fun _ => rfl⟩
  | entryPattern => exact Settings.patternProblem_eq_none v
  | drawDiagram => exact ⟨fun _ => trivial, fun _ => rfl⟩
  | format => exact Settings.formatProblem_eq_none v
  | depthThreshold => exact Settings.thresholdProblem_eq_none v

instance (setting : Setting) (v : Value) : Decidable (setting.Accepts v) :=
  decidable_of_iff ((setting.problem? v).isNone = true)
    (Option.isNone_iff_eq_none.trans (setting.problem?_eq_none_iff v))

/-- A problem with a value is about the setting that has it. -/
theorem setting_of_problem? {setting : Setting} {v : Value} {p : Problem}
    (h : setting.problem? v = some p) : p.setting = setting ∧ ∀ f, p ≠ .cannotRender f := by
  cases setting with
  | maxDepth =>
    change Settings.depthProblem v = some p at h
    unfold Settings.depthProblem at h
    split at h
    · split at h
      · obtain rfl := Option.some.inj h
        exact ⟨rfl, nofun⟩
      · split at h
        · obtain rfl := Option.some.inj h
          exact ⟨rfl, nofun⟩
        · cases h
    · obtain rfl := Option.some.inj h
      exact ⟨rfl, nofun⟩
  | maxNodes =>
    change Settings.nodesProblem v = some p at h
    unfold Settings.nodesProblem at h
    split at h
    · split at h
      · obtain rfl := Option.some.inj h
        exact ⟨rfl, nofun⟩
      · cases h
    · obtain rfl := Option.some.inj h
      exact ⟨rfl, nofun⟩
  | depthThreshold =>
    change Settings.thresholdProblem v = some p at h
    unfold Settings.thresholdProblem at h
    split at h
    · cases h
    · split at h
      · obtain rfl := Option.some.inj h
        exact ⟨rfl, nofun⟩
      · cases h
    · obtain rfl := Option.some.inj h
      exact ⟨rfl, nofun⟩
  | format =>
    change Settings.formatProblem v = some p at h
    unfold Settings.formatProblem at h
    split at h
    · split at h
      · cases h
      · obtain rfl := Option.some.inj h
        exact ⟨rfl, nofun⟩
    · obtain rfl := Option.some.inj h
      exact ⟨rfl, nofun⟩
  | entryPattern =>
    change Settings.patternProblem v = some p at h
    unfold Settings.patternProblem at h
    split at h
    · cases h
    · cases h
    · obtain rfl := Option.some.inj h
      exact ⟨rfl, nofun⟩
  | detectCycles => cases h
  | drawDiagram => cases h

end Setting

/-- A problem with a setting names it first. -/
theorem Problem.message_eq (p : Problem) (h : ∀ f, p ≠ .cannotRender f) :
    ∃ rest, p.message = p.setting.name ++ " must " ++ rest := by
  cases p with
  | depthNotPositive got => exact ⟨"be a positive integer (got " ++ got.literal ++ ")", rfl⟩
  | depthAboveCeiling got =>
    exact ⟨"not exceed " ++ Text.decimal maxDepthCeiling ++ " (got " ++ Text.decimal got ++ ")",
      rfl⟩
  | nodesNotPositive got => exact ⟨"be a positive integer (got " ++ got.literal ++ ")", rfl⟩
  | thresholdNegative got => exact ⟨"be a non-negative integer (got " ++ got.literal ++ ")", rfl⟩
  | formatUnknown got =>
    exact ⟨"be one of " ++ ", ".intercalate (ReportFormat.all.map (·.name)) ++ " (got " ++
      got.literal ++ ")", rfl⟩
  | patternNotText => exact ⟨"be a string", rfl⟩
  | cannotRender format => exact absurd rfl (h format)

namespace Settings

/-! ## All settings -/

/-- The problems of some settings are about those that hold what they may not, in order. -/
theorem map_setting_filterMap_problem? (s : Settings) (l : List Setting) :
    (l.filterMap fun setting => setting.problem? (s setting)).map Problem.setting =
      l.filter fun setting => ¬ setting.Accepts (s setting) := by
  induction l with
  | nil => rfl
  | cons setting rest ih =>
    -- a setting without a problem gives nothing, in either list
    rcases hp : setting.problem? (s setting) with _ | p
    · have haccepts := (setting.problem?_eq_none_iff (s setting)).mp hp
      rw [List.filterMap_cons, hp, List.filter_cons_of_neg (by simpa using haccepts)]
      exact ih
    · have hnot : ¬ setting.Accepts (s setting) := by
        intro haccepts
        rw [(setting.problem?_eq_none_iff (s setting)).mpr haccepts] at hp
        cases hp
      rw [List.filterMap_cons, hp, List.filter_cons_of_pos (by simpa using hnot), List.map_cons, ih,
        (Setting.setting_of_problem? hp).1]

/-- The check finds one problem for each setting that holds what it may not. -/
theorem map_setting_problems (s : Settings) :
    s.problems.map Problem.setting =
      Setting.checked.filter fun setting => ¬ setting.Accepts (s setting) := by
  rw [problems_eq]
  exact map_setting_filterMap_problem? s _

/-- Each problem found names its setting first. -/
theorem message_of_mem_problems {s : Settings} {p : Problem} (h : p ∈ s.problems) :
    ∃ rest, p.message = p.setting.name ++ " must " ++ rest := by
  rw [problems_eq] at h
  obtain ⟨setting, _, hp⟩ := List.mem_filterMap.mp h
  exact p.message_eq (Setting.setting_of_problem? hp).2

/-- Nothing is wrong just if every setting looked at holds what it may. -/
theorem problems_eq_nil_iff (s : Settings) :
    s.problems = [] ↔ ∀ setting ∈ Setting.checked, setting.Accepts (s setting) := by
  rw [problems_eq, List.filterMap_eq_nil_iff]
  simp only [Setting.problem?_eq_none_iff]

theorem check_of_accepts {s : Settings}
    (h : ∀ setting ∈ Setting.checked, setting.Accepts (s setting)) : s.check = .ok s.options := by
  rw [check, s.problems_eq_nil_iff.mpr h]

/-- A single setting that does not is enough to fail, and all problems are given. -/
theorem check_of_not_accepts {s : Settings} {setting : Setting} (hmem : setting ∈ Setting.checked)
    (h : ¬ setting.Accepts (s setting)) : s.check = .error ⟨s.problems⟩ := by
  rcases hp : s.problems with _ | ⟨p, rest⟩
  · exact absurd (s.problems_eq_nil_iff.mp hp setting hmem) h
  · rw [check, hp]

/-- Options come only from settings that hold what they may. -/
theorem accepts_of_check {s : Settings} {options : Options} (h : s.check = .ok options) :
    options = s.options ∧ ∀ setting ∈ Setting.checked, setting.Accepts (s setting) := by
  by_cases hall : ∀ setting ∈ Setting.checked, setting.Accepts (s setting)
  · rw [check_of_accepts hall] at h
    exact ⟨(Except.ok.inj h).symm, hall⟩
  · rw [check] at h
    split at h
    · rename_i hnil
      exact absurd (s.problems_eq_nil_iff.mp hnil) hall
    · cases h

/-- The limits are read as they were given, and within bounds. -/
theorem limits_of_check {s : Settings} {options : Options} (h : s.check = .ok options) :
    (s .maxNodes = .int options.maxNodes ∧ 1 ≤ options.maxNodes) ∧
      s .maxDepth = .int options.maxDepth ∧ 1 ≤ options.maxDepth := by
  obtain ⟨rfl, hall⟩ := accepts_of_check h
  obtain ⟨nodes, hnodes, hpos⟩ := hall .maxNodes (by decide)
  obtain ⟨depth, hdepth, hlow, _⟩ := hall .maxDepth (by decide)
  -- the numbers that stand in for missing ones are not used
  have hreadNodes : s.options.maxNodes = nodes := congrArg (Value.intOr 1000) hnodes
  have hreadDepth : s.options.maxDepth = depth := congrArg (Value.intOr 10) hdepth
  rw [hreadNodes, hreadDepth]
  exact ⟨⟨hnodes, hpos⟩, hdepth, hlow⟩

/-- The threshold is read as it was given, if it was, and is not negative. -/
theorem threshold_of_check {s : Settings} {options : Options} (h : s.check = .ok options) :
    (s .depthThreshold = .null ∧ options.depthThreshold = none) ∨
      ∃ t : Int, 0 ≤ t ∧ s .depthThreshold = .int t ∧ options.depthThreshold = some t := by
  obtain ⟨rfl, hall⟩ := accepts_of_check h
  rcases hall .depthThreshold (by decide) with hnull | ⟨t, ht, hpos⟩
  · exact Or.inl ⟨hnull, congrArg Value.int? hnull⟩
  · exact Or.inr ⟨t, hpos, ht, congrArg Value.int? ht⟩

end Settings

end SourceFlow
