import SourceFlow.Proofs.Project
import SourceFlow.Proofs.Resolution.Places

/-!
# Projects that grow

What one more unit does to the imports of the others. Candidates are tried
in a fixed order, and the first known one is taken, so a unit that becomes
known can only get in front of the one taken so far. A reference leads
where it led before or to the new unit, and the dependencies of a unit
change accordingly: several may become one, and none comes from elsewhere.
-/

namespace SourceFlow

namespace Resolution

/-! ## One more known unit -/

/-- With one more unit known, the first known option stays or is the new unit. -/
theorem find?_known_cons (added : String) (known tried : List String) :
    tried.find? (added :: known).contains = tried.find? known.contains ∨
      tried.find? (added :: known).contains = some added := by
  induction tried with
  | nil => exact Or.inl rfl
  | cons option rest ih =>
    by_cases hadded : option = added
    · right
      rw [List.find?_cons_of_pos (by simp [hadded]), hadded]
    · by_cases hknown : option ∈ known
      · left
        rw [List.find?_cons_of_pos (by simp [hknown]), List.find?_cons_of_pos (by simp [hknown])]
      · rw [List.find?_cons_of_neg (by simp [hadded, hknown]),
          List.find?_cons_of_neg (by simp [hknown])]
        exact ih

/-- With one more unit known, a reference names what it named before or the new unit. -/
theorem target_known_cons (reference importer added : String) (known : List String) :
    target reference importer (added :: known) = target reference importer known ∨
      target reference importer (added :: known) = added := by
  by_cases hliteral : literal reference ∈ known
  · left
    rw [target_of_literal hliteral, target_of_literal (List.mem_cons_of_mem _ hliteral)]
  · by_cases hadded : literal reference = added
    · right
      rw [target_of_literal (by simp [hadded]), hadded]
    · have hnew : literal reference ∉ added :: known := by
        intro hmem
        rcases List.mem_cons.mp hmem with heq | hmem
        · exact hadded heq
        · exact hliteral hmem
      -- the literal candidate is unknown in both, so the options decide
      cases hpath : denoted? reference importer with
      | none =>
        left
        rw [target_of_not_denoted hnew hpath, target_of_not_denoted hliteral hpath]
      | some path =>
        rw [target_of_denoted hnew hpath, target_of_denoted hliteral hpath]
        rcases find?_known_cons added known (options path) with hsame | hfound
        · left
          rw [hsame]
        · right
          rw [hfound, Option.getD_some]

end Resolution

open Resolution

/-! ## Dependencies -/

namespace UnitFacts

theorem mem_dependencies {u : UnitFacts} {known : List String} {d : String} :
    d ∈ u.dependencies (some known) ↔
      ∃ reference ∈ u.localReferences, target reference u.id known = d := by
  rw [dependencies, List.mem_eraseDups, List.mem_map]
  rfl

/-- A unit is added to the known ones, and the dependencies of a unit change from `old` to `new`
only in that some are replaced by the added one: if one is gone, every reference that led to it
leads to the added unit now. -/
structure Redirected (u : UnitFacts) (known : List String) (added : String)
    (old new : List String) : Prop where
  distinct : new.Nodup
  within : ∀ d ∈ new, d = added ∨ d ∈ old
  replaced : ∀ d ∈ old, d ∉ new → added ∈ new ∧
    ∀ reference ∈ u.localReferences, target reference u.id known = d →
      target reference u.id (added :: known) = added

/-- Another known unit only redirects the dependencies of a unit. -/
theorem redirected_dependencies (u : UnitFacts) (known : List String) (added : String) :
    u.Redirected known added (u.dependencies (some known))
      (u.dependencies (some (added :: known))) := by
  refine ⟨u.nodup_dependencies _, ?_, ?_⟩
  · intro d hd
    rcases mem_dependencies.mp hd with ⟨reference, href, htarget⟩
    rcases target_known_cons reference u.id added known with hsame | hadded
    · right
      exact mem_dependencies.mpr ⟨reference, href, hsame.symm.trans htarget⟩
    · left
      exact htarget.symm.trans hadded
  · intro d hold hgone
    -- a reference that still led to `d` would keep it among the dependencies
    have hall : ∀ reference ∈ u.localReferences, target reference u.id known = d →
        target reference u.id (added :: known) = added := by
      intro reference href htarget
      rcases target_known_cons reference u.id added known with hsame | hadded
      · exact absurd (mem_dependencies.mpr ⟨reference, href, hsame.trans htarget⟩) hgone
      · exact hadded
    rcases mem_dependencies.mp hold with ⟨reference, href, htarget⟩
    exact ⟨mem_dependencies.mpr ⟨reference, href, hall reference href htarget⟩, hall⟩

end UnitFacts

namespace Project

/-- Adding a unit only redirects imports to it. A reference names what it named before or the new
unit; and in a project of units with distinct ids that gains a unit, wherever it stands among them,
the dependencies of every old unit are those it had, some of them replaced by the new unit, without
repetitions. -/
theorem ofUnits_redirected :
    (∀ (reference importer added : String) (known : List String),
        target reference importer (added :: known) = target reference importer known ∨
          target reference importer (added :: known) = added) ∧
      ∀ (before after : List UnitFacts) (added : UnitFacts),
        ((before ++ added :: after).map (·.id)).Nodup → ∀ u ∈ before ++ after,
          ∃ old new : List String,
            Ordered.get? (ofUnits (before ++ after)).graph u.id = some old ∧
              Ordered.get? (ofUnits (before ++ added :: after)).graph u.id = some new ∧
              u.Redirected ((before ++ after).map (·.id)) added.id old new := by
  refine ⟨target_known_cons, ?_⟩
  intro before after added hnodup u hu
  have hmiddle : (before ++ added :: after).Perm (added :: (before ++ after)) := List.perm_middle
  have hids : ((before ++ added :: after).map (·.id)).Perm
      (added.id :: (before ++ after).map (·.id)) := hmiddle.map _
  have hnodup' : ((before ++ after).map (·.id)).Nodup :=
    (List.nodup_cons.mp (hids.nodup_iff.mp hnodup)).2
  have hu' : u ∈ before ++ added :: after := hmiddle.mem_iff.mpr (List.mem_cons_of_mem _ hu)
  -- where the new unit stands among the known ones does not matter
  have hdeps : u.dependencies (some ((before ++ added :: after).map (·.id))) =
      u.dependencies (some (added.id :: (before ++ after).map (·.id))) :=
    u.dependencies_congr fun _ => hids.mem_iff
  refine ⟨_, _, get?_dependencyGraph hnodup' hu, get?_dependencyGraph hnodup hu', ?_⟩
  rw [hdeps]
  exact u.redirected_dependencies _ added.id

/-- A unit that imports `util` next to it, and again from the root. -/
def twoWays : UnitFacts :=
  { id := "src/a.ts", metadata := { kindName := "typescript" }
    imports := [{ reference := "./util", isExternal := false },
      { reference := "/util", isExternal := false }] }

/-- The unit next to it. -/
def nearUtil : UnitFacts :=
  { id := "src/util.ts", metadata := { kindName := "typescript" } }

/-- The unit at the root. -/
def rootUtil : UnitFacts :=
  { id := "util.ts", metadata := { kindName := "typescript" } }

/-- Once there is a unit at the root both references lead to it, and two dependencies become one. -/
theorem ofUnits_redirected_twoWays :
    Ordered.get? (ofUnits [twoWays, nearUtil]).graph "src/a.ts" =
        some ["src/util.ts", "util.ts"] ∧
      Ordered.get? (ofUnits [twoWays, rootUtil, nearUtil]).graph "src/a.ts" = some ["util.ts"] ∧
      twoWays.Redirected ["src/a.ts", "src/util.ts"] "util.ts" ["src/util.ts", "util.ts"]
        ["util.ts"] := by
  have hold : Ordered.get? (ofUnits [twoWays, nearUtil]).graph "src/a.ts" =
      some ["src/util.ts", "util.ts"] := by decide +kernel
  have hnew : Ordered.get? (ofUnits [twoWays, rootUtil, nearUtil]).graph "src/a.ts" =
      some ["util.ts"] := by decide +kernel
  rcases ofUnits_redirected.2 [twoWays] [nearUtil] rootUtil (by decide) twoWays (by simp) with
    ⟨old, new, hget, hget', h⟩
  have hold' : old = ["src/util.ts", "util.ts"] := Option.some.inj (hget.symm.trans hold)
  have hnew' : new = ["util.ts"] := Option.some.inj (hget'.symm.trans hnew)
  rw [hold', hnew'] at h
  exact ⟨hold, hnew, h⟩

end Project

end SourceFlow
