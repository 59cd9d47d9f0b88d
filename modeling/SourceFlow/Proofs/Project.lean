import SourceFlow.Project.Basic
import SourceFlow.Proofs.Ordered

/-!
# Projects of distinct units

For units with distinct ids the dependency graph has one entry for each
unit, in their order, and no dependency is listed twice. Nothing else in
a project depends on the order of its units: a reference is resolved
against the set of known ids, and counts do not see the order.
-/

namespace SourceFlow

/-! ## Resolution against a set of ids -/

/-- Which unit a reference names depends only on which units are known. -/
theorem Resolution.target_congr {known known' : List String} (h : ∀ x, x ∈ known ↔ x ∈ known')
    (reference importer : String) :
    target reference importer known = target reference importer known' := by
  have hcontains : known.contains = known'.contains := by
    funext x
    rw [Bool.eq_iff_iff]
    simpa using h x
  unfold target
  rw [hcontains]

/-- So what a unit depends on is decided by which units are known. -/
theorem UnitFacts.dependencies_congr {known known' : List String}
    (h : ∀ x, x ∈ known ↔ x ∈ known') (u : UnitFacts) :
    u.dependencies (some known) = u.dependencies (some known') := by
  unfold dependencies Resolution.targetIn
  simp only [Resolution.target_congr h]

/-! ## Dependency lists -/

/-- Each value is kept once. -/
theorem nodup_eraseDups (l : List String) : l.eraseDups.Nodup := by
  cases l with
  | nil => exact List.nodup_nil
  | cons x rest =>
    rw [List.eraseDups_cons, List.nodup_cons]
    constructor
    -- the rest has been cleared of the first value
    · simp [List.mem_eraseDups]
    · exact nodup_eraseDups _
termination_by l.length
decreasing_by
  have hle := List.length_filter_le (fun y => !y == x) rest
  rw [List.length_cons]
  omega

/-- A unit depends on no other twice. -/
theorem UnitFacts.nodup_dependencies (u : UnitFacts) (known : Option (List String)) :
    (u.dependencies known).Nodup :=
  nodup_eraseDups _

namespace Project

variable {units units' : List UnitFacts}

/-! ## The dependency graph -/

theorem names_pairs (units : List UnitFacts) (f : UnitFacts → List String) :
    Ordered.names (units.map fun u => (u.id, f u)) = units.map (·.id) := by
  rw [Ordered.names, List.map_map]
  rfl

/-- With distinct ids the dependency graph has an entry for each unit. -/
theorem dependencyGraph_of_nodup (h : (units.map (·.id)).Nodup) :
    dependencyGraph units =
      units.map fun u => (u.id, u.dependencies (some (units.map (·.id)))) := by
  apply Ordered.ofPairs_of_nodup
  rw [names_pairs]
  exact h

theorem names_dependencyGraph (h : (units.map (·.id)).Nodup) :
    Ordered.names (dependencyGraph units) = units.map (·.id) := by
  rw [dependencyGraph_of_nodup h, names_pairs]

/-- With distinct ids, the entry of a unit has its dependencies. -/
theorem get?_dependencyGraph (h : (units.map (·.id)).Nodup) {u : UnitFacts} (hu : u ∈ units) :
    Ordered.get? (dependencyGraph units) u.id =
      some (u.dependencies (some (units.map (·.id)))) := by
  have hnames : (Ordered.names (dependencyGraph units)).Nodup := by
    rw [names_dependencyGraph h]
    exact h
  rw [Ordered.get?_eq_some_iff hnames, dependencyGraph_of_nodup h]
  exact List.mem_map.mpr ⟨u, hu, rfl⟩

/-- Whatever the ids are, an entry has the dependencies of a unit. -/
theorem exists_of_mem_dependencyGraph {e : String × List String}
    (h : e ∈ dependencyGraph units) :
    ∃ u ∈ units, u.id = e.1 ∧ u.dependencies (some (units.map (·.id))) = e.2 := by
  have hget : Ordered.get? (dependencyGraph units) e.1 = some e.2 :=
    (Ordered.get?_eq_some_iff (Ordered.nodup_names_ofPairs _) e.1 e.2).mpr h
  obtain ⟨u, hu, hpair⟩ := List.mem_map.mp (Ordered.mem_of_get?_ofPairs hget)
  exact ⟨u, hu, congrArg Prod.fst hpair, congrArg Prod.snd hpair⟩

/-- No entry has a dependency twice, also if ids repeat. -/
theorem nodup_of_mem_dependencyGraph {e : String × List String}
    (h : e ∈ dependencyGraph units) : e.2.Nodup := by
  obtain ⟨u, _, _, hdeps⟩ := exists_of_mem_dependencyGraph h
  rw [← hdeps]
  exact u.nodup_dependencies _

theorem nodup_neighbours_dependencyGraph (units : List UnitFacts) (id : String) :
    ((dependencyGraph units).neighbours id).Nodup := by
  unfold Graph.Adjacency.neighbours
  cases hget : Ordered.get? (dependencyGraph units) id with
  | none => exact List.nodup_nil
  | some deps => exact nodup_of_mem_dependencyGraph (Ordered.mem_of_get?_eq_some hget)

/-! ## The order of units -/

/-- As a map, the dependency graph does not depend on the order of the units. -/
theorem get?_dependencyGraph_perm (hperm : units.Perm units') (h : (units.map (·.id)).Nodup)
    (id : String) :
    Ordered.get? (dependencyGraph units) id = Ordered.get? (dependencyGraph units') id := by
  have hids : (units.map (·.id)).Perm (units'.map (·.id)) := hperm.map _
  have hdeps : ∀ u : UnitFacts, u.dependencies (some (units.map (·.id))) =
      u.dependencies (some (units'.map (·.id))) := fun u =>
    u.dependencies_congr fun _ => hids.mem_iff
  rw [dependencyGraph_of_nodup h, dependencyGraph_of_nodup (hids.nodup_iff.mp h)]
  simp only [hdeps]
  apply Ordered.get?_perm (hperm.map _)
  rw [names_pairs]
  exact h

/-- Counts do not depend on the order of the units. -/
theorem count_perm (hperm : units.Perm units') : count units = count units' := by
  unfold count
  rw [hperm.length_eq, (hperm.flatMap_right (·.functions)).length_eq,
    (hperm.flatMap_right (·.classes)).length_eq, (hperm.flatMap_right (·.imports)).length_eq,
    (hperm.flatMap_right (·.exports)).length_eq]

/-! ## Reading units -/

/-- Reading a unit keeps its id, whether it can be parsed or not. -/
theorem id_facts (loaded : List Grammar) (u : SourceUnit) : (u.facts loaded).id = u.id := by
  unfold SourceUnit.facts
  split
  · rename_i parsed hparsed
    obtain ⟨_, _, _, rfl⟩ := SourceUnit.parse_eq_ok_iff.mp hparsed
    rfl
  · rfl

/-- Units with distinct ids are all read. -/
theorem readUnits_of_nodup (loaded : List Grammar) {sources : List SourceUnit}
    (h : (sources.map (·.id)).Nodup) : readUnits loaded sources = sources.map (·.facts loaded) := by
  rw [readUnits, Ordered.firstBy_of_nodup h]

theorem ids_readUnits (loaded : List Grammar) {sources : List SourceUnit}
    (h : (sources.map (·.id)).Nodup) :
    (readUnits loaded sources).map (·.id) = sources.map (·.id) := by
  rw [readUnits_of_nodup loaded h, List.map_map]
  apply List.map_congr_left
  intro u _
  exact id_facts loaded u

end Project

end SourceFlow
