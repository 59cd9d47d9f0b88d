import SourceFlow.Facts.Extraction
import SourceFlow.Graph.Cycles
import SourceFlow.Project.Resolution

/-!
# Projects

The facts of all units of a project, brought together: which units depend
on which, how many things of each sort there are, and which units depend
on each other in a circle.
-/

namespace SourceFlow

/-- The references of a unit that lead to other units at load time, in order: its local imports that
are not deferred, then its local re-exports. -/
def UnitFacts.localReferences (u : UnitFacts) : List String :=
  (u.imports.filter fun i => !i.isExternal && !i.isDeferred).map (·.reference) ++
    (u.exports.filter (·.isReexport)).filterMap fun e =>
      e.origin.bind fun reference => if isExternalReference reference then none else some reference

/-- The units a unit depends on, each once, in the order of the references. -/
def UnitFacts.dependencies (u : UnitFacts) (known : Option (List String)) : List String :=
  (u.localReferences.map fun reference => Resolution.targetIn reference u.id known).eraseDups

structure ProjectCounts where
  units : Nat := 0
  functions : Nat := 0
  classes : Nat := 0
  imports : Nat := 0
  exports : Nat := 0
deriving DecidableEq, Repr

/-- A project. `graph` has one entry for each unit id. -/
structure Project where
  units : List UnitFacts
  graph : Graph.Adjacency
  counts : ProjectCounts
  cycles : List (List String)

namespace Project

def count (units : List UnitFacts) : ProjectCounts :=
  { units := units.length
    functions := (units.flatMap (·.functions)).length
    classes := (units.flatMap (·.classes)).length
    imports := (units.flatMap (·.imports)).length
    exports := (units.flatMap (·.exports)).length }

/-- The dependencies of each unit among all of them. An id given twice stands in its first place
with its last dependencies. -/
def dependencyGraph (units : List UnitFacts) : Graph.Adjacency :=
  -- every unit is resolved among all units, itself included
  Ordered.ofPairs (units.map fun u => (u.id, u.dependencies (some (units.map (·.id)))))

def ofUnits (units : List UnitFacts) : Project :=
  let graph := dependencyGraph units
  { units, graph, counts := count units, cycles := Graph.cycles (Ordered.names graph) graph }

def unit? (p : Project) (id : String) : Option UnitFacts :=
  p.units.find? (·.id == id)

/-- The facts of source units; of units with one id only the first is read. -/
def readUnits (loaded : List Grammar) (sources : List SourceUnit) : List UnitFacts :=
  (Ordered.firstBy (·.id) sources).map (·.facts loaded)

/-- The facts of raw units; of units with one id only the first is read. The first that cannot be
read ends it. -/
def readRaw (loaded : List Grammar) (units : List RawUnit) : Except Unencodable (List UnitFacts) :=
  (Ordered.firstBy (·.id) units).mapM (·.facts loaded)

end Project

end SourceFlow
