import SourceFlow.Source.Kind
import SourceFlow.Syntax.Diagnostics
import SourceFlow.Text.CodePoint

/-!
# Source units and parsed units

A source unit is a text with an id, its path within the project, and the
syntax tree that a parser found for it. A unit counts as parsed if it is
a script whose grammar is loaded; its tree is looked at only then.

A text that was read from a file is made of characters. One that a caller
hands over may hold surrogates; such a unit is raw.
-/

namespace SourceFlow

structure SourceUnit where
  id : String
  text : String
  tree : Syntax.Node

/-- One text of a project as a caller hands it over. -/
structure RawUnit where
  id : String
  text : List CodePoint
  tree : Syntax.Node

/-- A unit as a caller would hand it over. -/
def SourceUnit.raw (unit : SourceUnit) : RawUnit :=
  ⟨unit.id, CodePoint.ofText unit.text, unit.tree⟩

/-- A parser of scripts: the tree of a unit with an id and a text. What a parser does is not part of
this library. -/
abbrev Parser := (id text : String) → Syntax.Node

/-- The unit with the tree that a parser finds. -/
def SourceUnit.parsedBy (parser : Parser) (id text : String) : SourceUnit :=
  ⟨id, text, parser id text⟩

/-- No grammar is loaded for a unit. -/
structure UnsupportedLanguage where
  unit : String
  language : String
deriving DecidableEq, Repr

def UnsupportedLanguage.message (e : UnsupportedLanguage) : String :=
  "No grammar loaded for '" ++ e.language ++ "' (unit " ++ e.unit ++ ")"

/-- A unit read with a grammar. -/
structure ParsedUnit where
  id : String
  kind : ScriptKind
  root : Syntax.Node
  source : Syntax.Source
  diagnostics : List String

/-- The language named for a unit that is no script. -/
def unknownLanguage (id : String) : String :=
  let ext := Path.extension id
  if ext.isEmpty then "unknown" else ext

/-- The kind of the script with an id, which a loaded grammar has to read. -/
def ScriptKind.readable (loaded : List Grammar) (id : String) :
    Except UnsupportedLanguage ScriptKind :=
  match ofPath? id with
  | none => .error ⟨id, unknownLanguage id⟩
  -- for a script its grammar is named, for anything else its extension
  | some kind => if kind.isSupported loaded then .ok kind else .error ⟨id, kind.grammar.name⟩

/-- A unit is readable just if it is a script whose grammar is loaded. -/
theorem ScriptKind.readable_eq_ok_iff {loaded : List Grammar} {id : String} {kind : ScriptKind} :
    readable loaded id = .ok kind ↔ ofPath? id = some kind ∧ kind.isSupported loaded = true := by
  unfold readable
  cases ofPath? id with
  | none => exact ⟨nofun, nofun⟩
  | some found =>
    dsimp only
    split
    · rename_i hloaded
      constructor
      · intro h
        cases h
        exact ⟨rfl, hloaded⟩
      · rintro ⟨hfound, _⟩
        rw [Option.some.inj hfound]
    · rename_i hloaded
      constructor
      · nofun
      · rintro ⟨hfound, hkind⟩
        rw [Option.some.inj hfound] at hloaded
        exact absurd hkind hloaded

/-- A unit as a script of a kind. -/
def ParsedUnit.of (kind : ScriptKind) (unit : SourceUnit) : ParsedUnit :=
  let source := Syntax.Source.ofText unit.text
  ⟨unit.id, kind, unit.tree, source, Syntax.diagnostics source unit.tree⟩

def SourceUnit.parse (loaded : List Grammar) (unit : SourceUnit) :
    Except UnsupportedLanguage ParsedUnit :=
  (ScriptKind.readable loaded unit.id).map fun kind => .of kind unit

/-- A unit is read just if it is a script whose grammar is loaded, and then with its own tree. -/
theorem SourceUnit.parse_eq_ok_iff {loaded : List Grammar} {unit : SourceUnit} {p : ParsedUnit} :
    unit.parse loaded = .ok p ↔
      ∃ kind, ScriptKind.ofPath? unit.id = some kind ∧ kind.isSupported loaded = true ∧
        p = ⟨unit.id, kind, unit.tree, .ofText unit.text,
          Syntax.diagnostics (.ofText unit.text) unit.tree⟩ := by
  unfold parse
  cases hread : ScriptKind.readable loaded unit.id with
  | error cause =>
    constructor
    · nofun
    · rintro ⟨kind, hkind, hloaded, _⟩
      rw [ScriptKind.readable_eq_ok_iff.mpr ⟨hkind, hloaded⟩] at hread
      cases hread
  | ok kind =>
    obtain ⟨hkind, hloaded⟩ := ScriptKind.readable_eq_ok_iff.mp hread
    constructor
    · intro h
      exact ⟨kind, hkind, hloaded, (Except.ok.inj h).symm⟩
    · rintro ⟨other, hother, _, rfl⟩
      rw [hkind] at hother
      cases hother
      rfl

end SourceFlow
