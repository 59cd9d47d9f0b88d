import SourceFlow.Proofs.Facts.CallOrder

/-!
# Recorded facts fit together

The fields of a recorded import, export, declaration or call depend on each
other: a deferred import binds no names, a re-export has an origin, a class
has no return type. Each of these relations is stated with its record. The
records are made in many places, one for each form of statement, and the
relations are shown place by place. They hold of the facts of every unit,
whatever its tree is.
-/

namespace SourceFlow

open Syntax (Node Source Cursor)

/-! ## Relations between fields -/

/-- What holds between the fields of an import. -/
structure Import.Consistent (i : Import) : Prop where
  external : i.isExternal = false ↔ ∃ rest, i.reference.toList = '.' :: rest ∨
    i.reference.toList = '/' :: rest
  deferred : i.isDeferred = true → i.form = .default ∧ i.names = []
  effect : i.form = .effect → i.names = []
  single : i.form = .default ∨ i.form = .star → i.names.length ≤ 1

/-- What holds between the fields of an export. -/
structure Export.Consistent (e : Export) : Prop where
  reexport : e.isReexport = true ↔ e.origin.isSome = true
  everything : e.form = .everything → e.isReexport = true ∧ e.names = []
  byDefault : e.form = .default → e.names ≠ [] ∧ e.isReexport = false

/-- What holds between the fields of a declaration. -/
structure Declaration.Consistent (d : Declaration) : Prop where
  classType : d.kind = .classType → d.isAsync = false ∧ d.parameters = [] ∧ d.returnType = ""
  callable : d.kind = .function ∨ d.kind = .method →
    d.returnType ≠ "" ∧ d.superClass = none ∧ d.interfaces = []
  method : d.kind = .method → d.isExported = false
  optional : ∀ p ∈ d.parameters, p.defaultText.isSome = true → p.isOptional = true

/-- What holds between the fields of a call. -/
structure RemoteCall.Consistent (call : RemoteCall) : Prop where
  http : call.category = .http → call.library = "fetch" ∨ call.library = "axios"
  dataAccess : call.category = .dataAccess → call.library = "prisma"

/-- What holds between the facts of a unit. -/
structure UnitFacts.Consistent (u : UnitFacts) : Prop where
  imports : ∀ i ∈ u.imports, i.Consistent
  exports : ∀ e ∈ u.exports, e.Consistent
  declarations : ∀ d ∈ u.declarations, d.Consistent
  calls : ∀ call ∈ u.calls, call.Consistent
  errors : u.metadata.hasErrors = true ↔ u.errors ≠ []

namespace Facts

variable {src : Source}

/-! ## Imports -/

/-- A reference is internal just if it begins with a dot or a slash. -/
theorem isExternalReference_eq_false_iff (reference : String) :
    isExternalReference reference = false ↔
      ∃ rest, reference.toList = '.' :: rest ∨ reference.toList = '/' :: rest := by
  rw [isExternalReference, Bool.not_eq_false', Bool.or_eq_true, Text.startsWith_iff,
    Text.startsWith_iff, exists_or]
  exact Iff.rfl

/-- The names that a form of import may bind. -/
def Admits (form : BindingForm) (names : List String) : Prop :=
  match form with
  | .default | .star => names.length ≤ 1
  | .effect => names = []
  | .named => True

/-- At most one name is bound by an identifier that may be missing. -/
theorem admits_boundName (identifier? : Option Node) :
    (boundName src identifier?).length ≤ 1 := by
  unfold boundName
  cases identifier? with
  | none => exact Nat.zero_le 1
  | some identifier => exact Nat.le_refl 1

/-- An import fits together if its form may bind its names and it is deferred only without names. -/
theorem consistent_importAt {n : Node} {reference : String} {form : BindingForm}
    {names : List String} {isDeferred : Bool} (hnames : Admits form names)
    (hdeferred : isDeferred = true → form = .default ∧ names = []) :
    (importAt src n reference form names isDeferred).Consistent where
  external := isExternalReference_eq_false_iff reference
  deferred := hdeferred
  -- both are read off what the form admits
  effect := by
    rintro rfl
    exact hnames
  single := by
    rintro (rfl | rfl)
    · exact hnames
    · exact hnames

/-- A part of an import clause is a namespace with at most one name, or a list of names. -/
theorem admits_clausePart? {part : Node} {b : BindingForm × List String}
    (h : clausePart? src part = some b) : Admits b.1 b.2 := by
  unfold clausePart? at h
  split at h
  · obtain rfl := Option.some.inj h
    exact admits_boundName _
  · split at h
    · obtain rfl := Option.some.inj h
      trivial
    · cases h

/-- Whatever an import statement binds, its form admits. -/
theorem admits_bindings (statement : Node) : ∀ b ∈ bindings src statement, Admits b.1 b.2 := by
  intro b hb
  unfold bindings at hb
  split at hb
  · rw [List.mem_singleton.mp hb]
    rfl
  · rcases List.mem_append.mp hb with hb | hb
    · rcases Option.map_eq_some_iff.mp (Option.mem_toList.mp hb) with ⟨identifier, _, rfl⟩
      exact Nat.le_refl 1
    · rcases List.mem_filterMap.mp hb with ⟨part, _, hpart⟩
      exact admits_clausePart? hpart

theorem consistent_requireImports (statement clause : Node) :
    ∀ i ∈ requireImports src statement clause, i.Consistent := by
  intro i hi
  rcases Option.map_eq_some_iff.mp (Option.mem_toList.mp hi) with ⟨reference, _, rfl⟩
  exact consistent_importAt (admits_boundName _) nofun

/-- All imports of a statement fit together, with or without a source of its own. -/
theorem consistent_statementImports (statement : Node) :
    ∀ i ∈ statementImports src statement, i.Consistent := by
  intro i hi
  unfold statementImports at hi
  split at hi
  · -- `import x = require(…)`, which has no source of its own
    exact consistent_requireImports statement _ i hi
  · cases hi
  · split at hi
    · cases hi
    · rcases List.mem_map.mp hi with ⟨b, hb, rfl⟩
      exact consistent_importAt (admits_bindings statement b hb) nofun

/-- A deferred import is recorded as a default import without names. -/
theorem consistent_deferredImports (call : Node) :
    ∀ i ∈ deferredImports src call, i.Consistent := by
  intro i hi
  rcases Option.map_eq_some_iff.mp (Option.mem_toList.mp hi) with ⟨reference, _, rfl⟩
  exact consistent_importAt (Nat.zero_le 1) fun _ => ⟨rfl, rfl⟩

/-! ## Exports -/

section Exports

variable (statement clause declaration : Node)

theorem consistent_namespaceExports :
    ∀ e ∈ namespaceExports src statement clause, e.Consistent := by
  intro e he
  unfold namespaceExports at he
  split at he
  · rw [List.mem_singleton.mp he]
    exact ⟨⟨fun _ => rfl, fun _ => rfl⟩, nofun, nofun⟩
  · cases he

theorem consistent_clauseExport : (clauseExport src statement clause).Consistent :=
  ⟨Iff.rfl, nofun, nofun⟩

theorem consistent_everythingExport (origin : String) :
    (everythingExport src statement origin).Consistent :=
  ⟨⟨fun _ => rfl, fun _ => rfl⟩, fun _ => ⟨rfl, rfl⟩, nofun⟩

/-- An export of declarations is recorded only if there are names. -/
theorem consistent_declarationExports :
    ∀ e ∈ declarationExports src statement declaration, e.Consistent := by
  intro e he
  unfold declarationExports at he
  split at he
  · cases he
  · rename_i hnames
    rw [List.mem_singleton.mp he]
    refine ⟨⟨nofun, nofun⟩, ?_, fun _ => ⟨hnames, rfl⟩⟩
    -- the form is one of two, and neither is that of a re-export of everything
    dsimp only
    split <;> nofun

theorem consistent_valueExport : (valueExport src statement).Consistent :=
  ⟨⟨nofun, nofun⟩, nofun, fun _ => ⟨List.cons_ne_nil _ _, rfl⟩⟩

theorem consistent_plainExports : ∀ e ∈ plainExports src statement, e.Consistent := by
  intro e he
  -- everything, a declaration or a value; anything else exports nothing
  unfold plainExports at he
  split at he
  · rw [List.mem_singleton.mp he]
    exact consistent_everythingExport statement _
  · split at he
    · exact consistent_declarationExports statement _ e he
    · split at he
      · rw [List.mem_singleton.mp he]
        exact consistent_valueExport statement
      · cases he

/-- All exports of a statement fit together, whichever of its forms it has. -/
theorem consistent_statementExports : ∀ e ∈ statementExports src statement, e.Consistent := by
  intro e he
  unfold statementExports at he
  split at he
  · exact consistent_namespaceExports statement _ e he
  · split at he
    · rw [List.mem_singleton.mp he]
      exact consistent_clauseExport statement _
    · exact consistent_plainExports statement e he

end Exports

/-! ## Declarations -/

/-- An annotation that is nothing but a colon and blanks is taken as none. -/
theorem annotation?_ne_empty {n : Node} {text : String} (h : src.annotation? n = some text) :
    text ≠ "" := by
  have hkept : ∀ cs : List Char,
      (if cs.isEmpty then none else some (String.ofList cs)) = some text → text ≠ "" := by
    rintro cs hcs rfl
    split at hcs
    · cases hcs
    · rename_i hleft
      have hnone := congrArg String.toList (Option.some.inj hcs)
      rw [String.toList_ofList] at hnone
      exact hleft (List.isEmpty_iff.mpr hnone)
  exact hkept _ h

/-- A parameter with a default is optional. -/
theorem optional_parameterOf (n : Node) (h : (parameterOf src n).defaultText.isSome = true) :
    (parameterOf src n).isOptional = true := by
  unfold parameterOf at h ⊢
  split
  · -- a typed parameter is optional by its kind or by its value
    rename_i hkind
    rw [if_pos hkind, Option.isSome_map] at h
    exact Bool.or_eq_true_iff.mpr (.inr h)
  · rename_i hkind
    rw [if_neg hkind] at h
    split
    · rfl
    · rename_i hpattern
      rw [if_neg hpattern] at h
      cases h

theorem optional_parametersOf (function : Node) :
    ∀ p ∈ parametersOf src function, p.defaultText.isSome = true → p.isOptional = true := by
  intro p hp
  unfold parametersOf at hp
  split at hp
  · rw [List.mem_singleton.mp hp]
    nofun
  · split at hp
    · rcases List.mem_map.mp hp with ⟨n, _, rfl⟩
      exact optional_parameterOf n
    · cases hp

/-- A function or method that is recorded as such fits together; a method must not be exported. -/
theorem consistent_callable {function place : Node} {anchor : Cursor} {name : String}
    {kind : DeclarationKind} {isExported : Bool} (hclass : kind ≠ .classType)
    (hmethod : kind = .method → isExported = false) :
    (callable src function place anchor name kind isExported).Consistent where
  classType := fun h => absurd h hclass
  callable := by
    intro _
    refine ⟨?_, rfl, rfl⟩
    -- without an annotation the return type is `void`, and an annotation is never empty
    show ((function.field? "return_type").bind src.annotation?).getD "void" ≠ ""
    cases hread : (function.field? "return_type").bind src.annotation? with
    | none => decide
    | some text =>
      rcases Option.bind_eq_some_iff.mp hread with ⟨n, _, htext⟩
      exact annotation?_ne_empty htext
  method := hmethod
  optional := optional_parametersOf function

theorem consistent_functionDeclarations (c : Cursor) :
    ∀ d ∈ functionDeclarations src c, d.Consistent := by
  intro d hd
  rcases Option.map_eq_some_iff.mp (Option.mem_toList.mp hd) with ⟨name, _, rfl⟩
  exact consistent_callable nofun nofun

theorem consistent_variableDeclarations (c : Cursor) (name : String) (value : Node) :
    ∀ d ∈ variableDeclarations src c name value, d.Consistent := by
  intro d hd
  unfold variableDeclarations at hd
  split at hd
  · rw [List.mem_singleton.mp hd]
    exact consistent_callable nofun nofun
  · cases hd

/-- Methods are never exported, and outside of a class body they count as functions. -/
theorem consistent_methodDeclarations (c : Cursor) :
    ∀ d ∈ methodDeclarations src c, d.Consistent := by
  intro d hd
  unfold methodDeclarations at hd
  split at hd
  · cases hd
  · split at hd
    · rw [List.mem_singleton.mp hd]
      refine consistent_callable ?_ fun _ => rfl
      -- in a class body or not, it is no class
      split <;> nofun
    · cases hd

/-- A class has no parameters and no return type. -/
theorem consistent_classDeclarations (c : Cursor) :
    ∀ d ∈ classDeclarations src c, d.Consistent := by
  intro d hd
  unfold classDeclarations at hd
  split at hd
  · cases hd
  · rw [List.mem_singleton.mp hd]
    -- a class has a kind of its own, so only the first relation says something
    exact ⟨fun _ => ⟨rfl, rfl, rfl⟩, nofun, nofun, List.forall_mem_nil _⟩

/-! ## Calls -/

/-- Each rule of recognition names the library that goes with its category. -/
theorem consistent_of_recognises {p : ParsedUnit} {c : Cursor} {route : Route} {call : RemoteCall}
    (h : Recognises p c route call) : call.Consistent := by
  cases h with
  | fetch _ => exact ⟨fun _ => .inl rfl, nofun⟩
  | client _ _ => exact ⟨fun _ => .inr rfl, nofun⟩
  | model _ => exact ⟨nofun, fun _ => rfl⟩
  | onVariable _ _ _ => exact ⟨fun _ => .inr rfl, nofun⟩

/-! ## Contributions -/

/-- Findings of a unit that are recorded as they are fit together. -/
structure Findings.Consistent (f : Findings) : Prop where
  imports : ∀ i ∈ f.imports, i.Consistent
  exports : ∀ e ∈ f.exports, e.Consistent
  declarations : ∀ d ∈ f.declarations, d.Consistent

/-- Whatever a node contributes fits together. -/
theorem consistent_of_contributes {c : Cursor} {guarded : Bool} {f : Findings}
    (h : Contributes src c guarded f) : f.Consistent := by
  cases h with
  | importStatement _ =>
    exact ⟨consistent_statementImports c.node, List.forall_mem_nil _, List.forall_mem_nil _⟩
  | deferredImport _ _ =>
    exact ⟨consistent_deferredImports c.node, List.forall_mem_nil _, List.forall_mem_nil _⟩
  | exportStatement _ =>
    exact ⟨List.forall_mem_nil _, consistent_statementExports c.node, List.forall_mem_nil _⟩
  | functionStatement _ =>
    exact ⟨List.forall_mem_nil _, List.forall_mem_nil _, consistent_functionDeclarations c⟩
  | declarator _ _ _ =>
    exact ⟨List.forall_mem_nil _, List.forall_mem_nil _, consistent_variableDeclarations c _ _⟩
  | methodDefinition _ =>
    exact ⟨List.forall_mem_nil _, List.forall_mem_nil _, consistent_methodDeclarations c⟩
  | classStatement _ =>
    exact ⟨List.forall_mem_nil _, List.forall_mem_nil _, consistent_classDeclarations c⟩
  | remoteCall | variableCall | assignment | marks =>
    -- calls are shown to fit together where it is known which variables hold clients
    exact ⟨List.forall_mem_nil _, List.forall_mem_nil _, List.forall_mem_nil _⟩

/-- What fits together in two parts of a tree does so in both together. -/
theorem Findings.Consistent.append {f g : Findings} (hf : f.Consistent) (hg : g.Consistent) :
    (f ++ g).Consistent where
  imports := List.forall_mem_append.mpr ⟨hf.imports, hg.imports⟩
  exports := List.forall_mem_append.mpr ⟨hf.exports, hg.exports⟩
  declarations := List.forall_mem_append.mpr ⟨hf.declarations, hg.declarations⟩

/-- So all that is gathered in a tree fits together. -/
theorem consistent_findings (src : Source) (root : Node) : (findings src root).Consistent := by
  apply findings_induction
  · exact ⟨List.forall_mem_nil _, List.forall_mem_nil _, List.forall_mem_nil _⟩
  · intro f g hf hg
    exact hf.append hg
  · intro c
    exact consistent_of_contributes (contributes_contribution src c _)

end Facts

/-! ## Facts of a unit -/

open Facts

/-- The facts of a unit that is read fit together. -/
theorem ParsedUnit.consistent_facts (p : ParsedUnit) : p.facts.Consistent where
  imports := (consistent_findings p.source p.root).imports
  exports := (consistent_findings p.source p.root).exports
  declarations := (consistent_findings p.source p.root).declarations
  calls := by
    intro call hcall
    -- sorting the calls changes none of them
    have hrecorded : call ∈ p.recordedSites.map (·.call) := by
      rw [map_call_recordedSites]
      exact List.mem_mergeSort.mp hcall
    rcases List.mem_map.mp hrecorded with ⟨site, hsite, rfl⟩
    exact consistent_of_recognises (mem_recordedSites.mp hsite).recognises
  errors := by
    show (!p.diagnostics.isEmpty) = true ↔ p.diagnostics ≠ []
    rw [Bool.not_eq_true', List.isEmpty_eq_false_iff]

/-- The facts of every unit fit together, whatever its tree and whichever grammars are loaded. -/
theorem SourceUnit.facts_consistent (loaded : List Grammar) (unit : SourceUnit) :
    (unit.facts loaded).Consistent := by
  unfold facts
  split
  · exact ParsedUnit.consistent_facts _
  · -- of a unit that is not read there is only the error
    refine ⟨List.forall_mem_nil _, List.forall_mem_nil _, List.forall_mem_nil _,
      List.forall_mem_nil _, ?_⟩
    exact ⟨fun _ => List.cons_ne_nil _ _, fun _ => rfl⟩

end SourceFlow
