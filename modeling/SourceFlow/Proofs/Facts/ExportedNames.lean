import SourceFlow.Proofs.Facts.Preorder

/-!
# Exports and exported declarations

Exports are read off export statements from above: the statement leads to
the declaration it exports, and the declaration to the names it introduces.
Whether a declaration is exported is read off from below, by looking for an
export statement over it. The two meet: a declaration that is marked as
exported is listed by name in an export.

A statement that exports a declaration is recorded once, unless all that
the declaration binds are patterns. Then no name is collected and the
export is lost.
-/

namespace SourceFlow

open Syntax (Node Source Cursor)

namespace Facts

/-! ## Exports of declarations -/

/-- Whether a node is a declaration: of a function, a class, an interface, a type or an enumeration,
or a statement with variables. -/
def declares (n : Node) : Bool :=
  namedDeclarationKinds.contains n.kind ||
    variableStatementKinds.contains n.kind && n.children.any (·.kind == "variable_declarator")

/-- The declaration that an export statement exports, where it lists no names and has no source. -/
def exportedDeclaration? (statement : Node) : Option Node :=
  if statement.kind == exportKind && (statement.childOfKind? "namespace_export").isNone &&
      (statement.childOfKind? "export_clause").isNone && (statement.field? "source").isNone then
    (statement.field? "declaration").filter declares
  else none

/-- Whether a declarator binds a plain name and not a pattern. -/
def bindsPlainly (declarator : Node) : Bool :=
  declarator.named && declarator.kind == "variable_declarator" &&
    (declarator.field? "name").any (·.kind == "identifier")

/-- Whether a declaration introduces a name: a variable statement does so by a declarator with a
plain name, any other declaration by itself. -/
def introducesName (declaration : Node) : Bool :=
  !variableStatementKinds.contains declaration.kind || declaration.children.any bindsPlainly

/-- The exports that a node contributes. -/
def exportsAt (src : Source) (n : Node) : List Export :=
  if n.kind = exportKind then statementExports src n else []

section Statement

variable {src : Source} {statement declaration : Node}

/-- When a statement exports a declaration, condition by condition. -/
theorem exportedDeclaration?_eq_some_iff :
    exportedDeclaration? statement = some declaration ↔
      (statement.kind = exportKind ∧ statement.childOfKind? "namespace_export" = none ∧
        statement.childOfKind? "export_clause" = none ∧ statement.field? "source" = none) ∧
      statement.field? "declaration" = some declaration ∧ declares declaration = true := by
  unfold exportedDeclaration?
  split
  · rename_i hplain
    simp only [Bool.and_eq_true, beq_iff_eq, Option.isNone_iff_eq_none, and_assoc] at hplain
    rw [Option.filter_eq_some_iff]
    exact ⟨fun h => ⟨hplain, h⟩, fun h => h.2⟩
  · rename_i hplain
    simp only [Bool.and_eq_true, beq_iff_eq, Option.isNone_iff_eq_none, and_assoc] at hplain
    exact ⟨nofun, fun h => absurd h.1 hplain⟩

/-- With nothing but a declaration in it, an export statement exports what the declaration does. -/
theorem exportsAt_of_declaration (h : exportedDeclaration? statement = some declaration) :
    exportsAt src statement = declarationExports src statement declaration := by
  obtain ⟨⟨hkind, hnamespace, hclause, hsource⟩, hdeclaration, _⟩ :=
    exportedDeclaration?_eq_some_iff.mp h
  have horigin : exportOrigin? src statement = none := by
    rw [exportOrigin?, hsource]
    rfl
  -- every case of the cascade before that of a declaration is ruled out
  simp only [exportsAt, if_pos hkind, statementExports, hnamespace, hclause, plainExports, horigin,
    ite_self, hdeclaration]

end Statement

/-! ## Names of declarations -/

/-- The export of a declaration, under all names that it introduces. -/
def exportOf (src : Source) (statement declaration : Node) : Export :=
  { form := if statement.hasToken "default" then .default else .named
    names := declaredNames src declaration
    isReexport := false
    position := src.positionOf statement }

section Names

variable {src : Source} {declaration : Node} {name : String}

/-- A declarator has a name of its own just if it does not bind a pattern. -/
theorem isSome_declaratorName? (src : Source) (declarator : Node) :
    (declaratorName? src declarator).isSome =
      (declarator.field? "name").any (·.kind == "identifier") := by
  unfold declaratorName?
  cases declarator.field? "name" with
  | none => rfl
  | some holder =>
    dsimp only [Option.any_some]
    split
    · rename_i hkind
      rw [hkind]
      rfl
    · rename_i hkind
      rw [Bool.eq_false_iff.mpr hkind]
      rfl

/-- No variable statement is a declaration with a name of its own. -/
theorem not_mem_namedDeclarationKinds {kind : String} (h : kind ∈ variableStatementKinds) :
    kind ∉ namedDeclarationKinds := by
  rcases List.mem_cons.mp h with rfl | h
  · decide
  · rw [List.mem_singleton.mp h]
    decide

/-- Functions, classes and types introduce one name. Those without a name go by the default one. -/
theorem declaredNames_of_named (h : declaration.kind ∈ namedDeclarationKinds) :
    declaredNames src declaration =
      [((declaration.field? "name").map src.textOf).getD defaultName] := by
  rw [declaredNames, if_pos (List.contains_iff_mem.mpr h)]

/-- A variable statement introduces the names of its declarators. -/
theorem mem_declaredNames_iff (h : declaration.kind ∈ variableStatementKinds) :
    name ∈ declaredNames src declaration ↔
      ∃ declarator ∈ declaration.children, declarator.named = true ∧
        declarator.kind = "variable_declarator" ∧ declaratorName? src declarator = some name := by
  have hnamed : ¬ namedDeclarationKinds.contains declaration.kind = true := by
    rw [List.contains_iff_mem]
    exact not_mem_namedDeclarationKinds h
  rw [declaredNames, if_neg hnamed, if_pos (List.contains_iff_mem.mpr h), List.mem_filterMap]
  simp only [Node.namedChildren, List.mem_filter, beq_iff_eq, and_assoc]

/-- The names of a declaration are collected just if it introduces one. -/
theorem declaredNames_ne_nil_iff (h : declares declaration = true) :
    declaredNames src declaration ≠ [] ↔ introducesName declaration = true := by
  by_cases hvariable : declaration.kind ∈ variableStatementKinds
  · -- a variable statement has just the names of its declarators
    have hcontains : variableStatementKinds.contains declaration.kind = true :=
      List.contains_iff_mem.mpr hvariable
    rw [introducesName, hcontains, Bool.not_true, Bool.false_or, List.any_eq_true]
    constructor
    · intro hnames
      rcases List.exists_mem_of_ne_nil _ hnames with ⟨name, hname⟩
      rcases (mem_declaredNames_iff hvariable).mp hname with
        ⟨declarator, hmem, hnamed, hkind, hbinds⟩
      refine ⟨declarator, hmem, ?_⟩
      rw [bindsPlainly, hnamed, hkind, ← isSome_declaratorName? src, hbinds]
      rfl
    · rintro ⟨declarator, hmem, hbinds⟩
      unfold bindsPlainly at hbinds
      rw [Bool.and_eq_true, Bool.and_eq_true, beq_iff_eq, ← isSome_declaratorName? src,
        Option.isSome_iff_exists] at hbinds
      rcases hbinds with ⟨⟨hnamed, hkind⟩, name, hname⟩
      exact List.ne_nil_of_mem ((mem_declaredNames_iff hvariable).mpr
        ⟨declarator, hmem, hnamed, hkind, hname⟩)
  · -- any other declaration has one name, its own or the default
    have hcontains : variableStatementKinds.contains declaration.kind = false := by
      rw [← Bool.not_eq_true, List.contains_iff_mem]
      exact hvariable
    have hnamed : declaration.kind ∈ namedDeclarationKinds := by
      rw [declares, hcontains, Bool.false_and, Bool.or_false] at h
      exact List.contains_iff_mem.mp h
    rw [declaredNames_of_named hnamed, introducesName, hcontains]
    exact ⟨fun _ => rfl, fun _ => List.cons_ne_nil _ _⟩

/-- A statement that exports a declaration is recorded once if the declaration introduces a name,
and not at all if it does not. -/
theorem exportsAt_eq {statement : Node} (h : exportedDeclaration? statement = some declaration) :
    exportsAt src statement =
      if introducesName declaration then [exportOf src statement declaration] else [] := by
  have hnames : declaredNames src declaration ≠ [] ↔ introducesName declaration = true :=
    declaredNames_ne_nil_iff (exportedDeclaration?_eq_some_iff.mp h).2.2
  rw [exportsAt_of_declaration h, declarationExports]
  split
  · rename_i hnone
    rw [if_neg (mt hnames.mpr (not_not_intro hnone))]
  · rename_i hsome
    rw [if_pos (hnames.mp hsome)]
    rfl

end Names

/-! ## Exports of a unit -/

/-- Of all nodes only export statements contribute exports. -/
theorem exports_ownFindings (src : Source) (c : Cursor) :
    (ownFindings src c).exports = exportsAt src c.node := by
  unfold exportsAt
  split
  · -- export statements come second in the cascade, and are no import statements
    rename_i hkind
    have hcontribution : ownFindings src c = { exports := statementExports src c.node } := by
      simp [ownFindings, contribution, hkind, exportKind]
    rw [hcontribution]
  · rename_i hkind
    have hsort := contributes_contribution src c (isHandledAt src c)
    rw [ownFindings]
    generalize contribution src c (isHandledAt src c) = found at hsort ⊢
    cases hsort with
    | exportStatement hexport => exact absurd hexport hkind
    | _ => rfl

/-- The exports of a unit are those of its nodes in pre-order. -/
theorem exports_facts (p : ParsedUnit) :
    p.facts.exports = p.root.preorder.flatMap (exportsAt p.source) := by
  have hnodes : (Cursor.root p.root).preorder.map (·.node) = p.root.preorder :=
    Cursor.map_node_preorder _
  calc p.facts.exports
      = (Cursor.root p.root).preorder.flatMap fun c => (ownFindings p.source c).exports :=
        gathered_eq_flatMap (·.exports) rfl (fun _ _ => rfl) p.source p.root
    _ = (Cursor.root p.root).preorder.flatMap fun c => exportsAt p.source c.node := by
        simp only [exports_ownFindings]
    _ = p.root.preorder.flatMap (exportsAt p.source) := by
        rw [← hnodes, List.flatMap_map]

/-- Where each element that counts gives at least one, there are at least as many given as counted.
-/
theorem countP_le_length_flatMap {α β : Type} {l : List α} {f : α → List β} {q : α → Bool}
    (h : ∀ x ∈ l, q x = true → f x ≠ []) : l.countP q ≤ (l.flatMap f).length := by
  induction l with
  | nil => exact Nat.zero_le _
  | cons x rest ih =>
    have hrest := ih fun y hy => h y (List.mem_cons_of_mem _ hy)
    rw [List.countP_cons, List.flatMap_cons, List.length_append]
    split
    · rename_i hx
      have hlength := List.length_pos_iff.mpr (h x List.mem_cons_self hx)
      omega
    · omega

end Facts

namespace ParsedUnit

open Facts

/-- The exports of a unit are those of its nodes in pre-order. A statement that exports a
declaration and nothing else contributes one export at its own position if the declaration
introduces a name, and none if it does not. So there are at least as many exports as statements of
the first sort. -/
theorem declared_exports_kept (p : ParsedUnit) :
    p.facts.exports = p.root.preorder.flatMap (exportsAt p.source) ∧
      (∀ n declaration, exportedDeclaration? n = some declaration →
        if introducesName declaration = true then
          ∃ e, exportsAt p.source n = [e] ∧ e.position = p.source.positionOf n ∧
            e.isReexport = false ∧ e.names = declaredNames p.source declaration
        else exportsAt p.source n = []) ∧
      p.root.preorder.countP (fun n => (exportedDeclaration? n).any introducesName) ≤
        p.facts.exports.length := by
  refine ⟨exports_facts p, ?_, ?_⟩
  · intro n declaration h
    rw [exportsAt_eq h]
    split
    · exact ⟨_, rfl, rfl, rfl, rfl⟩
    · rfl
  -- each such statement gives one export, so the exports are not fewer than the statements
  · rw [exports_facts]
    apply countP_le_length_flatMap
    intro n _ hn
    rcases (Option.any_eq_true _ _).mp hn with ⟨declaration, h, hname⟩
    rw [exportsAt_eq h, if_pos hname]
    exact List.cons_ne_nil _ _

/-- An export of variables, over a text that ends at `stop`. -/
def variableExport (stop : Nat) (declarators : List Node) : Node :=
  { kind := "export_statement", start := 0, stop, fields := [("declaration", 1)]
    children :=
      [{ kind := "export", start := 0, stop := 6, named := false },
       { kind := "lexical_declaration", start := 7, stop
         children := { kind := "const", start := 7, stop := 12, named := false } :: declarators }] }

/-- The declarator that binds the names of a pattern, as in `[p] = o`. -/
def patternDeclarator : Node :=
  { kind := "variable_declarator", start := 13, stop := 20, fields := [("name", 0), ("value", 2)]
    children :=
      [{ kind := "array_pattern", start := 13, stop := 16
         children :=
          [{ kind := "[", start := 13, stop := 14, named := false },
           { kind := "identifier", start := 14, stop := 15 },
           { kind := "]", start := 15, stop := 16, named := false }] },
       { kind := "=", start := 17, stop := 18, named := false },
       { kind := "identifier", start := 19, stop := 20 }] }

/-- The declarator that binds a plain name, as in `r = 1`. -/
def plainDeclarator : Node :=
  { kind := "variable_declarator", start := 22, stop := 27, fields := [("name", 0), ("value", 2)]
    children :=
      [{ kind := "identifier", start := 22, stop := 23 },
       { kind := "=", start := 24, stop := 25, named := false },
       { kind := "number", start := 26, stop := 27 }] }

def mixedExport : ParsedUnit :=
  { id := "a.ts", kind := .typescript, source := .ofText "export const [p] = o, r = 1"
    diagnostics := []
    root :=
      { kind := "program", start := 0, stop := 27
        children := [variableExport 27 [patternDeclarator, plainDeclarator]] } }

/-- Of a pattern and a plain name in one statement the plain name is exported. -/
theorem declared_exports_kept_mixedExport :
    ∃ n ∈ mixedExport.root.preorder, ∃ declaration, exportedDeclaration? n = some declaration ∧
      introducesName declaration = true ∧
      ∃ e, exportsAt mixedExport.source n = [e] ∧ e.names = ["r"] := by
  have hmem : variableExport 27 [patternDeclarator, plainDeclarator] ∈ mixedExport.root.preorder :=
    List.mem_of_getElem? (i := 1) rfl
  refine ⟨_, hmem, _, rfl, rfl, ?_⟩
  have hkept := (declared_exports_kept mixedExport).2.1 _ _
    (rfl : exportedDeclaration? (variableExport 27 [patternDeclarator, plainDeclarator]) = some _)
  obtain ⟨e, hexports, _, _, hnames⟩ := hkept
  refine ⟨e, hexports, ?_⟩
  rw [hnames]
  decide +kernel

def patternExport : ParsedUnit :=
  { id := "a.ts", kind := .typescript, source := .ofText "export const [p] = o", diagnostics := []
    root :=
      { kind := "program", start := 0, stop := 20
        children := [variableExport 20 [patternDeclarator]] } }

/-- The export of a pattern is lost: the unit has a statement that exports a declaration and no
export. -/
theorem pattern_export_lost :
    patternExport.root.preorder.countP (fun n => (exportedDeclaration? n).isSome) = 1 ∧
      patternExport.facts.exports = [] := by
  constructor
  · decide +kernel
  · decide +kernel

/-! ## Exported declarations -/

/-- A unit lists a name among its exports, and not as a re-export. -/
def Lists (p : ParsedUnit) (name : String) : Prop :=
  ∃ e ∈ p.facts.exports, e.isReexport = false ∧ name ∈ e.names

end ParsedUnit

namespace Facts

/-- A function, a class or variables directly below an export statement are the declaration that the
statement exports, and declarators are named. -/
def ExportsPlainly (root : Node) : Prop :=
  ∀ statement ∈ root.preorder, statement.kind = exportKind → ∀ child ∈ statement.children,
    (child.kind ∈ functionDeclarationKinds ∨ child.kind ∈ classDeclarationKinds →
      exportedDeclaration? statement = some child) ∧
    ∀ declarator ∈ child.children, declarator.kind = "variable_declarator" →
      exportedDeclaration? statement = some child ∧ child.kind ∈ variableStatementKinds ∧
        declarator.named = true

section Listed

variable {p : ParsedUnit} {c : Cursor}

/-- The names of a declaration that a statement exports are listed. -/
theorem lists_of_mem_declaredNames {statement declaration : Node} {name : String}
    (hstatement : statement ∈ p.root.preorder)
    (h : exportedDeclaration? statement = some declaration)
    (hname : name ∈ declaredNames p.source declaration) : p.Lists name := by
  have hintroduces : introducesName declaration = true :=
    (declaredNames_ne_nil_iff (exportedDeclaration?_eq_some_iff.mp h).2.2).mp
      (List.ne_nil_of_mem hname)
  refine ⟨exportOf p.source statement declaration, ?_, rfl, hname⟩
  rw [exports_facts, List.mem_flatMap]
  refine ⟨statement, hstatement, ?_⟩
  rw [exportsAt_eq h, if_pos hintroduces]
  exact List.mem_singleton_self _

/-- A function or a class directly below an export statement is listed under its name. -/
theorem lists_of_statement (hplain : ExportsPlainly p.root) (hc : c ∈ p.visited)
    (hunder : c.isUnder exportKind = true)
    (hkind : c.node.kind ∈ functionDeclarationKinds ∨ c.node.kind ∈ classDeclarationKinds)
    {name : Node} (hname : c.node.field? "name" = some name) : p.Lists (p.source.textOf name) := by
  obtain ⟨statement, hstatement, hexport, hchild⟩ := Cursor.exists_of_isUnder hc hunder
  have hdeclaration := (hplain statement hstatement hexport _ hchild).1 hkind
  have hnamed : c.node.kind ∈ namedDeclarationKinds :=
    List.mem_append_left _ (List.mem_append.mpr hkind)
  apply lists_of_mem_declaredNames hstatement hdeclaration
  rw [declaredNames_of_named hnamed, hname]
  exact List.mem_singleton_self _

/-- For a variable the export statement is looked for one level higher. -/
theorem lists_of_declarator (hplain : ExportsPlainly p.root) (hc : c ∈ p.visited)
    (hkind : c.node.kind = "variable_declarator") {name : String}
    (hname : declaratorName? p.source c.node = some name)
    (hunder : c.parent?.any (·.isUnder exportKind) = true) : p.Lists name := by
  obtain ⟨parent, hparent, hunder⟩ := (Option.any_eq_true _ _).mp hunder
  obtain ⟨hmem, hbelow⟩ := Cursor.parent_mem_preorder hc hparent
  have hdeclarator := (Cursor.lineage_of_mem_children hbelow).1
  obtain ⟨statement, hstatement, hexport, hchild⟩ := Cursor.exists_of_isUnder hmem hunder
  obtain ⟨hdeclaration, hvariable, hnamed⟩ :=
    (hplain statement hstatement hexport _ hchild).2 _ hdeclarator hkind
  apply lists_of_mem_declaredNames hstatement hdeclaration
  exact (mem_declaredNames_iff hvariable).mpr ⟨c.node, hdeclarator, hnamed, hkind, hname⟩

/-- What a node contributes as exported is listed. -/
theorem lists_of_contributes (hplain : ExportsPlainly p.root) (hc : c ∈ p.visited) {guarded : Bool}
    {f : Findings} (h : Contributes p.source c guarded f) {d : Declaration}
    (hd : d ∈ f.declarations) (hexported : d.isExported = true) : p.Lists d.name := by
  -- only four sorts of nodes declare something
  cases h with
  | functionStatement hkind =>
    rcases Option.map_eq_some_iff.mp (Option.mem_toList.mp hd) with ⟨name, hname, rfl⟩
    exact lists_of_statement hplain hc hexported (.inl hkind) hname
  | declarator hkind hname hvalue =>
    unfold variableDeclarations at hd
    split at hd
    · rw [List.mem_singleton.mp hd] at hexported ⊢
      exact lists_of_declarator hplain hc hkind hname hexported
    · cases hd
  | methodDefinition hkind =>
    -- methods are never exported
    unfold methodDeclarations at hd
    split at hd
    · cases hd
    · split at hd
      · rw [List.mem_singleton.mp hd] at hexported
        cases hexported
      · cases hd
  | classStatement hkind =>
    unfold classDeclarations at hd
    split at hd
    · cases hd
    · rename_i name hname
      rw [List.mem_singleton.mp hd] at hexported ⊢
      exact lists_of_statement hplain hc hexported (.inr hkind) hname
  | _ => exact absurd hd List.not_mem_nil

/-- So are the declarations of a unit that are marked as exported. -/
theorem lists_of_isExported (hplain : ExportsPlainly p.root) :
    ∀ d ∈ p.facts.declarations, d.isExported = true → p.Lists d.name := by
  intro d hd hexported
  have hgathered := gathered_eq_flatMap (·.declarations) rfl (fun _ _ => rfl) p.source p.root
  rw [ParsedUnit.facts, hgathered] at hd
  rcases List.mem_flatMap.mp hd with ⟨c, hc, hd⟩
  exact lists_of_contributes hplain hc (contributes_contribution _ _ _) hd hexported

end Listed

end Facts

namespace SourceUnit

open Facts

/-- Where export statements are plain, every declaration that is marked as exported is listed in an
export of the unit that is no re-export. -/
theorem exported_declarations_listed (loaded : List Grammar) (unit : SourceUnit)
    (hplain : ExportsPlainly unit.tree) :
    ∀ d ∈ (unit.facts loaded).declarations, d.isExported = true →
      ∃ e ∈ (unit.facts loaded).exports, e.isReexport = false ∧ d.name ∈ e.names := by
  unfold facts
  split
  · rename_i hparse
    obtain ⟨_, _, _, rfl⟩ := parse_eq_ok_iff.mp hparse
    exact lists_of_isExported hplain
  -- of a unit that is not parsed nothing is declared
  · exact List.forall_mem_nil _

/-- The declarator of `f = x => x`. -/
def arrowDeclarator : Node :=
  { kind := "variable_declarator", start := 13, stop := 23, fields := [("name", 0), ("value", 2)]
    children :=
      [{ kind := "identifier", start := 13, stop := 14 },
       { kind := "=", start := 15, stop := 16, named := false },
       { kind := "arrow_function", start := 17, stop := 23
         fields := [("parameter", 0), ("body", 2)]
         children :=
          [{ kind := "identifier", start := 17, stop := 18 },
           { kind := "=>", start := 19, stop := 21, named := false },
           { kind := "identifier", start := 22, stop := 23 }] }] }

/-- A unit that exports a function held by a variable. -/
def arrowExport : SourceUnit :=
  { id := "a.ts", text := "export const f = x => x"
    tree :=
      { kind := "program", start := 0, stop := 23
        children := [ParsedUnit.variableExport 23 [arrowDeclarator]] } }

theorem exported_declarations_listed_arrowExport :
    ExportsPlainly arrowExport.tree ∧
      ∃ d ∈ (arrowExport.facts [.typescript]).declarations, d.isExported = true ∧ d.name = "f" ∧
        ∃ e ∈ (arrowExport.facts [.typescript]).exports, e.isReexport = false ∧ "f" ∈ e.names := by
  have hplain : ExportsPlainly arrowExport.tree := by
    intro statement hstatement hkind child hchild
    -- there is one export statement; of its children the keyword declares nothing
    have hstatements : arrowExport.tree.preorder.filter (·.kind == exportKind) =
        [ParsedUnit.variableExport 23 [arrowDeclarator]] := rfl
    have hmem : statement ∈ arrowExport.tree.preorder.filter (·.kind == exportKind) :=
      List.mem_filter.mpr ⟨hstatement, beq_iff_eq.mpr hkind⟩
    rw [hstatements, List.mem_singleton] at hmem
    subst hmem
    rcases List.mem_cons.mp hchild with rfl | hchild
    · exact ⟨fun hdeclares => absurd hdeclares (by decide), List.forall_mem_nil _⟩
    · rw [List.mem_singleton.mp hchild]
      refine ⟨fun hdeclares => absurd hdeclares (by decide), ?_⟩
      intro declarator hdeclarator hkind
      rcases List.mem_cons.mp hdeclarator with rfl | hdeclarator
      · exact absurd hkind (by decide)
      · rw [List.mem_singleton.mp hdeclarator]
        exact ⟨rfl, by decide, rfl⟩
  have hfound : ((arrowExport.facts [.typescript]).declarations.any fun d =>
      d.isExported && d.name == "f") = true := by decide +kernel
  rcases List.any_eq_true.mp hfound with ⟨d, hd, hexported⟩
  rw [Bool.and_eq_true, beq_iff_eq] at hexported
  refine ⟨hplain, d, hd, hexported.1, hexported.2, ?_⟩
  rw [← hexported.2]
  exact exported_declarations_listed [.typescript] arrowExport hplain d hd hexported.1

end SourceUnit

end SourceFlow
