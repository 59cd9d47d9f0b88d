import SourceFlow.Proofs.Facts.Preorder
import SourceFlow.Proofs.Json.Reader
import SourceFlow.Report.Document

/-!
# Documents say everything

A report, the facts of a unit and the graph of a project are written as
JSON values from which every field can be told, and no object among these
values names a member twice. So their documents are read back, and two
with the same text have the same content.
-/

namespace SourceFlow

namespace JsonValue

/-! ## Distinct names -/

@[simp] theorem distinctNames_text (s : String) : (text s).DistinctNames := .text s

@[simp] theorem distinctNames_int (n : Int) : (int n).DistinctNames := .int n

@[simp] theorem distinctNames_bool (b : Bool) : (bool b).DistinctNames := .bool b

@[simp] theorem distinctNames_ofNat (n : Nat) : (ofNat n).DistinctNames := .int n

@[simp] theorem distinctNames_ofText? (s : Option String) : (ofText? s).DistinctNames := by
  cases s with
  | none => exact .null
  | some s => exact .text s

@[simp] theorem distinctNames_array (vs : List JsonValue) :
    (array vs).DistinctNames ↔ ∀ v ∈ vs, v.DistinctNames :=
  ⟨fun | .array h => h, .array⟩

/-- An object is fine if its names are distinct and its members are fine. -/
@[simp] theorem distinctNames_object (ms : List (String × JsonValue)) :
    (object ms).DistinctNames ↔
      (ms.map (·.1)).Nodup ∧ ∀ m ∈ ms, m.2.DistinctNames :=
  ⟨fun | .object hnames h => ⟨hnames, h⟩, fun h => .object h.1 h.2⟩

@[simp] theorem distinctNames_ofTexts (xs : List String) : (ofTexts xs).DistinctNames := by
  simp [ofTexts]

/-! ## Injectivity -/

@[simp] theorem ofNat_inj {m n : Nat} : ofNat m = ofNat n ↔ m = n := by
  rw [ofNat, ofNat, int.injEq, Int.ofNat_inj]

@[simp] theorem ofText?_inj {s t : Option String} : ofText? s = ofText? t ↔ s = t := by
  cases s <;> cases t <;> simp [ofText?]

@[simp] theorem ofTexts_inj {xs ys : List String} : ofTexts xs = ofTexts ys ↔ xs = ys := by
  have hmap : xs.map text = ys.map text ↔ xs = ys :=
    List.map_inj_right fun _ _ h => text.inj h
  simp [ofTexts, hmap]

/-- Arrays of values that tell their origins apart do so themselves. -/
theorem map_toJson_inj {α : Type} {toJson : α → JsonValue}
    (hinj : ∀ a b, toJson a = toJson b ↔ a = b) {as bs : List α} :
    as.map toJson = bs.map toJson ↔ as = bs :=
  List.map_inj_right fun a b h => (hinj a b).mp h

end JsonValue

open JsonValue

/-! ## Reports -/

namespace Outline

mutual

/-- The members of an outline have fixed names, and its children are outlines. -/
theorem distinctNames_toJson : ∀ o : Outline, o.toJson.DistinctNames
  | ⟨id, kind, label, level, sourcePath, children, isBackReference⟩ => by
    have hchildren := distinctNames_allToJson children
    simpa [toJson] using hchildren

theorem distinctNames_allToJson :
    ∀ (outlines : List Outline), ∀ v ∈ allToJson outlines, v.DistinctNames
  | [] => by simp [allToJson]
  | o :: rest => by
    have hrest := distinctNames_allToJson rest
    simpa [allToJson, distinctNames_toJson o] using hrest

end

mutual

/-- The JSON value of an outline tells the outline. -/
theorem toJson_inj : ∀ o o' : Outline, o.toJson = o'.toJson ↔ o = o'
  | ⟨id, kind, label, level, sourcePath, children, isBackReference⟩,
    ⟨id', kind', label', level', sourcePath', children', isBackReference'⟩ => by
    obtain ⟨kind⟩ := kind
    obtain ⟨kind'⟩ := kind'
    simp [toJson, allToJson_inj children children']

theorem allToJson_inj :
    ∀ outlines outlines' : List Outline,
      allToJson outlines = allToJson outlines' ↔ outlines = outlines'
  | [], [] => by simp
  | [], _ :: _ => by simp [allToJson]
  | _ :: _, [] => by simp [allToJson]
  | o :: rest, o' :: rest' => by
    simp [allToJson, toJson_inj o o', allToJson_inj rest rest']

end

end Outline

@[simp] theorem Issue.distinctNames_toJson (i : Issue) : i.toJson.DistinctNames := by
  simp [toJson]

theorem Issue.toJson_inj (i j : Issue) : i.toJson = j.toJson ↔ i = j := by
  obtain ⟨id, ⟨type⟩, ⟨severity⟩, message, affected, suggestions⟩ := i
  obtain ⟨id', ⟨type'⟩, ⟨severity'⟩, message', affected', suggestions'⟩ := j
  simp [toJson]

@[simp] theorem Statistics.distinctNames_toJson (s : Statistics) : s.toJson.DistinctNames := by
  simp [toJson]

@[simp] theorem Statistics.toJson_inj (s t : Statistics) : s.toJson = t.toJson ↔ s = t := by
  cases s
  cases t
  simp [toJson]

theorem Report.distinctNames_toJson (r : Report) : r.toJson.DistinctNames := by
  have hroots := Outline.distinctNames_allToJson r.roots
  simpa [toJson] using hroots

/-- A JSON value of a report tells everything in it but how its time is kept. -/
theorem Report.toJson_inj (r r' : Report) :
    r.toJson = r'.toJson ↔
      (r.roots, r.issues, r.statistics, r.text, r.filename, r.time.iso, r.diagram) =
        (r'.roots, r'.issues, r'.statistics, r'.text, r'.filename, r'.time.iso, r'.diagram) := by
  simp [toJson, Outline.allToJson_inj, map_toJson_inj Issue.toJson_inj]

/-! ## Facts -/

@[simp] theorem Position.distinctNames_toJson (p : Position) : p.toJson.DistinctNames := by
  simp [toJson]

@[simp] theorem Position.toJson_inj (p q : Position) : p.toJson = q.toJson ↔ p = q := by
  cases p
  cases q
  simp [toJson]

@[simp] theorem BindingForm.name_inj (f g : BindingForm) : f.name = g.name ↔ f = g := by
  cases f <;> cases g <;> simp [name]

@[simp] theorem Import.distinctNames_toJson (i : Import) : i.toJson.DistinctNames := by
  simp [toJson]

theorem Import.toJson_inj (i j : Import) : i.toJson = j.toJson ↔ i = j := by
  cases i
  cases j
  simp [toJson]

@[simp] theorem ExportForm.name_inj (f g : ExportForm) : f.name = g.name ↔ f = g := by
  cases f <;> cases g <;> simp [name]

@[simp] theorem Export.distinctNames_toJson (e : Export) : e.toJson.DistinctNames := by
  simp [toJson]

theorem Export.toJson_inj (e f : Export) : e.toJson = f.toJson ↔ e = f := by
  cases e
  cases f
  simp [toJson]

@[simp] theorem Parameter.distinctNames_toJson (p : Parameter) : p.toJson.DistinctNames := by
  simp [toJson]

theorem Parameter.toJson_inj (p q : Parameter) : p.toJson = q.toJson ↔ p = q := by
  cases p
  cases q
  simp [toJson]

@[simp] theorem Declaration.distinctNames_toJson (d : Declaration) : d.toJson.DistinctNames := by
  simp [toJson]

/-- A kind that its name tells: no known kind is given as another one. -/
def DeclarationKind.Told (k : DeclarationKind) : Prop :=
  k = .ofName k.name

/-- The JSON value of a declaration tells it if the name of its kind tells the kind. -/
theorem Declaration.toJson_inj {d e : Declaration} (hd : d.kind.Told) (he : e.kind.Told) :
    d.toJson = e.toJson ↔ d = e := by
  -- the kind is written by its name
  have hkind : d.kind.name = e.kind.name ↔ d.kind = e.kind := by
    refine ⟨?_, congrArg DeclarationKind.name⟩
    intro hname
    rw [hd, he, hname]
  cases d
  cases e
  simp [toJson, hkind, map_toJson_inj Parameter.toJson_inj]

/-- Rows of such declarations are told by their JSON values. -/
theorem Declaration.map_toJson_inj {ds es : List Declaration} (hds : ∀ d ∈ ds, d.kind.Told)
    (hes : ∀ e ∈ es, e.kind.Told) : ds.map toJson = es.map toJson ↔ ds = es := by
  induction ds generalizing es with
  | nil => cases es <;> simp
  | cons d ds ih =>
    cases es with
    | nil => simp
    | cons e es =>
      have hhead := toJson_inj (hds d List.mem_cons_self) (hes e List.mem_cons_self)
      have htail := ih (fun d hd => hds d (List.mem_cons_of_mem _ hd))
        (fun e he => hes e (List.mem_cons_of_mem _ he))
      simp [hhead, htail]

@[simp] theorem CallCategory.name_inj (c d : CallCategory) : c.name = d.name ↔ c = d := by
  cases c <;> cases d <;> simp [name]

@[simp] theorem RemoteCall.distinctNames_toJson (c : RemoteCall) : c.toJson.DistinctNames := by
  simp [toJson]

theorem RemoteCall.toJson_inj (c d : RemoteCall) : c.toJson = d.toJson ↔ c = d := by
  cases c
  cases d
  simp [toJson]

@[simp] theorem UnitMetadata.distinctNames_toJson (m : UnitMetadata) :
    m.toJson.DistinctNames := by
  simp [toJson]

@[simp] theorem UnitMetadata.toJson_inj (m n : UnitMetadata) : m.toJson = n.toJson ↔ m = n := by
  cases m
  cases n
  simp [toJson]

theorem UnitFacts.distinctNames_toJson (u : UnitFacts) : u.toJson.DistinctNames := by
  simp [toJson]

/-- The JSON value of facts tells them if the names of declaration kinds tell the kinds. -/
theorem UnitFacts.toJson_inj {u v : UnitFacts} (hu : ∀ d ∈ u.declarations, d.kind.Told)
    (hv : ∀ d ∈ v.declarations, d.kind.Told) : u.toJson = v.toJson ↔ u = v := by
  have hdeclarations := Declaration.map_toJson_inj hu hv
  cases u
  cases v
  simp [toJson, hdeclarations, map_toJson_inj Import.toJson_inj, map_toJson_inj Export.toJson_inj,
    map_toJson_inj RemoteCall.toJson_inj]

/-! ## Kinds of recorded declarations -/

namespace Facts

open Syntax (Node Source Cursor)

theorem told_functionDeclarations (src : Source) (c : Cursor) :
    ∀ d ∈ functionDeclarations src c, d.kind.Told := by
  intro d hd
  rw [functionDeclarations, Option.mem_toList, Option.map_eq_some_iff] at hd
  rcases hd with ⟨name, _, rfl⟩
  rfl

theorem told_variableDeclarations (src : Source) (c : Cursor) (name : String) (value : Node) :
    ∀ d ∈ variableDeclarations src c name value, d.kind.Told := by
  intro d hd
  unfold variableDeclarations at hd
  split at hd
  · rw [List.mem_singleton.mp hd]
    rfl
  · cases hd

/-- Of the kinds given to methods, all have names of their own. -/
theorem told_methodDeclarations (src : Source) (c : Cursor) :
    ∀ d ∈ methodDeclarations src c, d.kind.Told := by
  intro d hd
  unfold methodDeclarations at hd
  split at hd
  · cases hd
  · split at hd
    · rw [List.mem_singleton.mp hd]
      -- in a class body a method, elsewhere a function
      show DeclarationKind.Told (if _ then _ else _)
      split <;> rfl
    · cases hd

theorem told_classDeclarations (src : Source) (c : Cursor) :
    ∀ d ∈ classDeclarations src c, d.kind.Told := by
  intro d hd
  unfold classDeclarations at hd
  split at hd
  · cases hd
  · rw [List.mem_singleton.mp hd]
    rfl

/-- Every declaration found is of a kind that its name tells. -/
def Findings.Told (f : Findings) : Prop :=
  ∀ d ∈ f.declarations, d.kind.Told

/-- Whatever is found at a node, its declarations are of known kinds. -/
theorem told_of_contributes {src : Source} {c : Cursor} {guarded : Bool} {f : Findings}
    (h : Contributes src c guarded f) : f.Told := by
  cases h with
  | functionStatement _ => exact told_functionDeclarations src c
  | declarator _ _ _ => exact told_variableDeclarations src c _ _
  | methodDefinition _ => exact told_methodDeclarations src c
  | classStatement _ => exact told_classDeclarations src c
  -- the other nodes give no declarations
  | _ => exact List.forall_mem_nil _

/-- So are all declarations in a tree. -/
theorem told_findings (src : Source) (root : Node) :
    ∀ d ∈ (findings src root).declarations, d.kind.Told := by
  rw [gathered_eq_flatMap (·.declarations) rfl (fun _ _ => rfl)]
  intro d hd
  rcases List.mem_flatMap.mp hd with ⟨c, _, hd⟩
  exact told_of_contributes (contributes_contribution src c _) d hd

end Facts

/-- And those of a unit, which has none if it could not be parsed. -/
theorem SourceUnit.told_facts (loaded : List Grammar) (unit : SourceUnit) :
    ∀ d ∈ (unit.facts loaded).declarations, d.kind.Told := by
  unfold facts
  split
  · exact Facts.told_findings _ _
  · intro d hd
    cases hd

/-! ## Graphs -/

/-- Units with one id have one entry, so no name is in the graph twice. -/
theorem Project.distinctNames_graphJson (units : List UnitFacts) :
    (ofUnits units).graphJson.DistinctNames := by
  have hnames : (Ordered.names (dependencyGraph units)).Nodup := Ordered.nodup_names_ofPairs _
  have hgraph : (object ((dependencyGraph units).map fun e =>
      (e.1, ofTexts e.2))).DistinctNames := by
    refine .object ?_ ?_
    · simpa [Ordered.names, Function.comp_def] using hnames
    · intro m hm
      rcases List.mem_map.mp hm with ⟨e, _, rfl⟩
      exact distinctNames_ofTexts e.2
  have hcycles : (array ((ofUnits units).cycles.map ofTexts)).DistinctNames := by simp
  -- two members, the graph and the cycles
  refine .object (by simp [Ordered.names]) ?_
  intro m hm
  rcases List.mem_cons.mp hm with rfl | hm
  · exact hgraph
  · rw [List.mem_singleton.mp hm]
    exact hcycles

/-- The JSON value of a project tells its graph and its cycles. -/
theorem Project.graphJson_inj (p q : Project) :
    p.graphJson = q.graphJson ↔ (p.graph, p.cycles) = (q.graph, q.cycles) := by
  have hgraph : (p.graph.map fun e => (e.1, ofTexts e.2)) =
      (q.graph.map fun e => (e.1, ofTexts e.2)) ↔ p.graph = q.graph := by
    apply List.map_inj_right
    intro e f h
    simpa [Prod.ext_iff] using h
  have hcycles : p.cycles.map ofTexts = q.cycles.map ofTexts ↔ p.cycles = q.cycles :=
    map_toJson_inj fun _ _ => ofTexts_inj
  simp [graphJson, hgraph, hcycles]

/-! ## Documents -/

/-- Documents of things lose nothing: each is a JSON document and is read back, and it tells the
content of the thing. -/
structure JsonValue.Lossless {α β : Type} (toJson : α → JsonValue) (document : α → String)
    (content : α → β) : Prop where
  isDocument : ∀ a, IsDocument (toJson a) (document a)
  read_document : ∀ a, JsonValue.read (document a) = some (toJson a)
  document_inj : ∀ a b, document a = document b ↔ content a = content b

/-- Values without repeated names that tell a content have documents that tell it. -/
theorem JsonValue.lossless_of_inj {α β : Type} {toJson : α → JsonValue} {content : α → β}
    (hnames : ∀ a, (toJson a).DistinctNames)
    (hinj : ∀ a b, toJson a = toJson b ↔ content a = content b) (charset : Charset) :
    Lossless toJson (fun a => (toJson a).document charset ++ "\n") content := by
  have hdocument (a : α) : IsDocument (toJson a) ((toJson a).document charset ++ "\n") :=
    isDocument_document (hnames a) charset
  have hread (a : α) : JsonValue.read ((toJson a).document charset ++ "\n") = some (toJson a) :=
    read_of_isDocument (hdocument a)
  refine ⟨hdocument, hread, ?_⟩
  intro a b
  rw [← hinj a b]
  constructor
  · intro heq
    have hsome : some (toJson a) = some (toJson b) := by
      rw [← hread a, ← hread b, heq]
    exact Option.some.inj hsome
  · intro heq
    rw [heq]

/-- Reports, facts of units and graphs of projects are written without loss, the last two in ASCII
whatever characters they hold. -/
theorem documents_lossless :
    Lossless Report.toJson Report.jsonDocument
        (fun r => (r.roots, r.issues, r.statistics, r.text, r.filename, r.time.iso, r.diagram)) ∧
      (∀ loaded : List Grammar,
        Lossless (fun unit : SourceUnit => (unit.facts loaded).toJson)
          (fun unit => (unit.facts loaded).jsonDocument) (fun unit => unit.facts loaded)) ∧
      Lossless (fun units => (Project.ofUnits units).graphJson)
        (fun units => (Project.ofUnits units).graphDocument)
        (fun units => ((Project.ofUnits units).graph, (Project.ofUnits units).cycles)) ∧
      (∀ u : UnitFacts, Ascii u.jsonDocument.toList) ∧
      (∀ p : Project, Ascii p.graphDocument.toList) := by
  refine ⟨?_, ?_, ?_, fun u => ascii_document u.toJson, fun p => ascii_document p.graphJson⟩
  · exact lossless_of_inj Report.distinctNames_toJson Report.toJson_inj .unicode
  · intro loaded
    refine lossless_of_inj (fun unit => (unit.facts loaded).distinctNames_toJson) ?_ .ascii
    intro unit unit'
    exact UnitFacts.toJson_inj (unit.told_facts loaded) (unit'.told_facts loaded)
  · refine lossless_of_inj Project.distinctNames_graphJson ?_ .ascii
    intro units units'
    exact Project.graphJson_inj (Project.ofUnits units) (Project.ofUnits units')

end SourceFlow
