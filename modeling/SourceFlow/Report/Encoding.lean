import SourceFlow.Json.Basic
import SourceFlow.Report.Basic

/-!
# Reports and facts as JSON values
-/

namespace SourceFlow

/-! ## Reports -/

namespace Outline

mutual

/-- An outline as a JSON value. -/
def toJson : Outline → JsonValue
  | ⟨id, kind, label, level, sourcePath, children, isBackReference⟩ =>
    .object
      [("node_id", .text id), ("kind", .text kind.name), ("label", .text label),
       ("depth_level", .int level), ("source_path", .ofText? sourcePath),
       ("children", .array (allToJson children)), ("is_back_reference", .bool isBackReference)]

def allToJson : List Outline → List JsonValue
  | [] => []
  | o :: rest => o.toJson :: allToJson rest

end

end Outline

def Issue.toJson (i : Issue) : JsonValue :=
  .object
    [("issue_id", .text i.id), ("issue_type", .text i.type.name),
     ("severity", .text i.severity.name), ("message", .text i.message),
     ("affected_nodes", .ofTexts i.affected),
     ("suggestions", .ofTexts i.suggestions)]

def Statistics.toJson (s : Statistics) : JsonValue :=
  .object
    [("total_files", .int s.files), ("total_functions", .int s.functions),
     ("total_endpoints", .int s.endpoints), ("total_nodes", .int s.nodes),
     ("total_edges", .int s.edges), ("max_depth", .int s.maxDepth),
     ("circular_dependencies", .int s.cycles)]

def Report.toJson (r : Report) : JsonValue :=
  .object
    [("tree_roots", .array (Outline.allToJson r.roots)),
     ("issues", .array (r.issues.map (·.toJson))),
     ("statistics", r.statistics.toJson), ("rendered_text", .text r.text),
     ("filename", .text r.filename), ("generated_at", .text r.time.iso),
     ("diagram_text", .ofText? r.diagram)]

/-! ## Facts -/

def Position.toJson (p : Position) : JsonValue :=
  .object
    [("line", .ofNat p.line), ("column", .ofNat p.column), ("end_line", .ofNat p.endLine),
     ("end_column", .ofNat p.endColumn)]

def Import.toJson (i : Import) : JsonValue :=
  .object
    [("module_ref", .text i.reference), ("binding_form", .text i.form.name),
     ("binding_names", .ofTexts i.names), ("is_external", .bool i.isExternal),
     ("is_deferred", .bool i.isDeferred), ("position", i.position.toJson)]

def Export.toJson (e : Export) : JsonValue :=
  .object
    [("form", .text e.form.name), ("names", .ofTexts e.names), ("is_reexport", .bool e.isReexport),
     ("position", e.position.toJson), ("source_module_ref", .ofText? e.origin)]

def Parameter.toJson (p : Parameter) : JsonValue :=
  .object
    [("name", .text p.name), ("type_text", .text p.typeText), ("is_optional", .bool p.isOptional),
     ("default_value_text", .ofText? p.defaultText)]

def Declaration.toJson (d : Declaration) : JsonValue :=
  .object
    [("name", .text d.name), ("kind", .text d.kind.name), ("position", d.position.toJson),
     ("is_async", .bool d.isAsync), ("is_exported", .bool d.isExported),
     ("is_generic", .bool d.isGeneric), ("parameters", .array (d.parameters.map (·.toJson))),
     ("return_type_text", .text d.returnType), ("doc_text", .ofText? d.doc),
     ("super_class", .ofText? d.superClass), ("interfaces", .ofTexts d.interfaces)]

def RemoteCall.toJson (c : RemoteCall) : JsonValue :=
  .object
    [("category", .text c.category.name), ("library", .text c.library),
     ("position", c.position.toJson), ("has_surrounding_failure_handling", .bool c.isGuarded),
     ("verb", .ofText? c.verb), ("target", .ofText? c.target)]

def UnitMetadata.toJson (m : UnitMetadata) : JsonValue :=
  .object
    [("file_kind", .text m.kindName), ("has_jsx", .bool m.hasJsx),
     ("has_async_code", .bool m.hasAsync), ("has_parsing_errors", .bool m.hasErrors),
     ("line_count", .ofNat m.lineCount), ("character_count", .ofNat m.characterCount)]

def UnitFacts.toJson (u : UnitFacts) : JsonValue :=
  .object
    [("unit_id", .text u.id), ("metadata", u.metadata.toJson),
     ("imports", .array (u.imports.map (·.toJson))), ("exports", .array (u.exports.map (·.toJson))),
     ("declarations", .array (u.declarations.map (·.toJson))),
     ("calls", .array (u.calls.map (·.toJson))), ("errors", .ofTexts u.errors)]

/-- The import graph of a project and its cycles as a JSON value. -/
def Project.graphJson (p : Project) : JsonValue :=
  .object
    [("graph", .object (p.graph.map fun e => (e.1, .ofTexts e.2))),
     ("cycles", .array (p.cycles.map .ofTexts))]

end SourceFlow
