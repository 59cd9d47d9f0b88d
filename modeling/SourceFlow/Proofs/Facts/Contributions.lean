import SourceFlow.Facts.Extraction

/-!
# What a node can contribute

The contribution of a node depends on its kind, and for some kinds on how
the node reads. All that can come out of it is listed here once, one
constructor for each sort of node, so that what holds of all findings is
shown by going through the sorts.
-/

namespace SourceFlow.Facts

open Syntax (Node Source Cursor)

/-- The findings are such as a node may contribute. -/
inductive Contributes (src : Source) (c : Cursor) (guarded : Bool) : Findings → Prop
  | importStatement (hkind : c.node.kind = "import_statement") :
      Contributes src c guarded { imports := statementImports src c.node }
  | exportStatement (hkind : c.node.kind = exportKind) :
      Contributes src c guarded { exports := statementExports src c.node }
  | deferredImport (hkind : c.node.kind = "call_expression")
      (hread : readCall src c.node guarded = .deferredImport) :
      Contributes src c guarded { imports := deferredImports src c.node }
  | remoteCall {call : RemoteCall} (hkind : c.node.kind = "call_expression")
      (hread : readCall src c.node guarded = .remote call) :
      Contributes src c guarded { calls := [call] }
  | variableCall {name : String} {call : RemoteCall} (hkind : c.node.kind = "call_expression")
      (hread : readCall src c.node guarded = .onVariable name call) :
      Contributes src c guarded { pending := [(name, call)] }
  | functionStatement (hkind : c.node.kind ∈ functionDeclarationKinds) :
      Contributes src c guarded { declarations := functionDeclarations src c }
  | declarator {name : String} {value : Node} (hkind : c.node.kind = "variable_declarator")
      (hname : declaratorName? src c.node = some name)
      (hvalue : c.node.field? "value" = some value) :
      Contributes src c guarded
        { clients := clientGiven src name value
          declarations := variableDeclarations src c name value }
  | assignment {left right : Node} (hkind : c.node.kind = "assignment_expression")
      (hleft : c.node.field? "left" = some left) (hright : c.node.field? "right" = some right)
      (hname : left.kind = "identifier") :
      Contributes src c guarded { clients := clientGiven src (src.textOf left) right }
  | methodDefinition (hkind : c.node.kind = "method_definition") :
      Contributes src c guarded { declarations := methodDeclarations src c }
  | classStatement (hkind : c.node.kind ∈ classDeclarationKinds) :
      Contributes src c guarded { declarations := classDeclarations src c }
  | marks (hasJsx hasAsync : Bool) : Contributes src c guarded { hasJsx, hasAsync }

section Sorts

variable {src : Source} {c : Cursor} {guarded : Bool}

/-- A call expression contributes according to how it reads, and nothing if it reads as a plain
call. -/
theorem contributes_callFindings (hkind : c.node.kind = "call_expression") :
    Contributes src c guarded (callFindings src c.node guarded) := by
  unfold callFindings
  split
  · exact .marks false false
  · rename_i hread
    exact .deferredImport hkind hread
  · rename_i hread
    exact .remoteCall hkind hread
  · rename_i hread
    exact .variableCall hkind hread

/-- A declarator contributes if it has a plain name and a value. -/
theorem contributes_declaratorFindings (hkind : c.node.kind = "variable_declarator") :
    Contributes src c guarded (declaratorFindings src c) := by
  unfold declaratorFindings
  split
  · rename_i hname hvalue
    exact .declarator hkind hname hvalue
  · exact .marks false false

/-- An assignment contributes if its left side is a plain name. -/
theorem contributes_assignmentFindings (hkind : c.node.kind = "assignment_expression") :
    Contributes src c guarded (assignmentFindings src c.node) := by
  unfold assignmentFindings
  split
  · rename_i hleft hright
    split
    · rename_i hname
      exact .assignment hkind hleft hright (beq_iff_eq.mp hname)
    · exact .marks false false
  · exact .marks false false

end Sorts

/-- One case of a cascade and the rest of it. -/
theorem Contributes.ite {src : Source} {c : Cursor} {guarded : Bool} {f g : Findings} {p : Prop}
    [Decidable p] (hf : p → Contributes src c guarded f) (hg : Contributes src c guarded g) :
    Contributes src c guarded (if p then f else g) := by
  split
  · rename_i hp
    exact hf hp
  · exact hg

/-- What a node contributes is of one of the sorts. -/
theorem contributes_contribution (src : Source) (c : Cursor) (guarded : Bool) :
    Contributes src c guarded (contribution src c guarded) := by
  -- the cases in the order in which the kinds are tried; the last three only leave marks
  unfold contribution
  refine .ite (fun h => .importStatement (beq_iff_eq.mp h)) ?_
  refine .ite (fun h => .exportStatement (beq_iff_eq.mp h)) ?_
  refine .ite (fun h => contributes_callFindings (beq_iff_eq.mp h)) ?_
  refine .ite (fun h => .functionStatement (List.contains_iff_mem.mp h)) ?_
  refine .ite (fun h => contributes_declaratorFindings (beq_iff_eq.mp h)) ?_
  refine .ite (fun h => contributes_assignmentFindings (beq_iff_eq.mp h)) ?_
  refine .ite (fun h => .methodDefinition (beq_iff_eq.mp h)) ?_
  refine .ite (fun h => .classStatement (List.contains_iff_mem.mp h)) ?_
  refine .ite (fun _ => .marks true false) (.ite (fun _ => .marks false true) ?_)
  exact .ite (fun _ => .marks false true) (.marks false false)

end SourceFlow.Facts
