import Mathlib.Data.List.Chain
import Mathlib.Data.List.Perm.Basic
import SourceFlow.Proofs.Facts.Contributions

/-!
# The walk gathers in pre-order

The walk over a tree keeps a stack of visits, each with a bit that says
whether failures are handled around it. What it gathers is what a plain
recursion gathers: every node of the tree contributes once, a node before
its children and the children in order. The bit that comes down with a
visit is right, so a call is guarded just if failures are handled at the
call itself or at a node above it.
-/

namespace SourceFlow

open Syntax (Node Source Cursor Step)

/-! ## Pre-order -/

namespace Syntax

mutual

/-- The nodes of a tree, a node before its children and the children in order. -/
def Node.preorder : Node → List Node
  | ⟨kind, start, stop, named, missing, hasText, hasError, fields, children⟩ =>
    ⟨kind, start, stop, named, missing, hasText, hasError, fields, children⟩ ::
      Node.preorderAll children

/-- The nodes of several trees, one tree after the other. -/
def Node.preorderAll : List Node → List Node
  | [] => []
  | n :: rest => n.preorder ++ Node.preorderAll rest

end

/-- The recursion in one equation, without the second function. -/
theorem Node.preorder_eq (n : Node) : n.preorder = n :: n.children.flatMap preorder := by
  have hall : ∀ trees : List Node, preorderAll trees = trees.flatMap preorder := by
    intro trees
    induction trees with
    | nil => rfl
    | cons n rest ih => rw [preorderAll, ih, List.flatMap_cons]
  obtain ⟨kind, start, stop, named, missing, hasText, hasError, fields, children⟩ := n
  rw [preorder, hall]

namespace Cursor

mutual

/-- Cursors at a node and at everything below it, in pre-order. -/
def preorderAt : Node → Option Node → List Step → List Cursor
  | ⟨kind, start, stop, named, missing, hasText, hasError, fields, children⟩, previous, above =>
    let n : Node := ⟨kind, start, stop, named, missing, hasText, hasError, fields, children⟩
    ⟨n, previous, above⟩ :: preorderRow children none (⟨n, previous⟩ :: above)

/-- Cursors at a row of siblings and at everything below them, in pre-order. -/
def preorderRow : List Node → Option Node → List Step → List Cursor
  | [], _, _ => []
  | n :: rest, previous, above => preorderAt n previous above ++ preorderRow rest (some n) above

end

/-- The cursor and those at everything below it, in pre-order. -/
def preorder (c : Cursor) : List Cursor :=
  preorderAt c.node c.previous c.above

/-- A row of siblings is gone through one sibling after the other. -/
theorem preorderRow_eq (nodes : List Node) (previous : Option Node) (above : List Step) :
    preorderRow nodes previous above = (row above previous nodes).flatMap preorder := by
  induction nodes generalizing previous with
  | nil => rfl
  | cons n rest ih => rw [preorderRow, ih, row, List.flatMap_cons, preorder]

/-- A cursor comes before its children, and they come in order. -/
theorem preorder_eq (c : Cursor) : c.preorder = c :: c.children.flatMap preorder := by
  obtain ⟨⟨kind, start, stop, named, missing, hasText, hasError, fields, children⟩, previous,
    above⟩ := c
  rw [preorder, preorderAt, preorderRow_eq, Cursor.children]

/-- The node of a cursor and the nodes above it, nearest first. -/
def lineage (c : Cursor) : List Node :=
  c.node :: c.above.map (·.node)

/-- Cursors in a row are at its nodes and share what is above them. -/
theorem of_mem_row {d : Cursor} {above : List Step} {previous : Option Node} {nodes : List Node}
    (h : d ∈ row above previous nodes) : d.node ∈ nodes ∧ d.above = above := by
  induction nodes generalizing previous with
  | nil => cases h
  | cons n rest ih =>
    rcases List.mem_cons.mp h with rfl | hrest
    · exact ⟨List.mem_cons_self, rfl⟩
    · obtain ⟨hnode, habove⟩ := ih hrest
      exact ⟨List.mem_cons_of_mem _ hnode, habove⟩

/-- One step down adds one node to the way up. -/
theorem lineage_of_mem_children {c d : Cursor} (h : d ∈ c.children) :
    d.node ∈ c.node.children ∧ d.lineage = d.node :: c.lineage := by
  obtain ⟨hnode, habove⟩ := of_mem_row h
  refine ⟨hnode, ?_⟩
  rw [lineage, habove]
  rfl

theorem parent?_of_mem_children {c d : Cursor} (h : d ∈ c.children) : d.parent? = some c := by
  rw [parent?, (of_mem_row h).2]

/-- Going down makes trees smaller, which is why recursion on cursors ends. -/
theorem size_lt_of_mem_children {c d : Cursor} (h : d ∈ c.children) :
    d.node.size < c.node.size := by
  have hle : ∀ {n : Node} {nodes : List Node}, n ∈ nodes → n.size ≤ Node.sizeAll nodes := by
    intro n nodes hn
    induction nodes with
    | nil => cases hn
    | cons m rest ih =>
      rw [Node.sizeAll]
      rcases List.mem_cons.mp hn with rfl | hn
      · omega
      · have hrest := ih hn
        omega
  have hsize := Node.size_eq c.node
  have hchild := hle (lineage_of_mem_children h).1
  omega

/-- What holds of a cursor and passes from cursors to their children holds everywhere below. -/
theorem forall_mem_preorder {P : Cursor → Prop} (hstep : ∀ c, P c → ∀ d ∈ c.children, P d)
    (c : Cursor) (hc : P c) : ∀ d ∈ c.preorder, P d := by
  intro d hd
  -- either the cursor itself or below one of its children, whose tree is smaller
  rw [preorder_eq] at hd
  rcases List.mem_cons.mp hd with rfl | hd
  · exact hc
  · obtain ⟨e, he, hd⟩ := List.mem_flatMap.mp hd
    exact forall_mem_preorder hstep e (hstep c hc e he) d hd
termination_by c.node.size
decreasing_by exact size_lt_of_mem_children he

theorem mem_preorder_self (c : Cursor) : c ∈ c.preorder := by
  rw [preorder_eq]
  exact List.mem_cons_self

/-- What is below a cursor of a tree is in the tree. -/
theorem preorder_subset {r c : Cursor} (h : c ∈ r.preorder) : c.preorder ⊆ r.preorder := by
  refine forall_mem_preorder (P := fun c => c.preorder ⊆ r.preorder) ?_ r (List.Subset.refl _) c h
  intro c hc d hd e he
  apply hc
  rw [preorder_eq]
  exact List.mem_cons_of_mem _ (List.mem_flatMap.mpr ⟨d, hd, he⟩)

/-- The parent of a cursor of a tree is in the tree. -/
theorem parent_mem_preorder {root : Node} {c parent : Cursor} (h : c ∈ (Cursor.root root).preorder)
    (hparent : c.parent? = some parent) :
    parent ∈ (Cursor.root root).preorder ∧ c ∈ parent.children := by
  -- going down, a child is in the tree because its parent is, and its parent is where it came from
  have hall : ∀ c ∈ (Cursor.root root).preorder, c ∈ (Cursor.root root).preorder ∧
      ∀ parent, c.parent? = some parent →
        parent ∈ (Cursor.root root).preorder ∧ c ∈ parent.children := by
    apply forall_mem_preorder
    · rintro c ⟨hc, _⟩ d hd
      have hbelow : d ∈ c.preorder := by
        rw [preorder_eq]
        exact List.mem_cons_of_mem _ (List.mem_flatMap.mpr ⟨d, hd, d.mem_preorder_self⟩)
      refine ⟨preorder_subset hc hbelow, ?_⟩
      intro parent hparent
      rw [parent?_of_mem_children hd] at hparent
      obtain rfl := Option.some.inj hparent
      exact ⟨hc, hd⟩
    · exact ⟨mem_preorder_self _, nofun⟩
  exact (hall c h).2 parent hparent

/-- The cursors in pre-order are at the nodes in pre-order. -/
theorem map_node_preorder (c : Cursor) : c.preorder.map (·.node) = c.node.preorder := by
  have hchildren : c.children.flatMap (fun d => d.preorder.map (·.node)) =
      c.children.flatMap fun d => d.node.preorder := by
    apply List.flatMap_congr
    intro d hd
    exact map_node_preorder d
  rw [preorder_eq, List.map_cons, List.map_flatMap, hchildren, Node.preorder_eq]
  congr 1
  rw [← List.flatMap_map, children, map_node_row]
termination_by c.node.size
decreasing_by exact size_lt_of_mem_children hd

/-- Above a cursor that stands under a node of a kind there is a node of that kind. -/
theorem exists_of_isUnder {root : Node} {c : Cursor} {kind : String}
    (h : c ∈ (Cursor.root root).preorder) (hunder : c.isUnder kind = true) :
    ∃ n ∈ root.preorder, n.kind = kind ∧ c.node ∈ n.children := by
  have hparent : ∃ parent, c.parent? = some parent ∧ parent.node.kind = kind := by
    unfold isUnder at hunder
    unfold parent?
    split at hunder
    · cases hunder
    · exact ⟨_, rfl, beq_iff_eq.mp hunder⟩
  obtain ⟨parent, hparent, hkind⟩ := hparent
  obtain ⟨hmem, hchild⟩ := parent_mem_preorder h hparent
  refine ⟨parent.node, ?_, hkind, (lineage_of_mem_children hchild).1⟩
  have hnodes : (Cursor.root root).preorder.map (·.node) = root.preorder := map_node_preorder _
  rw [← hnodes]
  exact List.mem_map_of_mem hmem

/-- The nodes above a cursor below a root are the way up to the root. -/
theorem lineage_of_mem_preorder {root : Node} {c : Cursor} (h : c ∈ (Cursor.root root).preorder) :
    c.lineage.IsChain (fun n parent => n ∈ parent.children) ∧ c.lineage.getLast? = some root := by
  revert c
  apply forall_mem_preorder
  · rintro c ⟨hchain, hlast⟩ d hd
    obtain ⟨hnode, hlineage⟩ := lineage_of_mem_children hd
    rw [hlineage]
    exact ⟨List.isChain_cons_cons.mpr ⟨hnode, hchain⟩, by rwa [lineage, List.getLast?_cons_cons]⟩
  · exact ⟨List.isChain_singleton _, rfl⟩

end Cursor

end Syntax

namespace Facts

/-! ## Handling of failures -/

/-- Failures are handled in a node: it is a `try` statement, or a call of the member `catch` of
something. -/
def HandlesFailure (src : Source) (n : Node) : Prop :=
  n.kind = "try_statement" ∨
    n.kind = "call_expression" ∧ ∃ function, n.field? "function" = some function ∧
      function.kind = "member_expression" ∧ ∃ member, function.field? "property" = some member ∧
        src.textOf member = "catch"

/-- The test decides whether failures are handled in a node. -/
theorem handlesFailure_iff (src : Source) (n : Node) :
    handlesFailure src n = true ↔ HandlesFailure src n := by
  unfold handlesFailure isCatchCall HandlesFailure
  cases hfunction : n.field? "function" with
  | none => simp
  | some function => simp [Option.any_eq_true]

/-- Whether failures are handled at a cursor, in its node or above it. -/
def isHandledAt (src : Source) (c : Cursor) : Bool :=
  c.lineage.any (handlesFailure src)

/-- Failures are handled at a cursor if they are handled in a node on the way up. -/
theorem isHandledAt_iff (src : Source) (c : Cursor) :
    isHandledAt src c = true ↔ ∃ n ∈ c.lineage, HandlesFailure src n := by
  rw [isHandledAt, List.any_eq_true]
  simp only [handlesFailure_iff]

/-! ## The walk -/

/-- What a node contributes by itself, wherever the walk has been before. -/
def ownFindings (src : Source) (c : Cursor) : Findings :=
  contribution src c (isHandledAt src c)

/-- The bit of a visit says whether failures are handled above its node. -/
def Visit.Right (src : Source) (v : Visit) : Prop :=
  v.guarded = v.cursor.above.any fun s => handlesFailure src s.node

/-- With a right bit a visit knows whether failures are handled at its cursor. -/
theorem Visit.Right.isGuarded {src : Source} {v : Visit} (h : v.Right src) :
    v.isGuarded src = isHandledAt src v.cursor := by
  rw [Visit.isGuarded, h, isHandledAt, Cursor.lineage, List.any_cons, List.any_map, Bool.or_comm]
  rfl

/-- The bit passed on to the children is right again. -/
theorem Visit.Right.children {src : Source} {v : Visit} (h : v.Right src) :
    ∀ w ∈ v.children src, w.Right src := by
  intro w hw
  obtain ⟨d, hd, rfl⟩ := List.mem_map.mp hw
  have habove : d.above.map (·.node) = v.cursor.lineage := by
    have hlineage := (Cursor.lineage_of_mem_children hd).2
    rw [Cursor.lineage] at hlineage
    exact (List.cons.inj hlineage).2
  rw [Visit.Right, h.isGuarded, isHandledAt, ← habove, List.any_map]
  rfl

/-- With right bits on the stack, the walk adds the contributions of everything on the stack and
below it in pre-order. -/
theorem walk_eq_foldl (src : Source) (stack : List Visit) (found : Findings)
    (h : ∀ v ∈ stack, v.Right src) :
    walk src stack found =
      (stack.flatMap fun v => v.cursor.preorder).foldl (fun f c => f ++ ownFindings src c)
        found := by
  fun_induction walk src stack found with
  | case1 found => rfl
  -- the visit is taken off, and its children are put on the stack with the right bit
  | case2 v stack found ih =>
    have hv := h v List.mem_cons_self
    have hnext : ∀ w ∈ v.children src ++ stack, w.Right src := by
      intro w hw
      rcases List.mem_append.mp hw with hw | hw
      · exact hv.children w hw
      · exact h w (List.mem_cons_of_mem _ hw)
    -- what was below the visit is now on the stack
    have hbelow : (v.children src).flatMap (fun w => w.cursor.preorder) =
        v.cursor.children.flatMap Cursor.preorder := by
      rw [Visit.children, List.flatMap_map]
    rw [ih hnext, hv.isGuarded, List.flatMap_append, hbelow, List.flatMap_cons,
      Cursor.preorder_eq v.cursor, List.cons_append, List.foldl_cons]
    rfl

/-- All that is found is what the nodes contribute, added up in pre-order. -/
theorem findings_eq_foldl (src : Source) (root : Node) :
    findings src root =
      (Cursor.root root).preorder.foldl (fun f c => f ++ ownFindings src c) {} := by
  rw [findings, walk_eq_foldl]
  · rw [List.flatMap_cons, List.flatMap_nil, List.append_nil]
  · intro v hv
    rw [List.mem_singleton.mp hv]
    rfl

/-- What holds of no findings and of what each node contributes, and passes from parts of a tree to
both together, holds of all that is gathered. -/
theorem findings_induction {P : Findings → Prop} (src : Source) (root : Node) (hempty : P {})
    (happend : ∀ f g, P f → P g → P (f ++ g)) (hown : ∀ c, P (ownFindings src c)) :
    P (findings src root) := by
  -- the induction is on the list of cursors, over any findings so far
  have hfold : ∀ (cs : List Cursor) (found : Findings), P found →
      P (cs.foldl (fun f c => f ++ ownFindings src c) found) := by
    intro cs
    induction cs with
    | nil => exact fun _ hfound => hfound
    | cons c rest ih =>
      intro found hfound
      exact ih _ (happend found _ hfound (hown c))
  rw [findings_eq_foldl]
  exact hfold _ _ hempty

/-- What is gathered of one sort is what the nodes contribute of it, one after the other. -/
theorem gathered_eq_flatMap {β : Type} (part : Findings → List β) (hempty : part {} = [])
    (hpart : ∀ f g : Findings, part (f ++ g) = part f ++ part g) (src : Source) (root : Node) :
    part (findings src root) =
      (Cursor.root root).preorder.flatMap fun c => part (ownFindings src c) := by
  have hfold : ∀ (cs : List Cursor) (found : Findings),
      part (cs.foldl (fun f c => f ++ ownFindings src c) found) =
        part found ++ cs.flatMap fun c => part (ownFindings src c) := by
    intro cs
    induction cs with
    | nil => simp
    | cons c rest ih =>
      intro found
      rw [List.foldl_cons, ih, hpart, List.flatMap_cons, List.append_assoc]
  rw [findings_eq_foldl, hfold, hempty, List.nil_append]

/-! ## Calls -/

/-- The call that a reading is about, if it is about one. -/
def CallReading.call? : CallReading → Option RemoteCall
  | .remote call | .onVariable _ call => some call
  | .plain | .deferredImport => none

section Reading

variable {src : Source} {call object member : Node} {guarded : Bool} {c : RemoteCall}

theorem isGuarded_readNameCall (h : (readNameCall src call object guarded).call? = some c) :
    c.isGuarded = guarded := by
  simp only [readNameCall] at h
  split at h
  · obtain rfl := Option.some.inj h
    rfl
  · cases h

theorem isGuarded_readVariableCall
    (h : (readVariableCall src call object member guarded).call? = some c) :
    c.isGuarded = guarded := by
  simp only [readVariableCall] at h
  split at h
  · cases h
  · -- set aside or not, the call is the same
    split at h
    · obtain rfl := Option.some.inj h
      rfl
    · obtain rfl := Option.some.inj h
      rfl

theorem isGuarded_readModelCall
    (h : (readModelCall src call object member guarded).call? = some c) :
    c.isGuarded = guarded := by
  unfold readModelCall at h
  split at h
  · split at h
    · obtain rfl := Option.some.inj h
      rfl
    · cases h
  · cases h

/-- Whatever a call turns out to be, it keeps the bit it is read with. -/
theorem isGuarded_readCall (h : (readCall src call guarded).call? = some c) :
    c.isGuarded = guarded := by
  -- of the seven ways to read a call only three record one, and each has its lemma
  unfold readCall at h
  split at h
  · cases h
  · split at h
    · cases h
    · split at h
      · exact isGuarded_readNameCall h
      · split at h
        · cases h
        · split at h
          · exact isGuarded_readVariableCall h
          · split at h
            · exact isGuarded_readModelCall h
            · cases h

end Reading

/-- The call recognised at a cursor, given the clients that variables hold. -/
def recognised? (src : Source) (client? : String → Option String) (c : Cursor) :
    Option RemoteCall :=
  if c.node.kind = "call_expression" then
    match readCall src c.node (isHandledAt src c) with
    | .remote call => some call
    | .onVariable name call => (client? name).map fun client => { call with library := client }
    | .plain | .deferredImport => none
  else none

/-- A recognised call is guarded just if failures are handled at it. -/
theorem isGuarded_recognised? {src : Source} {client? : String → Option String} {c : Cursor}
    {call : RemoteCall} (h : recognised? src client? c = some call) :
    call.isGuarded = isHandledAt src c := by
  unfold recognised? at h
  split at h
  · split at h
    · rename_i hread
      obtain rfl := Option.some.inj h
      exact isGuarded_readCall (congrArg CallReading.call? hread)
    · -- naming the client does not touch the bit
      rename_i hread
      obtain ⟨client, _, rfl⟩ := Option.map_eq_some_iff.mp h
      have hguarded := isGuarded_readCall (congrArg CallReading.call? hread)
      exact hguarded
    · cases h
    · cases h
  · cases h

/-- The calls set aside whose variable holds a client. -/
def settledWith (client? : String → Option String) (pending : List (String × RemoteCall)) :
    List RemoteCall :=
  pending.filterMap fun p => (client? p.1).map fun client => { p.2 with library := client }

structure Findings.Callless (f : Findings) : Prop where
  calls : f.calls = []
  pending : f.pending = []

/-- Of all nodes only call expressions contribute calls. -/
theorem callless_contribution (src : Source) {c : Cursor} (guarded : Bool)
    (h : c.node.kind ≠ "call_expression") : (contribution src c guarded).Callless := by
  have hsort := contributes_contribution src c guarded
  generalize contribution src c guarded = found at hsort ⊢
  cases hsort with
  | remoteCall hkind | variableCall hkind => exact absurd hkind h
  | _ => exact ⟨rfl, rfl⟩

/-- Call expressions come third in the cascade, and have neither of the first two kinds. -/
theorem contribution_of_call {src : Source} {c : Cursor} {guarded : Bool}
    (h : c.node.kind = "call_expression") :
    contribution src c guarded = callFindings src c.node guarded := by
  have himport : ("call_expression" == "import_statement") = false := by decide
  have hexport : ("call_expression" == exportKind) = false := by decide
  simp only [contribution, h, himport, hexport, Bool.false_eq_true, if_false, beq_self_eq_true,
    if_true]

/-- The calls that a node contributes, those on variables as far as they hold a client. -/
theorem calls_ownFindings (src : Source) (client? : String → Option String) (c : Cursor) :
    (ownFindings src c).calls ++ settledWith client? (ownFindings src c).pending =
      (recognised? src client? c).toList := by
  by_cases hcall : c.node.kind = "call_expression"
  · rw [ownFindings, contribution_of_call hcall, callFindings, recognised?, if_pos hcall]
    cases readCall src c.node (isHandledAt src c) with
    | plain => rfl
    | deferredImport => rfl
    | remote call => rfl
    | onVariable name call =>
      cases hclient : client? name <;> simp [settledWith, hclient]
  · have hnone := callless_contribution src (isHandledAt src c) hcall
    rw [ownFindings, hnone.calls, hnone.pending, recognised?, if_neg hcall]
    rfl

/-- The recognised calls are those of the nodes, up to their order. -/
theorem orderedCalls_perm (src : Source) (root : Node) :
    (findings src root).orderedCalls.Perm
      ((Cursor.root root).preorder.filterMap (recognised? src (findings src root).clientOf?)) := by
  let found := findings src root
  let visited := (Cursor.root root).preorder
  have hcalls : found.calls = visited.flatMap fun c => (ownFindings src c).calls :=
    gathered_eq_flatMap (·.calls) rfl (fun _ _ => rfl) src root
  have hpending : found.pending = visited.flatMap fun c => (ownFindings src c).pending :=
    gathered_eq_flatMap (·.pending) rfl (fun _ _ => rfl) src root
  have hsettled : found.settled =
      visited.flatMap fun c => settledWith found.clientOf? (ownFindings src c).pending := by
    calc found.settled = settledWith found.clientOf? found.pending := rfl
      _ = _ := by rw [hpending, settledWith, List.filterMap_flatMap]; rfl
  have hnodes : found.calls ++ found.settled =
      (visited.flatMap fun c => (ownFindings src c).calls) ++
        visited.flatMap fun c => settledWith found.clientOf? (ownFindings src c).pending := by
    rw [hcalls, hsettled]
  have hown : (visited.flatMap fun c => (ownFindings src c).calls ++
      settledWith found.clientOf? (ownFindings src c).pending) =
      visited.filterMap (recognised? src found.clientOf?) := by
    simp only [calls_ownFindings, List.filterMap_eq_flatMap_toList]
  -- sorting, and bringing the two sorts of calls together node by node, only change the order
  have hsort : found.orderedCalls.Perm (found.calls ++ found.settled) := List.mergeSort_perm _ _
  rw [hnodes] at hsort
  have hmerge := hsort.trans (List.flatMap_append_perm ..)
  rw [hown] at hmerge
  exact hmerge

end Facts

/-! ## Facts of a unit -/

namespace ParsedUnit

open Facts

def visited (p : ParsedUnit) : List Cursor :=
  (Cursor.root p.root).preorder

/-- The call recognised at a node of a unit. -/
def callAt? (p : ParsedUnit) (c : Cursor) : Option RemoteCall :=
  recognised? p.source (findings p.source p.root).clientOf? c

/-- Imports, exports and declarations of a unit are what its nodes contribute, one node after the
other in pre-order. Its calls are those of its nodes, and a call is guarded just if failures are
handled at its node or at one above. -/
theorem facts_preorder (p : ParsedUnit) :
    p.visited.map (·.node) = p.root.preorder ∧
      p.facts.imports = p.visited.flatMap (fun c => (ownFindings p.source c).imports) ∧
      p.facts.exports = p.visited.flatMap (fun c => (ownFindings p.source c).exports) ∧
      p.facts.declarations = p.visited.flatMap (fun c => (ownFindings p.source c).declarations) ∧
      p.facts.calls.Perm (p.visited.filterMap p.callAt?) ∧
      ∀ c ∈ p.visited,
        (c.lineage.IsChain (fun n parent => n ∈ parent.children) ∧
          c.lineage.getLast? = some p.root) ∧
        ∀ call, p.callAt? c = some call →
          (call.isGuarded = true ↔ ∃ n ∈ c.lineage, HandlesFailure p.source n) := by
  refine ⟨Cursor.map_node_preorder _, gathered_eq_flatMap (·.imports) rfl (fun _ _ => rfl) _ _,
    gathered_eq_flatMap (·.exports) rfl (fun _ _ => rfl) _ _,
    gathered_eq_flatMap (·.declarations) rfl (fun _ _ => rfl) _ _, orderedCalls_perm _ _, ?_⟩
  intro c hc
  refine ⟨Cursor.lineage_of_mem_preorder hc, ?_⟩
  intro call hcall
  rw [isGuarded_recognised? hcall, isHandledAt_iff]

end ParsedUnit

end SourceFlow
