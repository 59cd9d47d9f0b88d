import SourceFlow.Proofs.Facts.Preorder

/-!
# Which calls are recognised

Recognition as a few rules on the tree: a call of `fetch`, a call of a
member of `axios` other than `create`, a call of a member of a variable
that is given a client somewhere in the unit, and a call of an operation
on a model of `prisma`. Reading a call expression, setting calls on
variables aside and settling them at the end comes to just these rules,
wherever a variable is given its client.
-/

namespace SourceFlow

open Syntax (Node Source Cursor)

namespace Facts

/-! ## Forms of calls -/

structure Calls (n callee : Node) : Prop where
  kind : n.kind = "call_expression"
  function : n.field? "function" = some callee

/-- A call of a plain name, `name(…)`. -/
def CallsName (src : Source) (n : Node) (name : String) : Prop :=
  ∃ callee, Calls n callee ∧ callee.kind = "identifier" ∧ src.textOf callee = name

/-- A call of a member of something, `object.member(…)`. -/
def CallsMember (src : Source) (n object : Node) (member : String) : Prop :=
  ∃ callee property, Calls n callee ∧ callee.kind = "member_expression" ∧
    callee.field? "object" = some object ∧ callee.field? "property" = some property ∧
    src.textOf property = member

/-- A call of a member of a plain name, `name.member(…)`. -/
def CallsOn (src : Source) (n : Node) (name member : String) : Prop :=
  ∃ object, CallsMember src n object member ∧ object.kind = "identifier" ∧
    src.textOf object = name

/-- A call of a member of a member of a plain name, `root.model.operation(…)`. In a broken tree the
model may be missing. -/
def CallsModel (src : Source) (n : Node) (root : String) (model? : Option String)
    (operation : String) : Prop :=
  ∃ object base, CallsMember src n object operation ∧ object.kind = "member_expression" ∧
    object.field? "object" = some base ∧ base.kind = "identifier" ∧ src.textOf base = root ∧
    (object.field? "property").map src.textOf = model?

/-- The variable in one field of a node is given a new client by what stands in another, as in
`name = axios.create(…)`. -/
def GivesClientIn (src : Source) (n : Node) (left right name : String) : Prop :=
  ∃ holder value, n.field? left = some holder ∧ holder.kind = "identifier" ∧
    src.textOf holder = name ∧ n.field? right = some value ∧ CallsOn src value "axios" "create"

/-- A declarator or an assignment gives a variable a new client. -/
def GivesClient (src : Source) (n : Node) (name : String) : Prop :=
  n.kind = "variable_declarator" ∧ GivesClientIn src n "name" "value" name ∨
    n.kind = "assignment_expression" ∧ GivesClientIn src n "left" "right" name

end Facts

/-- Somewhere in a unit a variable is given a client. -/
def ParsedUnit.HoldsClient (p : ParsedUnit) (name : String) : Prop :=
  ∃ n ∈ p.root.preorder, Facts.GivesClient p.source n name

namespace Facts

/-! ## Rules -/

/-- How a call is recognised: by itself, or through the variable it is made on. -/
inductive Route where
  | direct
  | viaVariable
deriving DecidableEq, Repr

/-- The call recorded at a node. -/
def remoteAt (src : Source) (n : Node) (guarded : Bool) (category : CallCategory)
    (library verb : String) (target : Option String) : RemoteCall :=
  { category, library, position := src.positionOf n, isGuarded := guarded, verb := some verb
    target }

/-- A call is recognised at a cursor. -/
inductive Recognises (p : ParsedUnit) (c : Cursor) : Route → RemoteCall → Prop
  | fetch (hcall : CallsName p.source c.node "fetch") :
      Recognises p c .direct
        (remoteAt p.source c.node (isHandledAt p.source c) .http "fetch"
          (fetchMethod p.source c.node) (p.source.firstStringArgument? c.node))
  | client {member : String} (hcall : CallsOn p.source c.node "axios" member)
      (hmember : member ≠ "create") :
      Recognises p c .direct
        (remoteAt p.source c.node (isHandledAt p.source c) .http "axios" (Text.upper member)
          (p.source.firstStringArgument? c.node))
  | model {model? : Option String} {operation : String}
      (hcall : CallsModel p.source c.node "prisma" model? operation) :
      Recognises p c .direct
        (remoteAt p.source c.node (isHandledAt p.source c) .dataAccess "prisma" operation model?)
  | onVariable {name member : String} (hcall : CallsOn p.source c.node name member)
      (hname : name ≠ "axios") (hclient : p.HoldsClient name) :
      Recognises p c .viaVariable
        (remoteAt p.source c.node (isHandledAt p.source c) .http "axios" (Text.upper member)
          (p.source.firstStringArgument? c.node))

theorem position_of_recognises {p : ParsedUnit} {c : Cursor} {route : Route} {call : RemoteCall}
    (h : Recognises p c route call) : call.position = p.source.positionOf c.node := by
  cases h <;> rfl

/-! ## Reading a call expression -/

/-- There is one client, and it makes new clients by `create`. -/
theorem lookup_httpClients (name : String) :
    httpClients.lookup name = if name = "axios" then some "create" else none := by
  unfold httpClients
  split
  · rename_i hname
    rw [hname]
    rfl
  · rename_i hname
    rw [List.lookup_cons, beq_false_of_ne hname]
    rfl

/-- Only `axios.create` makes a client. -/
theorem isFactory_iff (object member : String) :
    isFactory object member = true ↔ object = "axios" ∧ member = "create" := by
  rw [isFactory, lookup_httpClients, beq_iff_eq]
  split
  · rename_i hobject
    rw [Option.some.injEq]
    exact ⟨fun h => ⟨hobject, h.symm⟩, fun h => h.2.symm⟩
  · rename_i hobject
    exact ⟨fun h => absurd h (by simp), fun h => absurd h.1 hobject⟩

section Reading

variable {src : Source} {n object property : Node} {guarded : Bool} {call : RemoteCall}

/-- The parts of a member expression are its object and its property, and both have to be there. -/
theorem memberParts?_eq_some_iff :
    memberParts? n = some (object, property) ↔
      n.kind = "member_expression" ∧ n.field? "object" = some object ∧
        n.field? "property" = some property := by
  unfold memberParts?
  by_cases hkind : n.kind = "member_expression"
  · cases hobject : n.field? "object" <;> cases hproperty : n.field? "property" <;> simp [hkind]
  · simp [hkind]

/-- For a call expression the form is what taking the callee apart gives. -/
theorem callsMember_iff {member : String} (hkind : n.kind = "call_expression") :
    CallsMember src n object member ↔
      ∃ property, (n.field? "function").bind memberParts? = some (object, property) ∧
        src.textOf property = member := by
  constructor
  · rintro ⟨callee, property, hcall, hmember, hobject, hproperty, htext⟩
    refine ⟨property, ?_, htext⟩
    rw [hcall.function]
    exact memberParts?_eq_some_iff.mpr ⟨hmember, hobject, hproperty⟩
  · rintro ⟨property, hparts, htext⟩
    rcases Option.bind_eq_some_iff.mp hparts with ⟨callee, hfunction, hmember⟩
    rcases memberParts?_eq_some_iff.mp hmember with ⟨hmember, hobject, hproperty⟩
    exact ⟨callee, property, ⟨hkind, hfunction⟩, hmember, hobject, hproperty, htext⟩

theorem CallsMember.kind {member : String} (h : CallsMember src n object member) :
    n.kind = "call_expression" := by
  rcases h with ⟨_, _, hcall, _⟩
  exact hcall.kind

/-- There is only one client of which an expression can create an instance. -/
theorem createdClient?_eq_some_iff {client : String} :
    createdClient? src n = some client ↔ client = "axios" ∧ CallsOn src n "axios" "create" := by
  constructor
  -- each of the nested conditions has to hold for there to be a client
  · intro h
    unfold createdClient? at h
    split at h
    · rename_i hkind
      have hcall : n.kind = "call_expression" := by simpa using hkind
      split at h
      · rename_i object property hparts
        split at h
        · rename_i hcond
          simp only [Bool.and_eq_true, beq_iff_eq, isFactory_iff] at hcond
          rcases hcond with ⟨hobject, hname, hcreate⟩
          have hclient : client = "axios" := (Option.some.inj h).symm.trans hname
          have hmember := (callsMember_iff hcall).mpr ⟨property, hparts, hcreate⟩
          exact ⟨hclient, object, hmember, hobject, hname⟩
        · cases h
      · cases h
    · cases h
  · rintro ⟨rfl, object, hmember, hobject, hname⟩
    have hcall := hmember.kind
    rcases (callsMember_iff hcall).mp hmember with ⟨property, hparts, hcreate⟩
    have hfactory := (isFactory_iff "axios" "create").mpr ⟨rfl, rfl⟩
    simp [createdClient?, hcall, hparts, hobject, hname, hcreate, hfactory]

/-- With the one client there is, a call on a name is a call on `axios` or one on a variable. -/
theorem readVariableCall_eq :
    readVariableCall src n object property guarded =
      if src.textOf object = "axios" then
        if src.textOf property = "create" then .plain
        else
          .remote (remoteAt src n guarded .http "axios" (Text.upper (src.textOf property))
            (src.firstStringArgument? n))
      else
        .onVariable (src.textOf object) (remoteAt src n guarded .http (src.textOf object)
          (Text.upper (src.textOf property)) (src.firstStringArgument? n)) := by
  unfold readVariableCall
  simp only [isFactory_iff, lookup_httpClients]
  by_cases hobject : src.textOf object = "axios"
  · by_cases hcreate : src.textOf property = "create"
    · simp [hobject, hcreate]
    · simp [hobject, hcreate, remoteAt]
  · simp [hobject, remoteAt]

/-- With the one data root there is, a call on a member is one on a model of `prisma` or a plain
call. -/
theorem readModelCall_eq :
    readModelCall src n object property guarded =
      match object.field? "object" with
      | some base =>
        if base.kind = "identifier" ∧ src.textOf base = "prisma" then
          .remote (remoteAt src n guarded .dataAccess "prisma" (src.textOf property)
            ((object.field? "property").map src.textOf))
        else .plain
      | none => .plain := by
  unfold readModelCall dataRoots
  cases hbase : object.field? "object" with
  | none => rfl
  | some base =>
    by_cases hprisma : base.kind = "identifier" ∧ src.textOf base = "prisma"
    · simp [hprisma, remoteAt]
    · simp [hprisma]

/-- How a call of a plain name is read. -/
theorem readCall_of_callsName {name : String} (h : CallsName src n name) :
    readCall src n guarded =
      if name = "fetch" then
        .remote (remoteAt src n guarded .http "fetch" (fetchMethod src n)
          (src.firstStringArgument? n))
      else .plain := by
  rcases h with ⟨callee, hcall, hkind, rfl⟩
  by_cases hfetch : src.textOf callee = "fetch"
  · simp [readCall, hcall.function, hkind, readNameCall, fetchName, hfetch, remoteAt]
  · simp [readCall, hcall.function, hkind, readNameCall, fetchName, hfetch]

/-- How a call of a member of a plain name is read. -/
theorem readCall_of_callsOn {name member : String} (h : CallsOn src n name member) :
    readCall src n guarded =
      if name = "axios" then
        if member = "create" then .plain
        else
          .remote (remoteAt src n guarded .http "axios" (Text.upper member)
            (src.firstStringArgument? n))
      else
        .onVariable name (remoteAt src n guarded .http name (Text.upper member)
          (src.firstStringArgument? n)) := by
  rcases h with ⟨object, ⟨callee, property, hcall, hmember, hfield, hproperty, rfl⟩, hobject, rfl⟩
  have hparts := memberParts?_eq_some_iff.mpr ⟨hmember, hfield, hproperty⟩
  rw [← readVariableCall_eq]
  simp [readCall, hcall.function, hmember, hparts, hobject]

/-- How a call of a member of a member is read. -/
theorem readCall_of_callsMember {member : String} (h : CallsMember src n object member)
    (hobject : object.kind = "member_expression") :
    readCall src n guarded =
      match object.field? "object" with
      | some base =>
        if base.kind = "identifier" ∧ src.textOf base = "prisma" then
          .remote (remoteAt src n guarded .dataAccess "prisma" member
            ((object.field? "property").map src.textOf))
        else .plain
      | none => .plain := by
  rcases h with ⟨callee, property, hcall, hmember, hfield, hproperty, rfl⟩
  have hparts := memberParts?_eq_some_iff.mpr ⟨hmember, hfield, hproperty⟩
  rw [← readModelCall_eq]
  simp [readCall, hcall.function, hmember, hparts, hobject]

/-- A call expression calls a plain name, a member of a plain name or a member of a member, or there
is no call in what it is read as. -/
theorem callForm_cases (src : Source) (guarded : Bool) (hkind : n.kind = "call_expression") :
    (∃ name, CallsName src n name) ∨ (∃ name member, CallsOn src n name member) ∨
      (∃ object member, CallsMember src n object member ∧ object.kind = "member_expression") ∨
      (readCall src n guarded).call? = none := by
  -- the ways in which nothing is read: no callee, a deferred import, no member expression
  unfold readCall
  split
  · exact Or.inr (Or.inr (Or.inr rfl))
  · rename_i callee hfunction
    have hcall : Calls n callee := ⟨hkind, hfunction⟩
    split
    · exact Or.inr (Or.inr (Or.inr rfl))
    · split
      · rename_i hname
        exact Or.inl ⟨_, callee, hcall, by simpa using hname, rfl⟩
      · split
        · exact Or.inr (Or.inr (Or.inr rfl))
        · rename_i object property hparts
          rcases memberParts?_eq_some_iff.mp hparts with ⟨hmember, hfield, hproperty⟩
          have hcalls : CallsMember src n object (src.textOf property) :=
            ⟨callee, property, hcall, hmember, hfield, hproperty, rfl⟩
          split
          · rename_i hobject
            exact Or.inr (Or.inl ⟨_, _, object, hcalls, by simpa using hobject, rfl⟩)
          · split
            · rename_i hobject
              exact Or.inr (Or.inr (Or.inl ⟨object, _, hcalls, by simpa using hobject⟩))
            · exact Or.inr (Or.inr (Or.inr rfl))

end Reading

/-! ## Readings and rules -/

section Rules

variable {p : ParsedUnit} {c : Cursor} {call : RemoteCall}

/-- A call read as one to be recorded is recognised by itself. -/
theorem recognises_of_readCall (hkind : c.node.kind = "call_expression")
    (h : readCall p.source c.node (isHandledAt p.source c) = .remote call) :
    Recognises p c .direct call := by
  -- by the form of the call, of which each rule has one
  rcases callForm_cases p.source (isHandledAt p.source c) hkind with
    ⟨name, hname⟩ | ⟨name, member, hon⟩ | ⟨object, member, hmember, hobject⟩ | hnone
  · rw [readCall_of_callsName hname] at h
    split at h
    · rename_i hfetch
      subst hfetch
      rw [← CallReading.remote.inj h]
      exact .fetch hname
    · cases h
  · rw [readCall_of_callsOn hon] at h
    split at h
    · rename_i hclient
      subst hclient
      split at h
      · cases h
      · rename_i hcreate
        rw [← CallReading.remote.inj h]
        exact .client hon hcreate
    · cases h
  · rw [readCall_of_callsMember hmember hobject] at h
    split at h
    · rename_i base hbase
      split at h
      · rename_i hroot
        rw [← CallReading.remote.inj h]
        exact .model ⟨object, base, hmember, hobject, hbase, hroot.1, hroot.2, rfl⟩
      · cases h
    · cases h
  · rw [h] at hnone
    cases hnone

/-- A call read as one on a variable is a call of a member of a plain name that is no client. -/
theorem callsOn_of_readCall {name : String} (hkind : c.node.kind = "call_expression")
    (h : readCall p.source c.node (isHandledAt p.source c) = .onVariable name call) :
    ∃ member, CallsOn p.source c.node name member ∧ name ≠ "axios" ∧
      remoteAt p.source c.node (isHandledAt p.source c) .http name (Text.upper member)
        (p.source.firstStringArgument? c.node) = call := by
  -- only a call of a member of a plain name is ever set aside
  rcases callForm_cases p.source (isHandledAt p.source c) hkind with
    ⟨name', hname⟩ | ⟨name', member, hon⟩ | ⟨object, member, hmember, hobject⟩ | hnone
  · rw [readCall_of_callsName hname] at h
    split at h <;> cases h
  · rw [readCall_of_callsOn hon] at h
    split at h
    · split at h <;> cases h
    · rename_i hclient
      rcases CallReading.onVariable.inj h with ⟨rfl, hremote⟩
      exact ⟨member, hon, hclient, hremote⟩
  · rw [readCall_of_callsMember hmember hobject] at h
    split at h
    · split at h <;> cases h
    · cases h
  · rw [h] at hnone
    cases hnone

/-- A call recognised by itself is read as one to be recorded. -/
theorem readCall_of_recognises (h : Recognises p c .direct call) :
    c.node.kind = "call_expression" ∧
      readCall p.source c.node (isHandledAt p.source c) = .remote call := by
  cases h with
  | fetch hcall =>
    refine ⟨?_, by rw [readCall_of_callsName hcall, if_pos rfl]⟩
    rcases hcall with ⟨callee, hcall, _⟩
    exact hcall.kind
  | client hcall hmember =>
    refine ⟨?_, by rw [readCall_of_callsOn hcall, if_pos rfl, if_neg hmember]⟩
    rcases hcall with ⟨object, hcall, _⟩
    exact hcall.kind
  | model hcall =>
    rcases hcall with ⟨object, base, hcall, hobject, hbase, hkind, hroot, rfl⟩
    refine ⟨hcall.kind, ?_⟩
    rw [readCall_of_callsMember hcall hobject, hbase]
    exact if_pos ⟨hkind, hroot⟩

end Rules

/-! ## Clients -/

section Clients

variable {src : Source} {c : Cursor} {name client : String}

/-- A holder is given a client by a call of `axios.create` and by nothing else. -/
theorem mem_clientGiven {holder : String} {value : Node} :
    (name, client) ∈ clientGiven src holder value ↔
      holder = name ∧ client = "axios" ∧ CallsOn src value "axios" "create" := by
  rw [clientGiven, Option.mem_toList, Option.map_eq_some_iff]
  constructor
  · rintro ⟨created, hcreated, hpair⟩
    rcases Prod.mk.inj hpair with ⟨hholder, rfl⟩
    exact ⟨hholder, createdClient?_eq_some_iff.mp hcreated⟩
  · rintro ⟨rfl, hcreated⟩
    exact ⟨client, createdClient?_eq_some_iff.mpr hcreated, rfl⟩

/-- A declarator gives a client to the variable it names. -/
theorem mem_clients_declarator :
    (name, client) ∈ (declaratorFindings src c).clients ↔
      client = "axios" ∧ GivesClientIn src c.node "name" "value" name := by
  unfold declaratorFindings declaratorName? GivesClientIn
  cases hname : c.node.field? "name" with
  | none => simp
  | some holder =>
    cases hvalue : c.node.field? "value" with
    | none => simp
    | some value =>
      by_cases hkind : holder.kind = "identifier"
      · simp [hkind, mem_clientGiven, and_left_comm]
      · simp [hkind]

/-- An assignment gives a client to the variable on its left. -/
theorem mem_clients_assignment :
    (name, client) ∈ (assignmentFindings src c.node).clients ↔
      client = "axios" ∧ GivesClientIn src c.node "left" "right" name := by
  unfold assignmentFindings GivesClientIn
  cases hleft : c.node.field? "left" with
  | none => simp
  | some holder =>
    cases hright : c.node.field? "right" with
    | none => simp
    | some value =>
      by_cases hkind : holder.kind = "identifier"
      · simp [hkind, mem_clientGiven, and_left_comm]
      · simp [hkind]

/-- No other node gives clients. -/
theorem clients_contribution_of_ne {guarded : Bool}
    (hdeclarator : c.node.kind ≠ "variable_declarator")
    (hassignment : c.node.kind ≠ "assignment_expression") :
    (contribution src c guarded).clients = [] := by
  have hsort := contributes_contribution src c guarded
  generalize contribution src c guarded = found at hsort ⊢
  cases hsort with
  | declarator hkind => exact absurd hkind hdeclarator
  | assignment hkind => exact absurd hkind hassignment
  | _ => rfl

/-- The clients that a node contributes are those it gives to variables. -/
theorem mem_clients_ownFindings :
    (name, client) ∈ (ownFindings src c).clients ↔
      client = "axios" ∧ GivesClient src c.node name := by
  unfold ownFindings GivesClient
  -- declarators and assignments have their own cases in the cascade
  by_cases hdeclarator : c.node.kind = "variable_declarator"
  · have hcontribution : contribution src c (isHandledAt src c) = declaratorFindings src c := by
      simp [contribution, hdeclarator, exportKind, functionDeclarationKinds]
    rw [hcontribution, mem_clients_declarator]
    simp [hdeclarator]
  · by_cases hassignment : c.node.kind = "assignment_expression"
    · have hcontribution : contribution src c (isHandledAt src c) =
          assignmentFindings src c.node := by
        simp [contribution, hassignment, exportKind, functionDeclarationKinds]
      rw [hcontribution, mem_clients_assignment]
      simp [hassignment]
    · rw [clients_contribution_of_ne hdeclarator hassignment]
      simp [hdeclarator, hassignment]

end Clients

/-- The clients gathered in a unit are those given to variables somewhere in it. -/
theorem mem_clients_findings {p : ParsedUnit} {name client : String} :
    (name, client) ∈ (findings p.source p.root).clients ↔
      client = "axios" ∧ p.HoldsClient name := by
  have hnodes : p.root.preorder = (Cursor.root p.root).preorder.map (·.node) :=
    (Cursor.map_node_preorder (.root p.root)).symm
  rw [gathered_eq_flatMap (·.clients) rfl (fun _ _ => rfl), List.mem_flatMap,
    ParsedUnit.HoldsClient, hnodes]
  simp only [mem_clients_ownFindings, List.mem_map]
  constructor
  · rintro ⟨c, hc, hclient, hgives⟩
    exact ⟨hclient, c.node, ⟨c, hc, rfl⟩, hgives⟩
  · rintro ⟨hclient, n, ⟨c, hc, rfl⟩, hgives⟩
    exact ⟨c, hc, hclient, hgives⟩

/-- In the end a variable holds a client just if it is given one somewhere. -/
theorem clientOf?_eq_some_iff {p : ParsedUnit} {name client : String} :
    (findings p.source p.root).clientOf? name = some client ↔
      client = "axios" ∧ p.HoldsClient name := by
  have hsound : ∀ held, (findings p.source p.root).clientOf? name = some held →
      held = "axios" ∧ p.HoldsClient name := by
    intro held hheld
    rcases List.lookup_eq_some_iff.mp hheld with ⟨before, after, hsplit, _⟩
    apply mem_clients_findings.mp
    rw [← List.mem_reverse, hsplit]
    exact List.mem_append_right _ List.mem_cons_self
  refine ⟨hsound client, ?_⟩
  rintro ⟨rfl, hclient⟩
  have hmem := mem_clients_findings.mpr ⟨rfl, hclient⟩
  have hsome : ((findings p.source p.root).clientOf? name).isSome = true :=
    List.lookup_isSome_iff.mpr ⟨_, List.mem_reverse.mpr hmem, beq_self_eq_true name⟩
  -- it may be given several, but they are all the same
  rcases Option.isSome_iff_exists.mp hsome with ⟨held, hheld⟩
  rw [hheld, (hsound held hheld).1]

/-! ## Calls by node -/

section Recognised

variable {p : ParsedUnit} {c : Cursor} {call : RemoteCall}

/-- The call that a node contributes by itself. -/
def directAt? (p : ParsedUnit) (c : Cursor) : Option RemoteCall :=
  if c.node.kind = "call_expression" then
    match readCall p.source c.node (isHandledAt p.source c) with
    | .remote call => some call
    | _ => none
  else none

/-- The call that a node contributes through the variable it is made on. -/
def settledAt? (p : ParsedUnit) (c : Cursor) : Option RemoteCall :=
  if c.node.kind = "call_expression" then
    match readCall p.source c.node (isHandledAt p.source c) with
    | .onVariable name call =>
      ((findings p.source p.root).clientOf? name).map fun client => { call with library := client }
    | _ => none
  else none

/-- What a node contributes by itself is recognised by one of the direct rules, and the other way
round. -/
theorem directAt?_eq_some_iff : directAt? p c = some call ↔ Recognises p c .direct call := by
  constructor
  · intro h
    unfold directAt? at h
    split at h
    · rename_i hkind
      split at h
      · rename_i hread
        rw [← Option.some.inj h]
        exact recognises_of_readCall hkind hread
      · cases h
    · cases h
  · intro h
    rcases readCall_of_recognises h with ⟨hkind, hread⟩
    rw [directAt?, if_pos hkind, hread]

/-- What a node contributes through a variable is recognised by the rule for variables. -/
theorem settledAt?_eq_some_iff :
    settledAt? p c = some call ↔ Recognises p c .viaVariable call := by
  constructor
  · intro h
    unfold settledAt? at h
    split at h
    · rename_i hkind
      split at h
      · rename_i name read hread
        rcases callsOn_of_readCall hkind hread with ⟨member, hon, hname, rfl⟩
        rcases Option.map_eq_some_iff.mp h with ⟨client, hclient, rfl⟩
        rcases clientOf?_eq_some_iff.mp hclient with ⟨rfl, hholds⟩
        exact .onVariable hon hname hholds
      · cases h
    · cases h
  · intro h
    cases h with
    | @onVariable name member hon hname hclient =>
      have hkind : c.node.kind = "call_expression" := by
        rcases hon with ⟨object, hmember, _⟩
        exact hmember.kind
      have hheld := clientOf?_eq_some_iff.mpr ⟨rfl, hclient⟩
      rw [settledAt?, if_pos hkind, readCall_of_callsOn hon, if_neg hname]
      simp only [hheld, Option.map_some]
      rfl

/-- A call is not recognised both by itself and through a variable. -/
theorem settledAt?_eq_none (h : directAt? p c = some call) : settledAt? p c = none := by
  rcases readCall_of_recognises (directAt?_eq_some_iff.mp h) with ⟨hkind, hread⟩
  rw [settledAt?, if_pos hkind, hread]

/-- Calls recorded on the way are recorded by the node alone. -/
theorem calls_ownFindings_eq (p : ParsedUnit) (c : Cursor) :
    (ownFindings p.source c).calls = (directAt? p c).toList := by
  unfold directAt?
  split
  · rename_i hkind
    rw [ownFindings, contribution_of_call hkind, callFindings]
    cases readCall p.source c.node (isHandledAt p.source c) <;> rfl
  · rename_i hkind
    rw [ownFindings, (callless_contribution p.source _ hkind).calls]
    rfl

/-- Calls set aside are settled node by node once all clients are known. -/
theorem settled_ownFindings_eq (p : ParsedUnit) (c : Cursor) :
    settledWith (findings p.source p.root).clientOf? (ownFindings p.source c).pending =
      (settledAt? p c).toList := by
  unfold settledAt?
  split
  · rename_i hkind
    rw [ownFindings, contribution_of_call hkind, callFindings]
    cases readCall p.source c.node (isHandledAt p.source c) with
    | plain => rfl
    | deferredImport => rfl
    | remote call => rfl
    | onVariable name call =>
      cases hclient : (findings p.source p.root).clientOf? name <;> simp [settledWith, hclient]
  · rename_i hkind
    rw [ownFindings, (callless_contribution p.source _ hkind).pending]
    rfl

/-- The calls recorded on the way are those of the nodes in pre-order. -/
theorem calls_eq_filterMap (p : ParsedUnit) :
    (findings p.source p.root).calls = p.visited.filterMap (directAt? p) := by
  rw [gathered_eq_flatMap (·.calls) rfl (fun _ _ => rfl), List.filterMap_eq_flatMap_toList]
  simp only [calls_ownFindings_eq]
  rfl

/-- So are the calls settled at the end. -/
theorem settled_eq_filterMap (p : ParsedUnit) :
    (findings p.source p.root).settled = p.visited.filterMap (settledAt? p) := by
  have hpending := gathered_eq_flatMap (·.pending) rfl (fun _ _ => rfl) p.source p.root
  calc (findings p.source p.root).settled
      = settledWith (findings p.source p.root).clientOf? (findings p.source p.root).pending := rfl
    _ = p.visited.flatMap fun c =>
          settledWith (findings p.source p.root).clientOf? (ownFindings p.source c).pending := by
        rw [hpending, settledWith, List.filterMap_flatMap]
        rfl
    _ = p.visited.filterMap (settledAt? p) := by
        rw [List.filterMap_eq_flatMap_toList]
        simp only [settled_ownFindings_eq]

end Recognised

end Facts

end SourceFlow
