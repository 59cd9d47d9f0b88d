import Mathlib.Data.List.Induction
import Mathlib.Data.List.Nodup
import SourceFlow.Proofs.Ordered
import SourceFlow.Proofs.Text.Joined
import SourceFlow.Report.Diagram

/-!
# Identifiers of a diagram

Each node of a diagram gets its plain identifier, made of its id alone,
unless this is in use. Then it gets its numbered identifier, with its place
among the nodes behind it, and nothing looks whether that one is in use.
So two nodes may share an identifier, and here it is said when: if and only
if the numbered identifier that a node gets is the plain one of a node
before it. Whoever got an identifier, it is plain or numbered
(`mem_identifiers`), the plain ones differ as long as they are looked up,
and the numbered ones differ in their numbers.

Identifiers are read back off the lines of a diagram, so what holds of
them holds of what is drawn.
-/

namespace SourceFlow.Diagram

/-! ## Identifiers -/

/-- What identifiers are made of. -/
def isIdentifierChar (c : Char) : Bool :=
  c.isAlphanum || c == '_'

/-- A text of letters, digits and underscores, at least one of them. -/
structure IsIdentifier (s : String) : Prop where
  ne_empty : s ≠ ""
  chars : ∀ c ∈ s.toList, isIdentifierChar c = true

/-- The identifier with a number behind it. -/
def numbered (s : String) (index : Nat) : String :=
  s ++ "_" ++ index.repr

/-- The numbered identifier tells its number. -/
theorem numbered_inj {s t : String} {i j : Nat} (h : numbered s i = numbered t j) :
    s = t ∧ i = j :=
  Text.append_repr_inj rfl rfl h

/-- The plain identifier is given if it is free, else the numbered one, free or not. -/
theorem freshId_eq (used : List String) (index : Nat) (id : String) :
    freshId used index id =
      if safeId id ∈ used then numbered (safeId id) index else safeId id := by
  simp only [freshId, List.contains_iff_mem]
  rfl

/-- Plain identifiers are identifiers, since other characters are replaced and the empty id has a
stand-in. -/
theorem isIdentifier_safeId (id : String) : IsIdentifier (safeId id) := by
  unfold safeId
  split
  · exact ⟨by decide, List.all_eq_true.mp (by decide)⟩
  · rename_i hempty
    -- replacing keeps the length, and the text is not empty
    constructor
    · intro hnil
      have hlength := congrArg (fun s : String => s.toList.length) hnil
      simp at hlength
      simp [hlength] at hempty
    · intro c hc
      rw [String.toList_ofList] at hc
      rcases List.mem_map.mp hc with ⟨d, _, rfl⟩
      unfold safeChar
      split
      · rename_i hd
        simp [isIdentifierChar, hd]
      · decide

theorem IsIdentifier.numbered {s : String} (h : IsIdentifier s) (index : Nat) :
    IsIdentifier (numbered s index) := by
  constructor
  · intro hnil
    have hlength := congrArg String.length hnil
    simp [Diagram.numbered] at hlength
  · intro c hc
    simp only [Diagram.numbered, String.toList_append, List.mem_append] at hc
    rcases hc with (hc | hc) | hc
    · exact h.chars c hc
    · have hline : "_".toList.all isIdentifierChar = true := by decide
      exact List.all_eq_true.mp hline c hc
    · rw [Nat.toList_repr] at hc
      have hdigit := Nat.isDigit_of_mem_toDigits (by decide) (by decide) hc
      simp [isIdentifierChar, Char.isAlphanum, hdigit]

theorem isIdentifier_freshId (used : List String) (index : Nat) (id : String) :
    IsIdentifier (freshId used index id) := by
  rw [freshId_eq]
  split
  · exact (isIdentifier_safeId id).numbered index
  · exact isIdentifier_safeId id

/-! ## Giving identifiers to nodes -/

/-- The identifiers of some nodes, in order. -/
def identifiers (nodes : List FlowNode) : List String :=
  assignIds 0 [] nodes

/-- The plain identifiers of some nodes, in order. -/
def plainIds (nodes : List FlowNode) : List String :=
  nodes.map (safeId ·.id)

theorem length_assignIds (index : Nat) (used : List String) (nodes : List FlowNode) :
    (assignIds index used nodes).length = nodes.length := by
  induction nodes generalizing index used with
  | nil => rfl
  | cons n rest ih => simp [assignIds, ih]

/-- The last node gets its identifier when those of all others are in use. -/
theorem assignIds_concat (index : Nat) (used : List String) (nodes : List FlowNode)
    (n : FlowNode) :
    assignIds index used (nodes ++ [n]) = assignIds index used nodes ++
      [freshId ((assignIds index used nodes).reverse ++ used) (index + nodes.length) n.id] := by
  induction nodes generalizing index used with
  | nil => rfl
  | cons m rest ih =>
    have hplace : index + 1 + rest.length = index + (rest.length + 1) := by omega
    simp only [List.cons_append, assignIds, ih, hplace, List.reverse_cons, List.append_assoc,
      List.nil_append, List.length_cons]

/-- One more node gets its plain identifier, or its numbered one if the plain one is in use. -/
theorem identifiers_concat (nodes : List FlowNode) (n : FlowNode) :
    identifiers (nodes ++ [n]) = identifiers nodes ++
      [if safeId n.id ∈ identifiers nodes then numbered (safeId n.id) nodes.length
        else safeId n.id] := by
  rw [identifiers, assignIds_concat, freshId_eq]
  simp only [List.append_nil, List.mem_reverse, Nat.zero_add]
  rfl

/-- Whatever the ids of nodes are, they are given identifiers. -/
theorem isIdentifier_of_mem_identifiers {nodes : List FlowNode} {s : String}
    (h : s ∈ identifiers nodes) : IsIdentifier s := by
  induction nodes using List.reverseRecOn with
  | nil => cases h
  | append_singleton nodes n ih =>
    rw [identifiers_concat, ← freshId_eq] at h
    rcases List.mem_append.mp h with h | h
    · exact ih h
    · rw [List.mem_singleton.mp h]
      exact isIdentifier_freshId _ _ _

/-! ## Numbered identifiers -/

/-- The node in a place gets its numbered identifier: its plain one is that of a node before it, be
it the plain or the numbered one. -/
inductive IsNumbered (plain : List String) : Nat → Prop where
  | again {i j : Nat} {s : String} (hlt : i < j) (hi : plain[i]? = some s)
      (hj : plain[j]? = some s) : IsNumbered plain j
  | taken {i j : Nat} {s : String} (hlt : i < j) (hbefore : IsNumbered plain i)
      (hi : plain[i]? = some s) (hj : plain[j]? = some (numbered s i)) : IsNumbered plain j

/-- A text is the numbered identifier of a node that gets it. -/
def GetsNumbered (plain : List String) (x : String) : Prop :=
  ∃ j s, IsNumbered plain j ∧ plain[j]? = some s ∧ numbered s j = x

/-- A node gets a numbered identifier that is the plain one of a node before it. -/
def Clashes (plain : List String) : Prop :=
  ∃ j s, IsNumbered plain j ∧ plain[j]? = some s ∧ numbered s j ∈ plain.take j

section Concat

variable {plain : List String} {s : String}

theorem IsNumbered.lt_length {j : Nat} (h : IsNumbered plain j) : j < plain.length := by
  cases h with
  | again _ _ hj => exact (List.getElem?_eq_some_iff.mp hj).1
  | taken _ _ _ hj => exact (List.getElem?_eq_some_iff.mp hj).1

/-- Whether a node is numbered depends on it and the nodes before it. -/
theorem IsNumbered.congr {plain' : List String} {j : Nat} (h : IsNumbered plain j)
    (hsame : ∀ i, i ≤ j → plain'[i]? = plain[i]?) : IsNumbered plain' j := by
  induction h with
  | again hij hi hj =>
    rw [← hsame _ (Nat.le_of_lt hij)] at hi
    rw [← hsame _ (Nat.le_refl _)] at hj
    exact .again hij hi hj
  | taken hij _ hi hj ih =>
    rw [← hsame _ (Nat.le_of_lt hij)] at hi
    rw [← hsame _ (Nat.le_refl _)] at hj
    refine .taken hij (ih ?_) hi hj
    intro k hk
    exact hsame k (by omega)

/-- One more node at the end changes nothing for those before it. -/
theorem isNumbered_concat_of_lt {j : Nat} (hlt : j < plain.length) :
    IsNumbered (plain ++ [s]) j ↔ IsNumbered plain j := by
  have hsame : ∀ i, i ≤ j → (plain ++ [s])[i]? = plain[i]? := by
    intro i hi
    exact List.getElem?_append_left (by omega)
  constructor
  · intro h
    exact h.congr fun i hi => (hsame i hi).symm
  · intro h
    exact h.congr hsame

/-- One more node is numbered if its plain identifier is a plain or a numbered one before it. -/
theorem isNumbered_concat_length :
    IsNumbered (plain ++ [s]) plain.length ↔ s ∈ plain ∨ GetsNumbered plain s := by
  have hlast : (plain ++ [s])[plain.length]? = some s := List.getElem?_concat_length
  constructor
  · intro h
    cases h with
    | again hlt hi hj =>
      rw [hlast] at hj
      rw [List.getElem?_append_left hlt, ← hj] at hi
      exact Or.inl (List.mem_of_getElem? hi)
    | taken hlt hbefore hi hj =>
      rw [hlast] at hj
      rw [List.getElem?_append_left hlt] at hi
      exact Or.inr ⟨_, _, (isNumbered_concat_of_lt hlt).mp hbefore, hi, (Option.some.inj hj).symm⟩
  · rintro (hmem | ⟨i, r, hnumbered, hi, rfl⟩)
    · rcases List.getElem?_of_mem hmem with ⟨i, hi⟩
      have hlt := (List.getElem?_eq_some_iff.mp hi).1
      refine .again hlt ?_ hlast
      rw [List.getElem?_append_left hlt]
      exact hi
    · have hlt := hnumbered.lt_length
      refine .taken hlt ((isNumbered_concat_of_lt hlt).mpr hnumbered) ?_ hlast
      rw [List.getElem?_append_left hlt]
      exact hi

/-- The numbered nodes are those from before, and maybe the new one. -/
theorem exists_numbered_concat {P Q : Nat → String → Prop}
    (hsame : ∀ j r, j < plain.length → (P j r ↔ Q j r)) :
    (∃ j r, IsNumbered (plain ++ [s]) j ∧ (plain ++ [s])[j]? = some r ∧ P j r) ↔
      (∃ j r, IsNumbered plain j ∧ plain[j]? = some r ∧ Q j r) ∨
        IsNumbered (plain ++ [s]) plain.length ∧ P plain.length s := by
  have hlast : (plain ++ [s])[plain.length]? = some s := List.getElem?_concat_length
  constructor
  · rintro ⟨j, r, hnumbered, hj, hP⟩
    have hlength := hnumbered.lt_length
    rw [List.length_append, List.length_singleton] at hlength
    -- the place is one from before, or that of the new node
    rcases Nat.lt_or_eq_of_le (Nat.lt_succ_iff.mp hlength) with hlt | rfl
    · rw [List.getElem?_append_left hlt] at hj
      exact Or.inl ⟨j, r, (isNumbered_concat_of_lt hlt).mp hnumbered, hj, (hsame j r hlt).mp hP⟩
    · rw [hlast] at hj
      rw [← Option.some.inj hj] at hP
      exact Or.inr ⟨hnumbered, hP⟩
  · rintro (⟨j, r, hnumbered, hj, hQ⟩ | ⟨hnumbered, hP⟩)
    · have hlt := hnumbered.lt_length
      have hthere : (plain ++ [s])[j]? = plain[j]? := List.getElem?_append_left hlt
      rw [← hthere] at hj
      exact ⟨j, r, (isNumbered_concat_of_lt hlt).mpr hnumbered, hj, (hsame j r hlt).mpr hQ⟩
    · exact ⟨_, _, hnumbered, hlast, hP⟩

/-- The numbered identifiers in use are those from before, and maybe that of the new node. -/
theorem getsNumbered_concat {x : String} :
    GetsNumbered (plain ++ [s]) x ↔ GetsNumbered plain x ∨
      IsNumbered (plain ++ [s]) plain.length ∧ numbered s plain.length = x :=
  exists_numbered_concat fun _ _ _ => Iff.rfl

/-- There is a clash if there was one, or if the new node brings it. -/
theorem clashes_concat :
    Clashes (plain ++ [s]) ↔ Clashes plain ∨
      IsNumbered (plain ++ [s]) plain.length ∧ numbered s plain.length ∈ plain := by
  have hbefore : (plain ++ [s]).take plain.length = plain := List.take_left
  unfold Clashes
  rw [exists_numbered_concat (Q := fun j r => numbered r j ∈ plain.take j), hbefore]
  intro j r hlt
  rw [List.take_append_of_le_length (Nat.le_of_lt hlt)]

end Concat

theorem plainIds_concat (nodes : List FlowNode) (n : FlowNode) :
    plainIds (nodes ++ [n]) = plainIds nodes ++ [safeId n.id] := by
  simp [plainIds]

theorem length_plainIds (nodes : List FlowNode) : (plainIds nodes).length = nodes.length := by
  simp [plainIds]

/-- The identifiers in use are all the plain ones, given or not, and the numbered ones that were
given. -/
theorem mem_identifiers {nodes : List FlowNode} {x : String} :
    x ∈ identifiers nodes ↔ x ∈ plainIds nodes ∨ GetsNumbered (plainIds nodes) x := by
  induction nodes using List.reverseRecOn generalizing x with
  | nil =>
    constructor
    · intro h
      cases h
    · rintro (h | ⟨j, _, hnumbered, _⟩)
      · cases h
      · exact absurd hnumbered.lt_length (Nat.not_lt_zero j)
  | append_singleton nodes n ih =>
    rw [identifiers_concat, plainIds_concat, getsNumbered_concat, isNumbered_concat_length, ← ih,
      length_plainIds, List.mem_append, List.mem_append, List.mem_singleton, List.mem_singleton, ih]
    split
    · -- the plain identifier is in use already, so the node adds its numbered one
      rename_i hused
      constructor
      · rintro ((hplain | hgets) | rfl)
        · exact Or.inl (Or.inl hplain)
        · exact Or.inr (Or.inl hgets)
        · exact Or.inr (Or.inr ⟨hused, rfl⟩)
      · rintro ((hplain | rfl) | hgets | ⟨_, rfl⟩)
        · exact Or.inl (Or.inl hplain)
        · exact Or.inl (ih.mp hused)
        · exact Or.inl (Or.inr hgets)
        · exact Or.inr rfl
    · -- the node adds its plain identifier and is not numbered
      rename_i hfree
      constructor
      · rintro ((hplain | hgets) | rfl)
        · exact Or.inl (Or.inl hplain)
        · exact Or.inr (Or.inl hgets)
        · exact Or.inl (Or.inr rfl)
      · rintro ((hplain | rfl) | hgets | ⟨hused, _⟩)
        · exact Or.inl (Or.inl hplain)
        · exact Or.inr rfl
        · exact Or.inl (Or.inr hgets)
        · exact absurd hused hfree

/-- Identifiers are distinct unless a numbered one clashes with a plain one. -/
theorem nodup_identifiers_iff (nodes : List FlowNode) :
    (identifiers nodes).Nodup ↔ ¬ Clashes (plainIds nodes) := by
  induction nodes using List.reverseRecOn with
  | nil =>
    constructor
    · rintro _ ⟨j, _, hnumbered, _⟩
      exact absurd hnumbered.lt_length (Nat.not_lt_zero j)
    · intro _
      exact List.nodup_nil
  | append_singleton nodes n ih =>
    rw [identifiers_concat, plainIds_concat, clashes_concat, isNumbered_concat_length,
      ← mem_identifiers, length_plainIds, List.nodup_append', List.disjoint_singleton, ih, not_or]
    refine and_congr_right fun _ => ?_
    split
    · rename_i hused
      -- a numbered identifier from before has another number
      have hnew : ¬ GetsNumbered (plainIds nodes) (numbered (safeId n.id) nodes.length) := by
        rintro ⟨j, s, hnumbered, _, heq⟩
        have hlt := hnumbered.lt_length
        rw [length_plainIds] at hlt
        have hj := (numbered_inj heq).2
        omega
      rw [mem_identifiers, or_iff_left hnew]
      simp [hused]
    · rename_i hfree
      simp [hfree]

/-! ## The table of identifiers -/

theorem names_zip_assignIds (nodes : List FlowNode) :
    Ordered.names ((nodes.map (·.id)).zip (assignIds 0 [] nodes)) = nodes.map (·.id) := by
  apply List.map_fst_zip
  simp [length_assignIds]

/-- The ids of nodes are those with an identifier. -/
theorem isSome_get?_idTable_iff {nodes : List FlowNode} {id : String} :
    (Ordered.get? (idTable nodes) id).isSome ↔ id ∈ nodes.map (·.id) := by
  rw [idTable, Ordered.isSome_get?_ofPairs, names_zip_assignIds]

theorem isSome_get?_idTable {nodes : List FlowNode} {n : FlowNode} (hn : n ∈ nodes) :
    (Ordered.get? (idTable nodes) n.id).isSome :=
  isSome_get?_idTable_iff.mpr (List.mem_map_of_mem hn)

theorem isIdentifier_of_get?_idTable {nodes : List FlowNode} {id s : String}
    (h : Ordered.get? (idTable nodes) id = some s) : IsIdentifier s := by
  have hpair := Ordered.mem_of_get?_ofPairs h
  exact isIdentifier_of_mem_identifiers (List.of_mem_zip hpair).2

/-- Nodes with distinct ids are looked up with the identifiers that they were given. -/
theorem map_get?_idTable {nodes : List FlowNode} (hids : (nodes.map (·.id)).Nodup) :
    (nodes.map fun n => Ordered.get? (idTable nodes) n.id) = (identifiers nodes).map some := by
  have hnames := names_zip_assignIds nodes
  have htable : idTable nodes = (nodes.map (·.id)).zip (identifiers nodes) := by
    apply Ordered.ofPairs_of_nodup
    rw [hnames]
    exact hids
  have hvalues : (idTable nodes).map Prod.snd = identifiers nodes := by
    rw [htable]
    apply List.map_snd_zip
    simp [identifiers, length_assignIds]
  calc (nodes.map fun n => Ordered.get? (idTable nodes) n.id)
      = (Ordered.names (idTable nodes)).map (Ordered.get? (idTable nodes)) := by
        rw [htable]
        show _ = (Ordered.names _).map _
        rw [identifiers, hnames, List.map_map]
        rfl
    _ = (idTable nodes).map (some ·.2) :=
        Ordered.map_get?_names (Ordered.nodup_names_ofPairs _)
    _ = (identifiers nodes).map some := by
        rw [← hvalues, List.map_map]
        rfl

/-! ## Reading a diagram -/

/-- The identifier at the front of a line, behind the indentation. -/
def leadingId (line : String) : String :=
  String.ofList ((line.toList.drop 2).takeWhile isIdentifierChar)

/-- The identifier at the end of a line. -/
def trailingId (line : String) : String :=
  String.ofList (line.toList.reverse.takeWhile isIdentifierChar).reverse

/-- Nothing is taken where what is looked for does not stand in front. -/
theorem takeWhile_of_head? {chars : List Char}
    (h : ∀ c ∈ chars.head?, isIdentifierChar c = false) :
    chars.takeWhile isIdentifierChar = [] := by
  cases chars with
  | nil => rfl
  | cons c rest =>
    apply List.takeWhile_cons_of_neg
    simpa using h c rfl

/-- An identifier is read off the front of a line if what follows it is no part of one. -/
theorem leadingId_append {s rest : String} (hs : IsIdentifier s)
    (hrest : ∀ c ∈ rest.toList.head?, isIdentifierChar c = false) :
    leadingId ("  " ++ s ++ rest) = s := by
  have hchars : (("  " ++ s ++ rest).toList.drop 2) = s.toList ++ rest.toList := by simp
  rw [leadingId, hchars, List.takeWhile_append_of_pos hs.chars, takeWhile_of_head? hrest,
    List.append_nil, String.ofList_toList]

/-- An identifier is read off the end of a line if what stands before it is no part of one. -/
theorem trailingId_append {front s : String} (hs : IsIdentifier s)
    (hfront : ∀ c ∈ front.toList.getLast?, isIdentifierChar c = false) :
    trailingId (front ++ s) = s := by
  have hchars : ∀ c ∈ s.toList.reverse, isIdentifierChar c = true := by
    intro c hc
    exact hs.chars c (List.mem_reverse.mp hc)
  rw [← List.head?_reverse] at hfront
  rw [trailingId, String.toList_append, List.reverse_append, List.takeWhile_append_of_pos hchars,
    takeWhile_of_head? hfront, List.append_nil, List.reverse_reverse, String.ofList_toList]

/-- The line of a node begins with its identifier. -/
theorem leadingId_nodeLine {nodes : List FlowNode} {n : FlowNode} {s : String}
    (h : Ordered.get? (idTable nodes) n.id = some s) :
    leadingId (nodeLine (idTable nodes) n) = s := by
  -- every shape opens with a bracket, which is no part of an identifier
  have hshape : ∃ bracket, (shape n.kind).1.toList.head? = some bracket ∧
      isIdentifierChar bracket = false := by
    unfold shape
    split
    · exact ⟨'(', rfl, rfl⟩
    · split
      · exact ⟨'[', rfl, rfl⟩
      · split
        · exact ⟨'[', rfl, rfl⟩
        · exact ⟨'[', rfl, rfl⟩
  rcases hshape with ⟨bracket, hbracket, hnot⟩
  have hline : nodeLine (idTable nodes) n =
      "  " ++ s ++ ((shape n.kind).1 ++ quotedLabel n.label ++ (shape n.kind).2) := by
    simp only [nodeLine, h, Option.getD_some, String.append_assoc]
  rw [hline]
  apply leadingId_append (isIdentifier_of_get?_idTable h)
  intro c hc
  rw [String.toList_append, String.toList_append, List.append_assoc, List.head?_append, hbracket,
    Option.some_or] at hc
  rw [← Option.some.inj hc]
  exact hnot

/-- An edge is drawn if both of its ends are nodes. -/
theorem isSome_edgeLine?_iff {nodes : List FlowNode} {e : FlowEdge} :
    (edgeLine? (idTable nodes) e).isSome ↔
      e.source ∈ nodes.map (·.id) ∧ e.target ∈ nodes.map (·.id) := by
  rw [← isSome_get?_idTable_iff, ← isSome_get?_idTable_iff, edgeLine?]
  rcases Ordered.get? (idTable nodes) e.source with _ | source
  · simp
  · rcases Ordered.get? (idTable nodes) e.target with _ | target
    · simp
    · simp

/-- An arrow goes from the identifier at its front to the one at its end. -/
theorem ids_of_edgeLine? {nodes : List FlowNode} {e : FlowEdge} {line : String}
    (h : edgeLine? (idTable nodes) e = some line) :
    Ordered.get? (idTable nodes) e.source = some (leadingId line) ∧
      Ordered.get? (idTable nodes) e.target = some (trailingId line) := by
  unfold edgeLine? at h
  split at h
  · rename_i source target hsource htarget
    cases h
    rw [hsource, htarget]
    constructor
    · have hline : "  " ++ source ++ " --> " ++ target = "  " ++ source ++ (" --> " ++ target) :=
        String.append_assoc
      rw [hline, leadingId_append (isIdentifier_of_get?_idTable hsource)]
      intro c hc
      rw [String.toList_append, List.head?_append] at hc
      obtain rfl : ' ' = c := Option.some.inj hc
      rfl
    · rw [trailingId_append (isIdentifier_of_get?_idTable htarget)]
      intro c hc
      rw [String.toList_append, List.getLast?_append] at hc
      obtain rfl : ' ' = c := Option.some.inj hc
      rfl
  · cases h

/-- In a diagram no two nodes are drawn as one, and an arrow goes from the node that its edge comes
from to the node that it leads to, and touches no other. -/
structure DrawnApart (g : FlowGraph) (limit : Int) : Prop where
  nodes : ((firstNodes limit g.nodes).map fun n =>
    leadingId (nodeLine (idTable (firstNodes limit g.nodes)) n)).Nodup
  arrows : ∀ e ∈ g.edges, ∀ line, edgeLine? (idTable (firstNodes limit g.nodes)) e = some line →
    ∀ n ∈ firstNodes limit g.nodes,
      (leadingId (nodeLine (idTable (firstNodes limit g.nodes)) n) = leadingId line ↔
        n.id = e.source) ∧
      (leadingId (nodeLine (idTable (firstNodes limit g.nodes)) n) = trailingId line ↔
        n.id = e.target)

section Nodes

variable {nodes : List FlowNode} (hids : (nodes.map (·.id)).Nodup)

include hids

/-- The lines of nodes begin with the identifiers that the nodes were given. -/
theorem map_leadingId_nodeLine :
    (nodes.map fun n => leadingId (nodeLine (idTable nodes) n)) = identifiers nodes := by
  have hsome : (nodes.map fun n => leadingId (nodeLine (idTable nodes) n)).map some =
      (identifiers nodes).map some := by
    rw [← map_get?_idTable hids, List.map_map]
    apply List.map_congr_left
    intro n hn
    rcases Option.isSome_iff_exists.mp (isSome_get?_idTable hn) with ⟨s, hs⟩
    rw [hs, Function.comp_apply, leadingId_nodeLine hs]
  exact List.map_injective_iff.mpr (fun _ _ h => Option.some.inj h) hsome

/-- With distinct identifiers, what is drawn tells the node. -/
theorem id_eq_iff_of_nodup (hdistinct : (identifiers nodes).Nodup) {n : FlowNode} (hn : n ∈ nodes)
    {id s : String} (hs : Ordered.get? (idTable nodes) id = some s) :
    leadingId (nodeLine (idTable nodes) n) = s ↔ n.id = id := by
  constructor
  · intro hline
    -- the id is that of some node, and two nodes with one line are the same node
    have hmem := isSome_get?_idTable_iff.mp (Option.isSome_iff_exists.mpr ⟨s, hs⟩)
    rcases List.mem_map.mp hmem with ⟨m, hm, rfl⟩
    rw [← leadingId_nodeLine hs] at hline
    rw [← map_leadingId_nodeLine hids] at hdistinct
    rw [List.inj_on_of_nodup_map hdistinct hn hm hline]
  · rintro rfl
    exact leadingId_nodeLine hs

end Nodes

/-- Nodes are drawn apart just if their identifiers are distinct. -/
theorem drawnApart_iff {g : FlowGraph} {limit : Int}
    (hids : ((firstNodes limit g.nodes).map (·.id)).Nodup) :
    DrawnApart g limit ↔ (identifiers (firstNodes limit g.nodes)).Nodup := by
  constructor
  · intro h
    rw [← map_leadingId_nodeLine hids]
    exact h.nodes
  · intro hdistinct
    constructor
    · rw [map_leadingId_nodeLine hids]
      exact hdistinct
    · intro e _ line hline n hn
      have hends := ids_of_edgeLine? hline
      exact ⟨id_eq_iff_of_nodup hids hdistinct hn hends.1,
        id_eq_iff_of_nodup hids hdistinct hn hends.2⟩

/-! ## Main result -/

/-- Nodes with distinct ids get texts of letters, digits and underscores. These are distinct, and
the nodes are drawn apart, if and only if no numbered identifier that a node gets is the plain one
of a node before it. -/
theorem idTable_distinct_iff (nodes : List FlowNode) (hids : (nodes.map (·.id)).Nodup) :
    (∀ n ∈ nodes, ∃ s, Ordered.get? (idTable nodes) n.id = some s ∧ IsIdentifier s) ∧
      ((nodes.map fun n => Ordered.get? (idTable nodes) n.id).Nodup ↔
        ¬ Clashes (plainIds nodes)) ∧
      ∀ (g : FlowGraph) (limit : Int), firstNodes limit g.nodes = nodes →
        (DrawnApart g limit ↔ ¬ Clashes (plainIds nodes)) := by
  refine ⟨?_, ?_, ?_⟩
  · intro n hn
    rcases Option.isSome_iff_exists.mp (isSome_get?_idTable hn) with ⟨s, hs⟩
    exact ⟨s, hs, isIdentifier_of_get?_idTable hs⟩
  · rw [map_get?_idTable hids, List.nodup_map_iff fun _ _ h => Option.some.inj h]
    exact nodup_identifiers_iff nodes
  · rintro g limit rfl
    rw [drawnApart_iff hids]
    exact nodup_identifiers_iff _

/-- Units with the given ids, the second of which imports the third. -/
def threeUnits (first second third : String) : FlowGraph :=
  { nodes := [first, second, third].map fun id => { id, kind := .unit, label := id, owner := id }
    edges := [{ id := "import:0", source := second, target := third, kind := .imports }] }

/-- The second node takes the plain identifier of the third, which gets its numbered one. -/
theorem idTable_distinct_iff_handedOn :
    identifiers (threeUnits "a.b" "a/b" "a_b_1").nodes = ["a_b", "a_b_1", "a_b_1_2"] ∧
      ¬ Clashes (plainIds (threeUnits "a.b" "a/b" "a_b_1").nodes) ∧
      DrawnApart (threeUnits "a.b" "a/b" "a_b_1") 3 := by
  have hplain : plainIds (threeUnits "a.b" "a/b" "a_b_1").nodes = ["a_b", "a_b", "a_b_1"] := by
    decide
  have hfree : ¬ Clashes (plainIds (threeUnits "a.b" "a/b" "a_b_1").nodes) := by
    rw [hplain]
    rintro ⟨j, s, hnumbered, hj, hmem⟩
    -- only three places are there to look at
    match j, hnumbered.lt_length with
    | 0, _ => cases hmem
    | 1, _ =>
      obtain rfl : "a_b" = s := Option.some.inj hj
      exact absurd hmem (by decide)
    | 2, _ =>
      obtain rfl : "a_b_1" = s := Option.some.inj hj
      exact absurd hmem (by decide)
  refine ⟨by decide, hfree, ?_⟩
  exact ((idTable_distinct_iff _ (by decide)).2.2 _ 3 rfl).mpr hfree

/-- The third node gets the identifier of the first, and the arrow to it leads to both. -/
theorem idTable_clash :
    ((threeUnits "a_b_2" "a.b" "a/b").nodes.map (·.id)).Nodup ∧
      ¬ ((threeUnits "a_b_2" "a.b" "a/b").nodes.map fun n =>
        Ordered.get? (idTable (threeUnits "a_b_2" "a.b" "a/b").nodes) n.id).Nodup ∧
      ¬ DrawnApart (threeUnits "a_b_2" "a.b" "a/b") 3 ∧
      render (threeUnits "a_b_2" "a.b" "a/b") 3 =
        "graph TD\n  a_b_2[[\"a_b_2\"]]\n  a_b[[\"a.b\"]]\n  a_b_2[[\"a/b\"]]\n" ++
          "  a_b --> a_b_2\n" := by
  refine ⟨by decide, by decide, ?_, by decide⟩
  intro h
  exact absurd h.nodes (by decide)

end SourceFlow.Diagram
