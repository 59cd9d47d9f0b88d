import SourceFlow.Proofs.Ordered
import SourceFlow.Proofs.Settings
import SourceFlow.Settings.File

/-!
# What values hold

A table is a list of entries, but what it holds is a value for some names, in
no order: a document puts plain entries before tables, whatever their order
was. The content of a value leaves out the order of names at every depth, and
the sign of zero, which is lost in reading. Two values with one content are
equal as values. A format is faithful to a table if it writes a document from
which it reads the same content. Settings are looked up by name, so they
depend on the content of their table only, and so does whether they pass the
check.
-/

namespace SourceFlow

/-- What a value holds. -/
inductive Content where
  | null
  | bool (value : Bool)
  | int (value : Int)
  | float (value : Binary64)
  | text (value : String)
  | moment (value : Moment)
  | list (items : List Content)
  | table (entries : String → Option Content)

namespace Value

mutual

/-- What a value holds; zero has no sign. -/
def content : Value → Content
  | .null => .null
  | .bool b => .bool b
  | .int n => .int n
  | .float x => .float (if x.isZero then .finite false 0 Binary64.minExponent else x)
  | .text s => .text s
  | .moment m => .moment m
  | .list items => .list (contents items)
  | .table entries => .table (contentOf entries)

/-- What the items of a list hold. -/
def contents : List Value → List Content
  | [] => []
  | v :: rest => v.content :: contents rest

/-- What the names of a table hold. -/
def contentOf : List (String × Value) → String → Option Content
  | [], _ => none
  | (key, v) :: rest, name => if key = name then some v.content else contentOf rest name

end

end Value

/-- What a table holds under each name. -/
def Table.held (t : Table) (name : String) : Option Content :=
  (Ordered.get? t name).map Value.content

namespace Value

/-- What a table holds can be said by looking names up. -/
theorem contentOf_eq_held (t : Table) : contentOf t = t.held := by
  funext name
  induction t with
  | nil => rfl
  | cons e rest ih =>
    rw [contentOf, ih, Table.held, Table.held, Ordered.get?]
    split <;> rfl

@[simp] theorem content_table (t : Table) : (Value.table t).content = .table t.held := by
  rw [content, contentOf_eq_held]

/-! ## Values told by their content -/

theorem content_eq_null_iff {v : Value} : v.content = .null ↔ v = .null := by
  cases v <;> simp [content]

/-- Only an integer holds an integer. A float with the same value does not. -/
theorem content_eq_int_iff {v : Value} {n : Int} : v.content = .int n ↔ v = .int n := by
  cases v <;> simp [content]

theorem content_eq_text_iff {v : Value} {s : String} : v.content = .text s ↔ v = .text s := by
  cases v <;> simp [content]

/-- A value that holds entries is a table with them. -/
theorem exists_table_of_content {v : Value} {entries : String → Option Content}
    (h : v.content = .table entries) : ∃ t : Table, v = .table t ∧ t.held = entries := by
  cases v with
  | table t => exact ⟨t, rfl, by simpa using h⟩
  -- no other value holds entries
  | _ => simp [content] at h

end Value

/-- Whether a setting may hold a value is seen from its content. -/
theorem Setting.accepts_congr {v v' : Value} (h : v.content = v'.content) (setting : Setting) :
    setting.Accepts v ↔ setting.Accepts v' := by
  cases setting <;>
    simp only [Setting.Accepts, ← Value.content_eq_null_iff, ← Value.content_eq_int_iff,
      ← Value.content_eq_text_iff, h]

/-! ## Tables -/

namespace Table

theorem held_put (name : String) (v : Value) (t : Table) (other : String) :
    Table.held (Ordered.put name v t) other =
      if other = name then some v.content else t.held other := by
  by_cases h : other = name
  · rw [if_pos h, h, held, Ordered.get?_put_self]
    rfl
  · rw [if_neg h, held, Ordered.get?_put_ne h, held]

theorem held_erase (name : String) (t : Table) (other : String) :
    Table.held (Ordered.erase name t) other = if other = name then none else t.held other := by
  by_cases h : other = name
  · rw [if_pos h, h, held, Ordered.get?_erase_self]
    rfl
  · rw [if_neg h, held, Ordered.get?_erase_ne h, held]

end Table

/-- A table can be written in a format, and what is read then holds the same. -/
def Toml.Format.RoundTrips (format : Toml.Format) (t : Table) : Prop :=
  ∃ document, format.write t = .ok document ∧
    ∃ t', format.read document = .ok t' ∧ t'.held = t.held

/-- What is read may have its names in another order. -/
theorem Toml.Format.roundTrips_of_perm {format : Toml.Format} {t t' : Table}
    {document : List Char} (hwrite : format.write t = .ok document)
    (hread : format.read document = .ok t') (hperm : t'.Perm t)
    (hnodup : (Ordered.names t').Nodup) : format.RoundTrips t := by
  refine ⟨document, hwrite, t', hread, ?_⟩
  funext name
  rw [Table.held, Table.held, Ordered.get?_perm hperm hnodup]

/-! ## Settings -/

namespace Settings

/-- A setting holds what stands under its name, or else its default. -/
theorem content_ofTable (t : Table) (setting : Setting) :
    (ofTable t setting).content = (t.held setting.name).getD setting.default.content := by
  rw [ofTable, Table.held]
  cases Ordered.get? t setting.name <;> rfl

/-- Settings that hold the same as others without problems have none. -/
theorem problems_eq_nil_of_content {s s' : Settings}
    (h : ∀ setting, (s setting).content = (s' setting).content) (hs : s.problems = []) :
    s'.problems = [] := by
  rw [problems_eq_nil_iff] at hs ⊢
  intro setting hchecked
  exact (setting.accepts_congr (h setting)).mp (hs setting hchecked)

end Settings

end SourceFlow
