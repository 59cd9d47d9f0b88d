/-!
# Ordered entries

Finite maps from names that remember the order in which names were first
put: a list of entries, at most one for each name if it was built with
`put`. A later value for a name takes the place of the earlier one, and
`firstBy` keeps the earlier one.
-/

namespace SourceFlow.Ordered

variable {α : Type}

def get? : List (String × α) → String → Option α
  | [], _ => none
  | e :: rest, name => if e.1 = name then some e.2 else get? rest name

/-- Gives a name a value: in its old place if the name has one, else at the end. -/
def put (name : String) (value : α) : List (String × α) → List (String × α)
  | [] => [(name, value)]
  -- the first entry of the name is the one that `get?` finds
  | e :: rest => if e.1 = name then (name, value) :: rest else e :: put name value rest

/-- The entries without those of a name. -/
def erase (name : String) (entries : List (String × α)) : List (String × α) :=
  entries.filter fun e => e.1 != name

/-- Puts the pairs one after the other. -/
def ofPairs (pairs : List (String × α)) : List (String × α) :=
  pairs.foldl (fun entries p => put p.1 p.2 entries) []

def names (entries : List (String × α)) : List String :=
  entries.map (·.1)

/-- The first of the values of each name, in order. -/
def firstBy (name : α → String) (values : List α) : List α :=
  values.foldl (fun kept v => if kept.any (name · == name v) then kept else kept ++ [v]) []

/-! ## What putting and erasing do to the values -/

@[simp] theorem get?_put_self (name : String) (value : α) (entries : List (String × α)) :
    get? (put name value entries) name = some value := by
  induction entries with
  | nil => simp [put, get?]
  | cons e rest ih =>
    unfold put
    by_cases h : e.1 = name
    · simp [h, get?]
    · simp [h, get?, ih]

@[simp] theorem get?_put_ne {name other : String} (h : other ≠ name) (value : α)
    (entries : List (String × α)) : get? (put name value entries) other = get? entries other := by
  have h' : ¬ name = other := fun h' => h h'.symm
  induction entries with
  | nil => simp [put, get?, h']
  | cons e rest ih =>
    unfold put
    by_cases he : e.1 = name
    · simp [he, get?, h']
    · simp [he, get?, ih]

@[simp] theorem get?_erase_self (name : String) (entries : List (String × α)) :
    get? (erase name entries) name = none := by
  induction entries with
  | nil => rfl
  | cons e rest ih =>
    unfold erase at ih ⊢
    by_cases h : e.1 = name
    · simpa [h] using ih
    · simpa [h, get?] using ih

@[simp] theorem get?_erase_ne {name other : String} (h : other ≠ name)
    (entries : List (String × α)) : get? (erase name entries) other = get? entries other := by
  have h' : ¬ name = other := fun h' => h h'.symm
  induction entries with
  | nil => rfl
  | cons e rest ih =>
    unfold erase at ih ⊢
    by_cases he : e.1 = name
    · simpa [he, get?, h'] using ih
    · simp [he, get?, ih]

end SourceFlow.Ordered
