import Mathlib.Data.List.Induction
import SourceFlow.Ordered

/-!
# Ordered entries as maps

What lists of entries with distinct names are as maps: putting the entries
one after the other gives them back, and the value of a name does not
depend on where its entry stands. Putting a value replaces at most one.
Of values with names, `firstBy` keeps those that no value of their name
stands before.
-/

namespace SourceFlow.Ordered

variable {α : Type}

/-! ## Building -/

/-- A new name goes to the end. -/
theorem put_of_not_mem {name : String} {value : α} {entries : List (String × α)}
    (h : name ∉ names entries) : put name value entries = entries ++ [(name, value)] := by
  induction entries with
  | nil => rfl
  | cons e rest ih =>
    have hne : e.1 ≠ name := by
      intro heq
      exact h (heq ▸ List.mem_cons_self)
    have hrest : name ∉ names rest := fun hmem => h (List.mem_cons_of_mem _ hmem)
    rw [put, if_neg hne, ih hrest]
    rfl

/-- Entries with new and distinct names are all put to the end. -/
theorem foldl_put_of_nodup (entries pairs : List (String × α))
    (h : (names (entries ++ pairs)).Nodup) :
    pairs.foldl (fun entries p => put p.1 p.2 entries) entries = entries ++ pairs := by
  induction pairs generalizing entries with
  | nil => simp
  | cons p rest ih =>
    have hnames : names (entries ++ p :: rest) = names entries ++ p.1 :: names rest := by
      simp [names]
    have hnot : p.1 ∉ names entries := by
      rw [hnames] at h
      intro hmem
      exact (List.nodup_append.mp h).2.2 _ hmem _ List.mem_cons_self rfl
    rw [List.foldl_cons, put_of_not_mem hnot, ih]
    · simp
    · simpa using h

/-- Entries with distinct names, put one after the other, are just these entries. -/
theorem ofPairs_of_nodup {pairs : List (String × α)} (h : (names pairs).Nodup) :
    ofPairs pairs = pairs :=
  foldl_put_of_nodup [] pairs h

/-- Putting a value under a name that is there keeps all names in place. -/
theorem names_put_of_mem {name : String} {value : α} {entries : List (String × α)}
    (h : name ∈ names entries) : names (put name value entries) = names entries := by
  induction entries with
  | nil => cases h
  | cons e rest ih =>
    unfold put
    split
    · rename_i heq
      simp [names, heq]
    · rename_i hne
      have hrest : name ∈ names rest := by
        rcases List.mem_cons.mp h with heq | hmem
        · exact absurd heq.symm hne
        · exact hmem
      exact congrArg (e.1 :: ·) (ih hrest)

/-- Putting keeps names distinct. -/
theorem nodup_names_put {name : String} {value : α} {entries : List (String × α)}
    (h : (names entries).Nodup) : (names (put name value entries)).Nodup := by
  by_cases hmem : name ∈ names entries
  · rw [names_put_of_mem hmem]
    exact h
  · have hnames : names (entries ++ [(name, value)]) = names entries ++ [name] := by
      simp [names]
    rw [put_of_not_mem hmem, hnames, List.nodup_append]
    refine ⟨h, by simp, ?_⟩
    intro x hx y hy heq
    rw [List.mem_singleton.mp hy] at heq
    exact hmem (heq ▸ hx)

/-- Whatever is put, the names stay distinct. -/
theorem nodup_names_ofPairs (pairs : List (String × α)) : (names (ofPairs pairs)).Nodup := by
  have hfold : ∀ entries : List (String × α), (names entries).Nodup →
      (names (pairs.foldl (fun entries p => put p.1 p.2 entries) entries)).Nodup := by
    induction pairs with
    | nil => exact fun _ h => h
    | cons p rest ih => exact fun _ h => ih _ (nodup_names_put h)
  exact hfold [] List.nodup_nil

/-- Names that are all put with one value have this value. -/
theorem get?_foldl_put_const (value : α) (keys : List String) (entries : List (String × α))
    (name : String) :
    get? ((keys.map (·, value)).foldl (fun entries p => put p.1 p.2 entries) entries) name =
      if name ∈ keys then some value else get? entries name := by
  induction keys generalizing entries with
  | nil => simp
  | cons key rest ih =>
    rw [List.map_cons, List.foldl_cons, ih]
    -- the last time a name is put decides, and all put the same
    by_cases hrest : name ∈ rest
    · simp [hrest]
    · by_cases hkey : name = key
      · subst hkey
        simp [hrest]
      · simp [hrest, hkey]

/-- A name has a value if it is put, or had one before. -/
theorem isSome_get?_foldl_put (pairs entries : List (String × α)) (name : String) :
    (get? (pairs.foldl (fun entries p => put p.1 p.2 entries) entries) name).isSome ↔
      name ∈ names pairs ∨ (get? entries name).isSome := by
  induction pairs generalizing entries with
  | nil => simp [names]
  | cons p rest ih =>
    have hnames : names (p :: rest) = p.1 :: names rest := rfl
    rw [List.foldl_cons, ih, hnames, List.mem_cons]
    by_cases hname : name = p.1
    · simp [hname]
    · simp [hname]

/-- The names that are put are those with a value. -/
theorem isSome_get?_ofPairs (pairs : List (String × α)) (name : String) :
    (get? (ofPairs pairs) name).isSome ↔ name ∈ names pairs := by
  rw [ofPairs, isSome_get?_foldl_put]
  simp [get?]

/-! ## Counting values -/

/-- Putting a value that does not count never raises the count. -/
theorem countP_put_le {p : α → Bool} {value : α} (hvalue : p value = false) (name : String)
    (entries : List (String × α)) :
    (put name value entries).countP (fun e => p e.2) ≤ entries.countP fun e => p e.2 := by
  induction entries with
  | nil => simp [put, hvalue]
  | cons e rest ih =>
    unfold put
    split
    · simp [List.countP_cons, hvalue]
    · rw [List.countP_cons, List.countP_cons]
      omega

/-- Putting a value that does not count over one that does lowers the count. -/
theorem countP_put_lt {p : α → Bool} {old value : α} (hold : p old = true)
    (hvalue : p value = false) {name : String} {entries : List (String × α)}
    (h : get? entries name = some old) :
    (put name value entries).countP (fun e => p e.2) < entries.countP fun e => p e.2 := by
  induction entries with
  | nil => cases h
  | cons e rest ih =>
    unfold get? at h
    unfold put
    split at h
    · rename_i heq
      obtain rfl := Option.some.inj h
      simp [heq, hold, hvalue]
    · rename_i hne
      have hlt := ih h
      rw [if_neg hne, List.countP_cons, List.countP_cons]
      omega

/-! ## Looking up -/

theorem isSome_get?_iff (entries : List (String × α)) (name : String) :
    (get? entries name).isSome ↔ name ∈ names entries := by
  induction entries with
  | nil => simp [get?, names]
  | cons e rest ih =>
    have hnames : names (e :: rest) = e.1 :: names rest := rfl
    rw [get?, hnames, List.mem_cons]
    split
    · rename_i heq
      simp [heq]
    · rename_i hne
      rw [ih, or_iff_right fun heq => hne heq.symm]

theorem get?_append (entries later : List (String × α)) (name : String) :
    get? (entries ++ later) name = (get? entries name).or (get? later name) := by
  induction entries with
  | nil => rfl
  | cons e rest ih =>
    rw [List.cons_append, get?, get?]
    split
    · rfl
    · exact ih

theorem mem_of_get?_eq_some {entries : List (String × α)} {name : String} {value : α}
    (h : get? entries name = some value) : (name, value) ∈ entries := by
  induction entries with
  | nil => cases h
  | cons e rest ih =>
    unfold get? at h
    split at h
    · rename_i heq
      rw [← heq, ← Option.some.inj h]
      exact List.mem_cons_self
    · exact List.mem_cons_of_mem _ (ih h)

/-- Every value comes from a pair that was put. -/
theorem mem_of_get?_ofPairs {pairs : List (String × α)} {name : String} {value : α}
    (h : get? (ofPairs pairs) name = some value) : (name, value) ∈ pairs := by
  -- or from an entry that was there before the first pair
  have hput : ∀ (pairs entries : List (String × α)),
      get? (pairs.foldl (fun entries p => put p.1 p.2 entries) entries) name = some value →
        (name, value) ∈ pairs ∨ get? entries name = some value := by
    intro pairs
    induction pairs with
    | nil => exact fun entries hvalue => Or.inr hvalue
    | cons p rest ih =>
      intro entries hvalue
      rcases ih _ hvalue with hrest | hfirst
      · exact Or.inl (List.mem_cons_of_mem _ hrest)
      · by_cases hname : name = p.1
        · subst hname
          rw [get?_put_self] at hfirst
          rw [← Option.some.inj hfirst]
          exact Or.inl List.mem_cons_self
        · rw [get?_put_ne hname] at hfirst
          exact Or.inr hfirst
  rcases hput pairs [] h with hmem | hnone
  · exact hmem
  · cases hnone

/-- With distinct names, the entries are exactly the values of the names. -/
theorem get?_eq_some_iff {entries : List (String × α)} (hnodup : (names entries).Nodup)
    (name : String) (value : α) : get? entries name = some value ↔ (name, value) ∈ entries := by
  refine ⟨mem_of_get?_eq_some, ?_⟩
  intro hmem
  induction entries with
  | nil => cases hmem
  | cons e rest ih =>
    obtain ⟨hnot, hrest⟩ := List.nodup_cons.mp hnodup
    rcases List.mem_cons.mp hmem with rfl | hmem
    · simp [get?]
    · have hname : name ∈ names rest := List.mem_map.mpr ⟨(name, value), hmem, rfl⟩
      have hne : e.1 ≠ name := by
        rintro rfl
        exact hnot hname
      rw [get?, if_neg hne]
      exact ih hrest hmem

/-- With distinct names, looking up all of them gives the values in order. -/
theorem map_get?_names {entries : List (String × α)} (hnodup : (names entries).Nodup) :
    (names entries).map (get? entries) = entries.map (some ·.2) := by
  rw [names, List.map_map]
  apply List.map_congr_left
  intro e he
  exact (get?_eq_some_iff hnodup e.1 e.2).mpr he

/-- With distinct names, the value of a name does not depend on the order of the entries. -/
theorem get?_perm {entries entries' : List (String × α)} (hperm : entries.Perm entries')
    (hnodup : (names entries).Nodup) (name : String) : get? entries name = get? entries' name := by
  have hnodup' : (names entries').Nodup := (hperm.map Prod.fst).nodup_iff.mp hnodup
  apply Option.ext
  intro value
  rw [get?_eq_some_iff hnodup, get?_eq_some_iff hnodup', hperm.mem_iff]

/-! ## The first of each name -/

section

variable {name : α → String}

/-- One more value is kept just if its name is new. -/
theorem firstBy_concat (name : α → String) (vs : List α) (v : α) :
    firstBy name (vs ++ [v]) =
      if name v ∈ (firstBy name vs).map name then firstBy name vs else firstBy name vs ++ [v] := by
  have hany : (firstBy name vs).any (name · == name v) = true ↔
      name v ∈ (firstBy name vs).map name := by
    simp
  rw [firstBy, List.foldl_append, List.foldl_cons, List.foldl_nil]
  exact if_congr hany rfl rfl

/-- No name is kept twice. -/
theorem nodup_map_firstBy (name : α → String) (vs : List α) :
    ((firstBy name vs).map name).Nodup := by
  induction vs using List.reverseRecOn with
  | nil => exact List.nodup_nil
  | append_singleton vs v ih =>
    rw [firstBy_concat]
    split
    · exact ih
    · rename_i hnew
      rw [List.map_append]
      refine List.nodup_append.mpr ⟨ih, by simp, ?_⟩
      rintro a ha b hb rfl
      rw [List.map_singleton, List.mem_singleton] at hb
      exact hnew (hb ▸ ha)

/-- No name is lost. -/
theorem mem_map_firstBy {vs : List α} {key : String} :
    key ∈ (firstBy name vs).map name ↔ key ∈ vs.map name := by
  induction vs using List.reverseRecOn with
  | nil => rfl
  | append_singleton vs v ih =>
    rw [firstBy_concat, List.map_append, List.mem_append, ← ih]
    split
    · -- a name seen before is not lost, because its first value was kept
      rename_i hold
      constructor
      · exact Or.inl
      · rintro (h | h)
        · exact h
        · rw [List.mem_singleton.mp h]
          exact hold
    · rw [List.map_append, List.mem_append]

/-- Values with distinct names are all kept. -/
theorem firstBy_of_nodup {vs : List α} (h : (vs.map name).Nodup) : firstBy name vs = vs := by
  induction vs using List.reverseRecOn with
  | nil => rfl
  | append_singleton vs v ih =>
    rw [List.map_append, List.nodup_append] at h
    have hnew : name v ∉ (firstBy name vs).map name := by
      rw [mem_map_firstBy]
      intro hmem
      exact h.2.2 _ hmem _ List.mem_cons_self rfl
    rw [firstBy_concat, if_neg hnew, ih h.1]

/-- A value is kept just if no value of its name stands before it. -/
theorem mem_firstBy_iff {vs : List α} {v : α} :
    v ∈ firstBy name vs ↔
      ∃ before after, vs = before ++ v :: after ∧ ∀ u ∈ before, name u ≠ name v := by
  induction vs using List.reverseRecOn with
  | nil => exact ⟨nofun, fun ⟨before, after, h, _⟩ => by simp at h⟩
  | append_singleton vs w ih =>
    -- one more value adds itself, if no value before it has its name
    have hmem : v ∈ firstBy name (vs ++ [w]) ↔
        v ∈ firstBy name vs ∨ (v = w ∧ name w ∉ vs.map name) := by
      rw [firstBy_concat]
      split
      · rename_i hold
        have hseen := mem_map_firstBy.mp hold
        exact ⟨Or.inl, fun h => h.elim id fun h => absurd hseen h.2⟩
      · rename_i hnew
        rw [mem_map_firstBy] at hnew
        rw [List.mem_append, List.mem_singleton, and_iff_left hnew]
    rw [hmem, ih]
    constructor
    · rintro (⟨before, after, rfl, hbefore⟩ | ⟨rfl, hnew⟩)
      · exact ⟨before, after ++ [w], by simp, hbefore⟩
      · exact ⟨vs, [], rfl, fun u hu heq => hnew (heq ▸ List.mem_map_of_mem hu)⟩
    · rintro ⟨before, after, heq, hbefore⟩
      -- the last value is the one in question just if nothing stands after it
      rcases List.eq_nil_or_concat after with rfl | ⟨rest, x, rfl⟩
      · obtain ⟨rfl, hlast⟩ := List.append_inj' heq rfl
        obtain rfl : w = v := (List.cons.inj hlast).1
        refine Or.inr ⟨rfl, ?_⟩
        intro hw
        obtain ⟨u, hu, hname⟩ := List.mem_map.mp hw
        exact hbefore u hu hname
      · have heq' : vs ++ [w] = (before ++ v :: rest) ++ [x] := by simpa using heq
        exact Or.inl ⟨before, rest, (List.append_inj' heq' rfl).1, hbefore⟩

/-- Nothing is kept that was not there. -/
theorem firstBy_subset (name : α → String) (vs : List α) : firstBy name vs ⊆ vs := by
  intro v hv
  obtain ⟨before, after, rfl, _⟩ := mem_firstBy_iff.mp hv
  exact List.mem_append_right _ List.mem_cons_self

/-- The first values can be picked out before they are changed. -/
theorem firstBy_map {β : Type} (f : β → α) (vs : List β) :
    firstBy name (vs.map f) = (firstBy (fun v => name (f v)) vs).map f := by
  induction vs using List.reverseRecOn with
  | nil => rfl
  | append_singleton vs v ih =>
    have hnames : name (f v) ∈ (firstBy name (vs.map f)).map name ↔
        name (f v) ∈ (firstBy (fun v => name (f v)) vs).map fun v => name (f v) := by
      rw [ih, List.map_map]
      rfl
    rw [List.map_append, List.map_singleton, firstBy_concat, firstBy_concat,
      if_congr hnames rfl rfl]
    split
    · exact ih
    · rw [ih, List.map_append, List.map_singleton]

end

end SourceFlow.Ordered
