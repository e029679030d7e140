/-!
# Fields in order

`Fields α` is a list of key–value pairs, in the order in which the keys were first written. It is
the shape of a JSON object and of every table of the database. `put` keeps the position of a key
that is already there and appends a new one; `drop` leaves the other fields in their order.
-/

namespace DocumentDb

universe u v

variable {α : Type u} {β : Type v}

/-- Keys with values, in the order in which the keys were first written. -/
abbrev Fields (α : Type u) := List (String × α)

namespace Fields

/-- The keys, in order. -/
def keys (fields : Fields α) : List String := fields.map Prod.fst

/-- The value under a key. -/
def value? (fields : Fields α) (key : String) : Option α := fields.lookup key

/-- Whether a key is present. -/
def has (fields : Fields α) (key : String) : Bool := (value? fields key).isSome

/-- Write a value under a key: in place where the key is present, else at the end. -/
def put : Fields α → String → α → Fields α
  | [], key, value => [(key, value)]
  | (k, v) :: rest, key, value =>
    if key = k then (k, value) :: rest else (k, v) :: put rest key value

/-- Leave a key out, keeping the order of the others. -/
def drop (fields : Fields α) (key : String) : Fields α := fields.filter (·.1 ≠ key)

/-- Write the given fields one after the other: each key keeps its first position and its last
value. -/
def ofList (pairs : List (String × α)) : Fields α :=
  pairs.foldl (fun fields pair => put fields pair.1 pair.2) []

@[simp] theorem keys_nil : keys ([] : Fields α) = [] := rfl

@[simp] theorem keys_cons (field : String × α) (rest : Fields α) :
    keys (field :: rest) = field.1 :: keys rest := rfl

theorem value?_cons (field : String × α) (rest : Fields α) (key : String) :
    value? (field :: rest) key = if key = field.1 then some field.2 else value? rest key := by
  obtain ⟨k, v⟩ := field
  simp only [value?, List.lookup_cons]
  split <;> simp_all

/-- The keys are those under which there is a value. -/
theorem isSome_value?_iff {fields : Fields α} {key : String} :
    (value? fields key).isSome = true ↔ key ∈ keys fields := by
  induction fields with
  | nil => simp [value?]
  | cons field rest ih =>
    rw [value?_cons, keys_cons, List.mem_cons]
    split
    · simp_all
    · simp_all

/-- A write keeps the keys in their places and appends the key where it is new. -/
theorem keys_put (fields : Fields α) (key : String) (value : α) :
    keys (put fields key value) =
      if key ∈ keys fields then keys fields else keys fields ++ [key] := by
  induction fields with
  | nil => simp [put]
  | cons field rest ih =>
    obtain ⟨k, v⟩ := field
    by_cases h : key = k
    · simp [put, h]
    · simp only [put, h, if_false, keys_cons, ih, List.mem_cons, false_or]
      split <;> simp

theorem keys_drop (fields : Fields α) (key : String) :
    keys (drop fields key) = (keys fields).filter (· ≠ key) := by
  simp [keys, drop, List.filter_map, Function.comp_def]

/-- The keys of fields that are written one after the other. -/
theorem mem_keys_ofList {pairs : List (String × α)} {key : String} :
    key ∈ keys (ofList pairs) ↔ key ∈ keys pairs := by
  suffices h : ∀ fields : Fields α,
      key ∈ keys (pairs.foldl (fun fields pair => put fields pair.1 pair.2) fields) ↔
        key ∈ keys fields ∨ key ∈ keys pairs by
    simpa [ofList] using h []
  induction pairs with
  | nil => simp
  | cons pair pairs ih =>
    intro fields
    rw [List.foldl_cons, ih, keys_put, keys_cons, List.mem_cons, ← or_assoc]
    refine or_congr_left ?_
    split
    · rename_i hold
      simp only [iff_self_or]
      rintro rfl
      exact hold
    · simp

theorem nodup_keys_put {fields : Fields α} (h : (keys fields).Nodup) (key : String) (value : α) :
    (keys (put fields key value)).Nodup := by
  rw [keys_put]
  split
  · exact h
  · rename_i hk
    rw [List.nodup_append]
    refine ⟨h, by simp, ?_⟩
    intro a ha b hb
    simp only [List.mem_singleton] at hb
    rintro rfl
    exact hk (hb ▸ ha)

/-- What holds without fields and is kept by each write holds of the fields written. -/
theorem ofList_induct {motive : Fields α → Prop} {pairs : List (String × α)} (nil : motive [])
    (put : ∀ fields, motive fields → ∀ pair ∈ pairs, motive (put fields pair.1 pair.2)) :
    motive (ofList pairs) :=
  List.foldlRecOn pairs _ nil put

theorem nodup_keys_ofList (pairs : List (String × α)) : (keys (ofList pairs)).Nodup :=
  ofList_induct (motive := fun fields => (keys fields).Nodup) List.nodup_nil
    fun _ h pair _ => nodup_keys_put h pair.1 pair.2

theorem nodup_keys_drop {fields : Fields α} (h : (keys fields).Nodup) (key : String) :
    (keys (drop fields key)).Nodup := by
  rw [keys_drop]
  exact h.filter _

theorem mem_of_mem_put {fields : Fields α} {key : String} {value : α} {field : String × α}
    (h : field ∈ put fields key value) : field = (key, value) ∨ field ∈ fields := by
  induction fields with
  | nil => exact .inl (List.mem_singleton.mp h)
  | cons head rest ih =>
    obtain ⟨k, v⟩ := head
    by_cases hk : key = k
    · simp only [put, hk, if_true, List.mem_cons] at h ⊢
      exact h.imp_right .inr
    · simp only [put, hk, if_false, List.mem_cons] at h ⊢
      rcases h with h | h
      · exact .inr (.inl h)
      · exact (ih h).imp_right .inr

/-- The fields that are written one after the other are all there is. -/
theorem mem_of_mem_ofList {pairs : List (String × α)} {field : String × α}
    (h : field ∈ ofList pairs) : field ∈ pairs := by
  revert field
  refine ofList_induct (motive := fun fields => ∀ {field}, field ∈ fields → field ∈ pairs) ?_ ?_
  · intro field h
    cases h
  · intro fields hfields pair hpair field h
    rcases mem_of_mem_put h with rfl | hold
    · exact hpair
    · exact hfields hold

theorem value?_put (fields : Fields α) (key other : String) (value : α) :
    value? (put fields key value) other =
      if other = key then some value else value? fields other := by
  induction fields with
  | nil => simp [put, value?_cons]
  | cons field rest ih =>
    obtain ⟨k, v⟩ := field
    by_cases h : key = k
    · subst h
      simp only [put, if_true, value?_cons]
      split <;> rfl
    · simp only [put, h, if_false, value?_cons, ih]
      by_cases ho : other = k
      · subst ho
        simp [Ne.symm h]
      · simp [ho]

/-- Writing a value where it already is changes nothing. -/
theorem put_eq_self {fields : Fields α} {key : String} {value : α}
    (h : value? fields key = some value) : put fields key value = fields := by
  induction fields with
  | nil => cases h
  | cons field rest ih =>
    obtain ⟨k, v⟩ := field
    rw [value?_cons] at h
    by_cases hk : key = k
    · simp only [hk, if_true, Option.some.injEq] at h
      simp only [put, hk, if_true, h]
    · simp only [hk, if_false] at h
      simp only [put, hk, if_false, ih h]

/-- A write under a new key goes to the end. -/
theorem put_of_new {fields : Fields α} {key : String} (h : key ∉ keys fields) (value : α) :
    put fields key value = fields ++ [(key, value)] := by
  induction fields with
  | nil => rfl
  | cons field rest ih =>
    obtain ⟨k, v⟩ := field
    rw [keys_cons, List.mem_cons, not_or] at h
    rw [put, if_neg h.1, ih h.2]
    rfl

/-- Fields with distinct keys are as they are when written one after the other. -/
theorem ofList_eq_self {fields : Fields α} (h : (keys fields).Nodup) : ofList fields = fields := by
  suffices hfold : ∀ before : Fields α, (keys (before ++ fields)).Nodup →
      fields.foldl (fun fields pair => put fields pair.1 pair.2) before = before ++ fields from
    hfold [] h
  clear h
  induction fields with
  | nil => simp
  | cons field rest ih =>
    intro before hkeys
    have hnew : field.1 ∉ keys before := by
      intro hold
      rw [keys, List.map_append, List.nodup_append] at hkeys
      exact hkeys.2.2 field.1 hold field.1 List.mem_cons_self rfl
    rw [List.foldl_cons, put_of_new hnew, ih]
    · simp
    · simpa using hkeys

/-- Leaving fields out by their keys hides those keys and no other. -/
theorem value?_filter (fields : Fields α) (keep : String → Bool) (key : String) :
    value? (fields.filter (keep ·.1)) key = if keep key then value? fields key else none := by
  induction fields with
  | nil => simp [value?]
  | cons field rest ih =>
    rw [List.filter_cons, value?_cons]
    by_cases hkey : key = field.1
    · subst hkey
      split
      · rw [value?_cons, if_pos rfl, if_pos rfl]
      · rename_i hdropped
        rw [ih, if_neg hdropped]
    · rw [if_neg hkey, ← ih]
      split
      · rw [value?_cons, if_neg hkey]
      · rfl

theorem value?_drop (fields : Fields α) (key other : String) :
    value? (drop fields key) other = if other = key then none else value? fields other := by
  rw [drop, value?_filter fields fun name => decide (name ≠ key)]
  by_cases h : other = key <;> simp [h]

theorem value?_append (fields others : Fields α) (key : String) :
    value? (fields ++ others) key = (value? fields key).or (value? others key) :=
  List.lookup_append

/-- Leaving out a key that is not there changes nothing. -/
theorem drop_eq_self {fields : Fields α} {key : String} (h : value? fields key = none) :
    drop fields key = fields := by
  refine List.filter_eq_self.mpr fun field hfield => ?_
  have hne : key ≠ field.1 := by simpa using List.lookup_eq_none_iff.mp h field hfield
  simpa using hne.symm

theorem value?_map (fields : Fields α) (change : α → β) (key : String) :
    value? (fields.map fun field => (field.1, change field.2)) key =
      (value? fields key).map change := by
  induction fields with
  | nil => rfl
  | cons field rest ih =>
    simp only [List.map_cons, value?_cons, ih]
    split <;> rfl

/-- Where the keys are distinct, each field is found under its key. -/
theorem value?_eq_some_iff {fields : Fields α} (h : (keys fields).Nodup) {key : String}
    {value : α} : value? fields key = some value ↔ (key, value) ∈ fields := by
  induction fields with
  | nil => simp [value?]
  | cons field rest ih =>
    obtain ⟨k, v⟩ := field
    rw [keys_cons, List.nodup_cons] at h
    rw [value?_cons, List.mem_cons]
    by_cases hk : key = k
    · subst hk
      have hrest : (key, value) ∉ rest := fun hmem => h.1 (List.mem_map.mpr ⟨_, hmem, rfl⟩)
      simp [hrest, eq_comm]
    · simp [hk, ih h.2]

/-- Where the keys are distinct, the order of the fields does not matter to what is found. -/
theorem value?_of_perm {fields others : Fields α} (h : fields.Perm others)
    (hfields : (keys fields).Nodup) (key : String) : value? others key = value? fields key := by
  have hothers : (keys others).Nodup := (h.map Prod.fst).nodup_iff.mp hfields
  apply Option.ext
  intro value
  rw [value?_eq_some_iff hfields, value?_eq_some_iff hothers, h.mem_iff]

end Fields

end DocumentDb
