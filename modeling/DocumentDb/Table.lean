import DocumentDb.Fields

/-!
# Tables

A `Table α` holds values under distinct string keys, in the order in which the keys were first
written. Overwriting a key keeps its position; a key that is erased and written again comes last.
-/

namespace DocumentDb

universe u v

variable {α : Type u} {β : Type v}

/-- Values under distinct keys, in the order of first writing. -/
structure Table (α : Type u) where
  entries : Fields α
  nodup : (Fields.keys entries).Nodup

namespace Table

/-- The table without entries. -/
def empty : Table α := ⟨[], by simp⟩

instance : Inhabited (Table α) := ⟨empty⟩

/-- The value under a key. -/
def get? (table : Table α) (key : String) : Option α := Fields.value? table.entries key

/-- Whether a key is present. -/
def contains (table : Table α) (key : String) : Bool := (table.get? key).isSome

/-- Write a value: in place where the key is present, else at the end. -/
def insert (table : Table α) (key : String) (value : α) : Table α :=
  ⟨Fields.put table.entries key value, Fields.nodup_keys_put table.nodup key value⟩

/-- Remove a key, keeping the order of the others. -/
def erase (table : Table α) (key : String) : Table α :=
  ⟨Fields.drop table.entries key, Fields.nodup_keys_drop table.nodup key⟩

/-- The keys, in order. -/
def keys (table : Table α) : List String := Fields.keys table.entries

/-- The values, in the order of their keys. -/
def values (table : Table α) : List α := table.entries.map Prod.snd

/-- The number of entries. -/
def size (table : Table α) : Nat := table.entries.length

/-- Change every value, keeping the keys. -/
def mapValues (table : Table α) (change : α → β) : Table β where
  entries := table.entries.map fun entry => (entry.1, change entry.2)
  nodup := by
    have h := table.nodup
    simp only [Fields.keys, List.map_map, Function.comp_def] at h ⊢
    exact h

/-- Change the value under a key, where there is one. -/
def modify (table : Table α) (key : String) (change : α → α) : Table α :=
  match table.get? key with
  | some value => table.insert key (change value)
  | none => table

@[simp] theorem get?_empty (key : String) : (empty : Table α).get? key = none := rfl

theorem get?_insert (table : Table α) (key other : String) (value : α) :
    (table.insert key value).get? other = if other = key then some value else table.get? other :=
  Fields.value?_put table.entries key other value

/-- A write keeps the keys in their places and appends the key where it is new. -/
theorem keys_insert (table : Table α) (key : String) (value : α) :
    (table.insert key value).keys = if key ∈ table.keys then table.keys else table.keys ++ [key] :=
  Fields.keys_put table.entries key value

/-- Writing a value where it already is changes nothing. -/
theorem insert_eq_self {table : Table α} {key : String} {value : α}
    (h : table.get? key = some value) : table.insert key value = table := by
  cases table
  simp only [insert, mk.injEq]
  exact Fields.put_eq_self h

theorem get?_erase (table : Table α) (key other : String) :
    (table.erase key).get? other = if other = key then none else table.get? other :=
  Fields.value?_drop table.entries key other

/-- Erasing a key that is not there changes nothing. -/
theorem erase_eq_self {table : Table α} {key : String} (h : table.get? key = none) :
    table.erase key = table := by
  cases table
  simp only [erase, mk.injEq]
  exact Fields.drop_eq_self h

/-- What holds of the entries of a table and of a new one holds after the new one is written. -/
theorem forall_get?_insert {table : Table α} {p : String → α → Prop}
    (h : ∀ key value, table.get? key = some value → p key value) {key : String} {value : α}
    (hnew : p key value) :
    ∀ other found, (table.insert key value).get? other = some found → p other found := by
  intro other found hfound
  rw [get?_insert] at hfound
  split at hfound
  · rename_i hother
    cases hfound
    exact hother ▸ hnew
  · exact h other found hfound

/-- What holds of the entries of a table holds of those that are left after one is erased. -/
theorem forall_get?_erase {table : Table α} {p : String → α → Prop}
    (h : ∀ key value, table.get? key = some value → p key value) (key : String) :
    ∀ other found, (table.erase key).get? other = some found → p other found := by
  intro other found hfound
  rw [get?_erase] at hfound
  split at hfound
  · cases hfound
  · exact h other found hfound

theorem get?_mapValues (table : Table α) (change : α → β) (key : String) :
    (table.mapValues change).get? key = (table.get? key).map change :=
  Fields.value?_map table.entries change key

theorem keys_mapValues (table : Table α) (change : α → β) :
    (table.mapValues change).keys = table.keys := by
  simp [keys, mapValues, Fields.keys, Function.comp_def]

theorem mapValues_mapValues {γ : Type u} (table : Table α) (change : α → β) (next : β → γ) :
    (table.mapValues change).mapValues next = table.mapValues (next ∘ change) := by
  simp [mapValues, Function.comp_def]

/-- A change that leaves every value as it is leaves the table as it is. -/
theorem mapValues_eq_self {table : Table α} {change : α → α}
    (h : ∀ key value, table.get? key = some value → change value = value) :
    table.mapValues change = table := by
  have hentries : (table.entries.map fun entry => (entry.1, change entry.2)) = table.entries := by
    refine (List.map_congr_left fun entry hentry => ?_).trans (List.map_id table.entries)
    rw [h entry.1 entry.2 ((Fields.value?_eq_some_iff table.nodup).mpr hentry), id]
  cases table
  simp only [mapValues, hentries]

theorem keys_modify (table : Table α) (key : String) (change : α → α) :
    (table.modify key change).keys = table.keys := by
  unfold modify
  split
  · rename_i value h
    have hkey : key ∈ table.keys := by
      rw [keys, ← Fields.isSome_value?_iff, ← get?, h]
      rfl
    rw [keys_insert, if_pos hkey]
  · rfl

theorem get?_modify (table : Table α) (key other : String) (change : α → α) :
    (table.modify key change).get? other =
      if other = key then (table.get? other).map change else table.get? other := by
  unfold modify
  split
  · rename_i value h
    rw [get?_insert]
    split <;> simp_all
  · split <;> simp_all

theorem mem_values_iff {table : Table α} {value : α} :
    value ∈ table.values ↔ ∃ key, table.get? key = some value := by
  simp only [values, List.mem_map, get?, Fields.value?_eq_some_iff table.nodup]
  constructor
  · rintro ⟨⟨key, value⟩, hmem, rfl⟩
    exact ⟨key, hmem⟩
  · rintro ⟨key, hmem⟩
    exact ⟨(key, value), hmem, rfl⟩

/-- Where every value tells its key, the values tell the keys in order. -/
theorem map_values_eq_keys {table : Table α} {key : α → String}
    (h : ∀ k value, table.get? k = some value → key value = k) :
    table.values.map key = table.keys := by
  rw [values, keys, Fields.keys, List.map_map]
  refine List.map_congr_left fun entry hentry => ?_
  exact h entry.1 entry.2 ((Fields.value?_eq_some_iff table.nodup).mpr hentry)

theorem contains_iff {table : Table α} {key : String} :
    table.contains key = true ↔ ∃ value, table.get? key = some value :=
  Option.isSome_iff_exists

end Table

end DocumentDb
