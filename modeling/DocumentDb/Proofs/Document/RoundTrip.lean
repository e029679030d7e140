import DocumentDb.Document.Basic
import Mathlib.Tactic.Common

/-!
# Documents and their JSON

Reading a document takes the reserved fields out of an object, and rendering it puts them around the
body again. The fields of the body keep their values and their order both ways, so a document that
is rendered and read again is the same but for its revision, which is not read.
-/

namespace DocumentDb.Document

variable {fields : Fields Json} {key : String}

/-! ### Bodies -/

lemma value?_bodyOf (fields : Fields Json) (hkey : key ∉ reservedKeys) :
    Fields.value? (bodyOf fields) key = Fields.value? fields key := by
  rw [bodyOf, Fields.value?_filter fields fun name => decide (name ∉ reservedKeys)]
  simp [hkey]

/-- A reserved field is no part of the body. -/
lemma bodyOf_put (fields : Fields Json) (hkey : key ∈ reservedKeys) (value : Json) :
    bodyOf (Fields.put fields key value) = bodyOf fields := by
  induction fields with
  | nil => simp [bodyOf, Fields.put, hkey]
  | cons field fields ih =>
    obtain ⟨other, old⟩ := field
    rw [Fields.put]
    split
    · rename_i hother
      subst hother
      simp [bodyOf, hkey]
    · simp only [bodyOf, List.filter_cons] at ih ⊢
      rw [ih]

lemma bodyOf_body (document : Document) : bodyOf document.body = document.body := by
  refine List.filter_eq_self.mpr fun field hfield => decide_eq_true ?_
  exact document.not_reserved field.1 (List.mem_map_of_mem hfield)

lemma value?_body_of_reserved (document : Document) (hkey : key ∈ reservedKeys) :
    Fields.value? document.body key = none := by
  rw [← Option.not_isSome_iff_eq_none, Fields.isSome_value?_iff]
  exact fun hin => document.not_reserved key hin hkey

/-- The reserved fields can be left out one after the other. -/
lemma bodyOf_eq_drop (fields : Fields Json) :
    bodyOf fields = Fields.drop (Fields.drop (Fields.drop fields "_id") "_rev") "_deleted" := by
  simp only [bodyOf, Fields.drop, List.filter_filter]
  refine List.filter_congr fun field _ => ?_
  simp [reservedKeys, Bool.and_comm, Bool.and_left_comm]

/-! ### Fields of documents -/

lemma value?_fields_id (document : Document) :
    Fields.value? document.fields "_id" = some (.string document.id) := rfl

lemma value?_fields_rev (document : Document) :
    Fields.value? document.fields "_rev" = (document.revision.map Revision.text).map .string := by
  rw [fields, Fields.value?_append, Fields.value?_append, Fields.value?_append,
    value?_body_of_reserved document (by decide)]
  cases document.revision with
  | none => cases document.deleted <;> rfl
  | some revision => rfl

lemma value?_fields_deleted (document : Document) :
    Fields.value? document.fields "_deleted" =
      if document.deleted then some (.bool true) else none := by
  rw [fields, Fields.value?_append, Fields.value?_append, Fields.value?_append,
    value?_body_of_reserved document (by decide)]
  cases document.revision <;> cases document.deleted <;> rfl

/-- The fields of a document that are not reserved are those of its body. -/
lemma bodyOf_fields (document : Document) : bodyOf document.fields = document.body := by
  have hbody := document.bodyOf_body
  simp only [bodyOf] at hbody
  simp only [bodyOf, fields, List.filter_append, hbody]
  cases document.revision <;> cases document.deleted <;> simp [reservedKeys]

lemma value?_fields (document : Document) (hkey : key ∉ reservedKeys) :
    Fields.value? document.fields key = Fields.value? document.body key := by
  rw [← value?_bodyOf document.fields hkey, bodyOf_fields]

lemma nodup_keys_fields {document : Document} (h : (Fields.keys document.body).Nodup) :
    (Fields.keys document.fields).Nodup := by
  have hkeys : Fields.keys document.fields =
      "_id" :: ((document.revision.map fun _ => "_rev").toList ++ Fields.keys document.body ++
        if document.deleted then ["_deleted"] else []) := by
    simp only [Fields.keys, fields, List.map_append, List.map_cons]
    cases document.revision <;> cases document.deleted <;> rfl
  have hreserved (key : String) (hkey : key ∈ reservedKeys) : key ∉ Fields.keys document.body :=
    fun hin => document.not_reserved key hin hkey
  have hid := hreserved "_id" (by decide)
  have hrev := hreserved "_rev" (by decide)
  have hdeleted : ∀ key ∈ Fields.keys document.body, key ≠ "_deleted" :=
    fun key hkey => ne_of_mem_of_not_mem hkey (hreserved _ (by decide))
  rw [hkeys]
  cases document.deleted with
  | false => cases document.revision <;> simp [h, hid, hrev]
  | true => cases document.revision <;> simpa [List.nodup_append, h, hid, hrev] using hdeleted

/-! ### Reading a document back -/

/-- What a document that is read takes from the fields of an object. -/
structure Takes (document : Document) (fields : Fields Json) : Prop where
  /-- The body has all fields but the reserved ones, with their values -/
  value?_body : ∀ key, Fields.value? document.body key =
    if key ∈ reservedKeys then none else Fields.value? fields key
  /-- and in their order, as they are left when the reserved ones are removed in turn. -/
  order : document.body.Sublist fields
  body : document.body = Fields.drop (Fields.drop (Fields.drop fields "_id") "_rev") "_deleted"
  /-- The id is the `_id` where that is a string, -/
  id_of_string : ∀ id, Fields.value? fields "_id" = some (.string id) → document.id = id
  /-- and empty where it is not. -/
  id_of_other : (∀ id, Fields.value? fields "_id" ≠ some (.string id)) → document.id = ""
  deleted : document.deleted = Json.truthy (Fields.value? fields "_deleted")
  revision : document.revision = none

lemma ofFields_takes (fields : Fields Json) : (ofFields fields).Takes fields := by
  constructor
  case value?_body =>
    intro key
    show Fields.value? (bodyOf fields) key = _
    rw [bodyOf, Fields.value?_filter fields fun name => decide (name ∉ reservedKeys)]
    by_cases hkey : key ∈ reservedKeys <;> simp [hkey]
  case order => exact List.filter_sublist
  case body => exact bodyOf_eq_drop fields
  case id_of_string =>
    intro id hid
    simp [ofFields, hid, Json.string?]
  case id_of_other =>
    intro hid
    have hnone : (Fields.value? fields "_id").bind Json.string? = none := by
      apply Option.eq_none_iff_forall_ne_some.mpr
      intro id hstring
      exact hid id (Json.bind_string?_eq_some_iff.mp hstring)
    simp [ofFields, hnone]
  case deleted => rfl
  case revision => rfl

/-- A document that is rendered and read again is the same without its revision. -/
lemma ofFields_fields (document : Document) :
    ofFields document.fields = { document with revision := none } := by
  have hdeleted : Json.truthy (Fields.value? document.fields "_deleted") = document.deleted := by
    rw [value?_fields_deleted]
    cases document.deleted <;> rfl
  simp only [ofFields, value?_fields_id, hdeleted, bodyOf_fields]
  rfl

/-- Documents survive their JSON: every object is read as a document that takes its fields, a
document is read back from its JSON without its revision and no field of it overwrites another, and
so rendering what was read and reading it again changes nothing. -/
theorem ofJson?_roundTrip :
    (∀ fields : Fields Json, ∃ document,
      ofJson? (.object fields) = some document ∧ document.Takes fields) ∧
    (∀ document : Document, ofJson? document.toJson = some { document with revision := none }) ∧
    (∀ document : Document, (Fields.keys document.body).Nodup →
      Fields.ofList document.fields = document.fields) ∧
    ∀ value, (ofJson? value).bind (fun document => ofJson? document.toJson) = ofJson? value := by
  have hread (document : Document) :
      ofJson? document.toJson = some { document with revision := none } :=
    congrArg some document.ofFields_fields
  refine ⟨?read, hread, ?written, ?again⟩
  case read => exact fun fields => ⟨ofFields fields, rfl, ofFields_takes fields⟩
  case written => exact fun document h => Fields.ofList_eq_self (nodup_keys_fields h)
  case again =>
    intro value
    cases value with
    | object fields => exact hread (ofFields fields)
    | null | bool | number | string | array => rfl

/-- A tombstone with a revision is rendered with all three reserved fields and read back. -/
theorem ofJson?_roundTrip_tombstone :
    let document : Document :=
      ⟨"a", some ⟨1, "0"⟩, true, [("v", .int 1), ("w", .null)], by decide⟩
    (Fields.keys document.body).Nodup ∧ Fields.ofList document.fields = document.fields ∧
      ofJson? document.toJson = some { document with revision := none } := by
  intro document
  have hkeys : (Fields.keys document.body).Nodup := by decide
  obtain ⟨-, hread, hwritten, -⟩ := ofJson?_roundTrip
  exact ⟨hkeys, hwritten document hkeys, hread document⟩

end DocumentDb.Document
