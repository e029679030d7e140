import DocumentDb.Proofs.Database.Operation

/-!
# Operations that fail

An operation that fails changes nothing: neither the documents of any namespace and their counters,
nor the views with their rows and totals, nor the indexes and the security object. This is not for
want of partial writes in the middle of an operation: a design document is compiled into the views
before it is stored, and documents are stored one after the other. Once the checks in front have
passed, the later steps cannot fail any more (`Database.addDesign_object`,
`Database.storeAll_objects`).
-/

namespace DocumentDb.Database

/-- An operation that fails leaves the whole database as it was. -/
theorem perform_error {db : Database} {operation : Operation} {error : Error}
    (h : (db.perform operation).1 = .error error) : (db.perform operation).2 = db := by
  have hrule := Performed.of_perform db operation
  rw [h] at hrule
  generalize (db.perform operation).2 = after at hrule ⊢
  cases hrule with
  | fails => rfl

/-- A design document whose second view has an unknown reducer is refused as a whole. -/
theorem perform_error_unknown_reducer :
    let view (reduce : String) := Json.object
      [("map", .string "doc => emit(doc.n, 1)"), ("reduce", .string reduce)]
    let design := Json.object
      [("views", .object [("total", view "_sum"), ("median", view "_median")])]
    let stamp : Stamp := ⟨⟨0⟩, ⟨1⟩⟩
    let db := (new "db").after [.addDocument (.object [("n", .int 1)]) (some "a") stamp]
    (db.perform (.addDesign design (some "numbers") stamp)).1.isOk = false ∧
      (db.perform (.addDesign design (some "numbers") stamp)).2 = db := by
  intro view design stamp db
  have hfails : (db.perform (.addDesign design (some "numbers") stamp)).1.isOk = false := by
    decide +kernel
  refine ⟨hfails, ?_⟩
  cases houtcome : (db.perform (.addDesign design (some "numbers") stamp)).1 with
  | ok answer => simp [houtcome, Except.isOk, Except.toBool] at hfails
  | error error => exact perform_error houtcome

end DocumentDb.Database
