import DocumentDb.Proofs.Database.Operation

/-!
# The namespaces of a reachable database

Whatever calls lead to a database, each of its regular documents is under its own id, and none of
them has the id of a local document.
-/

namespace DocumentDb.Database

@[simp] lemma store_keep (db : Database) (document : Document) :
    (db.keep document).store = db.store.keep document := by
  unfold keep
  split <;> rfl

@[simp] lemma store_keepAll (db : Database) (documents : List Document) :
    (db.keepAll documents).store = documents.foldl Store.keep db.store := rfl

/-- No operation puts a document into the regular namespace that does not belong there. -/
lemma Performed.regular {db after : Database} {operation : Operation}
    {answer : Except Error Answer} (h : Performed db operation answer after)
    (hdb : db.store.Regular) : after.store.Regular := by
  cases h with
  | fails operation error => exact hdb
  | addDocument | createDocument | deleteDocument | putLocal =>
    rw [store_keep]
    exact hdb.keep _
  | addDocuments bodies stamps hbodies =>
    rw [store_keepAll]
    exact hdb.keepAll _
  | deleteLocal | addDesign | createDesign | deleteDesign => exact hdb.of_documents_eq rfl
  | registerMap | addIndex | deleteIndex | setSecurity => exact hdb

lemma Reachable.regular {db : Database} (h : db.Reachable) : db.store.Regular := by
  refine Reachable.induct (motive := fun db => db.store.Regular) ?_ ?_ h
  · intro name
    exact Store.regular_empty
  intro db operation hdb
  exact (Performed.of_perform db operation).regular hdb

end DocumentDb.Database
