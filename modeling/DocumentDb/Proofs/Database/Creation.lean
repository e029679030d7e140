import DocumentDb.Proofs.Database.Namespaces

/-!
# Creation of documents

A create looks up the id that its body or its call asks for, and the store then resolves the id of
the document by rules of its own. The two agree on every body but one whose `_id` is the empty
string: the look-up is for the empty id, but the store takes the id of the call, or the random one
where the call has none. So a create replaces a stored document where such a body meets an id that
is taken, and else only where the random id itself is taken.
-/

namespace DocumentDb.Database

/-- The `_id` of a body, where it is a string. -/
def ownId? (fields : Fields Json) : Option String := (Fields.value? fields "_id").bind Json.string?

lemma ownId?_eq_some_iff {fields : Fields Json} {own : String} :
    ownId? fields = some own ↔ Fields.value? fields "_id" = some (.string own) :=
  Json.bind_string?_eq_some_iff

/-- The id that is looked up by a create. -/
lemma requestedId_object (fields : Fields Json) (id : Option String) :
    requestedId (.object fields) id = (ownId? fields).orElse fun _ => id := rfl

/-- The id under which the document is stored. -/
lemma id_written (fields : Fields Json) (id : Option String) (stamp : Stamp) :
    (Document.written fields id stamp).id =
      if ((ownId? fields).getD "").isEmpty then id.getD stamp.id.hyphenated
      else (ownId? fields).getD "" := rfl

/-- The id looked up is the id written, unless the body has the empty string as its `_id`. -/
lemma id_written_eq_requestedId {fields : Fields Json} (hempty : ownId? fields ≠ some "")
    (id : Option String) (stamp : Stamp) :
    (Document.written fields id stamp).id =
      (requestedId (.object fields) id).getD stamp.id.hyphenated := by
  rw [id_written, requestedId_object]
  cases hown : ownId? fields with
  | none => rfl
  | some own =>
    have hne : own.isEmpty = false := by
      rw [Bool.eq_false_iff]
      intro h
      exact hempty (by rw [hown, String.isEmpty_iff.mp h])
    simp only [Option.getD_some, hne, Bool.false_eq_true, if_false]
    rfl

/-- A body with the empty string as its `_id` is stored under the id of the call. -/
lemma id_written_of_empty {fields : Fields Json} (hempty : ownId? fields = some "")
    (id : Option String) (stamp : Stamp) :
    (Document.written fields id stamp).id = id.getD stamp.id.hyphenated := by
  rw [id_written, hempty]
  rfl

/-- A create succeeds on objects whose requested id is free, and then stores them. -/
lemma createDocument_eq_ok_iff {db after : Database} {body : Json} {id : Option String}
    {stamp : Stamp} {document : Document} :
    db.createDocument body id stamp = (.ok document, after) ↔
      ∃ fields, body = .object fields ∧
        (requestedId body id).filter db.store.documents.contains = none ∧
        document = .written fields id stamp ∧ after = db.keep (.written fields id stamp) := by
  cases htaken : (requestedId body id).filter db.store.documents.contains with
  | some taken => simp [createDocument, htaken]
  | none =>
    cases hbody : body.isObject with
    | false =>
      have hfields : ∀ fields, body ≠ .object fields := by
        rintro fields rfl
        cases hbody
      simp [createDocument, htaken, addDocument_of_not_object db hbody, hfields]
    | true =>
      obtain ⟨fields, rfl⟩ := Json.isObject_iff.mp hbody
      simp [createDocument, htaken, addDocument_object, eq_comm]

/-- An id that is taken in the regular namespace is no id of a local document. -/
lemma Reachable.not_isLocal {db : Database} (h : db.Reachable) {id : String}
    (htaken : db.store.documents.contains id = true) : DocId.isLocal id = false := by
  obtain ⟨document, hdocument⟩ := Table.contains_iff.mp htaken
  obtain ⟨rfl, hlocal⟩ := h.regular id document hdocument
  exact hlocal

/-- A create that succeeds replaces a regular document in two cases only: the `_id` of the body is
the empty string, which hides from the look-up that the id of the call or the random one is taken;
or no id is asked for and the random one is taken. In all other cases the id looked up is the id
written. -/
theorem createDocument_overwrites_iff {db : Database} (hdb : db.Reachable) (body : Json)
    (id : Option String) (stamp : Stamp) :
    ((∃ document after, db.createDocument body id stamp = (.ok document, after) ∧
        document.isLocal = false ∧ db.store.documents.contains document.id = true) ↔
      body.isObject = true ∧
        (body.field? "_id" = some (.string "") ∧ db.store.documents.contains "" = false ∧
            db.store.documents.contains (id.getD stamp.id.hyphenated) = true ∨
          requestedId body id = none ∧
            db.store.documents.contains stamp.id.hyphenated = true)) ∧
      ∀ document after, db.createDocument body id stamp = (.ok document, after) →
        body.field? "_id" ≠ some (.string "") →
        document.id = (requestedId body id).getD stamp.id.hyphenated := by
  refine ⟨⟨?replaces, ?taken⟩, ?same⟩
  case replaces =>
    rintro ⟨document, after, hcreate, -, htaken⟩
    obtain ⟨fields, rfl, hfree, rfl, -⟩ := createDocument_eq_ok_iff.mp hcreate
    refine ⟨rfl, ?_⟩
    by_cases hempty : ownId? fields = some ""
    · refine .inl ⟨ownId?_eq_some_iff.mp hempty, ?_, ?_⟩
      · rw [requestedId_object, hempty] at hfree
        simpa using hfree
      · rwa [id_written_of_empty hempty] at htaken
    · -- The id written is the one looked up, which was free unless there was none.
      rw [id_written_eq_requestedId hempty] at htaken
      refine .inr ?_
      cases hrequested : requestedId (.object fields) id with
      | none =>
        rw [hrequested] at htaken
        exact ⟨rfl, htaken⟩
      | some own =>
        rw [hrequested] at hfree htaken
        exact absurd htaken (Option.filter_eq_none_iff.mp hfree own rfl)
  case taken =>
    rintro ⟨hobject, hcase⟩
    obtain ⟨fields, rfl⟩ := Json.isObject_iff.mp hobject
    have hid : db.store.documents.contains (Document.written fields id stamp).id = true := by
      rcases hcase with ⟨hempty, -, htaken⟩ | ⟨hnone, htaken⟩
      · rwa [id_written_of_empty (ownId?_eq_some_iff.mpr hempty)]
      · have hempty : ownId? fields ≠ some "" := by
          intro hempty
          simp [requestedId_object, hempty] at hnone
        rwa [id_written_eq_requestedId hempty, hnone]
    have hfree : (requestedId (.object fields) id).filter db.store.documents.contains = none := by
      rcases hcase with ⟨hempty, hfree, -⟩ | ⟨hnone, -⟩
      · rw [requestedId_object, ownId?_eq_some_iff.mpr hempty]
        simpa using hfree
      · rw [hnone]
        rfl
    exact ⟨_, _, createDocument_eq_ok_iff.mpr ⟨fields, rfl, hfree, rfl, rfl⟩,
      hdb.not_isLocal hid, hid⟩
  case same =>
    intro document after hcreate hempty
    obtain ⟨fields, rfl, -, rfl, -⟩ := createDocument_eq_ok_iff.mp hcreate
    exact id_written_eq_requestedId (fun h => hempty (ownId?_eq_some_iff.mp h)) id stamp

/-- With `a` stored, a body with the empty string as its `_id` replaces it. -/
theorem createDocument_overwrites_stored :
    let stamp : Stamp := ⟨⟨0⟩, ⟨1⟩⟩
    let db := (new "db").after [.createDocument (.object [("v", .int 1)]) (some "a") stamp]
    db.Reachable ∧ ∃ document after,
      db.createDocument (.object [("_id", .string ""), ("v", .int 2)]) (some "a") stamp =
          (.ok document, after) ∧
        document.isLocal = false ∧ db.store.documents.contains document.id = true := by
  intro stamp db
  have hdb : db.Reachable := ⟨_, _, rfl⟩
  refine ⟨hdb, (createDocument_overwrites_iff hdb _ _ _).1.mpr ⟨rfl, .inl ⟨rfl, ?_, ?_⟩⟩⟩
  · decide +kernel
  · decide +kernel

/-- A create need not spare what is stored: this one succeeds under an id that is taken. -/
theorem not_createDocument_new :
    ¬ ∀ (db : Database) (body : Json) (id : Option String) (stamp : Stamp) (document : Document)
        (after : Database), db.Reachable →
      db.createDocument body id stamp = (.ok document, after) → document.isLocal = false →
      db.store.documents.contains document.id = false := by
  intro hnew
  let stamp : Stamp := ⟨⟨0⟩, ⟨1⟩⟩
  let fields : Fields Json := [("_id", .string ""), ("v", .int 2)]
  let db := (new "db").after [.createDocument (.object [("v", .int 1)]) (some "a") stamp]
  have hfree : (requestedId (.object fields) (some "a")).filter db.store.documents.contains =
      none := by
    decide +kernel
  have hcreate : db.createDocument (.object fields) (some "a") stamp =
      (.ok (.written fields (some "a") stamp), _) :=
    createDocument_eq_ok_iff.mpr ⟨fields, rfl, hfree, rfl, rfl⟩
  have hlocal : (Document.written fields (some "a") stamp).isLocal = false := by decide +kernel
  have htaken : db.store.documents.contains (Document.written fields (some "a") stamp).id = true :=
    by decide +kernel
  have hspared := hnew db _ _ _ _ _ ⟨_, _, rfl⟩ hcreate hlocal
  rw [htaken] at hspared
  cases hspared

end DocumentDb.Database
