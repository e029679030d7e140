import DocumentDb.Proofs.Database.Batches
import DocumentDb.Proofs.Database.Designs

/-!
# Stored design documents compile again

The views of a design document are compiled from the body that a call brings. The store keeps that
body, and read again it compiles to the same views: `Recompiles` says that the views of a stored
design are always those that its body compiles to, built from the documents as they are. Only a map
function that is registered breaks it, and requests register none.

So two stored designs with one body have the same views, however many writes came between them, and
the body of a stored design can always be stored under another id.
-/

namespace DocumentDb

/-! ### Bodies -/

namespace Document

/-- A design document that is stored with the body of another has that body. -/
lemma body_writtenDesign_body (document : Document) (id : String) (stamp : Stamp) :
    (writtenDesign document.body id stamp).body = document.body :=
  (bodyOf_put document.body (by decide) (.string id)).trans document.bodyOf_body

/-- Documents with one body declare the same views. -/
lemma ofJson_toJson_of_body_eq {document other : Document} (hbody : other.body = document.body)
    {design : DesignDocument} (h : DesignDocument.ofJson document.toJson = .ok design) :
    DesignDocument.ofJson other.toJson =
      .ok { design with id := other.id, revision := other.revision.map Revision.text } := by
  have hvalue {key : String} (hkey : key ∉ reservedKeys) :
      Fields.value? other.fields key = Fields.value? document.fields key := by
    rw [value?_fields other hkey, value?_fields document hkey, hbody]
  exact DesignDocument.ofJson_of_agree h other.value?_fields_id other.value?_fields_rev
    (hvalue (by decide)) (hvalue (by decide))

/-- The body of a stored design document may be stored under any id. -/
lemma ofJson_put_body {document : Document} {design : DesignDocument} (id : String)
    (h : DesignDocument.ofJson document.toJson = .ok design) :
    DesignDocument.ofJson (.object (Fields.put document.body "_id" (.string id))) =
      .ok { design with id, revision := none } := by
  have hvalue {key : String} (hkey : key ∉ reservedKeys) :
      Fields.value? (Fields.put document.body "_id" (.string id)) key =
        Fields.value? document.fields key := by
    have hid : key ≠ "_id" := by
      rintro rfl
      exact hkey (by decide)
    rw [Fields.value?_put, if_neg hid, value?_fields document hkey]
  have hid : Fields.value? (Fields.put document.body "_id" (.string id)) "_id" =
      some (.string id) := by
    rw [Fields.value?_put, if_pos rfl]
  have hrevision : Fields.value? (Fields.put document.body "_id" (.string id)) "_rev" =
      (none : Option String).map .string := by
    rw [Fields.value?_put, if_neg (by decide), value?_body_of_reserved document (by decide)]
    rfl
  exact DesignDocument.ofJson_of_agree h hid hrevision (hvalue (by decide)) (hvalue (by decide))

end Document

/-! ### The invariant -/

namespace Operation

/-- Whether requests call an operation: none of them registers a map function. -/
def OfRequest : Operation → Prop
  | registerMap _ _ _ => False
  | _ => True

/-- Whether an operation leaves design documents alone, and the programs of their views. -/
def KeepsDesigns : Operation → Prop
  | addDesign _ _ _ | createDesign _ _ _ | deleteDesign _ | registerMap _ _ _ => False
  | _ => True

lemma KeepsDesigns.ofRequest {operation : Operation} (h : operation.KeepsDesigns) :
    operation.OfRequest := by
  cases operation <;> first | exact trivial | exact h

end Operation

namespace Database

/-- The views of every stored design document are those that it compiles to when it is read again,
built from the documents as they are. -/
def Recompiles (db : Database) : Prop :=
  ∀ id document, db.store.designs.get? id = some document →
    ∃ design compiled, DesignDocument.ofJson document.toJson = .ok design ∧
      DesignViews.compile design = .ok compiled ∧
      db.views.designs.get? id = some (compiled.build db.store.documents.values)

namespace Recompiles

variable {db : Database}

lemma init (name : String) : (new name).Recompiles :=
  fun _ _ hdocument => nomatch hdocument

/-- A rebuild brings all views up to date. -/
lemma rebuild (h : db.Recompiles) {store : Store} (hdesigns : store.designs = db.store.designs) :
    ({ db with store } : Database).rebuild.Recompiles := by
  intro id document hdocument
  obtain ⟨design, compiled, hdesign, hcompiled, hviews⟩ := h id document (hdesigns ▸ hdocument)
  refine ⟨design, compiled, hdesign, hcompiled, ?_⟩
  simp only [Database.rebuild, ViewEngine.rebuildAll, Table.get?_mapValues, hviews, Option.map_some,
    DesignViews.build_build]

lemma keep (h : db.Recompiles) (document : Document) : (db.keep document).Recompiles := by
  have hdesigns := db.store.designs_keep document
  unfold Database.keep
  split
  · rename_i hlocal
    intro id design hdesign
    have hdocuments : (db.store.keep document).documents = db.store.documents := by
      rw [Store.documents_keep, if_pos hlocal]
    simp only [hdesigns, hdocuments] at hdesign ⊢
    exact h id design hdesign
  · exact h.rebuild hdesigns

/-- A design document is stored together with the views that it compiles to. -/
lemma keepDesign (h : db.Recompiles) {fields : Fields Json} {id : String} {design : DesignDocument}
    {views : ViewEngine} (stamp : Stamp)
    (hdesign : DesignDocument.ofJson (.object (Fields.put fields "_id" (.string id))) = .ok design)
    (hviews : db.views.addDesign design = .ok views) :
    (db.keepDesign (.writtenDesign fields id stamp) views).Recompiles := by
  obtain ⟨compiled, hcompiled, rfl⟩ := ViewEngine.addDesign_eq_ok_iff.mp hviews
  have hown := (DesignDocument.of_ofJson_ok hdesign).1
  intro other document hdocument
  simp only [Database.keepDesign, Store.keepDesign, Document.id_writtenDesign, Table.get?_insert,
    ViewEngine.rebuild, Table.get?_modify, hown] at hdocument ⊢
  split at hdocument
  · rename_i hother
    cases hdocument
    refine ⟨_, compiled, DesignDocument.ofJson_writtenDesign stamp hdesign, hcompiled, ?_⟩
    simp only [hother, if_true, Option.map_some]
  · rename_i hother
    simp only [hother, if_false]
    exact h other document hdocument

/-- The operations that requests call leave every stored design compiling to its views. -/
lemma performed (h : db.Recompiles) {operation : Operation} {answer : Except Error Answer}
    {after : Database} (hrule : Performed db operation answer after)
    (hrequest : operation.OfRequest) : after.Recompiles := by
  cases hrule with
  | fails operation error => exact h
  | addDocument | createDocument | deleteDocument | putLocal => exact h.keep _
  | addDocuments bodies stamps hbodies => exact h.rebuild (Store.designs_keepAll db.store _)
  | addDesign fields given stamp id design views hid hdesign hviews =>
    exact h.keepDesign stamp hdesign hviews
  | createDesign fields given stamp id design views hfree hid hdesign hviews =>
    exact h.keepDesign stamp hdesign hviews
  | deleteDesign id document hdesign =>
    intro other kept hkept
    simp only [Store.removeDesign, ViewEngine.removeDesign, Table.get?_erase] at hkept ⊢
    split at hkept
    · cases hkept
    · rename_i hother
      simp only [hother, if_false]
      exact h other kept hkept
  | registerMap => exact hrequest.elim
  | deleteLocal | addIndex | deleteIndex | setSecurity => exact h

/-- Stored designs with one body have the same views. -/
lemma views_eq (h : db.Recompiles) {id other : String} {document copy : Document}
    (hdocument : db.store.designs.get? id = some document)
    (hcopy : db.store.designs.get? other = some copy) (hbody : copy.body = document.body) :
    db.views.designs.get? other = db.views.designs.get? id := by
  obtain ⟨design, compiled, hdesign, hcompiled, hviews⟩ := h id document hdocument
  obtain ⟨read, compiled', hread, hcompiled', hviews'⟩ := h other copy hcopy
  -- The id and the revision, in which the designs differ, have no part in their views.
  obtain rfl := Except.ok.inj (hread.symm.trans (Document.ofJson_toJson_of_body_eq hbody hdesign))
  obtain rfl : compiled' = compiled := Except.ok.inj (hcompiled'.symm.trans hcompiled)
  rw [hviews, hviews']

end Recompiles

/-- Operations that leave design documents alone do so. -/
lemma Performed.designs_eq {db after : Database} {operation : Operation}
    {answer : Except Error Answer} (hrule : Performed db operation answer after)
    (hkeeps : operation.KeepsDesigns) : after.store.designs = db.store.designs := by
  cases hrule with
  | fails operation error => rfl
  | addDocument | createDocument | deleteDocument | putLocal =>
    rw [store_keep, Store.designs_keep]
  | addDocuments bodies stamps hbodies => exact Store.designs_keepAll db.store _
  | addDesign | createDesign | deleteDesign | registerMap => exact hkeeps.elim
  | deleteLocal | addIndex | deleteIndex | setSecurity => rfl

/-! ### Copies -/

/-- What storing the body of a design document under another id does: there is a copy of the design
document under that id, and nothing else is changed. -/
structure CopiedDesign (db after : Database) (document : Document) (target : String) : Prop where
  copy : ∃ copy, after.store.designs.get? target = some copy ∧ copy.id = target ∧
    copy.body = document.body
  designs : ∀ other ≠ target, after.store.designs.get? other = db.store.designs.get? other ∧
    after.views.designs.get? other = db.views.designs.get? other
  frame : after =
    { db with store := { db.store with designs := after.store.designs }, views := after.views }

/-- The body of a stored design document can be stored under any other id: it compiles. -/
lemma Recompiles.createDesign_body {db : Database} (h : db.Recompiles) {id target : String}
    {document : Document} (hdocument : db.store.designs.get? id = some document)
    (htarget : DocId.isDesign target = true) (hfree : db.store.designs.get? target = none)
    (stamp : Stamp) :
    ∃ copy, (db.createDesign (.object document.body) (some target) stamp).1 = .ok copy ∧
      db.CopiedDesign (db.createDesign (.object document.body) (some target) stamp).2 document
        target := by
  obtain ⟨design, compiled, hdesign, hcompiled, -⟩ := h id document hdocument
  have hnoId : Fields.value? document.body "_id" = none :=
    document.value?_body_of_reserved (by decide)
  have hrequested : (requestedId (.object document.body) ((some target).map DocId.toDesign)).filter
      db.store.designs.contains = none := by
    simp [requestedId, Json.field?, hnoId, DocId.toDesign_of_isDesign htarget, Table.contains,
      hfree]
  have hid : designIdFor document.body (some target) = .ok target := by
    simp [designIdFor, hnoId, DocId.toDesign_of_isDesign htarget]
  have hcopied := Document.ofJson_put_body target hdesign
  have hviews : db.views.addDesign { design with id := target, revision := none } =
      .ok ⟨db.views.designs.insert target compiled⟩ :=
    ViewEngine.addDesign_eq_ok_iff.mpr ⟨compiled, hcompiled, rfl⟩
  have hcreate : db.createDesign (.object document.body) (some target) stamp =
      (.ok (.writtenDesign document.body target stamp),
        db.keepDesign (.writtenDesign document.body target stamp)
          ⟨db.views.designs.insert target compiled⟩) := by
    rw [createDesign, hrequested]
    exact addDesign_object db stamp hid hcopied hviews
  rw [hcreate]
  refine ⟨_, rfl, ⟨.writtenDesign document.body target stamp, ?_,
    Document.id_writtenDesign document.body target stamp,
    document.body_writtenDesign_body target stamp⟩, fun other hother => ⟨?_, ?_⟩, rfl⟩
  · simp [Database.keepDesign, Store.keepDesign, Table.get?_insert]
  · simp [Database.keepDesign, Store.keepDesign, Table.get?_insert, hother]
  · simp [Database.keepDesign, ViewEngine.rebuild, Table.get?_modify, Table.get?_insert, hother]

/-- Two design documents whose views cannot be told apart: every query of a view has the same
result, and the reports say the same of the language and the number of views. -/
structure Twins (db : Database) (first second : String) : Prop where
  view : ∀ view query, db.view second view query = db.view first view query
  info : ∃ info info', db.designInfo first = .ok info ∧ db.designInfo second = .ok info' ∧
    info'.language = info.language ∧ info'.views = info.views

lemma designInfo_of_compiled {db : Database} {id : String} {compiled : DesignViews}
    (h : db.views.designs.get? (DocId.toDesign id) = some compiled) :
    db.designInfo id =
      .ok ⟨DocId.designName (DocId.toDesign id), compiled.language, compiled.views.size⟩ := by
  rw [designInfo, ViewEngine.info?, h]
  rfl

/-- Stored design documents with one body are twins. -/
lemma Recompiles.twins {db : Database} (h : db.Recompiles) {first second : String}
    {document copy : Document} (hdocument : db.design? first = some document)
    (hcopy : db.design? second = some copy) (hbody : copy.body = document.body) :
    db.Twins first second := by
  obtain ⟨design, compiled, -, -, hviews⟩ := h _ document hdocument
  have hsame := h.views_eq hdocument hcopy hbody
  refine ⟨fun view query => ?view, _, _, designInfo_of_compiled hviews,
    designInfo_of_compiled (hsame.trans hviews), rfl, rfl⟩
  case view => rw [Database.view, Database.view, ViewEngine.query, ViewEngine.query, hsame, hviews]

end Database

end DocumentDb
