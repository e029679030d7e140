import DocumentDb.Proofs.Store.Writes
import Mathlib.Data.List.Nodup
import Mathlib.Data.List.Perm.Subperm

/-!
# The regular documents replay the log of writes

A store keeps no history, but its regular namespace tells what its history was. After any calls the
regular documents are those that were written last under each id, in the order of the first writes
of the ids, and the counters count all writes of live documents and of tombstones. The log of writes
is read off the calls and their answers alone (`StoreCall.log`).

`ReplayOf` is the invariant: a write of a regular document adds that document to the log, and no
other call touches the regular documents or the counters.
-/

namespace DocumentDb

/-! ### Calls and their answers -/

/-- A call of an operation that changes a store. -/
inductive StoreCall
  | add (body : Json) (id : Option String) (stamp : Stamp)
  | putDesign (body : Json) (id : Option String) (stamp : Stamp)
  | removeDesign (id : String)
  | removeLocal (id : String)

/-- What a call answers: the document that it stored, or the one that it removed. -/
inductive StoreAnswer
  | stored (outcome : Except Error Document)
  | removed (found : Option Document)

namespace Store

/-- Carry a call out. -/
def perform (store : Store) : StoreCall → StoreAnswer × Store
  | .add body id stamp =>
    let (outcome, store) := store.add body id stamp
    (.stored outcome, store)
  | .putDesign body id stamp =>
    let (outcome, store) := store.putDesign body id stamp
    (.stored outcome, store)
  | .removeDesign id =>
    let (found, store) := store.removeDesign id
    (.removed found, store)
  | .removeLocal id =>
    let (found, store) := store.removeLocal id
    (.removed found, store)

/-- The store after calls, one after the other, whether they succeed or fail. -/
def after (store : Store) (calls : List StoreCall) : Store :=
  calls.foldl (fun store call => (store.perform call).2) store

/-- The calls with what each of them answers. -/
def transcript (store : Store) : List StoreCall → List (StoreCall × StoreAnswer)
  | [] => []
  | call :: calls => (call, (store.perform call).1) :: transcript (store.perform call).2 calls

end Store

namespace StoreCall

/-- The regular document that an answered call has written. -/
def written? : StoreCall × StoreAnswer → Option Document
  | (.add _ _ _, .stored (.ok document)) => if document.isLocal then none else some document
  | _ => none

/-- The regular documents that answered calls have written, in order. -/
def log (transcript : List (StoreCall × StoreAnswer)) : List Document :=
  transcript.filterMap written?

end StoreCall

namespace Store

/-! ### The invariant -/

/-- The regular namespace replays a log of writes. -/
structure ReplayOf (log : List Document) (store : Store) : Prop where
  /-- The ids stored are those written. -/
  mem_keys : ∀ id, id ∈ store.documents.keys ↔ id ∈ log.map Document.id
  /-- They come in the order of their first writes. -/
  ordered : store.documents.keys.Pairwise fun a b =>
    (log.map Document.id).idxOf a < (log.map Document.id).idxOf b
  /-- Under each id is the document that was written last. -/
  last : ∀ id, store.documents.get? id = (log.filter (·.id == id)).getLast?
  liveWrites : store.liveWrites = log.countP (!·.deleted)
  deletedWrites : store.deletedWrites = log.countP (·.deleted)

/-- A regular document is put under its id, and the write is counted. -/
lemma keep_of_not_isLocal (store : Store) {document : Document}
    (hlocal : document.isLocal = false) :
    store.keep document =
      { store with
        documents := store.documents.insert document.id document
        liveWrites := store.liveWrites + if document.deleted then 0 else 1
        deletedWrites := store.deletedWrites + if document.deleted then 1 else 0 } :=
  if_neg (Bool.eq_false_iff.mp hlocal)

/-- A call writes one regular document, or it leaves the regular documents and the counters alone.
-/
lemma perform_cases (store : Store) (call : StoreCall) :
    (∃ document : Document, document.isLocal = false ∧
        StoreCall.written? (call, (store.perform call).1) = some document ∧
        (store.perform call).2 = store.keep document) ∨
      (StoreCall.written? (call, (store.perform call).1) = none ∧
        ∃ locals designs, (store.perform call).2 = { store with locals, designs }) := by
  cases call with
  | add body id stamp =>
    cases hbody : body.isObject with
    | false =>
      simp only [perform, add_of_not_object store hbody]
      exact .inr ⟨rfl, _, _, rfl⟩
    | true =>
      obtain ⟨fields, rfl⟩ := Json.isObject_iff.mp hbody
      simp only [perform, add_object, StoreCall.written?]
      cases hlocal : (Document.written fields id stamp).isLocal with
      | false => exact .inl ⟨_, hlocal, rfl, rfl⟩
      | true => exact .inr ⟨rfl, _, _, if_pos hlocal⟩
  | putDesign body id stamp =>
    obtain ⟨designs, hafter⟩ := store.putDesign_frame body id stamp
    exact .inr ⟨rfl, _, designs, hafter⟩
  | removeDesign id | removeLocal id => exact .inr ⟨rfl, _, _, rfl⟩

namespace ReplayOf

variable {log : List Document} {store : Store}

lemma init : ReplayOf [] empty where
  mem_keys _ := Iff.rfl
  ordered := List.Pairwise.nil
  last _ := rfl
  liveWrites := rfl
  deletedWrites := rfl

/-- What leaves the regular documents and the counters alone writes nothing to the log. -/
lemma of_eq (h : ReplayOf log store) {other : Store}
    (hdocuments : other.documents = store.documents) (hlive : other.liveWrites = store.liveWrites)
    (hdeleted : other.deletedWrites = store.deletedWrites) : ReplayOf log other where
  mem_keys := hdocuments ▸ h.mem_keys
  ordered := hdocuments ▸ h.ordered
  last := hdocuments ▸ h.last
  liveWrites := hlive.trans h.liveWrites
  deletedWrites := hdeleted.trans h.deletedWrites

/-- A later write leaves the place of the first write of an id as it is. -/
lemma idxOf_append (h : ReplayOf log store) {id : String} (hid : id ∈ store.documents.keys)
    (document : Document) :
    ((log ++ [document]).map Document.id).idxOf id = (log.map Document.id).idxOf id := by
  rw [List.map_append]
  exact List.idxOf_append_of_mem ((h.mem_keys id).mp hid)

/-- The first write of an id comes after those of the ids that are stored already. -/
lemma idxOf_lt_append (h : ReplayOf log store) {id : String} (hid : id ∈ store.documents.keys)
    {document : Document} (hnew : document.id ∉ store.documents.keys) :
    (log.map Document.id).idxOf id < ((log ++ [document]).map Document.id).idxOf document.id := by
  rw [List.map_append, List.idxOf_append_of_notMem fun hmem => hnew ((h.mem_keys _).mpr hmem)]
  exact Nat.lt_add_right _ (List.idxOf_lt_length_iff.mpr ((h.mem_keys id).mp hid))

/-- A write of a regular document comes last in the log. -/
lemma keep (h : ReplayOf log store) {document : Document} (hlocal : document.isLocal = false) :
    ReplayOf (log ++ [document]) (store.keep document) := by
  rw [keep_of_not_isLocal store hlocal]
  refine { mem_keys := ?keys, ordered := ?order, last := ?last, liveWrites := ?live,
           deletedWrites := ?deleted }
  case keys =>
    intro id
    rw [Table.keys_insert, List.map_append, List.mem_append, ← h.mem_keys]
    split
    · rename_i hold
      simp only [List.map_cons, List.map_nil, List.mem_singleton, iff_self_or]
      rintro rfl
      exact hold
    · exact List.mem_append
  case order =>
    have hordered : store.documents.keys.Pairwise fun a b =>
        ((log ++ [document]).map Document.id).idxOf a <
          ((log ++ [document]).map Document.id).idxOf b :=
      h.ordered.imp_of_mem fun ha hb hab => by
        rwa [h.idxOf_append ha, h.idxOf_append hb]
    rw [Table.keys_insert]
    split
    · exact hordered
    · rename_i hnew
      refine List.pairwise_append.mpr ⟨hordered, List.pairwise_singleton _ _, ?_⟩
      intro a ha b hb
      rw [List.mem_singleton.mp hb, h.idxOf_append ha]
      exact h.idxOf_lt_append ha hnew
  case last =>
    intro id
    rw [Table.get?_insert, List.filter_append]
    by_cases hid : id = document.id
    · simp [hid]
    · have hne : ¬ document.id = id := fun heq => hid heq.symm
      simp [hid, hne, h.last id]
  case live =>
    rw [List.countP_append, ← h.liveWrites]
    cases hdeleted : document.deleted <;> simp [hdeleted]
  case deleted =>
    rw [List.countP_append, ← h.deletedWrites]
    cases hdeleted : document.deleted <;> simp [hdeleted]

/-- A call writes at most one document to the log. -/
lemma perform (h : ReplayOf log store) (call : StoreCall) :
    ReplayOf (log ++ (StoreCall.written? (call, (store.perform call).1)).toList)
      (store.perform call).2 := by
  rcases perform_cases store call with
    ⟨document, hlocal, hwritten, hafter⟩ | ⟨hwritten, locals, designs, hafter⟩
  · rw [hwritten, hafter]
    exact h.keep hlocal
  · rw [hwritten, hafter, Option.toList_none, List.append_nil]
    exact h.of_eq rfl rfl rfl

/-- Calls write their documents to the log, one after the other. -/
lemma run (h : ReplayOf log store) (calls : List StoreCall) :
    ReplayOf (log ++ StoreCall.log (store.transcript calls)) (store.after calls) := by
  induction calls generalizing log store with
  | nil =>
    rw [transcript, StoreCall.log, List.filterMap_nil, List.append_nil]
    exact h
  | cons call calls ih =>
    have hlog : log ++ StoreCall.log (store.transcript (call :: calls)) =
        log ++ (StoreCall.written? (call, (store.perform call).1)).toList ++
          StoreCall.log ((store.perform call).2.transcript calls) := by
      rw [List.append_assoc, transcript, StoreCall.log, List.filterMap_cons]
      cases StoreCall.written? (call, (store.perform call).1) <;> rfl
    rw [hlog]
    exact ih (h.perform call)

/-! ### Consequences -/

/-- A stored document has been written. -/
lemma mem_log (h : ReplayOf log store) {document : Document}
    (hdocument : document ∈ store.documents.values) : document ∈ log := by
  obtain ⟨id, hid⟩ := Table.mem_values_iff.mp hdocument
  rw [h.last] at hid
  exact (List.mem_filter.mp (List.mem_of_getLast? hid)).1

/-- Every document is stored under its own id. -/
lemma map_id_values (h : ReplayOf log store) :
    store.documents.values.map Document.id = store.documents.keys := by
  refine Table.map_values_eq_keys fun id document hid => ?_
  rw [h.last] at hid
  exact eq_of_beq (List.mem_filter.mp (List.mem_of_getLast? hid)).2

/-- There are no more stored documents of a sort than there were writes of that sort. -/
lemma countP_values_le (h : ReplayOf log store) (sort : Document → Bool) :
    store.documents.values.countP sort ≤ log.countP sort := by
  have hnodup : store.documents.values.Nodup := by
    refine List.Nodup.of_map Document.id ?_
    rw [h.map_id_values]
    exact store.documents.nodup
  exact (List.subperm_of_subset hnodup fun _ => h.mem_log).countP_le sort

end ReplayOf

/-- No call removes a regular document or moves it. -/
lemma keys_perform (store : Store) (call : StoreCall) :
    store.documents.keys <+: (store.perform call).2.documents.keys := by
  rcases perform_cases store call with
    ⟨document, hlocal, -, hafter⟩ | ⟨-, locals, designs, hafter⟩
  · rw [hafter, keep_of_not_isLocal store hlocal]
    simp only [Table.keys_insert]
    split
    · exact List.prefix_refl _
    · exact List.prefix_append _ _
  · have hkeys : (store.perform call).2.documents.keys = store.documents.keys := by rw [hafter]
    exact hkeys ▸ List.prefix_refl _

lemma keys_after (store : Store) (calls : List StoreCall) :
    store.documents.keys <+: (store.after calls).documents.keys := by
  induction calls generalizing store with
  | nil => exact List.prefix_refl _
  | cons call calls ih => exact (keys_perform store call).trans (ih _)

/-- After any calls on a new store, its regular documents and counters replay the log of writes, and
every further write of an object will succeed. So no further calls remove a regular document or move
it, or make a counter smaller, and the counters are never below the number of live documents and of
tombstones. -/
theorem documents_replay (calls more : List StoreCall) :
    let store := empty.after calls
    let later := empty.after (calls ++ more)
    ReplayOf (StoreCall.log (empty.transcript calls)) store ∧
      (∀ fields id stamp, (store.perform (.add (.object fields) id stamp)).1 =
        .stored (.ok (.written fields id stamp))) ∧
      store.documents.values.map Document.id = store.documents.keys ∧
      store.documents.keys <+: later.documents.keys ∧
      store.liveWrites ≤ later.liveWrites ∧ store.deletedWrites ≤ later.deletedWrites ∧
      store.documents.values.countP (!·.deleted) ≤ store.liveWrites ∧
      store.documents.values.countP (·.deleted) ≤ store.deletedWrites := by
  intro store later
  have hstore : ReplayOf (StoreCall.log (empty.transcript calls)) store := ReplayOf.init.run calls
  have hafter : later = store.after more := List.foldl_append
  have hlater := hstore.run more
  rw [← hafter] at hlater
  refine ⟨hstore, fun fields id stamp => ?_, hstore.map_id_values, ?_, ?_, ?_, ?_, ?_⟩
  · simp only [perform, add_object]
  · rw [hafter]
    exact keys_after store more
  · rw [hstore.liveWrites, hlater.liveWrites, List.countP_append]
    exact Nat.le_add_right _ _
  · rw [hstore.deletedWrites, hlater.deletedWrites, List.countP_append]
    exact Nat.le_add_right _ _
  · rw [hstore.liveWrites]
    exact hstore.countP_values_le _
  · rw [hstore.deletedWrites]
    exact hstore.countP_values_le _

end Store

end DocumentDb
