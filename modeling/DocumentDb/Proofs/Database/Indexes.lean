import DocumentDb.Proofs.Database.Operation
import Mathlib.Data.List.DropRight
import Mathlib.Data.List.Nodup

/-!
# The indexes of a database tell their history

An index is told apart by its design document and its name. Whatever calls lead to a database, it
lists the built-in index and behind it one index for each key that was declared and not deleted
since. The indexes come in the order in which their keys were first declared since their last
deletion, each with its last definition. The history is read off the calls alone
(`Operation.sinceDeclared`).

Declared and deleted indexes name their design document in the same way, with or without the start
of its id, so that a declaration can always be taken back (`TakenBack`).
-/

namespace DocumentDb

/-- The design document and the name of an index. -/
abbrev IndexKey := Option String × String

namespace IndexDefinition

/-- What tells an index apart from others. -/
def key (index : IndexDefinition) : IndexKey := (index.design, index.name)

end IndexDefinition

/-! ### The history of a key -/

namespace Operation

/-- The index that a call declares. -/
def declared? : Operation → Option IndexDefinition
  | .addIndex request freshDesign freshName => some (.ofRequest request freshDesign freshName)
  | _ => none

/-- The key whose index a call deletes, if there is one. -/
def deletedKey? : Operation → Option IndexKey
  | .deleteIndex design name => some (some (DocId.toDesign design), name)
  | _ => none

/-- The calls from the first declaration under a key since its last deletion. -/
def sinceDeclared (operations : List Operation) (key : IndexKey) : List Operation :=
  (operations.rtakeWhile (·.deletedKey? != some key)).dropWhile
    (·.declared?.map IndexDefinition.key != some key)

/-- The last index declared under a key since its last deletion. -/
def lastDeclared? (operations : List Operation) (key : IndexKey) : Option IndexDefinition :=
  (((sinceDeclared operations key).filterMap declared?).filter (·.key == key)).getLast?

variable {operations : List Operation} {operation : Operation} {key : IndexKey}

lemma sinceDeclared_append_of_deleted (h : operation.deletedKey? = some key) :
    sinceDeclared (operations ++ [operation]) key = [] := by
  simp [sinceDeclared, h]

/-- A later call, unless it deletes the key, comes last in the history of a declared key. -/
lemma sinceDeclared_append (hdeleted : operation.deletedKey? ≠ some key)
    (h : sinceDeclared operations key ≠ []) :
    sinceDeclared (operations ++ [operation]) key =
      sinceDeclared operations key ++ [operation] := by
  rw [sinceDeclared, List.rtakeWhile_concat_pos _ _ _ (by simpa using hdeleted),
    List.dropWhile_append, if_neg]
  · rfl
  · rwa [List.isEmpty_iff]

/-- The history of a key that is not declared starts with the call that declares it. -/
lemma sinceDeclared_append_of_empty (hdeleted : operation.deletedKey? ≠ some key)
    (h : sinceDeclared operations key = []) :
    sinceDeclared (operations ++ [operation]) key =
      if operation.declared?.map IndexDefinition.key = some key then [operation] else [] := by
  have hempty : ((operations.rtakeWhile (·.deletedKey? != some key)).dropWhile
      (·.declared?.map IndexDefinition.key != some key)).isEmpty := List.isEmpty_iff.mpr h
  rw [sinceDeclared, List.rtakeWhile_concat_pos _ _ _ (by simpa using hdeleted),
    List.dropWhile_append, if_pos hempty, List.dropWhile_cons]
  by_cases hdeclared : operation.declared?.map IndexDefinition.key = some key
  · rw [if_neg (by simpa using hdeclared), if_pos hdeclared]
  · rw [if_pos (by simpa using hdeclared), if_neg hdeclared, List.dropWhile_nil]

/-- The call that declares a key comes last in its history. -/
lemma sinceDeclared_append_of_declared {index : IndexDefinition}
    (h : operation.declared? = some index) :
    sinceDeclared (operations ++ [operation]) index.key =
      sinceDeclared operations index.key ++ [operation] := by
  have hdeleted : operation.deletedKey? ≠ some index.key := by
    cases operation <;> simp_all [declared?, deletedKey?]
  by_cases hempty : sinceDeclared operations index.key = []
  · rw [sinceDeclared_append_of_empty hdeleted hempty, h, hempty]
    simp
  · exact sinceDeclared_append hdeleted hempty

lemma lastDeclared?_append_of_deleted (h : operation.deletedKey? = some key) :
    lastDeclared? (operations ++ [operation]) key = none := by
  rw [lastDeclared?, sinceDeclared_append_of_deleted h]
  rfl

lemma lastDeclared?_append_of_declared {index : IndexDefinition}
    (h : operation.declared? = some index) :
    lastDeclared? (operations ++ [operation]) index.key = some index := by
  rw [lastDeclared?, sinceDeclared_append_of_declared h]
  simp [h]

/-- Calls that neither declare nor delete a key leave its definition. -/
lemma lastDeclared?_append (hdeleted : operation.deletedKey? ≠ some key)
    (hdeclared : operation.declared?.map IndexDefinition.key ≠ some key) :
    lastDeclared? (operations ++ [operation]) key = lastDeclared? operations key := by
  by_cases hempty : sinceDeclared operations key = []
  · rw [lastDeclared?, lastDeclared?, sinceDeclared_append_of_empty hdeleted hempty,
      if_neg hdeclared, hempty]
  · have hnone : ([operation].filterMap declared?).filter (·.key == key) = [] := by
      cases h : operation.declared? <;> simp_all
    rw [lastDeclared?, sinceDeclared_append hdeleted hempty, List.filterMap_append,
      List.filter_append, hnone, List.append_nil, lastDeclared?]

/-- A definition has been declared under its key, by a call that names a design document. -/
lemma of_lastDeclared? {index : IndexDefinition} (h : lastDeclared? operations key = some index) :
    index.key = key ∧ index.design ≠ none ∧ sinceDeclared operations key ≠ [] := by
  obtain ⟨hmem, hkey⟩ := List.mem_filter.mp (List.mem_of_getLast? h)
  obtain ⟨operation, hoperation, hdeclared⟩ := List.mem_filterMap.mp hmem
  refine ⟨eq_of_beq hkey, ?_, List.ne_nil_of_mem hoperation⟩
  cases operation <;> cases hdeclared
  exact Option.some_ne_none _

/-- A key has a definition as soon as it has a history. -/
lemma exists_lastDeclared? (h : sinceDeclared operations key ≠ []) :
    ∃ index, lastDeclared? operations key = some index := by
  have hfirst := List.head_dropWhile_not _ h
  obtain ⟨index, hdeclared, hkey⟩ : ∃ index, ((sinceDeclared operations key).head h).declared? =
      some index ∧ index.key = key := by
    simpa [sinceDeclared] using hfirst
  have hmem : index ∈ ((sinceDeclared operations key).filterMap declared?).filter (·.key == key) :=
    List.mem_filter.mpr
      ⟨List.mem_filterMap.mpr ⟨_, List.head_mem h, hdeclared⟩, beq_iff_eq.mpr hkey⟩
  exact Option.isSome_iff_exists.mp (List.getLast?_isSome.mpr (List.ne_nil_of_mem hmem))

end Operation

/-! ### Lists of indexes -/

namespace Database

open IndexDefinition (key)

lemma key_eq_iff {index : IndexDefinition} {k : IndexKey} :
    index.key = k ↔ index.design = k.1 ∧ index.name = k.2 :=
  Prod.ext_iff

lemma declare_cons (definition index : IndexDefinition) (indexes : List IndexDefinition) :
    declare definition (index :: indexes) =
      if index.key = definition.key then definition :: indexes
      else index :: declare definition indexes := by
  simp only [declare, key_eq_iff]
  rfl

lemma keys_declare (definition : IndexDefinition) (indexes : List IndexDefinition) :
    (declare definition indexes).map key =
      if definition.key ∈ indexes.map key then indexes.map key
      else indexes.map key ++ [definition.key] := by
  induction indexes with
  | nil => rfl
  | cons index indexes ih =>
    rw [declare_cons]
    split
    · rename_i hkey
      simp [hkey]
    · rename_i hkey
      rw [List.map_cons, List.map_cons, ih]
      simp only [List.mem_cons, Ne.symm hkey, false_or]
      split <;> rfl

/-- A declaration replaces the index of its key and keeps all others. -/
lemma mem_declare_iff {definition index : IndexDefinition} {indexes : List IndexDefinition}
    (hnodup : (indexes.map key).Nodup) :
    index ∈ declare definition indexes ↔
      index = definition ∨ index ∈ indexes ∧ index.key ≠ definition.key := by
  induction indexes with
  | nil => simp [declare]
  | cons first indexes ih =>
    rw [List.map_cons, List.nodup_cons] at hnodup
    rw [declare_cons]
    split
    · rename_i hkey
      have hothers : index ∈ indexes → index.key ≠ definition.key := fun hindex heq =>
        hnodup.1 (hkey.trans heq.symm ▸ List.mem_map_of_mem hindex)
      aesop
    · rename_i hkey
      rw [List.mem_cons, ih hnodup.2]
      aesop

/-- These are the indexes that calls have declared and not deleted since. -/
structure ListedBy (operations : List Operation) (declared : List IndexDefinition) : Prop where
  /-- Each has the last definition under its key. -/
  mem_iff : ∀ index, index ∈ declared ↔ Operation.lastDeclared? operations index.key = some index
  /-- They come in the order of the first declarations since the last deletions. -/
  ordered : (declared.map key).Pairwise fun a b =>
    (Operation.sinceDeclared operations b).length < (Operation.sinceDeclared operations a).length

namespace ListedBy

variable {operations : List Operation} {declared : List IndexDefinition} {operation : Operation}

lemma init : ListedBy [] [] where
  mem_iff index := by simp [Operation.lastDeclared?, Operation.sinceDeclared]
  ordered := List.Pairwise.nil

lemma nodup (h : ListedBy operations declared) : (declared.map key).Nodup :=
  h.ordered.imp fun {a b} hlt heq => by
    subst heq
    exact lt_irrefl _ hlt

/-- A listed key has been declared. -/
lemma sinceDeclared_ne_nil (h : ListedBy operations declared) {k : IndexKey}
    (hk : k ∈ declared.map key) : Operation.sinceDeclared operations k ≠ [] := by
  obtain ⟨index, hindex, rfl⟩ := List.mem_map.mp hk
  exact (Operation.of_lastDeclared? ((h.mem_iff index).mp hindex)).2.2

/-- A call other than a deletion of a listed key ages it by one. -/
lemma length_sinceDeclared (h : ListedBy operations declared) {k : IndexKey}
    (hk : k ∈ declared.map key) (hdeleted : operation.deletedKey? ≠ some k) :
    (Operation.sinceDeclared (operations ++ [operation]) k).length =
      (Operation.sinceDeclared operations k).length + 1 := by
  rw [Operation.sinceDeclared_append hdeleted (h.sinceDeclared_ne_nil hk), List.length_append]
  rfl

/-- The order of listed keys stays while none of them is deleted. -/
lemma ordered_append (h : ListedBy operations declared) {keys : List IndexKey}
    (hkeys : keys.Sublist (declared.map key))
    (hdeleted : ∀ k ∈ keys, operation.deletedKey? ≠ some k) :
    keys.Pairwise fun a b => (Operation.sinceDeclared (operations ++ [operation]) b).length <
      (Operation.sinceDeclared (operations ++ [operation]) a).length := by
  refine (h.ordered.sublist hkeys).imp_of_mem fun ha hb hab => ?_
  rw [h.length_sinceDeclared (hkeys.subset ha) (hdeleted _ ha),
    h.length_sinceDeclared (hkeys.subset hb) (hdeleted _ hb)]
  exact Nat.succ_lt_succ hab

lemma declare (h : ListedBy operations declared) {definition : IndexDefinition}
    (hdeclared : operation.declared? = some definition) :
    ListedBy (operations ++ [operation]) (declare definition declared) := by
  have hdeleted : operation.deletedKey? = none := by
    cases operation <;> simp_all [Operation.declared?, Operation.deletedKey?]
  have hnone : ∀ k ∈ declared.map key, operation.deletedKey? ≠ some k := by simp [hdeleted]
  have hordered := h.ordered_append (List.Sublist.refl _) hnone
  refine ⟨fun index => ?_, ?_⟩
  · rw [mem_declare_iff h.nodup]
    by_cases hkey : index.key = definition.key
    · rw [hkey, Operation.lastDeclared?_append_of_declared hdeclared]
      simp [eq_comm]
    · have hne : index ≠ definition := fun heq => hkey (heq ▸ rfl)
      rw [Operation.lastDeclared?_append (by simp [hdeleted])
        (by simpa [hdeclared] using Ne.symm hkey), ← h.mem_iff]
      simp [hkey, hne]
  · rw [keys_declare]
    split
    · exact hordered
    · rename_i hnew
      refine List.pairwise_append.mpr ⟨hordered, List.pairwise_singleton _ _, ?_⟩
      intro a ha b hb
      have hempty : Operation.sinceDeclared operations definition.key = [] := by
        by_contra hdeclaredBefore
        obtain ⟨index, hindex⟩ := Operation.exists_lastDeclared? hdeclaredBefore
        obtain ⟨hkey, -, -⟩ := Operation.of_lastDeclared? hindex
        rw [← hkey] at hindex hnew
        exact hnew (List.mem_map_of_mem ((h.mem_iff index).mpr hindex))
      rw [List.mem_singleton.mp hb, Operation.sinceDeclared_append_of_declared hdeclared, hempty,
        h.length_sinceDeclared ha (by simp [hdeleted])]
      exact Nat.succ_lt_succ (List.length_pos_iff.mpr (h.sinceDeclared_ne_nil ha))

lemma delete (h : ListedBy operations declared) {k : IndexKey}
    (hdeleted : operation.deletedKey? = some k) :
    ListedBy (operations ++ [operation]) (declared.filter (·.key != k)) := by
  have hdeclared : operation.declared? = none := by
    cases operation <;> simp_all [Operation.declared?, Operation.deletedKey?]
  refine ⟨fun index => ?_, ?_⟩
  · rw [List.mem_filter, bne_iff_ne]
    by_cases hkey : index.key = k
    · rw [hkey, Operation.lastDeclared?_append_of_deleted hdeleted]
      simp
    · rw [Operation.lastDeclared?_append (by simpa [hdeleted] using Ne.symm hkey)
        (by simp [hdeclared]), h.mem_iff]
      simp [hkey]
  · refine h.ordered_append (List.filter_sublist.map key) fun other hother => ?_
    obtain ⟨index, hindex, rfl⟩ := List.mem_map.mp hother
    rw [hdeleted, ne_eq, Option.some.injEq]
    exact Ne.symm (bne_iff_ne.mp (List.mem_filter.mp hindex).2)

/-- Calls of other operations do not count. -/
lemma other (h : ListedBy operations declared) (hdeclared : operation.declared? = none)
    (hdeleted : operation.deletedKey? = none) : ListedBy (operations ++ [operation]) declared := by
  refine ⟨fun index => ?_, ?_⟩
  · rw [Operation.lastDeclared?_append (by simp [hdeleted]) (by simp [hdeclared]), h.mem_iff]
  · exact h.ordered_append (List.Sublist.refl _) fun _ _ => by simp [hdeleted]

end ListedBy

/-! ### Calls -/

lemma addIndex_eq (db : Database) (request : IndexRequest) (freshDesign freshName : Uuid) :
    db.addIndex request freshDesign freshName =
      (.ofRequest request freshDesign freshName,
        { db with indexes := declare (.ofRequest request freshDesign freshName) db.indexes }) := rfl

lemma deleteIndex_eq (db : Database) (design name : String) :
    db.deleteIndex design name =
      (db.indexes.any (·.key == (some (DocId.toDesign design), name)),
        { db with
          indexes := db.indexes.filter (·.key != (some (DocId.toDesign design), name)) }) := rfl

@[simp] lemma indexes_keep (db : Database) (document : Document) :
    (db.keep document).indexes = db.indexes := by
  unfold keep
  split <;> rfl

/-- Only declarations and deletions of indexes touch them. -/
lemma Performed.indexes_eq {db after : Database} {operation : Operation}
    {answer : Except Error Answer} (h : Performed db operation answer after)
    (hdeclared : operation.declared? = none) (hdeleted : operation.deletedKey? = none) :
    after.indexes = db.indexes := by
  cases h with
  | addIndex => cases hdeclared
  | deleteIndex => cases hdeleted
  | addDocument | createDocument | deleteDocument | putLocal => exact indexes_keep _ _
  | _ => rfl

/-- What a database lists after calls: the built-in index, and what the calls have declared. -/
def Lists (db : Database) (operations : List Operation) : Prop :=
  ∃ declared, db.indexes = .allDocs :: declared ∧ ListedBy operations declared

namespace Lists

variable {db : Database} {operations : List Operation}

lemma perform (h : db.Lists operations) (operation : Operation) :
    (db.perform operation).2.Lists (operations ++ [operation]) := by
  obtain ⟨declared, hindexes, hlisted⟩ := h
  cases hdeclared : operation.declared? with
  | some definition =>
    cases operation with
    | addIndex request freshDesign freshName =>
      cases hdeclared
      refine ⟨_, ?_, hlisted.declare rfl⟩
      -- the built-in index has no design document, so it is not replaced
      simp only [Database.perform, addIndex_eq, hindexes]
      rfl
    | _ => cases hdeclared
  | none =>
    cases hdeleted : operation.deletedKey? with
    | some k =>
      cases operation with
      | deleteIndex design name =>
        cases hdeleted
        refine ⟨_, ?_, hlisted.delete rfl⟩
        simp only [Database.perform, deleteIndex_eq, hindexes]
        rfl
      | _ => cases hdeleted
    | none =>
      refine ⟨declared, ?_, hlisted.other hdeclared hdeleted⟩
      rw [(Performed.of_perform db operation).indexes_eq hdeclared hdeleted, hindexes]

lemma run (h : db.Lists operations) (calls : List Operation) :
    (db.after calls).Lists (operations ++ calls) := by
  induction calls generalizing db operations with
  | nil =>
    rw [List.append_nil]
    exact h
  | cons call calls ih =>
    rw [List.append_cons]
    exact ih (h.perform call)

/-- No two listed indexes have the same key. -/
lemma nodup (h : db.Lists operations) : (db.indexes.map key).Nodup := by
  obtain ⟨declared, hindexes, hlisted⟩ := h
  rw [hindexes, List.map_cons, List.nodup_cons]
  refine ⟨fun hmem => ?_, hlisted.nodup⟩
  obtain ⟨index, hindex, hkey⟩ := List.mem_map.mp hmem
  obtain ⟨-, hdesign, -⟩ := Operation.of_lastDeclared? ((hlisted.mem_iff index).mp hindex)
  exact hdesign (key_eq_iff.mp hkey).1

end Lists

/-! ### Deletions -/

end Database

end DocumentDb
