import DocumentDb.Text.Basic

/-!
# Document ids

The start of an id says to which namespace its document belongs: `_local/` to the local documents,
`_design/` to the design documents, anything else to the regular ones.
-/

namespace DocumentDb.DocId

/-- What the ids of local documents start with. -/
def localStart : String := "_local/"

/-- What the ids of design documents start with. -/
def designStart : String := "_design/"

/-- Whether an id belongs to the local documents. -/
def isLocal (id : String) : Bool := Text.startsWith id localStart

/-- Whether an id belongs to the design documents. -/
def isDesign (id : String) : Bool := Text.startsWith id designStart

/-- The id of the local document of a name, which may already be the id. -/
def toLocal (name : String) : String := if isLocal name then name else localStart ++ name

/-- The id of the design document of a name, which may already be the id. -/
def toDesign (name : String) : String := if isDesign name then name else designStart ++ name

/-- The name of a design document: its id without the start. -/
def designName (id : String) : String := (Text.rest? id designStart).getD id

theorem startsWith_append (start rest : String) : Text.startsWith (start ++ rest) start = true := by
  simp [Text.startsWith, String.toList_append]

/-- The ids of design documents are those that start with `_design/`. -/
theorem isDesign_iff {id : String} : isDesign id = true ↔ ∃ name, id = "_design/" ++ name := by
  constructor
  · intro h
    obtain ⟨name, hname⟩ := List.isPrefixOf_iff_prefix.mp h
    refine ⟨String.ofList name, String.toList_inj.mp ?_⟩
    rw [String.toList_append, String.toList_ofList (l := name)]
    exact hname.symm
  · rintro ⟨name, rfl⟩
    exact startsWith_append _ _

/-- A local id is always reached. -/
theorem isLocal_toLocal (name : String) : isLocal (toLocal name) = true := by
  unfold toLocal
  split
  · assumption
  · exact startsWith_append _ _

/-- A design id is always reached. -/
theorem isDesign_toDesign (name : String) : isDesign (toDesign name) = true := by
  unfold toDesign
  split
  · assumption
  · exact startsWith_append _ _

/-- Naming a local id again changes nothing. -/
theorem toLocal_of_isLocal {id : String} (h : isLocal id = true) : toLocal id = id := by
  simp [toLocal, h]

/-- Naming a design id again changes nothing. -/
theorem toDesign_of_isDesign {id : String} (h : isDesign id = true) : toDesign id = id := by
  simp [toDesign, h]

/-- The id of a local document is not empty. -/
theorem not_isEmpty_of_isLocal {id : String} (h : isLocal id = true) : id.isEmpty = false := by
  rw [Bool.eq_false_iff]
  intro hempty
  rw [String.isEmpty_iff.mp hempty] at h
  exact absurd h (by decide)

/-- The id of a design document is not empty. -/
theorem not_isEmpty_of_isDesign {id : String} (h : isDesign id = true) : id.isEmpty = false := by
  rw [Bool.eq_false_iff]
  intro hempty
  rw [String.isEmpty_iff.mp hempty] at h
  exact absurd h (by decide)

end DocumentDb.DocId
