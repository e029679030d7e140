import DocumentDb.Proofs.Json.Order
import DocumentDb.View.Basic

/-!
# Pages of rows

A query for rows sorts them stably by key, or leaves them in order, and shows a page of them. A page
is cut out of the sorted rows and changes nothing but the attached documents, so the pages of one
size put together show every row once.
-/

namespace DocumentDb

/-- Pages of one size, put together, are the list that they are pages of. -/
lemma flatMap_pages {α : Type} (items : List α) (size count : Nat) :
    ((List.range count).flatMap fun page => (items.drop (page * size)).take size) =
      items.take (count * size) := by
  induction count with
  | zero => simp
  | succ count ih =>
    rw [List.range_succ, List.flatMap_append, ih, Nat.succ_mul, List.take_add]
    simp

/-- The rows that a result shows. -/
def ViewResult.page : ViewResult → List ViewRow
  | rows _ page => page
  | reduced _ => []

namespace ViewQuery

variable {query : ViewQuery} {rows : List ViewRow}

lemma sorted_perm (query : ViewQuery) (rows : List ViewRow) : (query.sorted rows).Perm rows := by
  unfold sorted
  split
  · exact (Json.eq_sortByKey_iff.mp rfl).perm
  · exact List.Perm.refl _

@[simp] lemma id_shown (query : ViewQuery) (row : ViewRow) : (query.shown row).id = row.id := by
  unfold shown
  split <;> rfl

/-- A row is shown as it is, but for the document where none is asked for. -/
lemma shown_eq (query : ViewQuery) (row : ViewRow) :
    query.shown row =
      ⟨row.id, row.key, row.value, if query.includeDocs then row.document else none⟩ := by
  unfold shown
  split <;> rfl

lemma mem_of_mem_paginate {row : ViewRow} (h : row ∈ (query.paginate rows).page) :
    ∃ given ∈ rows, row = query.shown given := by
  obtain ⟨given, hgiven, rfl⟩ := List.mem_map.mp h
  have hsorted : given ∈ query.sorted rows := List.mem_of_mem_drop (List.mem_of_mem_take hgiven)
  exact ⟨given, (query.sorted_perm rows).mem_iff.mp hsorted, rfl⟩

/-- What it means that a query pages through rows in the order of `sorted`. -/
structure PagesThrough (query : ViewQuery) (rows sorted : List ViewRow) : Prop where
  perm : sorted.Perm rows
  /-- Where no direction is asked for, the rows keep their order, -/
  unsorted : query.descending = none → sorted = rows
  /-- else they are sorted stably by the collation of their keys, upwards or downwards. -/
  stablySorted : ∀ descending, query.descending = some descending →
    StablySorted (Json.compareKeys descending ViewRow.key) rows sorted
  /-- Rows are shown as they are, with their documents only where these are asked for, -/
  shown : ∀ row, query.shown row =
    ⟨row.id, row.key, row.value, if query.includeDocs then row.document else none⟩
  /-- and a result is a page of them, whatever is to be skipped. -/
  page : ∀ skip limit, { query with skip, limit }.paginate rows =
    .rows skip (((sorted.drop skip).take limit).map query.shown)
  /-- It tells how much was skipped and how many rows it shows, no more of them than the limit. -/
  toJson : (query.paginate rows).toJson = .object
    [("offset", .nat query.skip), ("total_rows", .nat (query.paginate rows).page.length),
      ("rows", .array ((query.paginate rows).page.map ViewRow.toJson))]
  length_page : (query.paginate rows).page.length ≤ query.limit
  /-- Behind the last row there is an empty page. -/
  page_eq_nil : rows.length ≤ query.skip → (query.paginate rows).page = []
  /-- Pages of one size show every row once. -/
  pages : ∀ size count, rows.length ≤ count * size →
    ((List.range count).flatMap fun page =>
      ({ query with skip := page * size, limit := size }.paginate rows).page) =
        sorted.map query.shown

/-- Every query pages through the rows that it is given. -/
theorem exists_pagesThrough (query : ViewQuery) (rows : List ViewRow) :
    ∃ sorted, query.PagesThrough rows sorted := by
  have hperm := query.sorted_perm rows
  refine ⟨query.sorted rows, ?_⟩
  constructor
  case perm => exact hperm
  case unsorted =>
    intro hnone
    rw [sorted, hnone]
  case stablySorted =>
    intro descending hsome
    rw [sorted, hsome]
    exact Json.eq_sortByKey_iff.mp rfl
  case shown => exact query.shown_eq
  case page =>
    intro skip limit
    rfl
  case toJson => rfl
  case length_page =>
    simp only [paginate, ViewResult.page, List.length_map]
    exact List.length_take_le _ _
  case page_eq_nil =>
    intro hskip
    rw [← hperm.length_eq] at hskip
    simp only [paginate, ViewResult.page, List.drop_of_length_le hskip, List.take_nil, List.map_nil]
  case pages =>
    intro size count hcount
    rw [← hperm.length_eq] at hcount
    calc ((List.range count).flatMap fun page =>
          ({ query with skip := page * size, limit := size }.paginate rows).page)
      _ = ((List.range count).flatMap fun page =>
            ((query.sorted rows).drop (page * size)).take size).map query.shown := by
          rw [List.map_flatMap]
          rfl
      _ = (query.sorted rows).map query.shown := by
          rw [flatMap_pages, List.take_of_length_le hcount]

end ViewQuery

end DocumentDb
