import DocumentDb.Proofs.Json.Equality
import DocumentDb.View.Engine
import Mathlib.Algebra.BigOperators.Group.List.Basic
import Mathlib.Algebra.Ring.Int.Defs
import Mathlib.Data.List.Induction
import Mathlib.Tactic.Common

/-!
# Totals by key

A query that groups the rows of a view answers with one total for each class of equal keys. The keys
it shows are the first of their classes, and the totals count or sum the rows of the classes, so
together they are the total of all rows. Sums are exact as long as no running total leaves the
signed 64-bit integers.
-/

namespace DocumentDb

/-- What holds of some items of a list, but not of two of them, holds of exactly one. -/
lemma exists_filter_eq_singleton {α : Type} {p : α → Bool} {items : List α}
    (hapart : items.Pairwise fun a b => p a = true → p b = false) (hany : items.any p = true) :
    ∃ item, items.filter p = [item] := by
  induction items with
  | nil => cases hany
  | cons item items ih =>
    rw [List.pairwise_cons] at hapart
    by_cases hitem : p item = true
    · have hrest : items.filter p = [] := by
        rw [List.filter_eq_nil_iff]
        intro other hother
        simp [hapart.1 other hother hitem]
      exact ⟨item, by rw [List.filter_cons_of_pos hitem, hrest]⟩
    · rw [List.any_cons, Bool.or_eq_true] at hany
      rw [List.filter_cons_of_neg hitem]
      exact ih hapart.2 (hany.resolve_left hitem)

/-! ### The first of equal keys -/

namespace Json

variable {keys : List Json} {key : Json}

lemma deepEqual_trans {a b c : Json} (ha : a.distinctKeys = true) (hb : b.distinctKeys = true)
    (hc : c.distinctKeys = true) (hab : a.deepEqual b = true) (hbc : b.deepEqual c = true) :
    a.deepEqual c = true :=
  (Same.trans ⟨hab, ha, hb⟩ ⟨hbc, hb, hc⟩).deepEqual

lemma deepEqual_symm {a b : Json} (ha : a.distinctKeys = true) (hb : b.distinctKeys = true)
    (hab : a.deepEqual b = true) : b.deepEqual a = true :=
  (Same.symm ⟨hab, ha, hb⟩).deepEqual

/-- The keys that equal no earlier one, in order. -/
def firstKeys (keys : List Json) : List Json :=
  (keys.zipIdx.filter fun entry => !(keys.take entry.2).any (·.deepEqual entry.1)).map Prod.fst

lemma firstKeys_sublist (keys : List Json) : (firstKeys keys).Sublist keys := by
  have h := (List.filter_sublist (l := keys.zipIdx)
    (p := fun entry => !(keys.take entry.2).any (·.deepEqual entry.1))).map Prod.fst
  rwa [List.zipIdx_map_fst] at h

/-- A further key comes last, unless it equals one that is there. -/
lemma firstKeys_append (keys : List Json) (key : Json) :
    firstKeys (keys ++ [key]) =
      if keys.any (·.deepEqual key) then firstKeys keys else firstKeys keys ++ [key] := by
  have hold : ∀ entry ∈ keys.zipIdx, (keys ++ [key]).take entry.2 = keys.take entry.2 := by
    intro entry hentry
    have hlt := List.snd_lt_of_mem_zipIdx hentry
    exact List.take_append_of_le_length (Nat.le_of_lt hlt)
  have hnew : (keys ++ [key]).take keys.length = keys := List.take_left
  rw [firstKeys, List.zipIdx_append, List.filter_append, List.map_append, firstKeys,
    List.filter_congr fun entry hentry => by rw [hold entry hentry]]
  simp only [List.zipIdx_cons, List.zipIdx_nil, List.filter_cons, Nat.zero_add, hnew,
    List.filter_nil]
  cases keys.any (·.deepEqual key) <;> simp

/-- Of the first keys none equals another. -/
lemma firstKeys_pairwise (hkeys : ∀ key ∈ keys, key.distinctKeys = true) :
    (firstKeys keys).Pairwise fun a b => a.deepEqual b = false ∧ b.deepEqual a = false := by
  induction keys using List.reverseRecOn with
  | nil => exact List.Pairwise.nil
  | append_singleton keys key ih =>
    rw [List.forall_mem_append, List.forall_mem_singleton] at hkeys
    rw [firstKeys_append]
    split
    · exact ih hkeys.1
    · rename_i hnew
      rw [List.any_eq_true, not_exists] at hnew
      rw [List.pairwise_append]
      refine ⟨ih hkeys.1, List.pairwise_singleton _ _, fun a ha b hb => ?_⟩
      obtain rfl := List.mem_singleton.mp hb
      have hmem := (firstKeys_sublist keys).subset ha
      simp only [← Bool.not_eq_true]
      exact ⟨fun h => hnew a ⟨hmem, h⟩,
        fun h => hnew a ⟨hmem, deepEqual_symm hkeys.2 (hkeys.1 a hmem) h⟩⟩

/-- What equals one of the keys equals one of the first keys. -/
lemma any_firstKeys (hkeys : ∀ key ∈ keys, key.distinctKeys = true)
    (hkey : key.distinctKeys = true) :
    (firstKeys keys).any (·.deepEqual key) = keys.any (·.deepEqual key) := by
  induction keys using List.reverseRecOn with
  | nil => rfl
  | append_singleton keys other ih =>
    rw [List.forall_mem_append, List.forall_mem_singleton] at hkeys
    rw [firstKeys_append, List.any_append, List.any_cons, List.any_nil, Bool.or_false]
    split
    · rename_i hknown
      rw [ih hkeys.1]
      -- what equals the further key equals the one that stands for it
      by_cases hother : other.deepEqual key = true
      · obtain ⟨k, hk, hequal⟩ := List.any_eq_true.mp hknown
        have htrans := deepEqual_trans (hkeys.1 k hk) hkeys.2 hkey hequal hother
        rw [hother, Bool.or_true, List.any_eq_true]
        exact ⟨k, hk, htrans⟩
      · rw [Bool.not_eq_true] at hother
        rw [hother, Bool.or_false]
    · rw [List.any_append, ih hkeys.1, List.any_cons, List.any_nil, Bool.or_false]

/-- No two of the first keys equal the same key. -/
lemma firstKeys_apart (hkeys : ∀ key ∈ keys, key.distinctKeys = true)
    (hkey : key.distinctKeys = true) :
    (firstKeys keys).Pairwise fun a b => a.deepEqual key = true → b.deepEqual key = false := by
  refine (firstKeys_pairwise hkeys).imp_of_mem fun {a b} ha hb hab hakey => ?_
  have hdistinct : ∀ k ∈ firstKeys keys, k.distinctKeys = true :=
    fun k hk => hkeys k ((firstKeys_sublist keys).subset hk)
  rw [Bool.eq_false_iff]
  intro hbkey
  have hkeyb := deepEqual_symm (hdistinct b hb) hkey hbkey
  rw [deepEqual_trans (hdistinct a ha) hkey (hdistinct b hb) hakey hkeyb] at hab
  cases hab.1

/-- Each key equals one of the first keys and no other. -/
lemma filter_firstKeys (hkeys : ∀ key ∈ keys, key.distinctKeys = true) (hkey : key ∈ keys) :
    ∃ first, (firstKeys keys).filter (·.deepEqual key) = [first] := by
  have hdistinct := hkeys key hkey
  refine exists_filter_eq_singleton (firstKeys_apart hkeys hdistinct) ?_
  rw [any_firstKeys hkeys hdistinct, List.any_eq_true]
  exact ⟨key, hkey, (Same.refl hdistinct).deepEqual⟩

lemma existsUnique_firstKeys (hkeys : ∀ key ∈ keys, key.distinctKeys = true) (hkey : key ∈ keys) :
    ∃! first, first ∈ firstKeys keys ∧ first.deepEqual key = true := by
  obtain ⟨first, hfirst⟩ := filter_firstKeys hkeys hkey
  have hiff (k : Json) : k ∈ firstKeys keys ∧ k.deepEqual key = true ↔ k = first := by
    have hmem : k ∈ (firstKeys keys).filter (·.deepEqual key) ↔ k = first := by
      rw [hfirst, List.mem_singleton]
    rwa [List.mem_filter] at hmem
  simp only [hiff, existsUnique_eq]

end Json

/-! ### Running totals -/

namespace Reducer

/-- What shares come to that are added one after the other. -/
def runningTotal : List Int → Int
  | [] => 0
  | share :: shares => shares.foldl addTo share

lemma runningTotal_append {shares : List Int} (h : shares ≠ []) (share : Int) :
    runningTotal (shares ++ [share]) = addTo (runningTotal shares) share := by
  match shares with
  | first :: rest => rw [List.cons_append, runningTotal, List.foldl_append]; rfl

/-- No sum of the first of the shares leaves the signed 64-bit integers. -/
def StaysInRange (shares : List Int) : Prop :=
  ∀ count, Number.minInt ≤ (shares.take count).sum ∧ (shares.take count).sum ≤ Number.maxInt

lemma foldl_addTo {start : Int} {shares : List Int}
    (h : ∀ count, Number.minInt ≤ start + (shares.take count).sum ∧
      start + (shares.take count).sum ≤ Number.maxInt) :
    shares.foldl addTo start = start + shares.sum := by
  induction shares generalizing start with
  | nil => simp
  | cons share shares ih =>
    have hfirst : addTo start share = start + share := by
      have hone := h 1
      simp only [List.take_succ_cons, List.take_zero, List.sum_cons, List.sum_nil] at hone
      rw [addTo, Number.clamp]
      omega
    rw [List.foldl_cons, hfirst, ih, List.sum_cons, Int.add_assoc]
    intro count
    have hnext := h (count + 1)
    rw [List.take_succ_cons, List.sum_cons, ← Int.add_assoc] at hnext
    exact hnext

lemma StaysInRange.foldl {shares : List Int} (h : StaysInRange shares) :
    shares.foldl addTo 0 = shares.sum := by
  rw [foldl_addTo, Int.zero_add]
  intro count
  rw [Int.zero_add]
  exact h count

lemma StaysInRange.runningTotal {shares : List Int} (h : StaysInRange shares) :
    runningTotal shares = shares.sum := by
  match shares with
  | [] => rfl
  | share :: shares =>
    rw [Reducer.runningTotal, List.sum_cons]
    refine foldl_addTo fun count => ?_
    have hnext := h (count + 1)
    rwa [List.take_succ_cons, List.sum_cons] at hnext

lemma total_sum {rows : List ViewRow} (h : StaysInRange (rows.map (·.value.toInt))) :
    total (some sum) rows = (rows.map (·.value.toInt)).sum := by
  rw [← h.foldl, List.foldl_map]
  rfl

/-! ### Totals by key -/

variable {reducer : Reducer} {rows : List ViewRow} {keys : List Json} {key : Json}

/-- The rows with a key. -/
def rowsUnder (rows : List ViewRow) (key : Json) : List ViewRow :=
  rows.filter fun row => key.deepEqual row.key

lemma rowsUnder_append (rows : List ViewRow) (row : ViewRow) (key : Json) :
    rowsUnder (rows ++ [row]) key =
      if key.deepEqual row.key = true then rowsUnder rows key ++ [row] else rowsUnder rows key := by
  rw [rowsUnder, List.filter_append, List.filter_cons, List.filter_nil]
  split
  · rfl
  · exact List.append_nil _

/-- There are rows with the key of a row, -/
lemma rowsUnder_ne_nil {row : ViewRow} (hmem : row ∈ rows)
    (hrow : row.key.distinctKeys = true) : rowsUnder rows row.key ≠ [] := by
  have hequal := (Json.Same.refl hrow).deepEqual
  exact List.ne_nil_of_mem (List.mem_filter.mpr ⟨hmem, hequal⟩)

/-- and none with a key that equals no key of the rows. -/
lemma rowsUnder_eq_nil (hrows : ∀ row ∈ rows, row.key.distinctKeys = true)
    (hkey : key.distinctKeys = true)
    (hnew : (rows.map ViewRow.key).any (·.deepEqual key) = false) : rowsUnder rows key = [] := by
  rw [List.any_map, List.any_eq_false] at hnew
  rw [rowsUnder, List.filter_eq_nil_iff]
  intro row hrow hequal
  exact hnew row hrow (Json.deepEqual_symm hkey (hrows row hrow) hequal)

/-- A share under a new key is a total of its own. -/
lemma addUnder_of_new {totals : List (Json × Int)} (share : Int)
    (h : ∀ total ∈ totals, total.1.deepEqual key = false) :
    addUnder totals key share = totals ++ [(key, share)] := by
  induction totals with
  | nil => rfl
  | cons total totals ih =>
    rw [List.forall_mem_cons] at h
    rw [addUnder, if_neg (by simp [h.1]), ih h.2, List.cons_append]

/-- A share under a known key goes to the total of that key alone. -/
lemma addUnder_of_known (total : Json → Int) (share : Int)
    (hapart : keys.Pairwise fun a b => a.deepEqual key = true → b.deepEqual key = false)
    (hknown : keys.any (·.deepEqual key) = true) :
    addUnder (keys.map fun k => (k, total k)) key share =
      keys.map fun k => (k, if k.deepEqual key = true then addTo (total k) share else total k) := by
  induction keys with
  | nil => cases hknown
  | cons k keys ih =>
    rw [List.pairwise_cons] at hapart
    simp only [List.map_cons, addUnder]
    by_cases hk : k.deepEqual key = true
    · have hrest : ∀ l ∈ keys, l.deepEqual key = false := fun l hl => hapart.1 l hl hk
      rw [if_pos hk, if_pos hk]
      refine congrArg _ (List.map_congr_left fun l hl => ?_)
      simp [hrest l hl]
    · rw [List.any_cons, Bool.or_eq_true] at hknown
      rw [if_neg hk, if_neg hk, ih hapart.2 (hknown.resolve_left hk)]

/-- Under each of the first keys there is the running total of the shares of the rows with it. -/
lemma totals_eq (reducer : Reducer) (hrows : ∀ row ∈ rows, row.key.distinctKeys = true) :
    reducer.totals rows = (Json.firstKeys (rows.map ViewRow.key)).map fun key =>
      (key, runningTotal ((rowsUnder rows key).map reducer.share)) := by
  induction rows using List.reverseRecOn with
  | nil => rfl
  | append_singleton rows row ih =>
    rw [List.forall_mem_append, List.forall_mem_singleton] at hrows
    obtain ⟨hrows, hrow⟩ := hrows
    have hkeys : ∀ key ∈ rows.map ViewRow.key, key.distinctKeys = true :=
      List.forall_mem_map.mpr hrows
    have hstep : reducer.totals (rows ++ [row]) =
        addUnder (reducer.totals rows) row.key (reducer.share row) := by
      rw [totals, List.foldl_append]
      rfl
    rw [hstep, ih hrows, List.map_append, List.map_singleton, Json.firstKeys_append]
    split
    · rename_i hknown
      rw [← Json.any_firstKeys hkeys hrow] at hknown
      rw [addUnder_of_known _ _ (Json.firstKeys_apart hkeys hrow) hknown]
      refine List.map_congr_left fun key hkey => ?_
      obtain ⟨first, hfirst, rfl⟩ := List.mem_map.mp ((Json.firstKeys_sublist _).subset hkey)
      have hsome : (rowsUnder rows first.key).map reducer.share ≠ [] := by
        rw [ne_eq, List.map_eq_nil_iff]
        exact rowsUnder_ne_nil hfirst (hrows first hfirst)
      rw [rowsUnder_append]
      split
      · rw [List.map_append, List.map_singleton, runningTotal_append hsome]
      · rfl
    · rename_i hnew
      rw [Bool.not_eq_true] at hnew
      have hapart : ∀ key ∈ Json.firstKeys (rows.map ViewRow.key),
          key.deepEqual row.key = false := by
        intro key hkey
        exact Bool.eq_false_iff.mpr (List.any_eq_false.mp hnew key
          ((Json.firstKeys_sublist _).subset hkey))
      rw [addUnder_of_new _ (List.forall_mem_map.mpr hapart), List.map_append, List.map_singleton,
        rowsUnder_append, if_pos (Json.Same.refl hrow).deepEqual, rowsUnder_eq_nil hrows hrow hnew]
      congr 1
      refine List.map_congr_left fun key hkey => ?_
      rw [rowsUnder_append, if_neg (by simp [hapart key hkey])]

/-- The totals stand under the first keys. -/
lemma keys_totals (reducer : Reducer) (hrows : ∀ row ∈ rows, row.key.distinctKeys = true) :
    (reducer.totals rows).map Prod.fst = Json.firstKeys (rows.map ViewRow.key) := by
  rw [totals_eq reducer hrows, List.map_map]
  exact List.map_id _

/-- A total is the sum of the shares of its rows where no running total leaves the range. -/
lemma eq_sum_of_mem_totals (hrows : ∀ row ∈ rows, row.key.distinctKeys = true)
    {total : Json × Int} (htotal : total ∈ reducer.totals rows)
    (hrange : StaysInRange ((rowsUnder rows total.1).map reducer.share)) :
    total.2 = ((rowsUnder rows total.1).map reducer.share).sum := by
  rw [totals_eq reducer hrows] at htotal
  obtain ⟨key, -, rfl⟩ := List.mem_map.mp htotal
  exact hrange.runningTotal

/-- Where each row has exactly one of some keys, the shares under these keys are all shares. -/
lemma sum_rowsUnder (reducer : Reducer) {keys : List Json}
    (hkeys : ∀ row ∈ rows, ∃ first, keys.filter (·.deepEqual row.key) = [first]) :
    (keys.map fun key => ((rowsUnder rows key).map reducer.share).sum).sum =
      (rows.map reducer.share).sum := by
  induction rows with
  | nil => simp [rowsUnder]
  | cons row rows ih =>
    rw [List.forall_mem_cons] at hkeys
    obtain ⟨⟨first, hfirst⟩, hrows⟩ := hkeys
    have hsplit (key : Json) : ((rowsUnder (row :: rows) key).map reducer.share).sum =
        (if key.deepEqual row.key = true then reducer.share row else 0) +
          ((rowsUnder rows key).map reducer.share).sum := by
      rw [rowsUnder, List.filter_cons]
      split
      · rw [List.map_cons, List.sum_cons, rowsUnder]
      · rw [rowsUnder, Int.zero_add]
    simp only [hsplit, List.sum_map_add, List.sum_map_ite, ih hrows, Bool.decide_eq_true, hfirst,
      List.map_cons, List.map_nil, List.sum_cons, List.sum_nil]
    simp

/-- Together the totals are the sum of all shares where no running total leaves the range. -/
lemma sum_totals (hrows : ∀ row ∈ rows, row.key.distinctKeys = true)
    (hrange : ∀ total ∈ reducer.totals rows,
      StaysInRange ((rowsUnder rows total.1).map reducer.share)) :
    ((reducer.totals rows).map Prod.snd).sum = (rows.map reducer.share).sum := by
  have hkeys : ∀ row ∈ rows, ∃ first,
      (Json.firstKeys (rows.map ViewRow.key)).filter (·.deepEqual row.key) = [first] := by
    intro row hrow
    exact Json.filter_firstKeys (List.forall_mem_map.mpr hrows) (List.mem_map_of_mem hrow)
  calc ((reducer.totals rows).map Prod.snd).sum
    _ = ((reducer.totals rows).map fun total =>
          ((rowsUnder rows total.1).map reducer.share).sum).sum := by
        refine congrArg List.sum (List.map_congr_left fun total htotal => ?_)
        exact eq_sum_of_mem_totals hrows htotal (hrange total htotal)
    _ = ((Json.firstKeys (rows.map ViewRow.key)).map fun key =>
          ((rowsUnder rows key).map reducer.share).sum).sum := by
        rw [← keys_totals reducer hrows, List.map_map]
        rfl
    _ = (rows.map reducer.share).sum := reducer.sum_rowsUnder hkeys

lemma sum_map_share_count (rows : List ViewRow) : (rows.map count.share).sum = rows.length := by
  have hones : rows.map count.share = List.replicate rows.length 1 :=
    List.map_const' ..
  rw [hones, List.sum_replicate]
  simp

/-- Counting stays in range where there are no more rows than it has room for. -/
lemma staysInRange_count (h : (rows.length : Int) ≤ Number.maxInt) :
    StaysInRange (rows.map count.share) := by
  intro n
  rw [← List.map_take, sum_map_share_count, List.length_take]
  simp only [Number.minInt, Number.maxInt] at h ⊢
  omega

/-- Counting by key gives the numbers of the rows with each key, and of all rows together. -/
lemma totals_count (hrows : ∀ row ∈ rows, row.key.distinctKeys = true)
    (hlength : (rows.length : Int) ≤ Number.maxInt) :
    (∀ total ∈ count.totals rows, total.2 = (rowsUnder rows total.1).length) ∧
      ((count.totals rows).map Prod.snd).sum = rows.length := by
  have hrange (key : Json) : StaysInRange ((rowsUnder rows key).map count.share) := by
    have hle : (rowsUnder rows key).length ≤ rows.length := List.length_filter_le ..
    exact staysInRange_count (by omega)
  constructor
  · intro total htotal
    rw [eq_sum_of_mem_totals hrows htotal (hrange total.1), sum_map_share_count]
  · rw [sum_totals hrows fun total _ => hrange total.1, sum_map_share_count]

end Reducer

/-! ### Grouped queries -/

namespace View

/-- What it means that `totals` are those of a view by key. -/
structure Grouped (view : View) (reducer : Reducer) (totals : List (Json × Int)) : Prop where
  /-- The keys are those of the rows that equal no earlier one, in order. -/
  keys : totals.map Prod.fst = Json.firstKeys (view.rows.map ViewRow.key)
  /-- None equals another, -/
  apart : (totals.map Prod.fst).Pairwise fun a b => a.deepEqual b = false ∧ b.deepEqual a = false
  /-- and the key of each row equals exactly one of them. -/
  covers : ∀ row ∈ view.rows, ∃! key, key ∈ totals.map Prod.fst ∧ key.deepEqual row.key = true
  /-- Rows are counted under their keys and as a whole, as long as there are fewer than `2 ^ 63` of
  them (a list in memory has). -/
  count : reducer = .count → (view.rows.length : Int) ≤ Number.maxInt →
    (∀ total ∈ totals, total.2 = (Reducer.rowsUnder view.rows total.1).length) ∧
      (totals.map Prod.snd).sum = view.total ∧ view.total = view.rows.length
  /-- Values are summed under a key where no running total leaves the range, -/
  sum : reducer = .sum → ∀ total ∈ totals,
    Reducer.StaysInRange ((Reducer.rowsUnder view.rows total.1).map (·.value.toInt)) →
      total.2 = ((Reducer.rowsUnder view.rows total.1).map (·.value.toInt)).sum
  /-- and these sums together are that of all rows where it stays in range, too. -/
  sum_total : reducer = .sum →
    (∀ total ∈ totals,
      Reducer.StaysInRange ((Reducer.rowsUnder view.rows total.1).map (·.value.toInt))) →
    Reducer.StaysInRange (view.rows.map (·.value.toInt)) →
      (totals.map Prod.snd).sum = view.total ∧
        view.total = (view.rows.map (·.value.toInt)).sum

/-- A view that has been built answers with its totals by key, or with its total as a whole,
whatever order, page or documents a query asks for. No object in a key repeats a field, as none does
that is read from a text. -/
theorem build_grouped (view : View) (documents : List Document) {reducer : Reducer}
    (hreducer : view.reducer = some reducer)
    (hkeys : ∀ row ∈ (view.build documents).rows, row.key.distinctKeys = true) :
    ∃ totals, (view.build documents).Grouped reducer totals ∧
      ∀ query : ViewQuery, query.reduce = true →
        (view.build documents).query query =
          .reduced (if query.group then totals else [(.null, (view.build documents).total)]) := by
  have htotal : (view.build documents).total =
      Reducer.total (some reducer) (view.build documents).rows := by
    rw [← hreducer]
    rfl
  have hbuilt : (view.build documents).reducer = some reducer := hreducer
  generalize view.build documents = built at hkeys htotal hbuilt
  have hfirst := reducer.keys_totals hkeys
  have hdistinct : ∀ key ∈ built.rows.map ViewRow.key, key.distinctKeys = true :=
    List.forall_mem_map.mpr hkeys
  refine ⟨reducer.totals built.rows, ?_, ?_⟩
  · constructor
    case keys => exact hfirst
    case apart =>
      rw [hfirst]
      exact Json.firstKeys_pairwise hdistinct
    case covers =>
      intro row hrow
      rw [hfirst]
      exact Json.existsUnique_firstKeys hdistinct (List.mem_map_of_mem hrow)
    case count =>
      rintro rfl hlength
      obtain ⟨hcount, hsum⟩ := Reducer.totals_count hkeys hlength
      exact ⟨hcount, hsum.trans htotal.symm, htotal⟩
    case sum =>
      rintro rfl total hmem hrange
      exact Reducer.eq_sum_of_mem_totals hkeys hmem hrange
    case sum_total =>
      rintro rfl hclasses hrange
      have hwhole := htotal.trans (Reducer.total_sum hrange)
      exact ⟨(Reducer.sum_totals hkeys hclasses).trans hwhole.symm, hwhole⟩
  · intro query hreduce
    rw [View.query, hbuilt]
    exact if_pos hreduce

/-- Three rows under two keys, one of which is spelled in two ways. -/
theorem build_grouped_respelled :
    let map : RowMap := fun _ =>
      [(.int 1, .int 2), (.string "x", .string "4"), (.number (.float (.ofInt 1)), .int 3)]
    let view := View.ofMap "totals" (some .sum) map
    let built := view.build [.ofFields []]
    view.reducer = some .sum ∧ (∀ row ∈ built.rows, row.key.distinctKeys = true) ∧
      ∃ totals, totals.map Prod.snd = [5, 4] ∧ built.Grouped .sum totals ∧
        ∀ query : ViewQuery, query.reduce = true → built.query query =
          .reduced (if query.group then totals else [(.null, built.total)]) := by
  intro map view built
  have hkeys : ∀ row ∈ built.rows, row.key.distinctKeys = true := by decide +kernel
  obtain ⟨totals, hgrouped, hquery⟩ := view.build_grouped [.ofFields []] rfl hkeys
  have htotals : totals = Reducer.sum.totals built.rows :=
    (ViewResult.reduced.inj (hquery { ViewQuery.default with group := true } rfl)).symm
  have hsums : (Reducer.sum.totals built.rows).map Prod.snd = [5, 4] := by decide +kernel
  exact ⟨rfl, hkeys, totals, htotals ▸ hsums, hgrouped, hquery⟩

end View

end DocumentDb
