import DocumentDb.Proofs.Number.Coercion
import DocumentDb.Proofs.View.Grouping

/-!
# Sums and the order of rows

A sum is brought into the signed 64-bit integers after each row. So it is the exact sum, brought
into range once, in every order of the rows just where the values have one sign, or where neither
those above zero nor those below leave the range on their own (`OrderFree`). Otherwise a total that
has been cut off comes back from a bound, and the order of the rows shows in it.
-/

namespace DocumentDb

open Number (clamp minInt maxInt)

namespace Reducer

/-! ### Shares in any order -/

variable {shares : List Int} {start : Int}

/-- What the shares above zero come to. -/
def gains (shares : List Int) : Int := (shares.map (max 0)).sum

/-- What the shares below zero come to. -/
def losses (shares : List Int) : Int := (shares.map (min 0)).sum

/-- Whether shares have one sign, or neither those above zero nor those below leave the signed
64-bit integers on their own. -/
def OrderFree (shares : List Int) : Prop :=
  (∀ share ∈ shares, 0 ≤ share) ∨ (∀ share ∈ shares, share ≤ 0) ∨
    minInt ≤ losses shares ∧ gains shares ≤ maxInt

lemma gains_cons (share : Int) (shares : List Int) :
    gains (share :: shares) = max 0 share + gains shares := rfl

lemma losses_cons (share : Int) (shares : List Int) :
    losses (share :: shares) = min 0 share + losses shares := rfl

lemma sum_eq_gains_add_losses (shares : List Int) : shares.sum = gains shares + losses shares := by
  induction shares with
  | nil => rfl
  | cons share shares ih =>
    rw [List.sum_cons, gains_cons, losses_cons]
    omega

lemma gains_nonneg (shares : List Int) : 0 ≤ gains shares := by
  induction shares with
  | nil => exact Int.le_refl 0
  | cons share shares ih =>
    rw [gains_cons]
    omega

lemma losses_nonpos (shares : List Int) : losses shares ≤ 0 := by
  induction shares with
  | nil => exact Int.le_refl 0
  | cons share shares ih =>
    rw [losses_cons]
    omega

/-- Fewer shares come to less, above zero and below. -/
lemma gains_losses_of_sublist {part : List Int} (h : part.Sublist shares) :
    gains part ≤ gains shares ∧ losses shares ≤ losses part := by
  induction h with
  | slnil => exact ⟨Int.le_refl _, Int.le_refl _⟩
  | cons share h ih =>
    rw [gains_cons, losses_cons]
    omega
  | cons_cons share h ih =>
    simp only [gains_cons, losses_cons]
    omega

lemma losses_eq_zero_iff : losses shares = 0 ↔ ∀ share ∈ shares, 0 ≤ share := by
  induction shares with
  | nil => simp [losses]
  | cons share shares ih =>
    have hrest := losses_nonpos shares
    rw [List.forall_mem_cons, ← ih, losses_cons]
    omega

lemma gains_eq_zero_iff : gains shares = 0 ↔ ∀ share ∈ shares, share ≤ 0 := by
  induction shares with
  | nil => simp [gains]
  | cons share shares ih =>
    have hrest := gains_nonneg shares
    rw [List.forall_mem_cons, ← ih, gains_cons]
    omega

lemma orderFree_iff :
    OrderFree shares ↔
      losses shares = 0 ∨ gains shares = 0 ∨ minInt ≤ losses shares ∧ gains shares ≤ maxInt := by
  rw [OrderFree, losses_eq_zero_iff, gains_eq_zero_iff]

lemma OrderFree.of_perm {order : List Int} (h : OrderFree shares) (hperm : order.Perm shares) :
    OrderFree order := by
  have hgains : gains order = gains shares := (hperm.map _).sum_eq
  have hlosses : losses order = losses shares := (hperm.map _).sum_eq
  rwa [orderFree_iff, hgains, hlosses, ← orderFree_iff]

/-- Shares of one sign are cut off at one bound only, so it does not matter when. -/
lemma foldl_addTo_of_sign (hsign : losses shares = 0 ∨ gains shares = 0)
    (hstart : minInt ≤ start ∧ start ≤ maxInt) :
    shares.foldl addTo start = clamp (start + shares.sum) := by
  induction shares generalizing start with
  | nil => rw [List.foldl_nil, List.sum_nil, Int.add_zero, Number.clamp_eq_self hstart]
  | cons share shares ih =>
    have hgains := gains_nonneg shares
    have hlosses := losses_nonpos shares
    have hsum := sum_eq_gains_add_losses shares
    rw [losses_cons, gains_cons] at hsign
    rw [List.foldl_cons, addTo, ih (by omega) (Number.clamp_range _), List.sum_cons]
    simp only [clamp, minInt, maxInt] at hstart ⊢
    omega

/-- Shares that do not leave the range on either side come to their exact sum. -/
lemma staysInRange_of_fits (h : minInt ≤ losses shares ∧ gains shares ≤ maxInt) :
    StaysInRange shares := by
  intro count
  have hless := gains_losses_of_sublist (List.take_sublist count shares)
  have hsum := sum_eq_gains_add_losses (shares.take count)
  have hgains := gains_nonneg (shares.take count)
  have hlosses := losses_nonpos (shares.take count)
  omega

lemma OrderFree.foldl (h : OrderFree shares) : shares.foldl addTo 0 = clamp shares.sum := by
  rw [orderFree_iff, ← or_assoc] at h
  rcases h with hsign | hfits
  · rw [foldl_addTo_of_sign hsign (by decide), Int.zero_add]
  · have hrange := staysInRange_of_fits hfits
    have hsum := hrange shares.length
    rw [List.take_length] at hsum
    rw [hrange.foldl, Number.clamp_eq_self hsum]

lemma foldl_addTo_append {first second : List Int} (hfirst : losses first = 0 ∨ gains first = 0)
    (hsecond : losses second = 0 ∨ gains second = 0) :
    (first ++ second).foldl addTo 0 = clamp (clamp first.sum + second.sum) := by
  rw [List.foldl_append, foldl_addTo_of_sign hfirst (by decide), Int.zero_add,
    foldl_addTo_of_sign hsecond (Number.clamp_range _)]

/-- Shares that are not free come to one total where those above zero come first, and to another
where those below zero do. -/
lemma orderFree_of_foldl_eq {above below : List Int} (habove : losses above = 0)
    (hbelow : gains below = 0)
    (h : (above ++ below).foldl addTo 0 = (below ++ above).foldl addTo 0) :
    OrderFree (above ++ below) := by
  have hgains : gains (above ++ below) = gains above := by
    rw [gains, List.map_append, List.sum_append, ← gains, ← gains, hbelow, Int.add_zero]
  have hlosses : losses (above ++ below) = losses below := by
    rw [losses, List.map_append, List.sum_append, ← losses, ← losses, habove, Int.zero_add]
  have hup := sum_eq_gains_add_losses above
  have hdown := sum_eq_gains_add_losses below
  have hnonneg := gains_nonneg above
  have hnonpos := losses_nonpos below
  rw [foldl_addTo_append (.inl habove) (.inr hbelow),
    foldl_addTo_append (.inr hbelow) (.inl habove)] at h
  rw [orderFree_iff, hgains, hlosses]
  simp only [clamp, minInt, maxInt] at h ⊢
  omega

/-! ### Totals of rows in any order -/

variable {rows order : List ViewRow} {key : Json}

lemma total_eq_foldl (rows : List ViewRow) :
    total (some sum) rows = (rows.map (·.value.toInt)).foldl addTo 0 := by
  rw [List.foldl_map]
  rfl

/-- Rows can be put in an order in which those with a value above zero come first. -/
lemma exists_above_below (rows : List ViewRow) :
    ∃ above below : List ViewRow, (above ++ below).Perm rows ∧
      losses (above.map (·.value.toInt)) = 0 ∧ gains (below.map (·.value.toInt)) = 0 := by
  refine ⟨rows.filter fun row => decide (0 ≤ row.value.toInt),
    rows.filter fun row => !decide (0 ≤ row.value.toInt), List.filter_append_perm _ _, ?_, ?_⟩
  · rw [losses_eq_zero_iff, List.forall_mem_map]
    intro row hrow
    exact of_decide_eq_true (List.mem_filter.mp hrow).2
  · rw [gains_eq_zero_iff, List.forall_mem_map]
    intro row hrow
    have hbelow := (List.mem_filter.mp hrow).2
    rw [Bool.not_eq_true', decide_eq_false_iff_not] at hbelow
    omega

/-- Where the order of rows does not show in their running total, their values are free. -/
lemma orderFree_of_forall_perm {total : Int}
    (h : ∀ order : List ViewRow, order.Perm rows →
      (order.map (·.value.toInt)).foldl addTo 0 = total) :
    OrderFree (rows.map (·.value.toInt)) := by
  obtain ⟨above, below, hperm, habove, hbelow⟩ := exists_above_below rows
  have hfirst := h (above ++ below) hperm
  have hlast := h (below ++ above) (List.perm_append_comm.trans hperm)
  rw [List.map_append] at hfirst hlast
  have hfree := orderFree_of_foldl_eq habove hbelow (hfirst.trans hlast.symm)
  rw [← List.map_append] at hfree
  exact hfree.of_perm (hperm.map _).symm

lemma foldl_of_orderFree (h : OrderFree (rows.map (·.value.toInt))) (hperm : order.Perm rows) :
    (order.map (·.value.toInt)).foldl addTo 0 = clamp (rows.map (·.value.toInt)).sum := by
  rw [(h.of_perm (hperm.map _)).foldl, (hperm.map _).sum_eq]

/-! ### Totals by key in any order -/

lemma runningTotal_eq_foldl (rows : List ViewRow) :
    runningTotal (rows.map (·.value.toInt)) = (rows.map (·.value.toInt)).foldl addTo 0 := by
  cases rows with
  | nil => rfl
  | cons row rows =>
    rw [List.map_cons, runningTotal, List.foldl_cons, addTo, Int.zero_add,
      Number.clamp_eq_self row.value.toInt_range]

lemma snd_of_mem_totals (hrows : ∀ row ∈ rows, row.key.distinctKeys = true) {total : Json × Int}
    (htotal : total ∈ sum.totals rows) :
    total.2 = ((rowsUnder rows total.1).map (·.value.toInt)).foldl addTo 0 := by
  rw [totals_eq sum hrows] at htotal
  obtain ⟨key, -, rfl⟩ := List.mem_map.mp htotal
  exact runningTotal_eq_foldl _

/-- Equal keys have the same rows. -/
lemma rowsUnder_congr {other : Json} (hrows : ∀ row ∈ rows, row.key.distinctKeys = true)
    (hkey : key.distinctKeys = true) (hother : other.distinctKeys = true)
    (h : key.deepEqual other = true) : rowsUnder rows key = rowsUnder rows other := by
  refine List.filter_congr fun row hrow => Bool.eq_iff_iff.mpr ⟨fun hrow' => ?_, fun hrow' => ?_⟩
  · exact Json.deepEqual_trans hother hkey (hrows row hrow) (Json.deepEqual_symm hkey hother h)
      hrow'
  · exact Json.deepEqual_trans hkey hother (hrows row hrow) h hrow'

/-- The key of a total is that of a row, -/
lemma exists_row_of_mem_totals (hrows : ∀ row ∈ rows, row.key.distinctKeys = true)
    {total : Json × Int} (htotal : total ∈ sum.totals rows) : ∃ row ∈ rows, row.key = total.1 := by
  have hfirst := List.mem_map_of_mem (f := Prod.fst) htotal
  rw [keys_totals sum hrows] at hfirst
  exact List.mem_map.mp ((Json.firstKeys_sublist _).subset hfirst)

/-- and the key of a row equals that of a total. -/
lemma exists_total_of_mem (hrows : ∀ row ∈ rows, row.key.distinctKeys = true) {row : ViewRow}
    (hrow : row ∈ rows) : ∃ total ∈ sum.totals rows, total.1.deepEqual row.key = true := by
  obtain ⟨first, ⟨hfirst, hequal⟩, -⟩ := Json.existsUnique_firstKeys
    (List.forall_mem_map.mpr hrows) (List.mem_map_of_mem (f := ViewRow.key) hrow)
  rw [← keys_totals sum hrows] at hfirst
  obtain ⟨total, htotal, rfl⟩ := List.mem_map.mp hfirst
  exact ⟨total, htotal, hequal⟩

lemma rowsUnder_perm (h : order.Perm rows) (key : Json) :
    (rowsUnder order key).Perm (rowsUnder rows key) := h.filter _

/-- The rows with a key can come in any order that the others are left in. -/
lemma rowsUnder_arranged {arranged : List ViewRow} (h : arranged.Perm (rowsUnder rows key)) :
    ∃ order, order.Perm rows ∧ rowsUnder order key = arranged := by
  refine ⟨arranged ++ rows.filter fun row => !key.deepEqual row.key,
    (h.append_right _).trans (List.filter_append_perm _ rows), ?_⟩
  have hunder : rowsUnder arranged key = arranged :=
    List.filter_eq_self.mpr fun row hrow => (List.mem_filter.mp (h.mem_iff.mp hrow)).2
  have hothers : rowsUnder (rows.filter fun row => !key.deepEqual row.key) key = [] := by
    refine List.filter_eq_nil_iff.mpr fun row hrow hequal => ?_
    simp [hequal] at hrow
  rw [rowsUnder, List.filter_append, ← rowsUnder, ← rowsUnder, hunder, hothers, List.append_nil]

/-- Each total by key is exact in every order just where the values under the key are free. -/
lemma totals_exact_iff (hrows : ∀ row ∈ rows, row.key.distinctKeys = true) :
    (∀ order, order.Perm rows → ∀ total ∈ sum.totals order,
        total.2 = clamp ((rowsUnder rows total.1).map (·.value.toInt)).sum) ↔
      ∀ row ∈ rows, OrderFree ((rowsUnder rows row.key).map (·.value.toInt)) := by
  have horder {order : List ViewRow} (hperm : order.Perm rows) :
      ∀ row ∈ order, row.key.distinctKeys = true :=
    fun row hrow => hrows row (hperm.mem_iff.mp hrow)
  constructor
  · intro hexact row hrow
    apply orderFree_of_forall_perm
    intro arranged harranged
    obtain ⟨order, hperm, rfl⟩ := rowsUnder_arranged harranged
    obtain ⟨total, htotal, hequal⟩ := exists_total_of_mem (horder hperm) (hperm.mem_iff.mpr hrow)
    obtain ⟨first, hfirst, hkey⟩ := exists_row_of_mem_totals (horder hperm) htotal
    have hdistinct : total.1.distinctKeys = true := hkey ▸ horder hperm first hfirst
    rw [← rowsUnder_congr (horder hperm) hdistinct (hrows row hrow) hequal,
      ← snd_of_mem_totals (horder hperm) htotal, hexact order hperm total htotal,
      rowsUnder_congr hrows hdistinct (hrows row hrow) hequal]
  · intro hfree order hperm total htotal
    obtain ⟨row, hrow, hkey⟩ := exists_row_of_mem_totals (horder hperm) htotal
    rw [snd_of_mem_totals (horder hperm) htotal, ← hkey]
    exact foldl_of_orderFree (hfree row (hperm.mem_iff.mp hrow)) (rowsUnder_perm hperm _)

/-! ### The same totals -/

/-- Items that each have exactly one partner in the other list can be put side by side. -/
lemma exists_perm_forall₂ {α β : Type} {R : α → β → Prop} {items : List α} {others : List β}
    (hitems : items.Pairwise fun a b => ∀ c, R a c → ¬ R b c)
    (hothers : others.Pairwise fun c d => ∀ a, R a c → ¬ R a d)
    (hleft : ∀ a ∈ items, ∃ c ∈ others, R a c) (hright : ∀ c ∈ others, ∃ a ∈ items, R a c) :
    ∃ arranged, arranged.Perm others ∧ List.Forall₂ R items arranged := by
  induction items generalizing others with
  | nil =>
    have hnil : others = [] := by
      refine List.eq_nil_iff_forall_not_mem.mpr fun c hc => ?_
      obtain ⟨a, ha, -⟩ := hright c hc
      cases ha
    exact ⟨[], hnil ▸ .nil, .nil⟩
  | cons a items ih =>
    rw [List.pairwise_cons] at hitems
    obtain ⟨c, hc, hac⟩ := hleft a List.mem_cons_self
    obtain ⟨front, back, rfl⟩ := List.append_of_mem hc
    have hmiddle : (c :: (front ++ back)).Perm (front ++ c :: back) := List.perm_middle.symm
    have hpartner : ∀ d ∈ front ++ back, ¬ R a d := by
      rw [List.pairwise_append, List.pairwise_cons] at hothers
      intro d hd had
      rcases List.mem_append.mp hd with hd | hd
      · exact hothers.2.2 d hd c List.mem_cons_self a had hac
      · exact hothers.2.1.1 d hd a hac had
    have hrestLeft : ∀ b ∈ items, ∃ d ∈ front ++ back, R b d := by
      intro b hb
      obtain ⟨d, hd, hbd⟩ := hleft b (List.mem_cons_of_mem a hb)
      rcases List.mem_cons.mp (hmiddle.mem_iff.mpr hd) with rfl | hd
      · exact absurd hbd (hitems.1 b hb d hac)
      · exact ⟨d, hd, hbd⟩
    have hrestRight : ∀ d ∈ front ++ back, ∃ b ∈ items, R b d := by
      intro d hd
      obtain ⟨b, hb, hbd⟩ := hright d (hmiddle.subset (List.mem_cons_of_mem c hd))
      rcases List.mem_cons.mp hb with rfl | hb
      · exact absurd hbd (hpartner d hd)
      · exact ⟨b, hb, hbd⟩
    have hrest := hothers.sublist ((List.sublist_cons_self c back).append_left front)
    obtain ⟨arranged, hperm, hforall⟩ := ih hitems.2 hrest hrestLeft hrestRight
    exact ⟨c :: arranged, (hperm.cons c).trans hmiddle, .cons hac hforall⟩

/-- Whether totals are the same up to their order and the spelling of their keys. -/
def SameTotals (totals others : List (Json × Int)) : Prop :=
  ∃ arranged, arranged.Perm others ∧
    List.Forall₂ (fun a b => a.1.deepEqual b.1 = true ∧ a.2 = b.2) totals arranged

/-- Rows in another order have the same first keys, up to order and spelling. -/
lemma exists_perm_firstKeys (hrows : ∀ row ∈ rows, row.key.distinctKeys = true)
    (hperm : order.Perm rows) :
    ∃ arranged, arranged.Perm (Json.firstKeys (rows.map ViewRow.key)) ∧
      List.Forall₂ Json.Same (Json.firstKeys (order.map ViewRow.key)) arranged := by
  have hdistinct : ∀ key ∈ rows.map ViewRow.key, key.distinctKeys = true :=
    List.forall_mem_map.mpr hrows
  have hkeys := hperm.map ViewRow.key
  have hdistinct' : ∀ key ∈ order.map ViewRow.key, key.distinctKeys = true :=
    fun key hkey => hdistinct key (hkeys.mem_iff.mp hkey)
  refine exists_perm_forall₂ ?_ ?_ ?_ ?_
  · refine (Json.firstKeys_pairwise hdistinct').imp fun {a b} hapart c hac hbc => ?_
    exact Bool.eq_false_iff.mp hapart.1 (hac.trans hbc.symm).deepEqual
  · refine (Json.firstKeys_pairwise hdistinct).imp fun {c d} hapart a hac had => ?_
    exact Bool.eq_false_iff.mp hapart.1 (hac.symm.trans had).deepEqual
  · intro key hkey
    have hmem := hkeys.mem_iff.mp ((Json.firstKeys_sublist _).subset hkey)
    obtain ⟨first, ⟨hfirst, hequal⟩, -⟩ := Json.existsUnique_firstKeys hdistinct hmem
    have hfirst' := hdistinct first ((Json.firstKeys_sublist _).subset hfirst)
    exact ⟨first, hfirst, (Json.Same.symm ⟨hequal, hfirst', hdistinct key hmem⟩)⟩
  · intro key hkey
    have hmem := hkeys.mem_iff.mpr ((Json.firstKeys_sublist _).subset hkey)
    obtain ⟨first, ⟨hfirst, hequal⟩, -⟩ := Json.existsUnique_firstKeys hdistinct' hmem
    have hfirst' := hdistinct' first ((Json.firstKeys_sublist _).subset hfirst)
    exact ⟨first, hfirst, hequal, hfirst', hdistinct' key hmem⟩

/-- Whatever key is asked for, the values under it are those under the key of a row, or none. -/
lemma orderFree_rowsUnder (hrows : ∀ row ∈ rows, row.key.distinctKeys = true)
    (hfree : ∀ row ∈ rows, OrderFree ((rowsUnder rows row.key).map (·.value.toInt)))
    (hkey : key.distinctKeys = true) : OrderFree ((rowsUnder rows key).map (·.value.toInt)) := by
  cases hunder : rowsUnder rows key with
  | nil => exact .inl (List.forall_mem_nil _)
  | cons row rest =>
    have hmem : row ∈ rowsUnder rows key := hunder ▸ List.mem_cons_self
    obtain ⟨hrow, hequal⟩ := List.mem_filter.mp hmem
    rw [← hunder, rowsUnder_congr hrows hkey (hrows row hrow) hequal]
    exact hfree row hrow

/-- Where the values under each key are free, rows have the same totals in every order. -/
lemma sameTotals_of_orderFree (hrows : ∀ row ∈ rows, row.key.distinctKeys = true)
    (hfree : ∀ row ∈ rows, OrderFree ((rowsUnder rows row.key).map (·.value.toInt)))
    (hperm : order.Perm rows) : SameTotals (sum.totals order) (sum.totals rows) := by
  have horder : ∀ row ∈ order, row.key.distinctKeys = true :=
    fun row hrow => hrows row (hperm.mem_iff.mp hrow)
  obtain ⟨arranged, harranged, hsame⟩ := exists_perm_firstKeys hrows hperm
  rw [SameTotals, totals_eq sum horder, totals_eq sum hrows]
  refine ⟨_, harranged.map _, ?_⟩
  rw [List.forall₂_map_left_iff, List.forall₂_map_right_iff]
  refine hsame.imp fun first other h => ⟨h.deepEqual, ?_⟩
  have hclass := orderFree_rowsUnder hrows hfree h.right
  calc runningTotal ((rowsUnder order first).map (·.value.toInt))
    _ = ((rowsUnder order other).map (·.value.toInt)).foldl addTo 0 := by
        rw [runningTotal_eq_foldl, rowsUnder_congr horder h.left h.right h.deepEqual]
    _ = ((rowsUnder rows other).map (·.value.toInt)).foldl addTo 0 := by
        rw [foldl_of_orderFree hclass (rowsUnder_perm hperm _),
          foldl_of_orderFree hclass (.refl _)]
    _ = runningTotal ((rowsUnder rows other).map (·.value.toInt)) := (runningTotal_eq_foldl _).symm

end Reducer

/-! ### Views over documents in any order -/

namespace View

open Reducer

lemma rows_build_perm (view : View) {documents others : List Document}
    (h : others.Perm documents) : (view.build others).rows.Perm (view.build documents).rows :=
  (h.filter _).flatMap_right _

/-- The sum of a view is the exact sum, brought into the signed 64-bit integers once, in every order
of its rows just where their values, read as integers, are free, and so is each total by key just
where the values under the key are. Then it does not matter in which order a view looks at the
documents. -/
theorem build_sums (view : View) (hreducer : view.reducer = some .sum) (documents : List Document)
    (hkeys : ∀ row ∈ (view.build documents).rows, row.key.distinctKeys = true) :
    let rows := (view.build documents).rows
    ((∀ order, order.Perm rows →
        Reducer.total (some sum) order = clamp (rows.map (·.value.toInt)).sum) ↔
        OrderFree (rows.map (·.value.toInt))) ∧
      ((∀ order, order.Perm rows → ∀ total ∈ sum.totals order,
          total.2 = clamp ((rowsUnder rows total.1).map (·.value.toInt)).sum) ↔
        ∀ row ∈ rows, OrderFree ((rowsUnder rows row.key).map (·.value.toInt))) ∧
      ∀ others, others.Perm documents →
        (OrderFree (rows.map (·.value.toInt)) →
          (view.build others).total = (view.build documents).total) ∧
        ((∀ row ∈ rows, OrderFree ((rowsUnder rows row.key).map (·.value.toInt))) →
          SameTotals (sum.totals (view.build others).rows) (sum.totals rows)) := by
  intro rows
  refine ⟨⟨fun hexact => ?_, fun hfree order hperm => ?_⟩, totals_exact_iff hkeys,
    fun others hothers => ⟨fun hfree => ?_, fun hfree => ?_⟩⟩
  · exact orderFree_of_forall_perm fun order hperm =>
      (total_eq_foldl order).symm.trans (hexact order hperm)
  · rw [total_eq_foldl]
    exact foldl_of_orderFree hfree hperm
  · have htotal (documents : List Document) : (view.build documents).total =
        ((view.build documents).rows.map (·.value.toInt)).foldl addTo 0 := by
      rw [← total_eq_foldl, ← hreducer]
      rfl
    rw [htotal, htotal, foldl_of_orderFree hfree (view.rows_build_perm hothers),
      foldl_of_orderFree hfree (.refl _)]
  · exact sameTotals_of_orderFree hkeys hfree (view.rows_build_perm hothers)

/-- A view that sums the values which its documents hold under the key 1. -/
def summing : View :=
  View.ofMap "sums" (some .sum) fun document => [(.int 1, (document.get? "value").getD .null)]

/-- A document for each of some integers. -/
def holding (values : List Int) : List Document :=
  values.map fun value => .ofFields [("value", .int value)]

/-- The largest integer may go down as long as nothing takes it up. -/
theorem build_sums_largest :
    let documents := holding [-1, maxInt, -5]
    let others := holding [maxInt, -5, -1]
    let rows := (summing.build documents).rows
    summing.reducer = some .sum ∧ (∀ row ∈ rows, row.key.distinctKeys = true) ∧
      OrderFree (rows.map (·.value.toInt)) ∧ others.Perm documents ∧
      Reducer.total (some sum) rows = maxInt - 6 ∧
      (summing.build others).total = (summing.build documents).total := by
  intro documents others rows
  have hkeys : ∀ row ∈ rows, row.key.distinctKeys = true := by decide +kernel
  have hshares : rows.map (·.value.toInt) = [-1, maxInt, -5] := by decide +kernel
  have hfree : OrderFree (rows.map (·.value.toInt)) := hshares ▸ .inr (.inr (by decide))
  have hothers : others.Perm documents := List.Perm.map _ (by decide)
  obtain ⟨htotal, -, hbuilt⟩ := build_sums summing rfl documents hkeys
  have hexact := htotal.mpr hfree rows (.refl _)
  rw [hshares] at hexact
  exact ⟨rfl, hkeys, hfree, hothers, hexact, (hbuilt others hothers).1 hfree⟩

/-- A sum that has been cut off comes back from the bound, unless what cuts it off comes last. -/
theorem not_build_sums :
    let documents := holding [maxInt, 1, -1]
    let others := holding [maxInt, -1, 1]
    let rows := (summing.build documents).rows
    (summing.build documents).total ≠ clamp (rows.map (·.value.toInt)).sum ∧
      (¬ ∀ total ∈ sum.totals rows,
        total.2 = clamp ((rowsUnder rows total.1).map (·.value.toInt)).sum) ∧
      others.Perm documents ∧ (summing.build others).total ≠ (summing.build documents).total := by
  intro documents others rows
  exact ⟨by decide +kernel, by decide +kernel, List.Perm.map _ (by decide), by decide +kernel⟩

end View

end DocumentDb
