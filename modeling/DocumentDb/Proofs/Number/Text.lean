import DocumentDb.Number.Numeral
import DocumentDb.Proofs.Number.Coercion
import DocumentDb.Proofs.Number.Shortest

/-!
# Numbers as texts

A number is written as a decimal numeral with every digit in place, and the numeral is rounded to
that number again. The exception are integral floats beyond `2 ^ 63` and below `10 ^ 21`: they are
written as the signed 64-bit integer nearest to them, and so as one and the same numeral for each
sign.
-/

namespace DocumentDb

open Number (clamp minInt maxInt)

/-! ### Numerals with every digit in place -/

namespace Numeral

/-- Whether a text is a numeral with every digit in place: a sign, digits, and where there is a
fraction its digits after a point. -/
structure Spells (text : String) (negative : Bool) (whole fraction : List Char) : Prop where
  toList : text.toList =
    Text.sign negative ++ (whole ++ if fraction.isEmpty then [] else '.' :: fraction)
  whole_ne_nil : whole ≠ []
  isDigit : ∀ c ∈ whole ++ fraction, Text.isDigit c = true

/-- Whether a text is a numeral with every digit in place for a decimal that is rounded to a given
number. -/
def Denotes (text : String) (value : Double) : Prop :=
  ∃ negative whole fraction, Spells text negative whole fraction ∧
    Double.ofDecimal? negative (Text.ofDigits (whole ++ fraction)) (-(fraction.length : Int)) =
      some value

variable {text : String} {negative : Bool} {whole fraction : List Char}

/-- A numeral without a sign is read as the decimal that its digits are. -/
lemma read?_digits (hne : whole ≠ []) (hdigits : ∀ c ∈ whole ++ fraction, Text.isDigit c = true) :
    read? negative (whole ++ if fraction.isEmpty then [] else '.' :: fraction) =
      some (.ofRounded negative <| Double.ofDecimal? negative (Text.ofDigits (whole ++ fraction))
        (-(fraction.length : Int))) := by
  have hwhole : ∀ c ∈ whole, Text.isDigit c = true := fun c hc =>
    hdigits c (List.mem_append_left _ hc)
  have hfraction : ∀ c ∈ fraction, Text.isDigit c = true := fun c hc =>
    hdigits c (List.mem_append_right _ hc)
  have hstop :
      (if fraction.isEmpty then [] else '.' :: fraction).head?.any Text.isDigit = false := by
    split <;> rfl
  obtain ⟨htake, hdrop⟩ := Text.takeWhile_dropWhile_append hwhole hstop
  have hall : fraction.takeWhile Text.isDigit = fraction ∧ fraction.dropWhile Text.isDigit = [] :=
    ⟨List.takeWhile_eq_self_iff.mpr hfraction, List.dropWhile_eq_nil_iff.mpr hfraction⟩
  rw [read?, htake, hdrop]
  cases fraction with
  | nil => simp [hne]
  | cons first more => simp [hall]

/-- What starts with a digit is none of the words for what is not finite. -/
lemma readSigned?_digit {c : Char} {cs : List Char} (hc : Text.isDigit c = true) :
    readSigned? (Text.sign negative ++ c :: cs) = read? negative (c :: cs) := by
  have hplus : c ≠ '+' := by
    rintro rfl
    cases hc
  have hminus : c ≠ '-' := by
    rintro rfl
    cases hc
  have hword {first : Char} (rest : List Char) (hfirst : Text.isDigit first = false) :
      String.ofList ((c :: cs).map Char.toLower) ≠ String.ofList (first :: rest) := by
    rw [ne_eq, String.ofList_inj, List.map_cons, Text.toLower_of_isDigit hc]
    rintro ⟨⟩
    exact absurd hc (by rw [hfirst]; decide)
  cases negative
  all_goals
    simp only [Text.sign, Bool.false_eq_true, if_true, if_false, List.nil_append, List.cons_append,
      readSigned?, List.cons.injEq, hplus, hminus, false_and, imp_false, not_false_eq_true,
      implies_true]
    split
    · rename_i h
      exact absurd h (hword ['n', 'f'] rfl)
    · rename_i h
      exact absurd h (hword ['n', 'f', 'i', 'n', 'i', 't', 'y'] rfl)
    · rename_i h
      exact absurd h (hword ['a', 'n'] rfl)
    · rfl

lemma Spells.readSigned? (h : Spells text negative whole fraction) :
    readSigned? text.toList =
      some (.ofRounded negative <| Double.ofDecimal? negative (Text.ofDigits (whole ++ fraction))
        (-(fraction.length : Int))) := by
  obtain ⟨first, more, rfl⟩ := List.exists_cons_of_ne_nil h.whole_ne_nil
  rw [h.toList, List.cons_append,
    readSigned?_digit (h.isDigit first List.mem_cons_self), ← List.cons_append]
  exact read?_digits h.whole_ne_nil h.isDigit

/-- A numeral is read as the number that it is rounded to. -/
lemma Denotes.readSigned? {value : Double} (h : Denotes text value) :
    readSigned? text.toList = some (.finite value) := by
  obtain ⟨negative, whole, fraction, hspells, hvalue⟩ := h
  rw [hspells.readSigned?, hvalue]
  rfl

/-- A numeral is rounded to one number only. -/
lemma Denotes.unique {x y : Double} (hx : Denotes text x) (hy : Denotes text y) : x = y :=
  Extended.finite.inj (Option.some.inj (hx.readSigned?.symm.trans hy.readSigned?))

end Numeral

/-! ### Integers -/

namespace Double

/-- A 64-bit integer is read as the number nearest to it. -/
lemma ofDecimal?_natAbs {n : Int} (h : n.natAbs < 2 ^ 64) :
    ofDecimal? (n < 0) n.natAbs 0 = some (ofInt n) := by
  by_cases hn : n = 0
  · subst hn
    decide +kernel
  · have hlength : (Nat.toDigits 10 n.natAbs).length ≤ 20 :=
      (Nat.length_toDigits_le_iff (by decide) (by decide)).mpr (h.trans (by decide))
    rw [ofDecimal?, if_neg (by omega)]
    dsimp only
    rw [if_neg (by omega), if_neg (by omega), Int.neg_zero, Int.toNat_zero, Nat.pow_eq,
      Nat.pow_zero, Nat.mul_one]
    exact (ofUnits?_natAbs h).1

end Double

lemma Numeral.denotes_toString {n : Int} (h : n.natAbs < 2 ^ 64) :
    Denotes (toString n) (Double.ofInt n) := by
  refine ⟨n < 0, Nat.toDigits 10 n.natAbs, [], ⟨?_, Nat.toDigits_ne_nil, ?_⟩, ?_⟩
  · rw [Text.toList_toString]
    exact congrArg _ (List.append_nil _).symm
  · rw [List.append_nil]
    exact fun c => Text.isDigit_of_mem_toDigits
  · rw [List.append_nil, Text.ofDigits_toDigits]
    exact Double.ofDecimal?_natAbs h

/-! ### Decimals with every digit in place -/

/-- Zeros behind the digits, or the exponent that stands for them: both are rounded the same. -/
lemma Double.ofDecimal?_zeros (negative : Bool) (digits zeros : Nat) :
    ofDecimal? negative (digits * 10 ^ zeros) 0 = ofDecimal? negative digits zeros := by
  rcases Nat.eq_zero_or_pos digits with rfl | hpos
  · rw [Nat.zero_mul, ofDecimal?, ofDecimal?, if_pos rfl, if_pos rfl]
  · have hmul : 0 < digits * 10 ^ zeros := Nat.mul_pos hpos (Nat.pow_pos (by decide))
    have hnone : (-(zeros : Int)).toNat = (-0 : Int).toNat := by omega
    rw [ofDecimal?, ofDecimal?, if_neg hmul.ne', if_neg hpos.ne', Text.toDigits_mul_pow hpos]
    dsimp only
    rw [List.length_append, List.length_replicate, Int.natCast_add, Int.add_zero, hnone,
      Int.toNat_natCast, Int.toNat_zero, Nat.pow_eq, Nat.pow_eq, Nat.pow_eq, Nat.pow_zero,
      Nat.mul_one]

/-- Whether a text without a sign is a numeral with every digit in place for a decimal, rounded the
same as that decimal. -/
def Decimal.LaidOut (decimal : Decimal) (text : String) : Prop :=
  ∃ whole fraction,
    text.toList = whole ++ (if fraction.isEmpty then [] else '.' :: fraction) ∧
      whole ≠ [] ∧ (∀ c ∈ whole ++ fraction, Text.isDigit c = true) ∧
      ∀ negative, Double.ofDecimal? negative (Text.ofDigits (whole ++ fraction))
          (-(fraction.length : Int)) =
        Double.ofDecimal? negative decimal.digits decimal.exponent

namespace Decimal

variable {decimal : Decimal}

lemma isDigit_of_mem_digitText : ∀ c ∈ decimal.digitText, Text.isDigit c = true :=
  fun _ => Text.isDigit_of_mem_toDigits

lemma ofDigits_digitText : Text.ofDigits decimal.digitText = decimal.digits :=
  Text.ofDigits_toDigits _

/-- An integer has zeros behind its digits. -/
lemma laidOut_of_nonneg (h : 0 ≤ decimal.exponent) :
    decimal.LaidOut (decimal.positional false) := by
  refine ⟨decimal.digitText ++ List.replicate decimal.exponent.toNat '0', [], ?_, ?_, ?_, ?_⟩
  · simp [positional, h]
  · exact List.append_ne_nil_of_left_ne_nil Nat.toDigits_ne_nil _
  · rw [List.append_nil, List.forall_mem_append]
    exact ⟨isDigit_of_mem_digitText, Text.isDigit_of_mem_zeros⟩
  · intro negative
    rw [List.append_nil, Text.ofDigits_append, Text.ofDigits_replicate_zero, List.length_replicate,
      ofDigits_digitText, Nat.add_zero, Nat.mul_comm]
    refine (Double.ofDecimal?_zeros negative _ _).trans ?_
    rw [Int.toNat_of_nonneg h]

/-- A fraction has zeros in front of its digits, so that there is one before the point. -/
lemma laidOut_of_neg (h : ¬ 0 ≤ decimal.exponent) :
    decimal.LaidOut (decimal.positional false) := by
  rw [positional, if_neg h]
  dsimp only
  generalize hplaces : (-decimal.exponent).toNat = places
  generalize hpadded : List.replicate (places + 1 - decimal.digitText.length) '0' ++
    decimal.digitText = padded
  have hlength : places + 1 ≤ padded.length := by
    rw [← hpadded, List.length_append, List.length_replicate]
    omega
  have hfraction : (padded.drop (padded.length - places)).length = places := by
    rw [List.length_drop]
    omega
  have hsome : (padded.drop (padded.length - places)).isEmpty = false := by
    rw [List.isEmpty_eq_false_iff, ← List.length_pos_iff]
    omega
  refine ⟨padded.take (padded.length - places), padded.drop (padded.length - places),
    ?_, ?_, ?_, ?_⟩
  · rw [hsome]
    simp
  · rw [← List.length_pos_iff, List.length_take]
    omega
  · rw [List.take_append_drop, ← hpadded, List.forall_mem_append]
    exact ⟨Text.isDigit_of_mem_zeros, isDigit_of_mem_digitText⟩
  · intro negative
    rw [List.take_append_drop, hfraction, ← hpadded, Text.ofDigits_append,
      Text.ofDigits_replicate_zero, ofDigits_digitText, Nat.mul_zero, Nat.zero_add]
    exact congrArg _ (by omega)

lemma laidOut_positional (decimal : Decimal) : decimal.LaidOut (decimal.positional false) := by
  by_cases h : 0 ≤ decimal.exponent
  · exact laidOut_of_nonneg h
  · exact laidOut_of_neg h

end Decimal

/-- The text with every digit in place denotes the number that it is written for. -/
lemma Double.denotes_plainText (x : Double) : Numeral.Denotes x.plainText x := by
  obtain ⟨whole, fraction, htext, hne, hdigits, hvalue⟩ :=
    (Decimal.shortest x).laidOut_positional
  refine ⟨x.negative, whole, fraction, ⟨?_, hne, hdigits⟩, ?_⟩
  · rw [plainText, String.toList_append, htext, signText, Text.sign]
    cases x.negative <;> rfl
  · exact (hvalue x.negative).trans (Decimal.ofDecimal?_shortest x)

/-! ### Integral floats -/

namespace Double

lemma natAbs_trunc (x : Double) : x.trunc.natAbs = x.magnitude / one := by
  rw [trunc]
  split
  · rw [Int.natAbs_neg, Int.natAbs_natCast]
  · exact Int.natAbs_natCast _

lemma units_eq_trunc {x : Double} (h : x.isInteger = true) : x.units = x.trunc * one := by
  have hmagnitude : x.magnitude / one * one = x.magnitude :=
    Nat.div_mul_cancel (Nat.dvd_of_mod_eq_zero (beq_iff_eq.mp h))
  have hcast : ((x.magnitude / one : Nat) : Int) * one = x.magnitude := by
    rw [← Int.natCast_mul, hmagnitude]
  rw [units, trunc]
  split
  · rw [Int.neg_mul, hcast]
  · exact hcast.symm

/-- An integral number has 53 binary digits at most, and zeros behind them. -/
lemma representable_trunc {x : Double} (h : x.isInteger = true) : Representable x.trunc := by
  have hmantissa := x.mantissa_lt_two_pow
  obtain ⟨exponent, -, hone⟩ := exists_one_eq
  have hmagnitude : x.trunc.natAbs * 2 ^ exponent = x.mantissa * 2 ^ x.exponent := by
    rw [natAbs_trunc, ← hone, Nat.div_mul_cancel (Nat.dvd_of_mod_eq_zero (beq_iff_eq.mp h)),
      magnitude_eq]
  rcases Nat.le_total exponent x.exponent with hle | hle
  · refine ⟨x.mantissa, x.exponent - exponent, hmantissa.le, ?_⟩
    refine Nat.eq_of_mul_eq_mul_right (Nat.two_pow_pos exponent) ?_
    rw [hmagnitude, Nat.mul_assoc, ← Nat.pow_add, Nat.sub_add_cancel hle]
  · apply representable_of_natAbs_le
    refine le_trans ?_ hmantissa.le
    refine Nat.le_of_mul_le_mul_right ?_ (Nat.two_pow_pos x.exponent)
    rw [← hmagnitude]
    exact Nat.mul_le_mul_left _ (Nat.pow_le_pow_right (by decide) hle)

/-- The signed 64-bit integer nearest to a number of few digits becomes that number again, unless
the number is beyond `2 ^ 63`. -/
lemma nearest_clamp_iff {n : Int} (h : Representable n) :
    nearest (clamp n) = n ↔ n.natAbs ≤ 2 ^ 63 := by
  have hlargest : nearest maxInt = 2 ^ 63 := by decide +kernel
  have hsmallest : nearest minInt = minInt := nearest_eq_self ⟨1, 63, by decide, by decide⟩
  by_cases hrange : minInt ≤ n ∧ n ≤ maxInt
  · rw [Number.clamp_eq_self hrange, nearest_eq_self h]
    simp only [minInt, maxInt] at hrange
    omega
  · -- only `2 ^ 63` itself is rounded to from within the range
    have hend : clamp n = minInt ∧ n < minInt ∨ clamp n = maxInt ∧ maxInt < n := by
      rw [clamp]
      simp only [minInt, maxInt] at hrange ⊢
      omega
    rcases hend with ⟨hclamp, hn⟩ | ⟨hclamp, hn⟩
    · rw [hclamp, hsmallest]
      simp only [minInt] at hn ⊢
      omega
    · rw [hclamp, hlargest]
      simp only [maxInt] at hn
      omega

end Double

/-! ### Numbers -/

/-- Whether a number is an integral float beyond `2 ^ 63` that is written like an integer: as the
signed 64-bit integer nearest to it. -/
def Number.Saturated : Number → Prop
  | .int _ _ => False
  | .float x => x.isInteger = true ∧ x.absLt 1000000000000000000000 = true ∧
      2 ^ 63 < x.trunc.natAbs

namespace Number

/-- The text of a number denotes the number, or else the number is saturated. -/
lemma exists_denotes_text (n : Number) :
    ∃ x, Numeral.Denotes n.text x ∧ (x.numericEq n.toDouble = true ↔ ¬ n.Saturated) := by
  cases n with
  | int value inRange =>
    have hvalue : value.natAbs < 2 ^ 64 := by omega
    exact ⟨_, Numeral.denotes_toString hvalue, iff_of_true (beq_self_eq_true _) id⟩
  | float x =>
    rw [text, Saturated, toDouble]
    by_cases hinteger : x.isInteger && x.absLt 1000000000000000000000
    · rw [if_pos hinteger]
      rw [Bool.and_eq_true] at hinteger
      have hrange := clamp_range x.trunc
      have hclamp : (clamp x.trunc).natAbs < 2 ^ 64 := by
        simp only [minInt, maxInt] at hrange
        omega
      refine ⟨_, Numeral.denotes_toString hclamp, ?_⟩
      rw [Double.numericEq, beq_iff_eq, (Double.units_ofInt hclamp).1,
        Double.units_eq_trunc hinteger.1, Int.mul_eq_mul_right_iff (by decide),
        Double.nearest_clamp_iff (Double.representable_trunc hinteger.1)]
      simp [hinteger]
    · rw [if_neg hinteger]
      rw [Bool.and_eq_true] at hinteger
      exact ⟨x, x.denotes_plainText, iff_of_true (beq_self_eq_true _)
        fun hsaturated => hinteger ⟨hsaturated.1, hsaturated.2.1⟩⟩

/-- Numbers with one text are equal, unless one of them is saturated. -/
lemma numericEq_of_text_eq {n other : Number} (hn : ¬ n.Saturated) (hother : ¬ other.Saturated)
    (htext : n.text = other.text) : n.toDouble.numericEq other.toDouble = true := by
  obtain ⟨x, hx, hexact⟩ := n.exists_denotes_text
  obtain ⟨y, hy, hexact'⟩ := other.exists_denotes_text
  rw [← htext] at hy
  obtain rfl := hx.unique hy
  have hequal := hexact.mpr hn
  have hequal' := hexact'.mpr hother
  rw [Double.numericEq, beq_iff_eq] at hequal hequal'
  exact beq_iff_eq.mpr (hequal.symm.trans hequal')

/-- A selector with one clause, on the text of the value of a field. -/
lemma exists_selector_regex {field : String} (hfield : field ∉ ["$and", "$or", "$nor", "$not"])
    {operand : String} {pattern : Pattern} (hpattern : Pattern.parse operand = .ok pattern) :
    ∃ selector,
      Selector.ofJson (.object [(field, .object [("$regex", .string operand)])]) = .ok selector ∧
        ∀ document : Json, selector.matchesDocument document =
          pattern.occursIn (Json.textOf (document.get? field)) := by
  have hread : Selector.operatorOf "$regex" (.string operand) = .ok (.regex pattern) := by
    simp [Selector.operatorOf, Selector.readPlain, Selector.readPattern, hpattern,
      Except.mapError, Except.map]
  refine ⟨.mk [.field field (.operators [.regex pattern])], ?_, fun document => ?_⟩
  · rw [Json.ofJson_field hfield, Selector.conditionOf, Selector.operatorsOf,
      Selector.operatorsOf, hread]
    rfl
  · rw [Json.matchesDocument_field, Selector.conditionHolds, Selector.operatorsHold,
      Selector.operatorHolds, Selector.operatorsHold, Bool.and_true]

/-- The text of a number is a numeral that is read as the number again, unless the number is
saturated. So different numbers have different texts where neither is saturated, and `$regex` on a
field that holds a number is a test of its numeral. -/
theorem text_denotes (n : Number) :
    (∃ x, Numeral.Denotes n.text x ∧ Numeral.readSigned? n.text.toList = some (.finite x) ∧
        (x.numericEq n.toDouble = true ↔ ¬ n.Saturated)) ∧
      (∀ other : Number, n.text = other.text →
        n.toDouble.numericEq other.toDouble = true ∨ n.Saturated ∨ other.Saturated) ∧
      ∀ field ∉ ["$and", "$or", "$nor", "$not"], ∀ document : Json,
        document.get? field = some (.number n) → ∀ operand pattern,
          Pattern.parse operand = .ok pattern →
            ∃ selector,
              Selector.ofJson (.object [(field, .object [("$regex", .string operand)])]) =
                  .ok selector ∧
                selector.matchesDocument document = pattern.occursIn n.text := by
  obtain ⟨x, hx, hexact⟩ := n.exists_denotes_text
  refine ⟨⟨x, hx, hx.readSigned?, hexact⟩, ?_, ?_⟩
  · intro other htext
    by_cases hsaturated : n.Saturated ∨ other.Saturated
    · exact .inr hsaturated
    · rw [not_or] at hsaturated
      exact .inl (numericEq_of_text_eq hsaturated.1 hsaturated.2 htext)
  · intro field hfield document hvalue operand pattern hpattern
    obtain ⟨selector, hread, hmatches⟩ := exists_selector_regex hfield hpattern
    refine ⟨selector, hread, (hmatches document).trans ?_⟩
    rw [hvalue]
    rfl

/-- The number `2 ^ 63` and the largest signed 64-bit integer have one text, whose last digits a
selector finds, and are one number. -/
theorem text_denotes_two_pow :
    let n := Number.float (Double.ofInt (2 ^ 63))
    let document := Json.object [("a", .number n)]
    ¬ n.Saturated ∧ ¬ (ofInt maxInt).Saturated ∧ n.text = (ofInt maxInt).text ∧
      n.toDouble.numericEq (ofInt maxInt).toDouble = true ∧
      document.get? "a" = some (.number n) ∧
      ∃ selector, Selector.ofJson (.object [("a", .object [("$regex", .string "807$")])]) =
          .ok selector ∧
        selector.matchesDocument document = true := by
  intro n document
  have hn : ¬ n.Saturated := fun h => absurd h.2.2 (by decide +kernel)
  have hlargest : ¬ (ofInt maxInt).Saturated := by
    rw [ofInt, dif_pos (by decide)]
    exact id
  have htext : n.text = (ofInt maxInt).text := by decide +kernel
  have hvalue : document.get? "a" = some (.number n) := rfl
  obtain ⟨pattern, hpattern, hoccurs⟩ :
      ∃ pattern, Pattern.parse "807$" = .ok pattern ∧ pattern.occursIn n.text = true :=
    ⟨_, rfl, by decide +kernel⟩
  obtain ⟨-, hother, hregex⟩ := text_denotes n
  obtain ⟨selector, hread, hmatches⟩ := hregex "a" (by decide) document hvalue _ _ hpattern
  exact ⟨hn, hlargest, htext, (hother _ htext).resolve_right (not_or.mpr ⟨hn, hlargest⟩), hvalue,
    selector, hread, hmatches.trans hoccurs⟩

/-- Not all texts denote their numbers: `10 ^ 19` is written as the largest signed 64-bit integer.
-/
theorem not_text_denotes :
    ¬ ∀ n : Number, ∃ x, Numeral.Denotes n.text x ∧ x.numericEq n.toDouble = true := by
  intro hdenotes
  obtain ⟨x, hx, hequal⟩ := hdenotes (.float (Double.ofInt (10 ^ 19)))
  have hread : Numeral.readSigned? (Number.float (Double.ofInt (10 ^ 19))).text.toList =
      some (.finite (Double.ofInt maxInt)) := by decide +kernel
  have hlargest : x = Double.ofInt maxInt :=
    Extended.finite.inj (Option.some.inj (hx.readSigned?.symm.trans hread))
  rw [hlargest] at hequal
  exact absurd hequal (by decide +kernel)

end Number

end DocumentDb
