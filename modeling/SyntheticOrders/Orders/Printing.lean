import SyntheticOrders.Orders.Schema

/-! # Numerals in requests and in print

What the schema accepts is a numeral, and what it accepts it returns as it is. decimal.js
prints a number between 10⁻⁶ and 10²¹ as such a numeral, which denotes the number, and any
other positive number with an exponent, which neither viem nor the schema reads.
-/

namespace Orders

open Interaction Numeral

/-- The number that a text denotes. -/
def denoted (text : String) : Option Rat := (Plain.scan text.toList).map Plain.value

@[simp] theorem scan_ofList (numeral : Plain) :
    Plain.scan (String.ofList numeral.text).toList = some numeral := by
  rw [String.toList_ofList, Plain.scan_text]

@[simp] theorem denoted_text (numeral : Plain) :
    denoted (String.ofList numeral.text) = some numeral.value := by
  rw [denoted, scan_ofList, Option.map_some]

theorem Admissible.value_pos {numeral : Plain} (admissible : Admissible numeral) :
    0 < numeral.value :=
  div_pos (Nat.cast_pos.mpr admissible.positive) (by positivity)

theorem Admissible.matchDecimal {numeral : Plain} (admissible : Admissible numeral) :
    matchDecimal (String.ofList numeral.text) = some numeral := by
  rw [Orders.matchDecimal, scan_ofList, Option.filter_some, if_pos]
  exact decide_eq_true ⟨admissible.whole, admissible.fraction⟩

/-- An admissible numeral is far above the least number that `Number` takes for positive. -/
theorem Admissible.lt_mul_pow {numeral : Plain} (admissible : Admissible numeral) {exponent : Nat}
    (large : 60 ≤ exponent) : 10 ^ numeral.places < numeral.units * 2 ^ exponent := by
  refine lt_of_lt_of_le ?_ (Nat.le_mul_of_pos_left _ admissible.positive)
  calc 10 ^ numeral.places ≤ 10 ^ 18 := Nat.pow_le_pow_right (by decide) admissible.places
    _ < 2 ^ 60 := by norm_num
    _ ≤ 2 ^ exponent := Nat.pow_le_pow_right (by decide) large

namespace OrderSchema

/-- A text that the schema accepts is an admissible numeral. -/
theorem decimalString_ok {label text : String} {value : Option Json}
    (accepted : decimalString label value = .ok text) :
    ∃ numeral : Plain, text = String.ofList numeral.text ∧ Admissible numeral := by
  unfold decimalString at accepted
  split at accepted
  · cases accepted
  · next raw read =>
      split at accepted
      · cases accepted
      · next numeral matched =>
          obtain ⟨scanned, shape⟩ := Option.filter_eq_some_iff.mp matched
          simp only [ne_eq, Bool.decide_and, decide_not, Bool.and_eq_true, Bool.not_eq_eq_eq_not,
            Bool.not_true, decide_eq_false_iff_not] at shape
          split at accepted
          · cases accepted
          · next positive =>
              split at accepted
              · cases accepted
              · next places =>
                  cases accepted
                  refine ⟨numeral, ?_, shape.1, shape.2, ?_, Nat.le_of_not_lt places⟩
                  · rw [Plain.text_of_scan numeral scanned, String.ofList_toList]
                  · rw [Bool.not_eq_false, numberPositive, decide_eq_true_eq] at positive
                    exact Nat.pos_of_mul_pos_right (Nat.zero_lt_of_lt positive)

/-- The schema accepts every admissible numeral and returns it as it is. -/
theorem decimalString_text {numeral : Plain} (admissible : Admissible numeral) (label : String) :
    decimalString label (some (.string (String.ofList numeral.text))) =
      .ok (String.ofList numeral.text) := by
  have trimmed : trim (String.ofList numeral.text) = String.ofList numeral.text := by
    refine trim_eq fun letter listed => ?_
    rw [String.toList_ofList] at listed
    rcases numeral.mem_text listed with digit | rfl
    · exact isSpace_digit digit
    · decide
  have positive : numberPositive numeral = true :=
    decide_eq_true (admissible.lt_mul_pow (by decide))
  have string : OrderSchema.string (fun _ => label ++ " must be a decimal string, not a number")
      (some (.string (String.ofList numeral.text))) = .ok (String.ofList numeral.text) := rfl
  simp only [decimalString, string, trimmed, admissible.matchDecimal, positive, Bool.true_eq_false, ↓reduceIte,
    if_neg (Nat.not_lt.mpr admissible.places)]

/-- An accepted payload has admissible numerals for its amount and its trigger price. -/
theorem createOrderSchema_ok {payload : Payload} {input : CreateOrderInput}
    (accepted : createOrderSchema payload = .ok input) :
    (∃ numeral : Plain, input.amount = String.ofList numeral.text ∧ Admissible numeral) ∧
      ∃ numeral : Plain, input.triggerPrice = String.ofList numeral.text ∧ Admissible numeral := by
  unfold createOrderSchema at accepted
  simp only at accepted
  split at accepted
  · next amount triggerPrice _ amountOk priceOk _ =>
      cases accepted
      exact ⟨decimalString_ok amountOk, decimalString_ok priceOk⟩
  · cases accepted

end OrderSchema

/-! ## Printing and parsing -/

/-- The numbers that decimal.js writes without an exponent, apart from zero. -/
def Moderate (value : Rat) : Prop := 1 / 10 ^ 6 ≤ value ∧ value < 10 ^ 21

namespace DecimalJs

variable {decimal : Decimal}

theorem value_eq (positive : 0 < decimal.value) :
    0 < decimal.units ∧ decimal.value = decimal.units.natAbs / 10 ^ 18 := by
  have value : decimal.value = decimal.units / 10 ^ 18 := by
    rw [Decimal.value, Rat.mkRat_eq_div]
    push_cast
    rfl
  have units : 0 < decimal.units := by
    by_contra negative
    have below : (decimal.units : Rat) ≤ 0 := by exact_mod_cast Int.not_lt.mp negative
    have least : decimal.value ≤ 0 :=
      value ▸ div_nonpos_of_nonpos_of_nonneg below (by positivity)
    exact absurd positive least.not_gt
  refine ⟨units, ?_⟩
  rw [value, Nat.cast_natAbs, abs_of_pos units]

/-- The exponent of a number leaves the range of decimal.js exactly if the number does. -/
theorem moderate_iff (positive : 0 < decimal.value) : Moderate decimal.value ↔
    ¬ (exponent 18 decimal.units.natAbs ≤ -7 ∨ 21 ≤ exponent 18 decimal.units.natAbs) := by
  obtain ⟨units, value⟩ := value_eq positive
  have nonzero : decimal.units.natAbs ≠ 0 := Int.natAbs_ne_zero.mpr units.ne'
  have low := exponent_le_iff 18 11 nonzero
  have high := exponent_le_iff 18 38 nonzero
  rw [Moderate, value]
  generalize decimal.units.natAbs = count at low high ⊢
  have least : (1 : Rat) / 10 ^ 6 ≤ count / 10 ^ 18 ↔ 10 ^ 12 ≤ count := by
    rw [div_le_div_iff₀ (by positivity) (by positivity), one_mul]
    constructor
    · intro large
      have large : (10 : Rat) ^ 12 ≤ count := by linarith
      exact_mod_cast large
    · intro large
      have large : (10 : Rat) ^ 12 ≤ count := by exact_mod_cast large
      linarith
  have most : (count : Rat) / 10 ^ 18 < 10 ^ 21 ↔ count < 10 ^ 39 := by
    rw [div_lt_iff₀ (by positivity), ← pow_add]
    exact_mod_cast Iff.rfl
  rw [least, most]
  omega

theorem toString_moderate (positive : 0 < decimal.value) (moderate : Moderate decimal.value) :
    toString decimal = String.ofList (Plain.ofUnits 18 decimal.units.natAbs).text := by
  rw [toString, if_neg (value_eq positive).1.not_gt, print,
    if_neg ((moderate_iff positive).mp moderate), List.nil_append]

theorem toString_immoderate (positive : 0 < decimal.value) (immoderate : ¬ Moderate decimal.value) :
    toString decimal = String.ofList (scientific decimal.units.natAbs
      (exponent 18 decimal.units.natAbs)) := by
  rw [moderate_iff positive, not_not] at immoderate
  rw [toString, if_neg (value_eq positive).1.not_gt, print, if_pos immoderate, List.nil_append]

/-- A moderate number is printed as an admissible numeral that denotes it. -/
theorem toString_returns (positive : 0 < decimal.value) (moderate : Moderate decimal.value) :
    ∃ numeral : Plain, toString decimal = String.ofList numeral.text ∧ Admissible numeral ∧
      numeral.value = decimal.value := by
  have value : (Plain.ofUnits 18 decimal.units.natAbs).value = decimal.value :=
    (Plain.ofUnits_value _ _).trans (value_eq positive).2.symm
  have units : (Plain.ofUnits 18 decimal.units.natAbs).units ≠ 0 := by
    intro zero
    rw [Plain.value, zero, Nat.cast_zero, zero_div] at value
    exact positive.ne value
  exact ⟨_, toString_moderate positive moderate,
    ⟨Plain.ofUnits_whole _ _, Plain.ofUnits_fraction _ _, Nat.pos_of_ne_zero units,
      Plain.ofUnits_places _ _⟩, value⟩

/-- Only a moderate number is printed as a numeral. -/
theorem denoted_toString (positive : 0 < decimal.value) (immoderate : ¬ Moderate decimal.value) :
    denoted (toString decimal) = none := by
  rw [toString_immoderate positive immoderate, denoted, String.toList_ofList, scan_scientific,
    Option.map_none]

/-- Any other positive number is printed with an exponent. -/
theorem mem_toString (positive : 0 < decimal.value) (immoderate : ¬ Moderate decimal.value) :
    'e' ∈ (toString decimal).toList := by
  rw [toString_immoderate positive immoderate, String.toList_ofList]
  exact List.mem_append_right _ List.mem_cons_self

/-- Only a moderate number is parsed after it has been printed. -/
theorem parseUnits_toString {packages : Packages} (documented : packages.Documented)
    {numeral : Plain} (positive : 0 < numeral.value) (stored : decimal.value = numeral.value)
    {decimals : Nat} (offered : decimals = 6 ∨ decimals = 18) :
    packages.parseUnits (toString decimal) decimals = .ok (numeral.scaled decimals : Int) ↔
      Moderate numeral.value := by
  rw [← stored] at positive ⊢
  by_cases moderate : Moderate decimal.value
  · obtain ⟨printed, text, admissible, value⟩ := toString_returns positive moderate
    rw [text, documented.parseUnits admissible offered, Plain.scaled_congr (value.trans stored)]
    exact iff_of_true rfl moderate
  · obtain ⟨failure, refused⟩ :=
      documented.exponent _ decimals (mem_toString positive moderate)
    rw [refused]
    exact iff_of_false nofun moderate

end DecimalJs

end Orders
