import Mathlib

/-! # Decimal numerals

A plain numeral is a list of digits with an optional point; it denotes a rational
number. Scanning reads one from a text, printing writes a number of units of a given
scale, plain or, where it is very small or very large, with an exponent.
-/

namespace Numeral

/-- The number that a list of digits stands for. -/
abbrev number (digits : List Char) : Nat := Nat.ofDigitChars 10 digits 0

theorem number_append (first second : List Char) :
    number (first ++ second) = number first * 10 ^ second.length + number second := by
  rw [number, Nat.ofDigitChars_append, Nat.ofDigitChars_eq_ofDigitChars_zero, mul_comm]

theorem number_zeros (count : Nat) : number (List.replicate count '0') = 0 := by
  rw [number, Nat.ofDigitChars_replicate_zero, mul_zero]

theorem number_cons (digit : Char) (digits : List Char) :
    number (digit :: digits) = (digit.toNat - '0'.toNat) * 10 ^ digits.length + number digits := by
  rw [number, Nat.ofDigitChars_cons, Nat.ofDigitChars_eq_ofDigitChars_zero, mul_zero, zero_add,
    mul_comm]

theorem number_lt {digits : List Char} (valid : ∀ digit ∈ digits, digit.isDigit = true) :
    number digits < 10 ^ digits.length := by
  induction digits with
  | nil => exact Nat.zero_lt_one
  | cons digit rest ih =>
      have small := (Char.isDigit_iff_toNat.mp (valid digit List.mem_cons_self)).2
      have below := ih fun other listed => valid other (List.mem_cons_of_mem _ listed)
      have most : digit.toNat - '0'.toNat ≤ 9 := Nat.sub_le_sub_right small _
      rw [number_cons, List.length_cons, Nat.pow_succ]
      have scaled := Nat.mul_le_mul_right (10 ^ rest.length) most
      omega

theorem number_eq_zero_iff {digits : List Char} (valid : ∀ digit ∈ digits, digit.isDigit = true) :
    number digits = 0 ↔ ∀ digit ∈ digits, digit = '0' := by
  induction digits with
  | nil => exact iff_of_true rfl fun _ listed => absurd listed List.not_mem_nil
  | cons digit rest ih =>
      have least := (Char.isDigit_iff_toNat.mp (valid digit List.mem_cons_self)).1
      have same : digit.toNat - '0'.toNat = 0 ↔ digit = '0' := by
        rw [Nat.sub_eq_zero_iff_le, ← Char.toNat_inj]
        exact ⟨fun most => le_antisymm most least, fun equal => equal.le⟩
      rw [number_cons, Nat.add_eq_zero_iff, Nat.mul_eq_zero, same,
        ih fun other listed => valid other (List.mem_cons_of_mem _ listed), List.forall_mem_cons,
        or_iff_left (Nat.pow_pos (by decide)).ne']

/-- A numeral without sign and exponent. -/
structure Plain where
  whole : List Char
  fraction : Option (List Char)
  digits : ∀ letter ∈ whole ++ fraction.getD [], letter.isDigit = true
deriving DecidableEq

namespace Plain

/-- The digits after the point. -/
def decimals (numeral : Plain) : List Char := numeral.fraction.getD []

/-- How many digits stand after the point. -/
def places (numeral : Plain) : Nat := numeral.decimals.length

/-- The value in units of the last digit. -/
def units (numeral : Plain) : Nat := number (numeral.whole ++ numeral.decimals)

/-- The number that a numeral denotes. -/
def value (numeral : Plain) : Rat := numeral.units / 10 ^ numeral.places

/-- The value in units of a given scale, rounded half up. -/
def scaled (numeral : Plain) (scale : Nat) : Nat :=
  (2 * (numeral.units * 10 ^ scale) + 10 ^ numeral.places) / (2 * 10 ^ numeral.places)

variable (numeral : Plain)

theorem scaled_eq_floor (scale : Nat) :
    numeral.scaled scale = ⌊numeral.value * 10 ^ scale + 1 / 2⌋₊ := by
  rw [scaled, ← Nat.floor_div_eq_div (K := Rat)]
  congr 1
  rw [value]
  push_cast
  field_simp

/-- Numerals that denote the same number scale to the same number. -/
theorem scaled_congr {first second : Plain} (same : first.value = second.value) (scale : Nat) :
    first.scaled scale = second.scaled scale := by
  rw [scaled_eq_floor, scaled_eq_floor, same]

theorem scaled_of_exact {scale amount : Nat} (exact : numeral.value * 10 ^ scale = amount) :
    numeral.scaled scale = amount := by
  rw [scaled_eq_floor, exact, Nat.floor_eq_iff (by positivity)]
  constructor
  · linarith
  · linarith

/-- Nothing is rounded exactly if the digits past the scale are all zero. -/
theorem scaled_exact_iff (scale : Nat) :
    (numeral.scaled scale : Rat) = numeral.value * 10 ^ scale ↔
      ∀ digit ∈ numeral.decimals.drop scale, digit = '0' := by
  have valid : ∀ digit ∈ numeral.decimals.drop scale, digit.isDigit = true := fun digit listed =>
    numeral.digits digit (List.mem_append_right _ (List.mem_of_mem_drop listed))
  have split : numeral.units = number (numeral.whole ++ numeral.decimals.take scale) *
      10 ^ (numeral.decimals.drop scale).length + number (numeral.decimals.drop scale) := by
    rw [← number_append, List.append_assoc, List.take_append_drop, units]
  have below := number_lt valid
  rw [← number_eq_zero_iff valid]
  have places : numeral.places = min scale numeral.places + (numeral.decimals.drop scale).length := by
    rw [List.length_drop, Plain.places]
    omega
  have cut : (numeral.decimals.drop scale).length = 0 ∨ min scale numeral.places = scale := by
    rw [List.length_drop, Plain.places]
    omega
  -- Past the digits that the scale takes, `kept` and the number of the others are left over.
  generalize number (numeral.whole ++ numeral.decimals.take scale) = kept at split
  generalize number (numeral.decimals.drop scale) = left at split below ⊢
  generalize (numeral.decimals.drop scale).length = count at split below places cut
  have power : (10 : Rat) ^ scale =
      10 ^ min scale numeral.places * 10 ^ (scale - min scale numeral.places) := by
    rw [← pow_add, Nat.add_sub_cancel' (Nat.min_le_left ..)]
  have value : numeral.value * 10 ^ scale =
      (kept * 10 ^ count + left) * 10 ^ (scale - min scale numeral.places) / 10 ^ count := by
    rw [Plain.value, split, places, power, pow_add]
    push_cast
    field_simp
    rw [← places]
  constructor
  · intro exact
    rcases cut with none | full
    · subst none
      omega
    · rw [value, full, Nat.sub_self, pow_zero, mul_one, eq_div_iff (by positivity)] at exact
      have whole : numeral.scaled scale * 10 ^ count = kept * 10 ^ count + left := by
        exact_mod_cast exact
      have divides : 10 ^ count ∣ left :=
        (Nat.dvd_add_right (Nat.dvd_mul_left _ _)).mp (whole ▸ Nat.dvd_mul_left _ _)
      exact Nat.eq_zero_of_dvd_of_lt divides below
  · intro none
    have integral : numeral.value * 10 ^ scale =
        (kept * 10 ^ (scale - min scale numeral.places) : Nat) := by
      rw [value, none]
      push_cast
      field_simp
      ring
    rw [numeral.scaled_of_exact integral, integral]

/-- A numeral with no more places than the scale is not rounded. -/
theorem scaled_exact {scale : Nat} (fits : numeral.places ≤ scale) :
    (numeral.scaled scale : Rat) = numeral.value * 10 ^ scale := by
  rw [scaled_exact_iff, List.drop_eq_nil_of_le fits]
  exact fun _ listed => absurd listed List.not_mem_nil

/-! ## Scanning -/

/-- The letters of a numeral. -/
def text : List Char := numeral.whole ++ numeral.fraction.elim [] fun fraction => '.' :: fraction

/-- The numeral that a text is, if it is one. -/
def scan (text : List Char) : Option Plain :=
  have whole : ∀ letter ∈ text.takeWhile Char.isDigit, letter.isDigit = true :=
    fun _ => List.mem_takeWhile_imp
  match text.dropWhile Char.isDigit with
  | [] => some ⟨text.takeWhile Char.isDigit, none, by simpa using whole⟩
  | point :: fraction =>
      if valid : point = '.' ∧ fraction.all Char.isDigit = true then
        some ⟨text.takeWhile Char.isDigit, some fraction, fun letter listed =>
          (List.mem_append.mp listed).elim (whole letter) (List.all_eq_true.mp valid.2 letter)⟩
      else none

theorem scan_text : scan numeral.text = some numeral := by
  obtain ⟨whole, fraction, digits⟩ := numeral
  have valid : ∀ letter ∈ whole, letter.isDigit = true := fun letter listed =>
    digits letter (List.mem_append_left _ listed)
  cases fraction with
  | none =>
      have taken : whole.takeWhile Char.isDigit = whole := List.takeWhile_eq_self_iff.mpr valid
      have dropped : whole.dropWhile Char.isDigit = [] := List.dropWhile_eq_nil_iff.mpr valid
      simp only [text, Option.elim_none, List.append_nil, scan, dropped, taken]
  | some fraction =>
      have taken : (whole ++ '.' :: fraction).takeWhile Char.isDigit = whole := by
        rw [List.takeWhile_append_of_pos valid, List.takeWhile_cons_of_neg (by decide),
          List.append_nil]
      have dropped : (whole ++ '.' :: fraction).dropWhile Char.isDigit = '.' :: fraction := by
        rw [List.dropWhile_append_of_pos valid, List.dropWhile_cons_of_neg (by decide)]
      have rest : fraction.all Char.isDigit = true := List.all_eq_true.mpr fun letter listed =>
        digits letter (List.mem_append_right _ listed)
      simp only [text, Option.elim_some, scan, dropped, taken, true_and, dif_pos rest]

theorem text_of_scan {letters : List Char} (scanned : scan letters = some numeral) :
    numeral.text = letters := by
  have whole := letters.takeWhile_append_dropWhile (p := Char.isDigit)
  unfold scan at scanned
  split at scanned
  · next ends =>
      cases scanned
      rw [ends] at whole
      exact whole
  · next point fraction pointed =>
      split at scanned
      · next valid =>
          cases scanned
          rw [pointed, valid.1] at whole
          exact whole
      · cases scanned

/-- The letters of a numeral are digits and a point. -/
theorem mem_text {letter : Char} (listed : letter ∈ numeral.text) :
    letter.isDigit = true ∨ letter = '.' := by
  rcases List.mem_append.mp listed with whole | rest
  · exact Or.inl (numeral.digits letter (List.mem_append_left _ whole))
  · cases fraction : numeral.fraction with
    | none =>
        rw [fraction] at rest
        exact absurd rest List.not_mem_nil
    | some decimals =>
        rw [fraction] at rest
        rcases List.mem_cons.mp rest with point | digit
        · exact Or.inr point
        · refine Or.inl (numeral.digits letter (List.mem_append_right _ ?_))
          rw [fraction]
          exact digit

/-- A text with a letter that is neither a digit nor a point is no numeral. -/
theorem scan_eq_none {letters : List Char} {letter : Char} (listed : letter ∈ letters)
    (noDigit : letter.isDigit = false) (noPoint : letter ≠ '.') : scan letters = none := by
  by_contra scanned
  obtain ⟨numeral, scanned⟩ := Option.ne_none_iff_exists'.mp scanned
  rw [← text_of_scan numeral scanned] at listed
  rcases numeral.mem_text listed with digit | point
  · rw [digit] at noDigit
    cases noDigit
  · exact noPoint point

/-! ## Printing -/

/-- The digits of a number, at least one of them before the last `scale`. -/
def padded (scale units : Nat) : List Char :=
  List.replicate (scale + 1 - (Nat.toDigits 10 units).length) '0' ++ Nat.toDigits 10 units

theorem padded_digits (scale units : Nat) : ∀ letter ∈ padded scale units, letter.isDigit = true := by
  intro letter listed
  rcases List.mem_append.mp listed with zero | digit
  · rw [(List.mem_replicate.mp zero).2]
    rfl
  · exact Nat.isDigit_of_mem_toDigits (by decide) (by decide) digit

theorem number_padded (scale units : Nat) : number (padded scale units) = units := by
  rw [padded, number_append, number_zeros, zero_mul, zero_add, number, Nat.ofDigitChars_ten_toDigits]

theorem scale_lt_padded (scale units : Nat) : scale < (padded scale units).length := by
  rw [padded, List.length_append, List.length_replicate]
  omega

/-- The digits before and after the point. -/
def wholeDigits (scale units : Nat) : List Char :=
  (padded scale units).take ((padded scale units).length - scale)

def fractionDigits (scale units : Nat) : List Char :=
  (padded scale units).drop ((padded scale units).length - scale)

/-- The shortest numeral for a number of units: no zeros at the end of the fraction. -/
def ofUnits (scale units : Nat) : Plain where
  whole := wholeDigits scale units
  fraction :=
    if (fractionDigits scale units).rdropWhile (· = '0') = [] then none
    else some ((fractionDigits scale units).rdropWhile (· = '0'))
  digits := by
    intro letter listed
    apply padded_digits scale units
    rcases List.mem_append.mp listed with whole | rest
    · exact List.mem_of_mem_take whole
    · split at rest
      · exact absurd rest List.not_mem_nil
      · exact List.mem_of_mem_drop ((List.rdropWhile_prefix _ _).subset rest)

variable (scale count : Nat)

@[simp] theorem ofUnits_decimals :
    (ofUnits scale count).decimals = (fractionDigits scale count).rdropWhile (· = '0') := by
  unfold decimals ofUnits
  split
  · next empty => exact empty.symm
  · rfl

theorem length_fractionDigits : (fractionDigits scale count).length = scale := by
  have longer := scale_lt_padded scale count
  rw [fractionDigits, List.length_drop]
  omega

theorem ofUnits_places : (ofUnits scale count).places ≤ scale := by
  rw [places, ofUnits_decimals]
  exact (List.rdropWhile_prefix _ _).length_le.trans (length_fractionDigits scale count).le

theorem ofUnits_whole : (ofUnits scale count).whole ≠ [] := by
  have longer := scale_lt_padded scale count
  refine List.ne_nil_of_length_pos ?_
  change 0 < (wholeDigits scale count).length
  rw [wholeDigits, List.length_take]
  omega

theorem ofUnits_fraction : (ofUnits scale count).fraction ≠ some [] := by
  unfold ofUnits
  split
  · exact fun same => nomatch same
  · next filled => exact fun same => filled (Option.some.inj same)

theorem ofUnits_value : (ofUnits scale count).value = count / 10 ^ scale := by
  obtain ⟨zeros, none⟩ : ∃ zeros, (fractionDigits scale count).rtakeWhile (· = '0') =
      List.replicate zeros '0' :=
    ⟨_, List.eq_replicate_of_mem fun letter listed => by
      simpa using List.mem_rtakeWhile_imp listed⟩
  have parts : (fractionDigits scale count).rdropWhile (· = '0') ++
      (fractionDigits scale count).rtakeWhile (· = '0') = fractionDigits scale count :=
    List.rdropWhile_append_rtakeWhile
  rw [none, ← ofUnits_decimals] at parts
  have length : (ofUnits scale count).places + zeros = scale := by
    have longer := congrArg List.length parts
    rw [List.length_append, List.length_replicate, length_fractionDigits] at longer
    exact longer
  have total : (ofUnits scale count).units * 10 ^ zeros = count := by
    calc (ofUnits scale count).units * 10 ^ zeros
        = number ((wholeDigits scale count ++ (ofUnits scale count).decimals) ++
            List.replicate zeros '0') := by
          rw [number_append _ (List.replicate zeros '0'), number_zeros, List.length_replicate,
            add_zero]
          rfl
      _ = number (wholeDigits scale count ++ fractionDigits scale count) := by
          rw [List.append_assoc, parts]
      _ = count := by
          rw [wholeDigits, fractionDigits, List.take_append_drop, number_padded]
  generalize ofUnits scale count = numeral at length total ⊢
  rw [value, ← length, ← total, pow_add]
  push_cast
  field_simp

end Plain

/-- A number of units of a scale with one digit before the point and an exponent. -/
def scientific (units : Nat) (exponent : Int) : List Char :=
  let significant := (Nat.toDigits 10 units).rdropWhile (· = '0')
  significant.take 1 ++ (if significant.drop 1 = [] then [] else '.' :: significant.drop 1) ++
    'e' :: (if exponent < 0 then '-' else '+') :: Nat.toDigits 10 exponent.natAbs

/-- The decimal exponent of the first digit. -/
def exponent (scale units : Nat) : Int :=
  if units = 0 then 0 else ((Nat.toDigits 10 units).length - 1 : Int) - scale

/-- Write a number of units of a scale, with an exponent outside the given range. -/
def print (low high : Int) (scale units : Nat) : List Char :=
  if exponent scale units ≤ low ∨ high ≤ exponent scale units then
    scientific units (exponent scale units)
  else (Plain.ofUnits scale units).text

theorem scan_scientific (units : Nat) (exponent : Int) :
    Plain.scan (scientific units exponent) = none :=
  Plain.scan_eq_none (List.mem_append_right _ List.mem_cons_self) (by decide : 'e'.isDigit = false)
    (by decide)

theorem exponent_le_iff (scale digits : Nat) {units : Nat} (nonzero : units ≠ 0) :
    exponent scale units ≤ (digits : Int) - scale ↔ units < 10 ^ (digits + 1) := by
  rw [exponent, if_neg nonzero, ← Nat.length_toDigits_le_iff (by decide) (Nat.succ_pos digits)]
  omega

end Numeral
