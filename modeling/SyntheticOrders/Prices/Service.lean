import SyntheticOrders.Interaction.Solo
import SyntheticOrders.Orders.Schema

/-! # Prices to act on

`PriceService` of `packages/chain/src/price/price.service.ts` over the providers of
`PriceProvider.ts`. A price is a text; only the comparison of two prices turns it into a number,
in units of 10⁻¹⁸ and without rounding up to that. Times are in milliseconds.
-/

namespace Prices

open Interaction Numeral

/-- A single observed price. -/
structure PriceQuote where
  asset : String
  price : String
  source : String
  observedAt : Nat
  roundId : Option Nat
deriving DecidableEq, Repr

inductive PriceError where
  | unavailable (provider asset reason : String)
  | untrusted (reason : String)
  | other (message : String)
deriving DecidableEq, Repr

def PriceError.message : PriceError → String
  | unavailable provider asset reason =>
      "[" ++ provider ++ "] price unavailable for " ++ asset ++ ": " ++ reason
  | untrusted reason => "price failed validation: " ++ reason
  | other message => message

/-- The two providers of a service. -/
inductive Side where
  | primary
  | crossCheck
deriving DecidableEq, Repr

inductive PriceRequest where
  | getPrice (side : Side) (asset : String)
  | now
deriving DecidableEq, Repr

@[reducible] def PriceReply : PriceRequest → Type
  | .getPrice .. => PriceQuote
  | .now => Nat

abbrev PriceAnswer (request : PriceRequest) : Type := Except PriceError (PriceReply request)

abbrev PriceCode : Type → Type := Async PriceRequest PriceReply PriceError

abbrev ask (request : PriceRequest) : PriceCode (PriceReply request) := Async.await request

/-! ## Reading a price as a number -/

/-- The value of a digit in the largest radix. -/
def digitValue (letter : Char) : Option Nat :=
  if letter.isDigit then some (letter.toNat - '0'.toNat)
  else if 'a' ≤ letter ∧ letter ≤ 'f' then some (letter.toNat - 'a'.toNat + 10)
  else if 'A' ≤ letter ∧ letter ≤ 'F' then some (letter.toNat - 'A'.toNat + 10)
  else none

/-- A numeral of some digits, all below the radix. -/
def literal (radix : Nat) (letters : List Char) : Option Nat :=
  if letters ≠ [] ∧ letters.all (fun letter => (digitValue letter).any (· < radix)) then
    some (letters.foldl (fun value letter => value * radix + (digitValue letter).getD 0) 0)
  else none

/-- `BigInt(text)`: nothing is zero, and only a decimal numeral has a sign. -/
def bigInt (text : String) : Option Int :=
  match (Orders.trim text).toList with
  | [] => some 0
  | '-' :: digits => (literal 10 digits).map fun value => -(value : Int)
  | '+' :: digits => (literal 10 digits).map Int.ofNat
  | '0' :: 'x' :: digits | '0' :: 'X' :: digits => (literal 16 digits).map Int.ofNat
  | '0' :: 'o' :: digits | '0' :: 'O' :: digits => (literal 8 digits).map Int.ofNat
  | '0' :: 'b' :: digits | '0' :: 'B' :: digits => (literal 2 digits).map Int.ofNat
  | digits => (literal 10 digits).map Int.ofNat

/-- `text.padEnd(length, letter)`. -/
def padEnd (length : Nat) (letter : Char) (text : List Char) : List Char :=
  text ++ List.replicate (length - text.length) letter

/-- Parse a decimal text to fixed point with 18 decimals. -/
def toScaled (value : String) : Except PriceError Int :=
  let parts := value.toList.splitOn '.'
  let whole := parts.head?.getD ['0']
  let frac := parts.tail.head?.getD []
  match bigInt (String.ofList (whole ++ (padEnd 18 '0' frac).take 18)) with
  | some scaled => .ok scaled
  | none => .error (.other "Cannot convert value to a BigInt")

theorem digitValue_digit {letter : Char} (digit : letter.isDigit = true) :
    digitValue letter = some (letter.toNat - '0'.toNat) :=
  if_pos digit

theorem literal_digits {letters : List Char} (filled : letters ≠ [])
    (valid : ∀ letter ∈ letters, letter.isDigit = true) :
    literal 10 letters = some (number letters) := by
  have below : letters.all (fun letter => (digitValue letter).any (· < 10)) = true := by
    refine List.all_eq_true.mpr fun letter listed => ?_
    rw [digitValue_digit (valid letter listed), Option.any_some, decide_eq_true_eq]
    have most := (Char.isDigit_iff_toNat.mp (valid letter listed)).2
    exact Nat.lt_succ_of_le (Nat.sub_le_sub_right most _)
  have folded : ∀ start, letters.foldl (fun value letter =>
      value * 10 + (digitValue letter).getD 0) start = Nat.ofDigitChars 10 letters start := by
    clear filled below
    induction letters with
    | nil => exact fun _ => rfl
    | cons letter rest ih =>
        intro start
        have rest_valid := fun other listed => valid other (List.mem_cons_of_mem _ listed)
        rw [List.foldl_cons, Nat.ofDigitChars_cons, ih rest_valid,
          digitValue_digit (valid letter List.mem_cons_self), Option.getD_some, Nat.mul_comm]
  rw [literal, if_pos ⟨filled, below⟩, folded]

/-- Digits are read as the number that they stand for. -/
theorem bigInt_digits {letters : List Char} (filled : letters ≠ [])
    (valid : ∀ letter ∈ letters, letter.isDigit = true) :
    bigInt (String.ofList letters) = some (number letters : Int) := by
  have trimmed : Orders.trim (String.ofList letters) = String.ofList letters := by
    apply Orders.trim_eq
    intro letter listed
    rw [String.toList_ofList] at listed
    exact Orders.isSpace_digit (valid letter listed)
  have other : ∀ letter, letter.isDigit = false → letter ∉ letters := by
    intro letter none listed
    rw [valid letter listed] at none
    cases none
  unfold bigInt
  rw [trimmed, String.toList_ofList]
  split
  · exact absurd rfl filled
  · exact absurd List.mem_cons_self (other '-' rfl)
  · exact absurd List.mem_cons_self (other '+' rfl)
  · exact absurd (List.mem_cons_of_mem _ List.mem_cons_self) (other 'x' rfl)
  · exact absurd (List.mem_cons_of_mem _ List.mem_cons_self) (other 'X' rfl)
  · exact absurd (List.mem_cons_of_mem _ List.mem_cons_self) (other 'o' rfl)
  · exact absurd (List.mem_cons_of_mem _ List.mem_cons_self) (other 'O' rfl)
  · exact absurd (List.mem_cons_of_mem _ List.mem_cons_self) (other 'b' rfl)
  · exact absurd (List.mem_cons_of_mem _ List.mem_cons_self) (other 'B' rfl)
  · rw [literal_digits filled valid, Option.map_some]
    rfl

/-- A decimal with up to 18 places is read exactly. -/
theorem toScaled_text (numeral : Plain) (fits : numeral.places ≤ 18) :
    ∃ scaled : Nat, toScaled (String.ofList numeral.text) = .ok (scaled : Int) ∧
      (scaled : Rat) = numeral.value * 10 ^ 18 := by
  have pointless : ∀ letters : List Char, (∀ letter ∈ letters, letter.isDigit = true) →
      '.' ∉ letters := by
    intro letters valid listed
    exact absurd (valid '.' listed) (by decide)
  have whole_digits : ∀ letter ∈ numeral.whole, letter.isDigit = true := fun letter listed =>
    numeral.digits letter (List.mem_append_left _ listed)
  have decimals_digits : ∀ letter ∈ numeral.decimals, letter.isDigit = true := fun letter listed =>
    numeral.digits letter (List.mem_append_right _ listed)
  -- The text is split into the digits before and after the point.
  have parts : (numeral.text.splitOn '.').head?.getD ['0'] = numeral.whole ∧
      (numeral.text.splitOn '.').tail.head?.getD [] = numeral.decimals := by
    unfold Plain.text
    cases fraction : numeral.fraction with
    | none =>
        rw [Option.elim_none, List.append_nil,
          List.splitOn_eq_singleton (pointless _ whole_digits), Plain.decimals, fraction]
        exact ⟨rfl, rfl⟩
    | some decimals =>
        have same : numeral.decimals = decimals := by rw [Plain.decimals, fraction, Option.getD_some]
        rw [Option.elim_some, List.splitOn_append_cons_self,
          List.splitOn_eq_singleton (pointless _ whole_digits),
          List.splitOn_eq_singleton (pointless _ (same ▸ decimals_digits)), same]
        exact ⟨rfl, rfl⟩
  have frac : (padEnd 18 '0' numeral.decimals).take 18 =
      numeral.decimals ++ List.replicate (18 - numeral.places) '0' := by
    apply List.take_of_length_le
    rw [padEnd, List.length_append, List.length_replicate]
    exact (Nat.add_sub_cancel' fits).le
  have digits : ∀ letter ∈ numeral.whole ++
      (numeral.decimals ++ List.replicate (18 - numeral.places) '0'), letter.isDigit = true := by
    intro letter listed
    rcases List.mem_append.mp listed with before | after
    · exact whole_digits letter before
    · rcases List.mem_append.mp after with decimal | zero
      · exact decimals_digits letter decimal
      · rw [(List.mem_replicate.mp zero).2]
        rfl
  have filled : numeral.whole ++
      (numeral.decimals ++ List.replicate (18 - numeral.places) '0') ≠ [] := by
    apply List.ne_nil_of_length_pos
    have places : numeral.decimals.length = numeral.places := rfl
    rw [List.length_append, List.length_append, List.length_replicate]
    omega
  refine ⟨numeral.units * 10 ^ (18 - numeral.places), ?_, ?_⟩
  · unfold toScaled
    rw [String.toList_ofList]
    simp only [parts, frac]
    rw [bigInt_digits filled digits, ← List.append_assoc, number_append, number_zeros, add_zero,
      List.length_replicate]
    rfl
  · have scale : (10 : Rat) ^ 18 = 10 ^ numeral.places * 10 ^ (18 - numeral.places) := by
      rw [← pow_add, Nat.add_sub_cancel' fits]
    rw [Plain.value, scale]
    push_cast
    field_simp

/-! ## The service -/

/-- The settings of a service, with the defaults of its constructor. -/
structure PriceServiceOptions where
  maxStalenessSec : Nat := 3600
  maxDivergenceBps : Nat := 200
deriving DecidableEq, Repr

section Service

variable (supported : Option (String → Bool)) (options : PriceServiceOptions)

/-- Do the two providers agree? A cross-check that is merely down does not count. -/
def assertAgreement (asset : String) (primary : PriceQuote) : PriceCode Unit := do
  let secondary ← Async.tryCatch
    (do
      let quote ← ask (.getPrice .crossCheck asset)
      pure (some quote))
    fun
      | .unavailable .. => pure none
      | error => Async.throw error
  match secondary with
  | none => pure ()
  | some secondary => do
      let a ← Async.ofExcept (toScaled primary.price)
      let b ← Async.ofExcept (toScaled secondary.price)
      Async.throwIf (a = 0) (.untrusted "primary price is zero")
      let diff := if a > b then a - b else b - a
      let divergenceBps := Int.tdiv (diff * 10000) a
      Async.throwIf (divergenceBps > options.maxDivergenceBps)
        (.untrusted ("sources diverge by " ++ toString divergenceBps ++ "bps (max " ++
          toString options.maxDivergenceBps ++ ")"))

/-- A validated price. The cross-check has a say if there is one and it supports the asset. -/
def getValidatedPrice (asset : String) : PriceCode PriceQuote := do
  let quote ← ask (.getPrice .primary asset)
  let time ← ask .now
  let age : Int := time - quote.observedAt
  Async.throwIf (age > options.maxStalenessSec * 1000)
    (.untrusted ("primary price is " ++ toString ((2 * age + 1000) / 2000) ++ "s stale"))
  if supported.any (· asset) then assertAgreement options asset quote else pure ()
  pure quote

end Service

/-! ## The divergence guard -/

/-- What the guard promises: the primary quote is returned if the prices are no further apart than
allowed, and otherwise the price is not trusted. -/
def Guards (maxDivergenceBps : Nat) (p s : Rat) (quote : PriceQuote)
    (outcome : Except PriceError PriceQuote) : Prop :=
  (outcome = .ok quote ↔ 0 < p ∧ |p - s| * 10000 ≤ maxDivergenceBps * p) ∧
    (¬ (0 < p ∧ |p - s| * 10000 ≤ maxDivergenceBps * p) → ∃ reason, outcome = .error (.untrusted reason))

section Guard

variable {answers : (request : PriceRequest) → PriceAnswer request} {supported : Option (String → Bool)}
  {options : PriceServiceOptions} {asset : String} {primary secondary : PriceQuote} {time a b : Nat}

/-- The quotient of the code, as one of natural numbers. -/
theorem divergence_eq (a b : Nat) :
    Int.tdiv ((if (a : Int) > b then (a : Int) - b else b - a) * 10000) a =
      ((((a : Int) - b).natAbs * 10000 / a : Nat) : Int) := by
  have distance : (if (a : Int) > b then (a : Int) - b else b - a) = (((a : Int) - b).natAbs : Int) := by
    split <;> omega
  rw [distance]
  exact (Int.ofNat_tdiv _ _).symm

/-- What the service makes of two quotes. -/
theorem getValidatedPrice_outcome (asked : answers (.getPrice .primary asset) = .ok primary)
    (read : answers .now = .ok time)
    (fresh : time ≤ primary.observedAt + options.maxStalenessSec * 1000)
    (supports : supported.any (· asset) = true)
    (asked' : answers (.getPrice .crossCheck asset) = .ok secondary)
    (scaled : toScaled primary.price = .ok (a : Int)) (scaled' : toScaled secondary.price = .ok (b : Int)) :
    (a ≠ 0 ∧ ((a : Int) - b).natAbs * 10000 / a ≤ options.maxDivergenceBps ∧
      Async.consult answers (getValidatedPrice supported options asset) = .ok primary) ∨
    (¬ (a ≠ 0 ∧ ((a : Int) - b).natAbs * 10000 / a ≤ options.maxDivergenceBps) ∧
      ∃ reason, Async.consult answers (getValidatedPrice supported options asset) =
        .error (.untrusted reason)) := by
  have young : ¬ ((time : Int) - primary.observedAt > options.maxStalenessSec * 1000) := by omega
  have heard : Async.consult answers (Async.tryCatch
      (do
        let quote ← ask (.getPrice .crossCheck asset)
        pure (some quote))
      fun
        | .unavailable .. => pure none
        | error => Async.throw error) = .ok (some secondary) := by
    simp only [Async.consult_tryCatch, Async.consult_bind, Async.consult_await, asked',
      Async.consult_pure]
  have reduced : Async.consult answers (getValidatedPrice supported options asset) =
      match Async.consult answers (assertAgreement options asset primary) with
      | .ok _ => .ok primary
      | .error error => .error error := by
    simp only [getValidatedPrice, Async.consult_bind, Async.consult_await, asked, read,
      Async.throwIf, if_neg young, Async.consult_pure, if_pos supports]
    cases Async.consult answers (assertAgreement options asset primary) <;> rfl
  have compared : Async.consult answers (assertAgreement options asset primary) =
      if (a : Int) = 0 then .error (.untrusted "primary price is zero")
      else if (((a : Int) - b).natAbs * 10000 / a : Nat) > (options.maxDivergenceBps : Int) then
        .error (.untrusted ("sources diverge by " ++
          toString ((((a : Int) - b).natAbs * 10000 / a : Nat) : Int) ++ "bps (max " ++
          toString options.maxDivergenceBps ++ ")"))
      else .ok () := by
    rw [assertAgreement, Async.consult_bind, heard]
    simp only [scaled, scaled', Async.consult_bind, Async.consult_ofExcept, divergence_eq]
    by_cases zero : (a : Int) = 0
    · simp only [Async.throwIf, if_pos zero]
      rfl
    · by_cases apart : (((a : Int) - b).natAbs * 10000 / a : Nat) > (options.maxDivergenceBps : Int)
      · simp only [Async.throwIf, if_neg zero, if_pos apart]
        rfl
      · simp only [Async.throwIf, if_neg zero, if_neg apart]
        rfl
  rw [reduced, compared]
  by_cases zero : (a : Int) = 0
  · rw [if_pos zero]
    refine Or.inr ⟨fun agree => agree.1 (Int.natCast_eq_zero.mp zero), _, rfl⟩
  · rw [if_neg zero]
    have nonzero : a ≠ 0 := fun same => zero (congrArg Nat.cast same)
    by_cases apart : (((a : Int) - b).natAbs * 10000 / a : Nat) > (options.maxDivergenceBps : Int)
    · rw [if_pos apart]
      refine Or.inr ⟨fun agree => ?_, _, rfl⟩
      exact absurd agree.2 (Nat.not_le.mpr (Int.ofNat_lt.mp apart))
    · rw [if_neg apart]
      refine Or.inl ⟨nonzero, ?_, rfl⟩
      exact Nat.not_lt.mp fun above => apart (Int.ofNat_lt.mpr above)

/-- The guard keeps its promise except where the distance is over the limit by less than one
basis point: there the quotient is rounded down to the limit. -/
theorem getValidatedPrice_guards_iff {p s : Plain} (price : primary.price = String.ofList p.text)
    (places : p.places ≤ 18) (price' : secondary.price = String.ofList s.text)
    (places' : s.places ≤ 18) (asked : answers (.getPrice .primary asset) = .ok primary)
    (read : answers .now = .ok time)
    (fresh : time ≤ primary.observedAt + options.maxStalenessSec * 1000)
    (supports : supported.any (· asset) = true)
    (asked' : answers (.getPrice .crossCheck asset) = .ok secondary) :
    Guards options.maxDivergenceBps p.value s.value primary
        (Async.consult answers (getValidatedPrice supported options asset)) ↔
      ¬ (options.maxDivergenceBps * p.value < |p.value - s.value| * 10000 ∧
        |p.value - s.value| * 10000 < (options.maxDivergenceBps + 1) * p.value) := by
  obtain ⟨a, scaled, units⟩ := toScaled_text p places
  obtain ⟨b, scaled', units'⟩ := toScaled_text s places'
  rw [← price] at scaled
  rw [← price'] at scaled'
  have outcome := getValidatedPrice_outcome asked read fresh supports asked' scaled scaled'
  -- In units of the scale all sides are natural numbers.
  have unit : (0 : Rat) < 10 ^ 18 := by positivity
  have positive : 0 < p.value ↔ a ≠ 0 := by
    rw [← mul_pos_iff_of_pos_right unit, ← units, Nat.cast_pos, Nat.pos_iff_ne_zero]
  have distance : |p.value - s.value| * 10000 * 10 ^ 18 =
      ((((a : Int) - b).natAbs * 10000 : Nat) : Rat) := by
    calc |p.value - s.value| * 10000 * 10 ^ 18
        = |p.value * 10 ^ 18 - s.value * 10 ^ 18| * 10000 := by
          rw [← sub_mul, abs_mul, abs_of_pos unit]
          ring
      _ = ((((a : Int) - b).natAbs * 10000 : Nat) : Rat) := by
          rw [← units, ← units', Nat.cast_mul, Nat.cast_natAbs]
          push_cast
          rfl
  have bound : ∀ limit : Nat, limit * p.value * 10 ^ 18 = ((limit * a : Nat) : Rat) := by
    intro limit
    rw [mul_assoc, ← units, Nat.cast_mul]
  have within : |p.value - s.value| * 10000 ≤ options.maxDivergenceBps * p.value ↔
      ((a : Int) - b).natAbs * 10000 ≤ options.maxDivergenceBps * a := by
    rw [← mul_le_mul_iff_of_pos_right unit, distance, bound, Nat.cast_le]
  have below : |p.value - s.value| * 10000 < (options.maxDivergenceBps + 1) * p.value ↔
      ((a : Int) - b).natAbs * 10000 < (options.maxDivergenceBps + 1) * a := by
    have next := bound (options.maxDivergenceBps + 1)
    rw [Nat.cast_succ] at next
    rw [← mul_lt_mul_iff_of_pos_right unit, distance, next, Nat.cast_lt]
  have quotient : a ≠ 0 → (((a : Int) - b).natAbs * 10000 / a ≤ options.maxDivergenceBps ↔
      ((a : Int) - b).natAbs * 10000 < (options.maxDivergenceBps + 1) * a) := by
    intro nonzero
    rw [← Nat.lt_succ_iff, Nat.div_lt_iff_lt_mul (Nat.pos_of_ne_zero nonzero)]
  rw [Guards, positive, within, below, ← not_le, within]
  rcases outcome with ⟨nonzero, agree, returned⟩ | ⟨disagree, reason, returned⟩
  · rw [returned]
    have under := (quotient nonzero).mp agree
    constructor
    · rintro guards ⟨above, -⟩
      exact above (guards.1.mp rfl).2
    · intro exact_limit
      by_cases fits : ((a : Int) - b).natAbs * 10000 ≤ options.maxDivergenceBps * a
      · exact ⟨iff_of_true rfl ⟨nonzero, fits⟩, fun none => absurd ⟨nonzero, fits⟩ none⟩
      · exact absurd ⟨fits, under⟩ exact_limit
  · rw [returned]
    have none : ¬ (a ≠ 0 ∧ ((a : Int) - b).natAbs * 10000 ≤ options.maxDivergenceBps * a) := by
      rintro ⟨nonzero, fits⟩
      refine disagree ⟨nonzero, (quotient nonzero).mpr (lt_of_le_of_lt fits ?_)⟩
      exact Nat.mul_lt_mul_of_pos_right (Nat.lt_succ_self _) (Nat.pos_of_ne_zero nonzero)
    refine iff_of_true ⟨iff_of_false (fun same => nomatch same) none, fun _ => ⟨reason, rfl⟩⟩ ?_
    rintro ⟨-, under⟩
    by_cases zero : a = 0
    · rw [zero, Nat.mul_zero] at under
      exact Nat.not_lt_zero _ under
    · exact disagree ⟨zero, (quotient zero).mpr under⟩

end Guard

section Sample

/-- A quote of a given price. -/
def sampleQuote (source price : String) : PriceQuote := ⟨"ETH/USD", price, source, 1700000000000, none⟩

/-- A primary quote of 3500 and a cross-check of a given price, a minute later. -/
def twoSources (price : String) : (request : PriceRequest) → PriceAnswer request
  | .getPrice .primary _ => .ok (sampleQuote "chainlink" "3500")
  | .getPrice .crossCheck _ => .ok (sampleQuote "coingecko" price)
  | .now => .ok 1700000060000

def sampleNumeral (whole : List Char) (fraction : Option (List Char))
    (valid : (whole ++ fraction.getD []).all Char.isDigit = true) : Plain :=
  ⟨whole, fraction, List.all_eq_true.mp valid⟩

/-- Two sources that are two hundred basis points apart are accepted. -/
theorem getValidatedPrice_guards_limit :
    Guards 200 3500 3430 (sampleQuote "chainlink" "3500")
      (Async.consult (twoSources "3430") (getValidatedPrice (some fun _ => true) {} "ETH/USD")) := by
  let p := sampleNumeral ['3', '5', '0', '0'] none rfl
  let s := sampleNumeral ['3', '4', '3', '0'] none rfl
  have p_value : p.value = 3500 := by decide +kernel
  have s_value : s.value = 3430 := by decide +kernel
  have texts : "3500" = String.ofList p.text ∧ "3430" = String.ofList s.text := by decide
  have promised := @getValidatedPrice_guards_iff (twoSources "3430") (some fun _ => true) {} "ETH/USD"
    (sampleQuote "chainlink" "3500") (sampleQuote "coingecko" "3430") 1700000060000 p s texts.1
    (by decide) texts.2 (by decide) rfl rfl (by decide) rfl rfl
  rw [p_value, s_value] at promised
  refine promised.mpr ?_
  norm_num

/-- A cent further apart, beyond the limit, they are accepted as well. -/
theorem getValidatedPrice_lenient :
    ¬ Guards 200 3500 (342999 / 100) (sampleQuote "chainlink" "3500")
      (Async.consult (twoSources "3429.99") (getValidatedPrice (some fun _ => true) {} "ETH/USD")) := by
  have accepted : Async.consult (twoSources "3429.99")
      (getValidatedPrice (some fun _ => true) {} "ETH/USD") = .ok (sampleQuote "chainlink" "3500") := by
    decide +kernel
  intro guards
  have within := (guards.1.mp accepted).2
  norm_num [abs_of_pos] at within

end Sample

end Prices
