import Mathlib

/-! # Hexadecimal words

A word writes a number with a fixed count of hexadecimal digits, the leading one first, and words
of one width are written one after another. Reading gives back the numbers that were written.
-/

namespace Numeral

/-- The value of a hexadecimal digit, of either case. -/
def hexDigit (letter : Char) : Option Nat :=
  if letter.isDigit then some (letter.toNat - '0'.toNat)
  else if 'a' ≤ letter ∧ letter ≤ 'f' then some (letter.toNat - 'a'.toNat + 10)
  else if 'A' ≤ letter ∧ letter ≤ 'F' then some (letter.toNat - 'A'.toNat + 10)
  else none

/-- The number that a text of hexadecimal digits stands for. -/
def readHex (letters : List Char) : Option Nat :=
  letters.foldlM (fun value letter => (hexDigit letter).map fun digit => 16 * value + digit) 0

/-- The last digits of a number, as many as the word is wide. -/
def hexWord : Nat → Nat → List Char
  | 0, _ => []
  | width + 1, value => hexWord width (value / 16) ++ [Nat.digitChar (value % 16)]

/-- Read a count of words of one width. What follows them is left. -/
def readWords (width : Nat) : Nat → List Char → Option (List Nat)
  | 0, _ => some []
  | count + 1, letters =>
      if letters.length < width then none else do
        let value ← readHex (letters.take width)
        let rest ← readWords width count (letters.drop width)
        return value :: rest

@[simp] theorem length_hexWord (width value : Nat) : (hexWord width value).length = width := by
  induction width generalizing value with
  | zero => rfl
  | succ width ih => simp only [hexWord, List.length_append, ih, List.length_singleton]

theorem hexDigit_digitChar {digit : Nat} (small : digit < 16) :
    hexDigit (Nat.digitChar digit) = some digit := by
  have all : ∀ digit : Fin 16, hexDigit (Nat.digitChar digit) = some digit.val := by decide
  exact all ⟨digit, small⟩

theorem readHex_hexWord {width value : Nat} (below : value < 16 ^ width) :
    readHex (hexWord width value) = some value := by
  induction width generalizing value with
  | zero =>
      obtain rfl : value = 0 := by simpa using below
      rfl
  | succ width ih =>
      have prior : readHex (hexWord width (value / 16)) = some (value / 16) := by
        apply ih
        rw [pow_succ] at below
        exact Nat.div_lt_of_lt_mul (by rwa [mul_comm] at below)
      unfold readHex at prior
      simp only [readHex, hexWord, List.foldlM_append, prior, Option.bind_eq_bind, Option.bind_some,
        List.foldlM_cons, List.foldlM_nil, hexDigit_digitChar (Nat.mod_lt value (by decide)),
        Option.map_some, Option.pure_def, Nat.div_add_mod]

/-- Words are read as the numbers that they were written for. -/
theorem readWords_hexWords {width : Nat} (values : List Nat)
    (below : ∀ value ∈ values, value < 16 ^ width) (rest : List Char) :
    readWords width values.length (values.flatMap (hexWord width) ++ rest) = some values := by
  induction values with
  | nil => rfl
  | cons value values ih =>
      have long : ¬ ((value :: values).flatMap (hexWord width) ++ rest).length < width := by
        simp only [List.flatMap_cons, List.append_assoc, List.length_append, length_hexWord]
        omega
      have later := ih fun other listed => below other (List.mem_cons_of_mem _ listed)
      rw [List.length_cons, readWords, if_neg long]
      rw [List.flatMap_cons, List.append_assoc, List.take_left' (length_hexWord width value),
        List.drop_left' (length_hexWord width value), later,
        readHex_hexWord (below value List.mem_cons_self)]
      rfl

end Numeral
