import SyntheticOrders.Numeral.Hexadecimal
import SyntheticOrders.Orders.Operations
import SyntheticOrders.Vault.Storage

/-! # The call data of an execution

The client of the contract passes eight arguments to `executeSwap`, in the order in which the
contract declares them. On the wire they are a selector and one word for each argument. The
encoder insists that each argument is of its type, and the dispatcher of the contract does so
again; what the dispatcher reads is what has been encoded.
-/

namespace Settlement

open Numeral Orders

/-- A text of `0x` and a fixed number of hexadecimal digits. -/
def readNumber (width : Nat) (text : Hex) : Option Nat :=
  match text.toList with
  | '0' :: 'x' :: letters => if letters.length = width then readHex letters else none
  | _ => none

def readAddress (text : Orders.Address) : Option Vault.Address :=
  (readNumber 40 text).map (Fin.ofNat (2 ^ 160))

def readBytes32 (text : Hex) : Option Vault.Bytes32 :=
  (readNumber 64 text).map (Fin.ofNat (2 ^ 256))

/-- A number as `0x` and a fixed number of hexadecimal digits. -/
def writeNumber (width value : Nat) : Hex := String.ofList ('0' :: 'x' :: hexWord width value)

def writeAddress (address : Vault.Address) : Orders.Address := writeNumber 40 address

def writeBytes32 (value : Vault.Bytes32) : Hex := writeNumber 64 value

theorem readNumber_writeNumber {width value : Nat} (below : value < 16 ^ width) :
    readNumber width (writeNumber width value) = some value := by
  simp only [readNumber, writeNumber, String.toList_ofList, length_hexWord, ↓reduceIte,
    readHex_hexWord below]

theorem readAddress_writeAddress (address : Vault.Address) :
    readAddress (writeAddress address) = some address := by
  rw [readAddress, writeAddress, readNumber_writeNumber (address.isLt.trans_eq (by norm_num)),
    Option.map_some, Fin.ofNat_val_eq_self]

theorem readBytes32_writeBytes32 (value : Vault.Bytes32) :
    readBytes32 (writeBytes32 value) = some value := by
  rw [readBytes32, writeBytes32, readNumber_writeNumber (value.isLt.trans_eq (by norm_num)),
    Option.map_some, Fin.ofNat_val_eq_self]

/-- An integer in the range of an unsigned type. -/
def readUint (bits : Nat) (value : Int) : Option Nat :=
  if 0 ≤ value ∧ value < 2 ^ bits then some value.toNat else none

/-- The arguments of `executeSwap`, if each of them is of its type. -/
def executeSwapArgs (params : ExecutionParams) : Option Vault.Swap := do
  let executionId ← readBytes32 params.executionId
  let owner ← readAddress params.owner
  let tokenIn ← readAddress params.tokenIn
  let tokenOut ← readAddress params.tokenOut
  let poolFee ← readUint 24 params.poolFee
  let amountIn ← readUint 256 params.amountIn
  let minAmountOut ← readUint 256 params.minAmountOut
  let deadline ← readUint 256 params.deadline
  return ⟨executionId, owner, tokenIn, tokenOut, poolFee, amountIn, minAmountOut, deadline⟩

/-- The words of a call of `executeSwap`. -/
def words (swap : Vault.Swap) : List Nat :=
  [swap.executionId, swap.owner, swap.tokenIn, swap.tokenOut, swap.poolFee, swap.amountIn,
    swap.minAmountOut, swap.deadline]

/-- `encodeFunctionData` on valid arguments. -/
def encodeSwap (selector : Hex) (swap : Vault.Swap) : Hex :=
  String.ofList (selector.toList ++ (words swap).flatMap (hexWord 64))

/-- `encodeFunctionData`, which throws on other arguments. -/
def encodeExecuteSwap (selector : Hex) (params : ExecutionParams) : Except Failure Hex :=
  match executeSwapArgs params with
  | some swap => .ok (encodeSwap selector swap)
  | none => .error ⟨.other, "invalid argument"⟩

/-- The arguments in eight words, each of which is in the range of its type. -/
def swapOfWords : List Nat → Option Vault.Swap
  | [executionId, owner, tokenIn, tokenOut, poolFee, amountIn, minAmountOut, deadline] =>
      if owner < 2 ^ 160 ∧ tokenIn < 2 ^ 160 ∧ tokenOut < 2 ^ 160 ∧ poolFee < 2 ^ 24 then
        some ⟨Fin.ofNat _ executionId, Fin.ofNat _ owner, Fin.ofNat _ tokenIn, Fin.ofNat _ tokenOut,
          poolFee, amountIn, minAmountOut, deadline⟩
      else none
  | _ => none

/-- What the dispatcher of the contract makes of the data of a call: a call of `executeSwap`, if
the selector is the one of that function and the words are arguments for it. -/
def decodeSwap (selector data : Hex) : Option Vault.Swap :=
  if data.toList.take selector.length = selector.toList then
    (readWords 64 8 (data.toList.drop selector.length)).bind swapOfWords
  else none

/-- The numbers of a swap are in the ranges of their types. -/
structure InRange (swap : Vault.Swap) : Prop where
  poolFee : swap.poolFee < 2 ^ 24
  amountIn : swap.amountIn < 2 ^ 256
  minAmountOut : swap.minAmountOut < 2 ^ 256
  deadline : swap.deadline < 2 ^ 256

theorem readUint_lt {bits value : Nat} {number : Int} (read : readUint bits number = some value) :
    value < 2 ^ bits := by
  unfold readUint at read
  split at read
  · next within =>
      cases read
      have below : (number.toNat : Int) < 2 ^ bits := by rw [Int.toNat_of_nonneg within.1]; exact within.2
      exact_mod_cast below
  · cases read

theorem readUint_eq {bits value : Nat} {number : Int} (read : readUint bits number = some value) :
    number = value := by
  unfold readUint at read
  split at read
  · next within =>
      cases read
      exact (Int.toNat_of_nonneg within.1).symm
  · cases read

/-- The fields of a swap are the arguments that were read for them. -/
structure Reads (params : ExecutionParams) (swap : Vault.Swap) : Prop where
  executionId : readBytes32 params.executionId = some swap.executionId
  owner : readAddress params.owner = some swap.owner
  tokenIn : readAddress params.tokenIn = some swap.tokenIn
  tokenOut : readAddress params.tokenOut = some swap.tokenOut
  poolFee : readUint 24 params.poolFee = some swap.poolFee
  amountIn : readUint 256 params.amountIn = some swap.amountIn
  minAmountOut : readUint 256 params.minAmountOut = some swap.minAmountOut
  deadline : readUint 256 params.deadline = some swap.deadline

theorem executeSwapArgs_reads {params : ExecutionParams} {swap : Vault.Swap}
    (valid : executeSwapArgs params = some swap) : Reads params swap := by
  simp only [executeSwapArgs, Option.bind_eq_bind, Option.bind_eq_some_iff, Option.pure_def,
    Option.some.injEq] at valid
  obtain ⟨executionId, one, owner, two, tokenIn, three, tokenOut, four, poolFee, five, amountIn, six,
    minAmountOut, seven, deadline, eight, rfl⟩ := valid
  exact ⟨one, two, three, four, five, six, seven, eight⟩

theorem Reads.inRange {params : ExecutionParams} {swap : Vault.Swap} (reads : Reads params swap) :
    InRange swap where
  poolFee := readUint_lt reads.poolFee
  amountIn := readUint_lt reads.amountIn
  minAmountOut := readUint_lt reads.minAmountOut
  deadline := readUint_lt reads.deadline

theorem swapOfWords_words {swap : Vault.Swap} (inRange : InRange swap) :
    swapOfWords (words swap) = some swap := by
  have within : swap.owner.val < 2 ^ 160 ∧ swap.tokenIn.val < 2 ^ 160 ∧
      swap.tokenOut.val < 2 ^ 160 ∧ swap.poolFee < 2 ^ 24 :=
    ⟨swap.owner.isLt, swap.tokenIn.isLt, swap.tokenOut.isLt, inRange.poolFee⟩
  rw [words, swapOfWords, if_pos within]
  simp only [Fin.ofNat_val_eq_self]

/-- The dispatcher reads the call that was encoded. -/
theorem decodeSwap_encodeSwap (selector : Hex) {swap : Vault.Swap} (inRange : InRange swap) :
    decodeSwap selector (encodeSwap selector swap) = some swap := by
  have below : ∀ value ∈ words swap, value < 16 ^ 64 := by
    have wide : ∀ address : Vault.Address, address.val < 16 ^ 64 :=
      fun address => address.isLt.trans (by norm_num)
    have narrow := inRange.poolFee.trans (by norm_num : 2 ^ 24 < 16 ^ 64)
    simp only [words, List.forall_mem_cons]
    exact ⟨swap.executionId.isLt, wide _, wide _, wide _, narrow, inRange.amountIn,
      inRange.minAmountOut, inRange.deadline, fun _ none => absurd none List.not_mem_nil⟩
  have read := readWords_hexWords (words swap) below []
  rw [List.append_nil] at read
  rw [decodeSwap, encodeSwap, String.toList_ofList, ← String.length_toList, List.take_left,
    List.drop_left, if_pos rfl]
  exact (congrArg (Option.bind · swapOfWords) read).trans (swapOfWords_words inRange)

/-- What the dispatcher reads from the data of the client are its arguments. -/
theorem decodeSwap_encodeExecuteSwap {selector data : Hex} {params : ExecutionParams}
    (encoded : encodeExecuteSwap selector params = .ok data) :
    ∃ swap, executeSwapArgs params = some swap ∧ decodeSwap selector data = some swap := by
  unfold encodeExecuteSwap at encoded
  split at encoded
  · next swap valid =>
      obtain rfl := Except.ok.inj encoded
      exact ⟨swap, valid, decodeSwap_encodeSwap selector (executeSwapArgs_reads valid).inRange⟩
  · cases encoded

end Settlement
