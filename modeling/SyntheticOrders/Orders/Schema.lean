import SyntheticOrders.Numeral.Decimal
import SyntheticOrders.Orders.Lifecycle

/-! # The request schema and the response of the order API

`createOrderSchema` of `apps/backend/src/api/schemas/order.schema.ts`, `serializeOrder` of
`apps/backend/src/api/serializers/order.serializer.ts` and the handler of
`apps/backend/src/api/controllers/order.controller.ts` that uses both. A field that breaks
several rules is reported with the first of them.

Amounts pass through functions of viem, decimal.js and Prisma; what these do with decimals
is documented, and stated here as such.
-/

namespace Orders

open Interaction Numeral

/-- The value of a field: a text, or something of another type. -/
inductive Json where
  | string (text : String)
  | other (parsedType : String)
deriving DecidableEq, Repr

abbrev Payload : Type := List (String × Json)

def Payload.field (payload : Payload) (key : String) : Option Json :=
  (payload.find? fun entry => entry.1 = key).map Prod.snd

structure Issue where
  path : String
  message : String
deriving DecidableEq, Repr

/-- White space and line ends, as `trim` takes them. -/
def isSpace (letter : Char) : Bool :=
  (9 ≤ letter.toNat ∧ letter.toNat ≤ 13) ∨ (0x2000 ≤ letter.toNat ∧ letter.toNat ≤ 0x200a) ∨
    letter.toNat ∈ [0x20, 0xa0, 0x1680, 0x2028, 0x2029, 0x202f, 0x205f, 0x3000, 0xfeff]

theorem isSpace_digit {letter : Char} (digit : letter.isDigit = true) : isSpace letter = false := by
  have bounds := Char.isDigit_iff_toNat.mp digit
  simp only [isSpace, List.mem_cons, List.not_mem_nil, or_false, decide_eq_false_iff_not]
  simp only [Char.reduceToNat] at bounds
  omega

def trim (text : String) : String :=
  String.ofList ((text.toList.dropWhile isSpace).rdropWhile isSpace)

theorem trim_eq {text : String} (solid : ∀ letter ∈ text.toList, isSpace letter = false) :
    trim text = text := by
  have left : text.toList.dropWhile isSpace = text.toList := by
    rw [List.dropWhile_eq_self_iff]
    intro filled
    rw [solid _ (List.getElem_mem filled)]
    exact Bool.false_ne_true
  have right : text.toList.rdropWhile isSpace = text.toList := by
    rw [List.rdropWhile_eq_self_iff]
    intro filled
    rw [solid _ (List.getLast_mem filled)]
    exact Bool.false_ne_true
  rw [trim, left, right, String.ofList_toList]

/-- `/^\d+(\.\d+)?$/`. -/
def matchDecimal (text : String) : Option Plain :=
  (Plain.scan text.toList).filter fun numeral => numeral.whole ≠ [] ∧ numeral.fraction ≠ some []

/-- `Number(v) > 0`, for a decimal: half the least positive number still rounds to zero. -/
def numberPositive (numeral : Plain) : Bool := 10 ^ numeral.places < numeral.units * 2 ^ 1075

namespace OrderSchema

/-- A text; a missing field has no value at all. -/
def string (invalidType : String → String) : Option Json → Except String String
  | none => .error "Required"
  | some (.other parsedType) => .error (invalidType parsedType)
  | some (.string text) => .ok text

def decimalString (label : String) (value : Option Json) : Except String String :=
  match string (fun _ => label ++ " must be a decimal string, not a number") value with
  | .error message => .error message
  | .ok raw =>
    match matchDecimal (trim raw) with
    | none => .error (label ++ " must be a positive decimal string")
    | some numeral =>
      if numberPositive numeral = false then .error (label ++ " must be greater than zero")
      else if 18 < numeral.places then .error (label ++ " exceeds 18 decimal places")
      else .ok (trim raw)

def expectedString (parsedType : String) : String := "Expected string, received " ++ parsedType

/-- `/^0x[a-fA-F0-9]{40}$/`. -/
def matchAddress (text : String) : Bool :=
  text.toList.take 2 = ['0', 'x'] ∧ text.toList.length = 42 ∧
    (text.toList.drop 2).all fun letter => letter.isDigit ∨ ('a' ≤ letter ∧ letter ≤ 'f') ∨
      ('A' ≤ letter ∧ letter ≤ 'F')

def addressSchema (value : Option Json) : Except String String :=
  match string expectedString value with
  | .error message => .error message
  | .ok raw =>
    if matchAddress (trim raw) then .ok (trim raw)
    else .error "must be a valid 20-byte EVM address"

/-- `length`, in units of UTF-16. -/
def utf16Length (text : String) : Nat := (text.toList.map utf16Size).sum

def tokenSchema (value : Option Json) : Except String String :=
  match string expectedString value with
  | .error message => .error message
  | .ok raw =>
    if utf16Length (trim raw) < 1 then .error "String must contain at least 1 character(s)"
    else if 16 < utf16Length (trim raw) then .error "String must contain at most 16 character(s)"
    else .ok (trim raw)

def sideSchema : Option Json → Except String OrderSide
  | none => .error "Required"
  | some (.other parsedType) => .error ("Expected 'BUY' | 'SELL', received " ++ parsedType)
  | some (.string "BUY") => .ok .buy
  | some (.string "SELL") => .ok .sell
  | some (.string text) =>
      .error ("Invalid enum value. Expected 'BUY' | 'SELL', received '" ++ text ++ "'")

/-- The issue of a field, if it has one. -/
def issue {α : Type} (path : String) : Except String α → List Issue
  | .ok _ => []
  | .error message => [⟨path, message⟩]

def keys : List String :=
  ["userAddress", "tokenIn", "tokenOut", "side", "amount", "triggerPrice"]

/-- `strict()`: no key that is not of the schema. -/
def unrecognized (payload : Payload) : List Issue :=
  match (payload.map Prod.fst).filter (· ∉ keys) with
  | [] => []
  | others => [⟨"", "Unrecognized key(s) in object: " ++
      ", ".intercalate (others.map fun key => "'" ++ key ++ "'")⟩]

def createOrderSchema (payload : Payload) : Except (List Issue) CreateOrderInput :=
  let userAddress := addressSchema (payload.field "userAddress")
  let tokenIn := tokenSchema (payload.field "tokenIn")
  let tokenOut := tokenSchema (payload.field "tokenOut")
  let side := sideSchema (payload.field "side")
  let amount := decimalString "amount" (payload.field "amount")
  let triggerPrice := decimalString "triggerPrice" (payload.field "triggerPrice")
  match userAddress, tokenIn, tokenOut, side, amount, triggerPrice, unrecognized payload with
  | .ok userAddress, .ok tokenIn, .ok tokenOut, .ok side, .ok amount, .ok triggerPrice, [] =>
      .ok ⟨userAddress, tokenIn, tokenOut, side, amount, triggerPrice⟩
  | _, _, _, _, _, _, others =>
      .error (issue "userAddress" userAddress ++ issue "tokenIn" tokenIn ++
        issue "tokenOut" tokenOut ++ issue "side" side ++ issue "amount" amount ++
        issue "triggerPrice" triggerPrice ++ others)

end OrderSchema

structure OrderResponse where
  id : String
  userAddress : String
  tokenIn : String
  tokenOut : String
  side : String
  amount : String
  triggerPrice : String
  status : String
  executionId : String
  txHash : Option String
  errorMessage : Option String
  createdAt : String
  updatedAt : String
deriving DecidableEq, Repr

def OrderSide.text : OrderSide → String
  | buy => "BUY"
  | sell => "SELL"

section Api

variable (packages : Packages) (config : Config) (toISOString : Nat → String)

def serializeOrder (order : Order) : OrderResponse where
  id := order.id
  userAddress := order.userAddress
  tokenIn := order.tokenIn
  tokenOut := order.tokenOut
  side := order.side.text
  amount := packages.decimalText order.amount
  triggerPrice := packages.decimalText order.triggerPrice
  status := order.status.text
  executionId := order.executionId
  txHash := order.txHash
  errorMessage := order.errorMessage
  createdAt := toISOString order.createdAt
  updatedAt := toISOString order.updatedAt

/-- The handler of `POST /orders`. -/
def OrderController.createOrder (payload : Payload) : Service OrderResponse :=
  match OrderSchema.createOrderSchema payload with
  | .error _ => Async.throw (validationError "Invalid order payload")
  | .ok input => do
    let order ← OrderService.createOrder packages config input
    pure (serializeOrder packages toISOString order)

end Api

/-! ## Decimals in the packages -/

/-- A numeral as the schema admits it. -/
structure Admissible (numeral : Plain) : Prop where
  whole : numeral.whole ≠ []
  fraction : numeral.fraction ≠ some []
  positive : 0 < numeral.units
  places : numeral.places ≤ 18

/-- `toString` of decimal.js, with its default bounds for exponents. -/
def DecimalJs.toString (decimal : Decimal) : String :=
  String.ofList ((if decimal.units < 0 then ['-'] else []) ++
    Numeral.print (-7) 21 18 decimal.units.natAbs)

/-- The packages do what their documentation says of decimals. viem reads a numeral, rounded
half up to the decimals of the token, and refuses an exponent. The column, which has 18
places, stores what it stores exactly. -/
structure Packages.Documented (packages : Packages) : Prop where
  parseUnits {numeral : Plain} {decimals : Nat} (admissible : Admissible numeral)
    (offered : decimals = 6 ∨ decimals = 18) :
    packages.parseUnits (String.ofList numeral.text) decimals = .ok (numeral.scaled decimals : Int)
  exponent (value : String) (decimals : Nat) (marked : 'e' ∈ value.toList) :
    ∃ failure, packages.parseUnits value decimals = .error failure
  decimalText (decimal : Decimal) : packages.decimalText decimal = DecimalJs.toString decimal
  decimal {numeral : Plain} {stored : Decimal} (admissible : Admissible numeral)
    (stores : packages.decimal (String.ofList numeral.text) = .ok stored) :
    stored.value = numeral.value

/-- The column has 20 digits before the point. -/
def Packages.FitsColumn (packages : Packages) : Prop :=
  ∀ numeral : Plain, Admissible numeral →
    ((∃ stored, packages.decimal (String.ofList numeral.text) = .ok stored) ↔
      numeral.value < 10 ^ 20)

end Orders
