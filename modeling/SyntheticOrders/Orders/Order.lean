import Mathlib
import SyntheticOrders.Orders.Status

/-! # Order rows and the orders table

The `Order` model of `packages/database/prisma/schema.prisma` and the updates that
`packages/core/src/repositories/order.repository.ts` issues on it. An update is one
SQL statement: it changes the row with the given id if its `where` clause accepts
the row, and reports how many rows it changed. The table carries the constraints of
the schema, so that an update which would break one is refused by the database.

Decimal columns of scale 18 count units of 10⁻¹⁸. Times are in milliseconds.
-/

namespace Orders

abbrev Hex : Type := String

/-- A value of a `Decimal(38, 18)` column. -/
structure Decimal where
  units : Int
deriving DecidableEq, Repr

/-- The number a column value stands for. -/
def Decimal.value (decimal : Decimal) : Rat := mkRat decimal.units (10 ^ 18)

structure Order where
  id : String
  userAddress : String
  tokenIn : String
  tokenOut : String
  side : OrderSide
  amount : Decimal
  triggerPrice : Decimal
  status : OrderStatus
  executionId : Hex
  txHash : Option Hex
  errorMessage : Option String
  submittedAt : Option Nat
  confirmedAt : Option Nat
  blockNumber : Option Nat
  gasUsed : Option Nat
  amountOut : Option Nat
  monitorAttempts : Nat
  version : Nat
  createdAt : Nat
  updatedAt : Nat
deriving DecidableEq, Repr

/-- A string that JavaScript takes for true. -/
def truthy (text : Option String) : Option String := text.filter (· ≠ "")

/-- How many units of UTF-16 a character takes. -/
def utf16Size (letter : Char) : Nat := if letter.toNat < 0x10000 then 1 else 2

/-- The characters in the first units of UTF-16. Half a character is stored as U+FFFD. -/
def takeUnits : List Char → Nat → List Char
  | [], _ | _, 0 => []
  | letter :: rest, length + 1 =>
      if utf16Size letter ≤ length + 1 then letter :: takeUnits rest (length + 1 - utf16Size letter)
      else [Char.ofNat 0xFFFD]

/-- `text.slice(0, length)`. -/
def slice (text : String) (length : Nat) : String := String.ofList (takeUnits text.toList length)

example : slice "a😀b" 3 = "a😀" := by decide +kernel

/-- The conditional updates of the repository, each with the parameters that its
`where` and `data` use. An outer `none` is a parameter left undefined. -/
inductive Update where
  | transitionStatus (expectedStatus : OrderStatus) (expectedVersion : Nat)
      (nextStatus : OrderStatus) (txHash errorMessage : Option (Option String))
  | recordTxHash (txHash : Hex)
  | markConfirmed (txHash : Hex) (blockNumber gasUsed : Nat) (amountOut : Option Nat)
  | markFailed (errorMessage : String) (txHash : Option Hex) (blockNumber gasUsed : Option Nat)
  | incrementMonitorAttempts
  | forceExecutedFromReconciliation (expectedStatus : OrderStatus) (txHash : Option Hex)
      (blockNumber amountOut : Option Nat) (note : String)
deriving DecidableEq, Repr

namespace Update

/-- The `where` clause, apart from the id. -/
def accepts : Update → Order → Bool
  | transitionStatus expectedStatus expectedVersion .., row =>
      row.status = expectedStatus ∧ row.version = expectedVersion
  | recordTxHash _, row => row.status = .executing
  | markConfirmed .., row => row.status = .executing
  | markFailed .., row => row.status = .executing
  | incrementMonitorAttempts, _ => true
  | forceExecutedFromReconciliation expectedStatus .., row => row.status = expectedStatus

/-- The row with the columns of `data` written at time `now`. -/
def data (now : Nat) : Update → Order → Order
  | transitionStatus _ _ nextStatus txHash errorMessage, row =>
      { row with
        status := nextStatus
        version := row.version + 1
        txHash := txHash.getD row.txHash
        errorMessage := errorMessage.getD row.errorMessage
        updatedAt := now }
  | recordTxHash txHash, row =>
      { row with txHash := some txHash, submittedAt := some now, updatedAt := now }
  | markConfirmed txHash blockNumber gasUsed amountOut, row =>
      { row with
        status := .executed
        txHash := some txHash
        blockNumber := some blockNumber
        gasUsed := some gasUsed
        amountOut := amountOut.or row.amountOut
        confirmedAt := some now
        errorMessage := none
        version := row.version + 1
        updatedAt := now }
  | markFailed errorMessage txHash blockNumber gasUsed, row =>
      { row with
        status := .failed
        errorMessage := some (slice errorMessage 500)
        txHash := (truthy txHash).or row.txHash
        blockNumber := blockNumber.or row.blockNumber
        gasUsed := gasUsed.or row.gasUsed
        confirmedAt := some now
        version := row.version + 1
        updatedAt := now }
  | incrementMonitorAttempts, row =>
      { row with monitorAttempts := row.monitorAttempts + 1, updatedAt := now }
  | forceExecutedFromReconciliation _ txHash blockNumber amountOut note, row =>
      { row with
        status := .executed
        txHash := (truthy txHash).or row.txHash
        blockNumber := blockNumber.or row.blockNumber
        amountOut := amountOut.or row.amountOut
        confirmedAt := some now
        errorMessage := some (slice note 500)
        version := row.version + 1
        updatedAt := now }

/-- The effect on the row with the right id. -/
def write (now : Nat) (update : Update) (row : Order) : Order :=
  if update.accepts row then update.data now row else row

@[simp] theorem accepts_transitionStatus (row : Order) (expectedStatus : OrderStatus)
    (expectedVersion : Nat) (nextStatus : OrderStatus) (txHash errorMessage : Option (Option String)) :
    (transitionStatus expectedStatus expectedVersion nextStatus txHash errorMessage).accepts row ↔
      row.status = expectedStatus ∧ row.version = expectedVersion := by
  simp only [accepts, decide_eq_true_eq]

variable (now : Nat) (update : Update) (row : Order)

@[simp] theorem write_id : (update.write now row).id = row.id := by
  unfold write
  split
  · cases update <;> rfl
  · rfl

@[simp] theorem write_executionId : (update.write now row).executionId = row.executionId := by
  unfold write
  split
  · cases update <;> rfl
  · rfl

/-- No update takes a submission time away. -/
theorem data_submittedAt (submitted : row.submittedAt ≠ none) :
    (update.data now row).submittedAt ≠ none := by
  cases update with
  | recordTxHash => exact Option.some_ne_none _
  | _ => exact submitted

end Update

/-- In rows with a unique key a row is found under its key. -/
theorem find?_key {α κ : Type} [DecidableEq κ] {key : α → κ} {rows : List α}
    (unique : (rows.map key).Nodup) {row : α} (listed : row ∈ rows) :
    (rows.find? fun other => key other = key row) = some row := by
  have distinct := List.pairwise_map.mp unique
  clear unique
  induction rows with
  | nil => exact absurd listed List.not_mem_nil
  | cons head tail ih =>
      obtain ⟨apart, rest⟩ := List.pairwise_cons.mp distinct
      rcases List.mem_cons.mp listed with rfl | later
      · simp only [decide_true, List.find?_cons_of_pos]
      · rw [List.find?_cons_of_neg (by simpa using apart row later)]
        exact ih later rest

/-- The orders table, with the unique columns of the schema. -/
structure Table where
  rows : List Order
  uniqueIds : (rows.map Order.id).Nodup
  uniqueExecutionIds : (rows.map Order.executionId).Nodup
  uniqueTxHashes : (rows.filterMap Order.txHash).Nodup

namespace Table

def find (table : Table) (id : String) : Option Order := table.rows.find? fun row => row.id = id

def findByExecutionId (table : Table) (executionId : Hex) : Option Order :=
  table.rows.find? fun row => row.executionId = executionId

/-- `INSERT`, refused if a unique column is taken. -/
def insert (table : Table) (row : Order) : Option Table :=
  if unique : ((table.rows ++ [row]).map Order.id).Nodup ∧
      ((table.rows ++ [row]).map Order.executionId).Nodup ∧
      ((table.rows ++ [row]).filterMap Order.txHash).Nodup then
    some ⟨table.rows ++ [row], unique.1, unique.2.1, unique.2.2⟩
  else none

/-- The rows after an update of the row with the given id. -/
def written (table : Table) (now : Nat) (id : String) (update : Update) : List Order :=
  table.rows.map fun row => if row.id = id then update.write now row else row

theorem written_ids (table : Table) (now : Nat) (id : String) (update : Update) :
    (table.written now id update).map Order.id = table.rows.map Order.id := by
  rw [written, List.map_map]
  refine List.map_congr_left fun row _ => ?_
  rw [Function.comp_apply, apply_ite Order.id, Update.write_id, ite_self]

theorem written_executionIds (table : Table) (now : Nat) (id : String) (update : Update) :
    (table.written now id update).map Order.executionId = table.rows.map Order.executionId := by
  rw [written, List.map_map]
  refine List.map_congr_left fun row _ => ?_
  rw [Function.comp_apply, apply_ite Order.executionId, Update.write_executionId, ite_self]

/-- How many rows an update changes. -/
def matching (table : Table) (id : String) (update : Update) : Nat :=
  table.rows.countP fun row => row.id = id ∧ update.accepts row

/-- `UPDATE`, refused if it would repeat a transaction hash. -/
def updateMany (table : Table) (now : Nat) (id : String) (update : Update) : Option Table :=
  if unique : ((table.written now id update).filterMap Order.txHash).Nodup then
    some ⟨table.written now id update,
      table.written_ids now id update ▸ table.uniqueIds,
      table.written_executionIds now id update ▸ table.uniqueExecutionIds, unique⟩
  else none

variable {table after : Table} {id other : String} {row : Order} {now : Nat} {update : Update}

theorem find_id (found : table.find id = some row) : row.id = id := by
  simpa using List.find?_some found

theorem find_mem (found : table.find id = some row) : row ∈ table.rows :=
  List.mem_of_find?_eq_some found

/-- A row of the table is found under its id. -/
theorem find_of_mem (listed : row ∈ table.rows) : table.find row.id = some row :=
  find?_key table.uniqueIds listed

/-- A row of the table is found under its execution id. -/
theorem findByExecutionId_of_mem (listed : row ∈ table.rows) :
    table.findByExecutionId row.executionId = some row :=
  find?_key table.uniqueExecutionIds listed

theorem findByExecutionId_find {executionId : Hex}
    (found : table.findByExecutionId executionId = some row) :
    table.find row.id = some row ∧ row.executionId = executionId :=
  ⟨find_of_mem (List.mem_of_find?_eq_some found), by simpa using List.find?_some found⟩

/-- An update acts on the row with its id and on no other. -/
theorem find_updateMany (updated : table.updateMany now id update = some after) (other : String) :
    after.find other =
      (table.find other).map fun row => if other = id then update.write now row else row := by
  unfold updateMany at updated
  split at updated
  · cases updated
    unfold find written
    rw [List.find?_map]
    have sameTest : ((fun row : Order => decide (row.id = other)) ∘ fun row =>
        if row.id = id then update.write now row else row) =
          fun row => decide (row.id = other) := by
      funext row
      rw [Function.comp_apply, apply_ite Order.id, Update.write_id, ite_self]
    rw [sameTest]
    refine Option.map_congr fun row found => ?_
    rw [show row.id = other by simpa using List.find?_some found]
  · exact absurd updated.symm (Option.some_ne_none _)

/-- An update that leaves the hashes as they are is not refused. -/
theorem updateMany_accepted (table : Table) (now : Nat) (id : String) (update : Update)
    (kept : ∀ row ∈ table.rows, row.id = id → (update.write now row).txHash = row.txHash) :
    ∃ after, table.updateMany now id update = some after := by
  have same : (table.written now id update).filterMap Order.txHash =
      table.rows.filterMap Order.txHash := by
    rw [written, List.filterMap_map]
    refine List.filterMap_congr fun row listed => ?_
    rw [Function.comp_apply]
    split
    · next own => exact kept row listed own
    · rfl
  exact ⟨_, dif_pos (same ▸ table.uniqueTxHashes)⟩

/-- An update changes a row exactly if the row with its id is accepted. -/
theorem matching_ne_zero : table.matching id update ≠ 0 ↔
    ∃ row, table.find id = some row ∧ update.accepts row := by
  rw [matching, Nat.ne_zero_iff_zero_lt, List.countP_pos_iff]
  constructor
  · rintro ⟨row, listed, accepted⟩
    simp only [Bool.decide_and, Bool.and_eq_true, decide_eq_true_eq] at accepted
    exact ⟨row, accepted.1 ▸ find_of_mem listed, accepted.2⟩
  · rintro ⟨row, found, accepted⟩
    exact ⟨row, find_mem found, by simpa using ⟨find_id found, accepted⟩⟩

/-- An insertion keeps the rows there are. -/
theorem find_insert (inserted : table.insert row = some after) {old : Order}
    (found : table.find other = some old) : after.find other = some old := by
  unfold insert at inserted
  split at inserted
  · cases inserted
    unfold find at found ⊢
    rw [List.find?_append, found, Option.some_or]
  · exact absurd inserted.symm (Option.some_ne_none _)

/-- An inserted row is found. -/
theorem find_inserted (inserted : table.insert row = some after) : after.find row.id = some row := by
  refine find_of_mem ?_
  unfold insert at inserted
  split at inserted
  · cases inserted
    exact List.mem_append_right _ (List.mem_singleton_self row)
  · exact absurd inserted.symm (Option.some_ne_none _)

/-- An insertion adds the row and no other. -/
theorem find_of_insert (inserted : table.insert row = some after) {new : Order}
    (found : after.find other = some new) : table.find other = some new ∨ new = row := by
  unfold insert at inserted
  split at inserted
  · cases inserted
    unfold find at found ⊢
    rw [List.find?_append] at found
    rcases Option.or_eq_some_iff.mp found with old | ⟨-, added⟩
    · exact Or.inl old
    · exact Or.inr (List.mem_singleton.mp (List.mem_of_find?_eq_some added))
  · exact absurd inserted.symm (Option.some_ne_none _)

end Table

end Orders
