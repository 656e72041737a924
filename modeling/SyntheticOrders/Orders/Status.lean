import Mathlib.Logic.Basic

/-! # The order state machine

`packages/core/src/domain/orderStatus.ts`. The table is consulted by the API; the
workers write the statuses they intend without looking it up.
-/

namespace Orders

inductive OrderStatus where
  | pending
  | triggered
  | executing
  | executed
  | failed
  | cancelled
deriving DecidableEq, Repr

inductive OrderSide where
  | buy
  | sell
deriving DecidableEq, Repr

namespace OrderStatus

/-- The name of a status in the database and in messages. -/
def text : OrderStatus → String
  | pending => "PENDING"
  | triggered => "TRIGGERED"
  | executing => "EXECUTING"
  | executed => "EXECUTED"
  | failed => "FAILED"
  | cancelled => "CANCELLED"

/-- `ALLOWED_TRANSITIONS`. -/
def allowedTransitions : OrderStatus → List OrderStatus
  | pending => [triggered, cancelled]
  | triggered => [executing, cancelled, failed]
  | executing => [executed, failed]
  | failed => [triggered]
  | executed => []
  | cancelled => []

def terminalStatuses : List OrderStatus := [executed, cancelled]

def userCancellableStatuses : List OrderStatus := [pending, triggered]

def canTransition (source target : OrderStatus) : Bool :=
  source.allowedTransitions.contains target

def isTerminal (status : OrderStatus) : Bool := terminalStatuses.contains status

def isUserCancellable (status : OrderStatus) : Bool := userCancellableStatuses.contains status

/-- A user may cancel an order exactly when the table lets it be cancelled. -/
theorem isUserCancellable_iff (status : OrderStatus) :
    status.isUserCancellable ↔ status.canTransition .cancelled := by
  cases status <;> decide

end OrderStatus

end Orders
