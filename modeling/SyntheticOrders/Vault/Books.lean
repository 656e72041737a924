import SyntheticOrders.Vault.Course

/-! # The books of the vault

The books are the two balance mappings, the consumed execution identifiers and
the events that say how a balance moved. `Booking` is the ledger the vault is
meant to be: deposits, withdrawals and swaps, each booked whole together with its
event. While the re-entrancy flag is up nothing can touch the books, since the
calls that would are refused and every other call leaves them alone, however deep
it is nested. So a course of calls begun with the flag down is a sequence of
bookings (`Course.bookings`).
-/

namespace Vault

open Interaction

/-- The events by which a balance moves. -/
def Event.moves : Event → Bool
  | .deposited _ _ _ | .withdrawn _ _ _ | .swapExecuted _ _ _ _ _ _ _ _ _ => true
  | _ => false

structure Books where
  balances : Address → Address → Nat
  totals : Address → Nat
  executedIds : Bytes32 → Bool
  journal : List Event

namespace Books

/-- Change a user's entry and the token's total. -/
def adjust (books : Books) (user token : Address) (change : Nat → Nat) : Books :=
  { books with
    balances := Function.update books.balances user
      (Function.update (books.balances user) token (change (books.balances user token)))
    totals := Function.update books.totals token (change (books.totals token)) }

def mark (books : Books) (executionId : Bytes32) : Books :=
  { books with executedIds := Function.update books.executedIds executionId true }

def post (books : Books) (event : Event) : Books :=
  { books with journal := books.journal ++ [event] }

@[simp] theorem adjust_executedIds (books : Books) (user token : Address) (change : Nat → Nat) :
    (books.adjust user token change).executedIds = books.executedIds := rfl

@[simp] theorem adjust_journal (books : Books) (user token : Address) (change : Nat → Nat) :
    (books.adjust user token change).journal = books.journal := rfl

@[simp] theorem mark_balances (books : Books) (executionId : Bytes32) :
    (books.mark executionId).balances = books.balances := rfl

@[simp] theorem mark_executedIds (books : Books) (executionId : Bytes32) :
    (books.mark executionId).executedIds =
      Function.update books.executedIds executionId true := rfl

@[simp] theorem mark_journal (books : Books) (executionId : Bytes32) :
    (books.mark executionId).journal = books.journal := rfl

@[simp] theorem post_balances (books : Books) (event : Event) :
    (books.post event).balances = books.balances := rfl

@[simp] theorem post_executedIds (books : Books) (event : Event) :
    (books.post event).executedIds = books.executedIds := rfl

@[simp] theorem post_journal (books : Books) (event : Event) :
    (books.post event).journal = books.journal ++ [event] := rfl

theorem adjust_balances (books : Books) (user token queried asset : Address)
    (change : Nat → Nat) :
    (books.adjust user token change).balances queried asset =
      if queried = user ∧ asset = token then change (books.balances user token)
      else books.balances queried asset := by
  unfold adjust
  by_cases sameUser : queried = user
  · subst sameUser
    by_cases sameToken : asset = token
    · subst sameToken
      simp only [Function.update_self, and_self, ↓reduceIte]
    · simp only [Function.update_self, Function.update_of_ne sameToken, sameToken, and_false,
        ↓reduceIte]
  · simp only [Function.update_of_ne sameUser, sameUser, false_and, ↓reduceIte]

theorem adjust_totals (books : Books) (user token asset : Address) (change : Nat → Nat) :
    (books.adjust user token change).totals asset =
      if asset = token then change (books.totals token) else books.totals asset :=
  Function.update_apply ..

end Books

/-- One entry of the ledger. -/
inductive Booking : Books → Books → Prop
  | deposit (books : Books) (user token : Address) (amount : Nat) (nonzero : amount ≠ 0) :
      Booking books
        ((books.adjust user token (· + amount)).post (.deposited user token amount))
  | withdrawal (books : Books) (user token : Address) (amount : Nat)
      (funded : amount ≤ books.balances user token) (accounted : amount ≤ books.totals token) :
      Booking books
        ((books.adjust user token (· - amount)).post (.withdrawn user token amount))
  | swap (books : Books) (executor : Address) (swap : Swap) (amountOut : Nat)
      (unused : books.executedIds swap.executionId = false)
      (distinct : swap.tokenIn ≠ swap.tokenOut)
      (funded : swap.amountIn ≤ books.balances swap.owner swap.tokenIn)
      (accounted : swap.amountIn ≤ books.totals swap.tokenIn) :
      Booking books
        (((((books.mark swap.executionId).adjust swap.owner swap.tokenIn
          (· - swap.amountIn)).adjust swap.owner swap.tokenOut (· + amountOut))).post
          (.swapExecuted swap.executionId swap.owner executor swap.tokenIn swap.tokenOut
            swap.amountIn amountOut swap.minAmountOut swap.poolFee))

/-- The books of a state. -/
def State.books (state : State) : Books where
  balances := state.storage.balances
  totals := state.storage.totalAccounted
  executedIds := state.storage.executedIds
  journal := state.log.filter Event.moves

theorem State.books_logged_of_moves (state : State) {event : Event} (moves : event.moves = true) :
    (state.logged event).books = state.books.post event := by
  simp only [books, logged, List.filter_append, List.filter_cons, moves, ↓reduceIte,
    List.filter_nil, Books.post]

section Projections

variable (state : State) (storage : Storage) (user token : Address) (amount : Nat)
  (entered : Bool)

@[simp] theorem books_recorded (call : Call) : (state.recorded call storage).books = state.books :=
  rfl

theorem books_setEntered : (state.withStorage (state.storage.setEntered entered)).books =
    state.books := rfl

theorem books_credit :
    (state.withStorage ((state.storage.credit user token amount).setEntered entered)).books =
      state.books.adjust user token (· + amount) := rfl

theorem books_debit :
    (state.withStorage (storage.debit user token amount)).books =
      (state.withStorage storage).books.adjust user token (· - amount) := rfl

end Projections

/-- Books and re-entrancy flag are the same in both states. -/
structure SameBooks (first second : State) : Prop where
  books : second.books = first.books
  entered : second.storage.entered = first.storage.entered

namespace SameBooks

variable {first second third : State}

theorem refl (state : State) : SameBooks state state := ⟨rfl, rfl⟩

theorem trans (left : SameBooks first second) (right : SameBooks second third) :
    SameBooks first third :=
  ⟨right.books.trans left.books, right.entered.trans left.entered⟩

/-- An event that moves no balance leaves the books alone. -/
theorem logged (same : SameBooks first second) {event : Event} (still : event.moves = false) :
    SameBooks first (second.logged event) where
  books := by
    rw [← same.books]
    simp only [State.books, State.logged, List.filter_append, List.filter_cons, still,
      Bool.false_eq_true, ↓reduceIte, List.filter_nil, List.append_nil]
  entered := same.entered

end SameBooks

/-- The history is the same as well: no call has returned in between. -/
structure Untouched (first second : State) : Prop extends SameBooks first second where
  history : second.history = first.history

namespace Untouched

theorem refl (state : State) : Untouched state state := ⟨.refl state, rfl⟩

theorem logged {first second : State} (same : Untouched first second) {event : Event}
    (still : event.moves = false) : Untouched first (second.logged event) :=
  ⟨same.toSameBooks.logged still, same.history⟩

end Untouched

/-- The events of admins and pausers, who move no tokens. -/
def Event.administrative : Event → Bool
  | .executorUpdated _ _ | .tokenAllowed _ _ | .tokenRemoved _ | .maxTradeAmountUpdated _ _ _
  | .paused _ | .unpaused _ | .roleGranted _ _ _ | .roleRevoked _ _ _ => true
  | _ => false

/-- Moreover, only administrative events have been logged. -/
structure Administers (first second : State) : Prop extends Untouched first second where
  log : ∃ events, second.log = first.log ++ events ∧
    ∀ event ∈ events, event.administrative = true

namespace Administers

variable {first second : State}

theorem refl (state : State) : Administers state state :=
  ⟨.refl state, [], (List.append_nil _).symm, fun _ member => absurd member List.not_mem_nil⟩

theorem written (same : Administers first second) {storage : Storage}
    (books : (second.withStorage storage).books = second.books)
    (entered : storage.entered = second.storage.entered) :
    Administers first (second.withStorage storage) :=
  ⟨⟨⟨books.trans same.books, entered.trans same.entered⟩, same.history⟩, same.log⟩

theorem logged (same : Administers first second) {event : Event}
    (administrative : event.administrative = true) : Administers first (second.logged event) := by
  have still : event.moves = false := by
    cases event <;> first | rfl | exact absurd administrative Bool.false_ne_true
  obtain ⟨events, appended, all⟩ := same.log
  refine ⟨same.toUntouched.logged still, events ++ [event], ?_, fun other member => ?_⟩
  · change second.log ++ [event] = _
    rw [appended, List.append_assoc]
  · rcases List.mem_append.mp member with earlier | last
    · exact all other earlier
    · rw [List.mem_singleton.mp last]
      exact administrative

/-- An amount that no administrative event carries adds up to the same. -/
theorem sum_eq (same : Administers first second) (amount : Event → Nat)
    (nothing : ∀ event, event.administrative = true → amount event = 0) :
    (second.log.map amount).sum = (first.log.map amount).sum := by
  obtain ⟨events, appended, all⟩ := same.log
  rw [appended, List.map_append, List.sum_append]
  have none : (events.map amount).sum = 0 := by
    refine List.sum_eq_zero fun value member => ?_
    obtain ⟨event, logged, rfl⟩ := List.mem_map.mp member
    exact nothing event (all event logged)
  omega

end Administers

section Local

variable {World : Type} {rules : Code.Rules External (Option Nat) State World} {state : State}
  {now : State × World}

private theorem wp_grantRoleUnchecked_administers (role : Role) (account sender : Address)
    (same : Administers state now.1) :
    Code.wp rules (grantRoleUnchecked role account sender) now
      fun _ after => Administers state after.1 := by
  simp only [grantRoleUnchecked, Code.wp_bind, wp_storage, Code.wp_ite, Code.wp_pure, wp_write,
    wp_emit]
  split
  · exact same
  · refine Administers.logged ?_ rfl
    exact same.written rfl rfl

private theorem wp_revokeRoleUnchecked_administers (role : Role) (account sender : Address)
    (same : Administers state now.1) :
    Code.wp rules (revokeRoleUnchecked role account sender) now
      fun _ after => Administers state after.1 := by
  simp only [revokeRoleUnchecked, Code.wp_bind, wp_storage, Code.wp_ite, Code.wp_pure, wp_write,
    wp_emit]
  split
  · exact same
  · refine Administers.logged ?_ rfl
    exact same.written rfl rfl

private theorem wp_setExecutor_administers (msg : Msg) (newExecutor : Address) :
    Code.wp rules (setExecutor msg newExecutor) now fun _ after => Administers now.1 after.1 := by
  simp only [setExecutor, Code.wp_bind, wp_onlyRole, wp_storage, Code.wp_ite, Code.wp_pure]
  intro _
  split
  · exact .refl _
  · -- The new executor is written between a revocation and a grant, each optional.
    have appoint : ∀ middle : State × World, Administers now.1 middle.1 →
        Code.wp rules (write fun storage => { storage with executor := newExecutor }) middle
          fun _ written => Code.wp rules (Code.when (newExecutor ≠ 0)
            (grantRoleUnchecked .executor newExecutor msg.sender)) written
          fun _ granted => Code.wp rules
            (emit (.executorUpdated now.1.storage.executor newExecutor)) granted
          fun _ after => Administers now.1 after.1 := by
      intro middle same
      have written : Administers now.1 (middle.1.withStorage
          { middle.1.storage with executor := newExecutor }) :=
        same.written rfl rfl
      simp only [wp_write, Code.wp_when, wp_emit]
      split
      · exact Code.wp_imp _ (fun _ _ granted => granted.logged rfl)
          (wp_grantRoleUnchecked_administers _ _ _ written)
      · exact written.logged rfl
    rw [Code.wp_when]
    split
    · exact Code.wp_imp _ (fun _ middle revoked => appoint middle revoked)
        (wp_revokeRoleUnchecked_administers _ _ _ (.refl _))
    · exact appoint now (.refl _)

/-- A call that calls no other contract leaves the books and the history alone and logs an
administrative event at most. -/
theorem local_administers {deployment : Deployment} {call : Call} {before closed : State}
    (isLocal : call.entry.local = true)
    (finished : dispatch deployment call before = .done (.ok ((), closed))) :
    Administers before closed := by
  suffices kept : Code.wp (⟨fun _ _ => True, fun _ _ _ _ => True⟩ : Code.Rules _ _ _ Unit)
      (dispatch deployment call) (before, ()) fun _ after => Administers before after.1 from
    Code.wp_finished kept finished
  obtain ⟨msg, entry⟩ := call
  cases entry with
  | deposit | depositETH | withdraw | withdrawETH | executeSwap | sweepUnaccounted =>
      exact absurd isLocal Bool.false_ne_true
  | setExecutor newExecutor => exact wp_setExecutor_administers msg newExecutor
  | setTokenAllowed token maxAmount =>
      simp only [dispatch, setTokenAllowed, Code.wp_bind, wp_onlyRole, Code.wp_failIf, wp_write,
        wp_emit]
      intro _ _ _
      refine Administers.logged ?_ rfl
      exact (Administers.refl before).written rfl rfl
  | removeToken token =>
      simp only [dispatch, removeToken, Code.wp_bind, wp_onlyRole, wp_storage, Code.wp_failIf,
        wp_write, wp_emit]
      intro _ _
      refine Administers.logged ?_ rfl
      exact (Administers.refl before).written rfl rfl
  | setMaxTradeAmount token newAmount =>
      simp only [dispatch, setMaxTradeAmount, Code.wp_bind, wp_onlyRole, wp_storage,
        Code.wp_failIf, wp_write, wp_emit]
      intro _ _ _
      refine Administers.logged ?_ rfl
      exact (Administers.refl before).written rfl rfl
  | pause =>
      simp only [dispatch, pause, Code.wp_bind, wp_onlyRole, wp_whenNotPaused, wp_write, wp_emit]
      intro _ _
      refine Administers.logged ?_ rfl
      exact (Administers.refl before).written rfl rfl
  | unpause =>
      simp only [dispatch, unpause, Code.wp_bind, wp_onlyRole, wp_whenPaused, wp_write, wp_emit]
      intro _ _
      refine Administers.logged ?_ rfl
      exact (Administers.refl before).written rfl rfl
  | grantRole role account =>
      simp only [dispatch, grantRole, Code.wp_bind, wp_onlyRole]
      intro _
      exact wp_grantRoleUnchecked_administers _ _ _ (.refl _)
  | revokeRole role account =>
      simp only [dispatch, revokeRole, Code.wp_bind, wp_onlyRole]
      intro _
      exact wp_revokeRoleUnchecked_administers _ _ _ (.refl _)
  | renounceRole role callerConfirmation =>
      simp only [dispatch, renounceRole, Code.wp_bind, Code.wp_failIf]
      intro _
      exact wp_revokeRoleUnchecked_administers _ _ _ (.refl _)
  | receive =>
      simp only [dispatch, receive, Code.wp_failIf]
      intro _
      exact .refl _

theorem local_untouched {deployment : Deployment} {call : Call} {before closed : State}
    (isLocal : call.entry.local = true)
    (finished : dispatch deployment call before = .done (.ok ((), closed))) :
    Untouched before closed :=
  (local_administers isLocal finished).toUntouched

end Local

/-- A freshly constructed contract has empty books, no history and its flag down. -/
theorem Deployed.administers {deployment : Deployment} {state : State}
    (deployed : Deployed deployment state) : Administers ⟨.blank, [], []⟩ state := by
  obtain ⟨sender, admin, executor, finished⟩ := deployed
  suffices kept : Code.wp (⟨fun _ _ => True, fun _ _ _ _ => True⟩ : Code.Rules _ _ _ Unit)
      (construct deployment sender admin executor) (⟨.blank, [], []⟩, ())
      fun _ after => Administers ⟨.blank, [], []⟩ after.1 from Code.wp_finished kept finished
  simp only [construct, Code.wp_bind, Code.wp_failIf]
  intro _
  refine Code.wp_imp _ (fun _ granted same => ?_) (wp_grantRoleUnchecked_administers _ _ _ (.refl _))
  refine Code.wp_imp _ (fun _ granted same => ?_) (wp_grantRoleUnchecked_administers _ _ _ same)
  simp only [Code.wp_when, Code.wp_bind, wp_write, wp_emit]
  split
  · exact Code.wp_imp _ (fun _ _ appointed => appointed.logged rfl)
      (wp_grantRoleUnchecked_administers _ _ _ (same.written rfl rfl))
  · exact same

theorem Deployed.untouched {deployment : Deployment} {state : State}
    (deployed : Deployed deployment state) : Untouched ⟨.blank, [], []⟩ state :=
  deployed.administers.toUntouched

section Bookings

variable {deployment : Deployment} {call : Call} {before opened middle closed : State}

/-- The entry points marked `nonReentrant`. -/
def Entry.guarded : Entry → Bool
  | .deposit _ _ | .depositETH | .withdraw _ _ | .withdrawETH _ | .executeSwap _ => true
  | _ => false

/-- A call without the guard neither opens nor closes with a change to the books. -/
theorem unguarded_untouched (unguarded : call.entry.guarded = false)
    (opens : Opens deployment call before opened)
    (closes : Closes deployment call before middle closed) :
    opened = before ∧ Untouched middle closed := by
  obtain ⟨msg, entry⟩ := call
  cases entry with
  | deposit | depositETH | withdraw | withdrawETH | executeSwap =>
      exact absurd unguarded.symm Bool.false_ne_true
  | sweepUnaccounted token recipient =>
      obtain ⟨_, _, rfl⟩ := opens
      obtain ⟨amount, rfl⟩ := closes
      exact ⟨rfl, (Untouched.refl middle).logged rfl⟩
  | setExecutor | setTokenAllowed | removeToken | setMaxTradeAmount | pause | unpause | grantRole
  | revokeRole | renounceRole | receive =>
      obtain ⟨rfl, finished⟩ := closes
      exact ⟨opens, local_untouched rfl finished⟩

theorem guarded_opens (guarded : call.entry.guarded = true)
    (opens : Opens deployment call before opened) :
    before.storage.entered = false ∧ opened.storage.entered = true := by
  obtain ⟨msg, entry⟩ := call
  cases entry with
  | deposit | depositETH =>
      obtain ⟨_, notEntered, _, _, rfl⟩ := opens
      exact ⟨notEntered, rfl⟩
  | withdraw | withdrawETH =>
      obtain ⟨notEntered, _, _, _, rfl⟩ := opens
      exact ⟨notEntered, rfl⟩
  | executeSwap =>
      obtain ⟨guards, rfl⟩ := opens
      exact ⟨guards.notEntered, rfl⟩
  | sweepUnaccounted | setExecutor | setTokenAllowed | removeToken | setMaxTradeAmount | pause
  | unpause | grantRole | revokeRole | renounceRole | receive =>
      exact absurd guarded Bool.false_ne_true

/-- With the flag up, a course of calls leaves the books alone. -/
theorem Course.frozen {first last : State} (course : Course deployment first last)
    (entered : first.storage.entered = true) : SameBooks first last := by
  induction course with
  | refl => exact .refl _
  | call call _ opens _ closes earlier inner =>
      have prior := earlier entered
      cases guard : call.entry.guarded with
      | true =>
          have lowered := (guarded_opens guard opens).1
          rw [prior.entered, entered] at lowered
          exact absurd lowered.symm Bool.false_ne_true
      | false =>
          obtain ⟨rfl, same⟩ := unguarded_untouched guard opens closes
          have inside := inner (prior.entered.trans entered)
          have whole := (prior.trans inside).trans same.toSameBooks
          exact ⟨whole.books, whole.entered⟩

/-- A guarded call books exactly one entry, whatever happens while it waits. -/
theorem guarded_booking (guarded : call.entry.guarded = true)
    (opens : Opens deployment call before opened) (inside : Course deployment opened middle)
    (closes : Closes deployment call before middle closed) :
    Booking before.books closed.books ∧ closed.storage.entered = false := by
  have frozen := (inside.frozen (guarded_opens guarded opens).2).books
  obtain ⟨msg, entry⟩ := call
  cases entry with
  | deposit token amount =>
      obtain ⟨_, _, _, _, rfl⟩ := opens
      obtain ⟨received, nonzero, rfl⟩ := closes
      refine ⟨?_, rfl⟩
      rw [State.books_logged_of_moves _ rfl, books_credit, frozen]
      exact .deposit before.books _ _ _ nonzero
  | depositETH =>
      obtain ⟨_, _, _, nonzero, rfl⟩ := opens
      obtain rfl := closes
      refine ⟨?_, rfl⟩
      rw [State.books_logged_of_moves _ rfl, books_credit, frozen]
      exact .deposit before.books _ _ _ nonzero
  | withdraw token amount =>
      obtain ⟨_, _, funded, accounted, rfl⟩ := opens
      obtain rfl := closes
      refine ⟨?_, rfl⟩
      rw [State.books_logged_of_moves _ rfl, books_setEntered, frozen, books_debit]
      exact .withdrawal before.books _ _ _ funded accounted
  | withdrawETH amount =>
      obtain ⟨_, _, funded, accounted, rfl⟩ := opens
      obtain rfl := closes
      refine ⟨?_, rfl⟩
      rw [State.books_logged_of_moves _ rfl, books_setEntered, frozen, books_debit]
      exact .withdrawal before.books _ _ _ funded accounted
  | executeSwap swap =>
      obtain ⟨guards, rfl⟩ := opens
      obtain ⟨amountOut, _, rfl⟩ := closes
      refine ⟨?_, rfl⟩
      rw [State.books_logged_of_moves _ rfl, books_credit, frozen, books_debit]
      exact .swap before.books msg.sender swap amountOut guards.unused guards.distinct
        guards.funded guards.accounted
  | sweepUnaccounted | setExecutor | setTokenAllowed | removeToken | setMaxTradeAmount | pause
  | unpause | grantRole | revokeRole | renounceRole | receive =>
      exact absurd guarded Bool.false_ne_true

/-- A swap journals its own event and no other. -/
theorem executeSwap_journal {msg : Msg} {swap : Swap}
    (opens : Opens deployment ⟨msg, .executeSwap swap⟩ before opened)
    (inside : Course deployment opened middle)
    (closes : Closes deployment ⟨msg, .executeSwap swap⟩ before middle closed) :
    ∃ amountOut, closed.books.journal = before.books.journal ++
      [.swapExecuted swap.executionId swap.owner msg.sender swap.tokenIn swap.tokenOut
        swap.amountIn amountOut swap.minAmountOut swap.poolFee] := by
  have frozen := (inside.frozen (guarded_opens rfl opens).2).books
  obtain ⟨guards, rfl⟩ := opens
  obtain ⟨amountOut, _, rfl⟩ := closes
  refine ⟨amountOut, ?_⟩
  rw [State.books_logged_of_moves _ rfl, books_credit, frozen, books_debit]
  rfl

/-- So does a lone swap, unless it fails. -/
theorem lone_executeSwap {World : Type} {msg : Msg} {swap : Swap} {entry after : State × World}
    (ran : Config.Steps (contract deployment) (lone ⟨msg, .executeSwap swap⟩ entry) (.idle entry)
      (.idle after)) :
    after = entry ∨ ∃ amountOut, after.1.books.journal = entry.1.books.journal ++
      [.swapExecuted swap.executionId swap.owner msg.sender swap.tokenIn swap.tokenOut
        swap.amountIn amountOut swap.minAmountOut swap.poolFee] := by
  refine Guarantee.lone (fun after => ∃ amountOut, after.1.books.journal =
    entry.1.books.journal ++ [.swapExecuted swap.executionId swap.owner msg.sender swap.tokenIn
      swap.tokenOut swap.amountIn amountOut swap.minAmountOut swap.poolFee])
    (contract_course deployment _) ?_ ?_ ran
  · refine Code.wp_imp _ (fun _ closed read => ?_) (contract_reads deployment _ [] _ entry)
    obtain ⟨opened, middle, closed, opens, inside, closes, same⟩ := read
    rw [same, books_recorded]
    exact executeSwap_journal opens inside closes
  · rintro ⟨amountOut, same⟩
    exact absurd same.symm (by simp)

/-- A course of calls begun with the flag down is a sequence of bookings. -/
theorem Course.bookings {first last : State} (course : Course deployment first last)
    (idle : first.storage.entered = false) :
    Relation.ReflTransGen Booking first.books last.books ∧ last.storage.entered = false := by
  induction course with
  | refl => exact ⟨.refl, idle⟩
  | call call _ opens inside closes earlier inner =>
      obtain ⟨prior, lowered⟩ := earlier idle
      cases guard : call.entry.guarded with
      | true =>
          obtain ⟨booked, released⟩ := guarded_booking guard opens inside closes
          exact ⟨prior.tail booked, released⟩
      | false =>
          obtain ⟨rfl, same⟩ := unguarded_untouched guard opens closes
          obtain ⟨nested, stillLowered⟩ := inner lowered
          refine ⟨?_, same.entered.trans stillLowered⟩
          rw [books_recorded, same.books]
          exact prior.trans nested

/-- Bookings keep a law of the ledger that each single booking keeps. -/
theorem Booking.keeps (law : Books → Prop)
    (booking : ∀ {books next}, Booking books next → law books → law next)
    {books next : Books} (booked : Relation.ReflTransGen Booking books next) (held : law books) :
    law next := by
  induction booked with
  | refl => exact held
  | tail _ last ih => exact booking last ih

/-- So does a course of calls, wherever it begins. -/
theorem Course.keeps (law : Books → Prop)
    (booking : ∀ {books next}, Booking books next → law books → law next)
    {first last : State} (course : Course deployment first last) (held : law first.books) :
    law last.books := by
  cases flag : first.storage.entered with
  | false => exact Booking.keeps law booking (course.bookings flag).1 held
  | true =>
      rw [(course.frozen flag).books]
      exact held

end Bookings

end Vault
