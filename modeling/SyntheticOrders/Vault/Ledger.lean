import Mathlib.Algebra.BigOperators.Group.List.Basic
import Mathlib.Data.Int.Cast.Basic
import SyntheticOrders.Vault.Books

/-! # What the event log tells

Two things are read off the log by people who never see storage. The reconciler
takes a `SwapExecuted` event for the proof that an identifier was consumed, and
its absence for the proof that it was not. An auditor rebuilds the vault balances
by adding up deposits, withdrawals and swaps. Both readings are laws of the
ledger that every booking keeps, so they hold between any two transactions.
-/

namespace Vault

open Interaction

namespace Event

/-- The event of a swap under `executionId`. -/
def executes (executionId : Bytes32) : Event → Bool
  | .swapExecuted id _ _ _ _ _ _ _ _ => id = executionId
  | _ => false

variable (user token : Address)

/-- The amount a `Deposited` event books for `user` and `token`. -/
def depositedTo : Event → Nat
  | .deposited owner asset amount => if user = owner ∧ token = asset then amount else 0
  | _ => 0

def withdrawnFrom : Event → Nat
  | .withdrawn owner asset amount => if user = owner ∧ token = asset then amount else 0
  | _ => 0

/-- The `amountOut` of a `SwapExecuted` event, for its owner and `tokenOut`. -/
def swappedTo : Event → Nat
  | .swapExecuted _ owner _ _ tokenOut _ amountOut _ _ =>
      if user = owner ∧ token = tokenOut then amountOut else 0
  | _ => 0

/-- The `amountIn` of a `SwapExecuted` event, for its owner and `tokenIn`. -/
def swappedFrom : Event → Nat
  | .swapExecuted _ owner _ tokenIn _ amountIn _ _ _ =>
      if user = owner ∧ token = tokenIn then amountIn else 0
  | _ => 0

/-- What an event adds to a balance. -/
def credits (event : Event) : Nat := event.depositedTo user token + event.swappedTo user token

/-- What an event takes from a balance. -/
def debits (event : Event) : Nat := event.withdrawnFrom user token + event.swappedFrom user token

end Event

/-- The amounts of a log added up. -/
def sumOver (log : List Event) (amount : Event → Nat) : Nat := (log.map amount).sum

theorem sumOver_append (log : List Event) (event : Event) (amount : Event → Nat) :
    sumOver (log ++ [event]) amount = sumOver log amount + amount event := by
  simp only [sumOver, List.map_append, List.map_cons, List.map_nil, List.sum_append, List.sum_cons,
    List.sum_nil, Nat.add_zero]

theorem sumOver_add (log : List Event) (first second : Event → Nat) :
    sumOver log (fun event => first event + second event) =
      sumOver log first + sumOver log second :=
  List.sum_map_add

/-- An amount that only movements carry adds up to the same over the journal. -/
theorem sumOver_journal (state : State) (amount : Event → Nat)
    (still : ∀ event, event.moves = false → amount event = 0) :
    sumOver state.books.journal amount = sumOver state.log amount := by
  unfold sumOver State.books
  induction state.log with
  | nil => rfl
  | cons event log ih =>
      rw [List.map_cons, List.sum_cons, ← ih]
      by_cases moves : event.moves = true
      · rw [List.filter_cons_of_pos moves, List.map_cons, List.sum_cons]
      · rw [List.filter_cons_of_neg moves, still event (Bool.not_eq_true _ ▸ moves), Nat.zero_add]

theorem countP_journal (state : State) (executionId : Bytes32) :
    state.books.journal.countP (Event.executes executionId) =
      state.log.countP (Event.executes executionId) := by
  unfold State.books
  rw [List.countP_filter]
  refine List.countP_congr fun event _ => ?_
  cases event <;> simp only [Event.executes, Event.moves, Bool.and_true, Bool.and_false]

namespace Books

/-- The journal holds one swap for each consumed identifier and none for another. -/
def Evident (books : Books) : Prop :=
  ∀ executionId, books.journal.countP (Event.executes executionId) =
    if books.executedIds executionId then 1 else 0

/-- The journal adds up to the balances. -/
def Reconciled (books : Books) : Prop :=
  ∀ user token, books.balances user token + sumOver books.journal (Event.debits user token) =
    sumOver books.journal (Event.credits user token)

variable {books next : Books}

theorem Evident.booking (booked : Booking books next) (evident : books.Evident) :
    next.Evident := by
  intro executionId
  have counted := evident executionId
  cases booked with
  | deposit | withdrawal =>
      rw [post_journal, adjust_journal, List.countP_append, counted]
      rfl
  | swap executor swap amountOut unused =>
      simp only [post_journal, adjust_journal, mark_journal, List.countP_append, counted,
        post_executedIds, adjust_executedIds, mark_executedIds, List.countP_singleton,
        Event.executes, decide_eq_true_eq]
      by_cases same : swap.executionId = executionId
      · subst same
        simp only [unused, Bool.false_eq_true, ↓reduceIte, Function.update_self]
      · have other : executionId ≠ swap.executionId := fun equal => same equal.symm
        simp only [same, ↓reduceIte, Nat.add_zero, Function.update_of_ne other]

/-- An event that says how its balances moved keeps the books reconciled. -/
theorem Reconciled.post (reconciled : books.Reconciled) {moved : Books} {event : Event}
    (same : moved.journal = books.journal)
    (explains : ∀ user token, moved.balances user token + event.debits user token =
      books.balances user token + event.credits user token) :
    (moved.post event).Reconciled := by
  intro user token
  have before := reconciled user token
  have explained := explains user token
  rw [post_balances, post_journal, same, sumOver_append, sumOver_append]
  omega

theorem Reconciled.booking (booked : Booking books next) (reconciled : books.Reconciled) :
    next.Reconciled := by
  cases booked with
  | deposit owner asset amount nonzero =>
      refine reconciled.post rfl fun user token => ?_
      rw [adjust_balances]
      simp only [Event.debits, Event.credits, Event.depositedTo, Event.withdrawnFrom, Event.swappedTo,
        Event.swappedFrom]
      split
      · rename_i same
        rw [same.1, same.2]
        omega
      · rfl
  | withdrawal owner asset amount funded accounted =>
      refine reconciled.post rfl fun user token => ?_
      rw [adjust_balances]
      simp only [Event.debits, Event.credits, Event.depositedTo, Event.withdrawnFrom, Event.swappedTo,
        Event.swappedFrom]
      split
      · rename_i same
        rw [same.1, same.2]
        omega
      · rfl
  | swap executor swap amountOut unused distinct funded accounted =>
      refine reconciled.post rfl fun user token => ?_
      simp only [adjust_balances, mark_balances, Event.debits, Event.credits, Event.depositedTo,
        Event.withdrawnFrom, Event.swappedTo, Event.swappedFrom]
      by_cases owned : user = swap.owner
      · subst owned
        by_cases paid : token = swap.tokenIn
        · subst paid
          simp only [distinct, and_false, and_self, ↓reduceIte]
          omega
        · by_cases received : token = swap.tokenOut
          · subst received
            simp only [paid, and_false, and_self, ↓reduceIte]
            omega
          · simp only [paid, received, and_false, ↓reduceIte]
      · simp only [owned, false_and, ↓reduceIte]

end Books

/-- Consumed identifiers stay consumed. -/
theorem Booking.executedIds_mono {books next : Books} {executionId : Bytes32}
    (booked : Booking books next) (executed : books.executedIds executionId = true) :
    next.executedIds executionId = true := by
  cases booked with
  | deposit | withdrawal => exact executed
  | swap executor swap amountOut =>
      rw [Books.post_executedIds, Books.adjust_executedIds, Books.adjust_executedIds,
        Books.mark_executedIds, Function.update_apply, executed, ite_self]

section Runs

variable {deployment : Deployment} {World : Type} {initial : State} {world : World}
  {now : State × World}

/-- The state between two transactions obeys every law of the ledger that empty
books obey. -/
theorem Deployed.keeps (law : Books → Prop)
    (booking : ∀ {books next}, Booking books next → law books → law next)
    (empty : law (State.books ⟨.blank, [], []⟩)) (deployed : Deployed deployment initial)
    (reached : Config.Steps (contract deployment) unrestricted
      (.idle (initial, world)) (.idle now)) : law now.1.books := by
  have course := (contract_course deployment unrestricted).between reached
  refine course.keeps law booking ?_
  rw [deployed.untouched.books]
  exact empty

theorem Opens.executedIds_mono {call : Call} {before opened : State}
    (opens : Opens deployment call before opened) {executionId : Bytes32}
    (executed : before.books.executedIds executionId = true) :
    opened.books.executedIds executionId = true := by
  obtain ⟨msg, entry⟩ := call
  cases entry with
  | deposit | depositETH | withdraw | withdrawETH =>
      obtain ⟨_, _, _, _, rfl⟩ := opens
      exact executed
  | executeSwap swap =>
      obtain ⟨_, rfl⟩ := opens
      change Function.update before.books.executedIds swap.executionId true executionId = true
      rw [Function.update_apply, executed, ite_self]
  | sweepUnaccounted =>
      obtain ⟨_, _, rfl⟩ := opens
      exact executed
  | setExecutor | setTokenAllowed | removeToken | setMaxTradeAmount | pause | unpause | grantRole
  | revokeRole | renounceRole | receive =>
      obtain rfl := opens
      exact executed

/-- Between transactions the log has one swap of each consumed identifier and none of another. -/
theorem Deployed.countP_executes (deployed : Deployed deployment initial)
    (reached : Config.Steps (contract deployment) unrestricted
      (.idle (initial, world)) (.idle now)) (executionId : Bytes32) :
    now.1.log.countP (Event.executes executionId) =
      if now.1.storage.executedIds executionId = true then 1 else 0 := by
  have evident : now.1.books.Evident :=
    deployed.keeps _ Books.Evident.booking (fun _ => rfl) reached
  rw [← countP_journal]
  exact evident executionId

/-- Between transactions at most one `SwapExecuted` event under each identifier
stands in the log, one stands there exactly for the consumed identifiers, and no
later configuration, also within a call, has the identifier unconsumed. -/
theorem executedIds_iff_swapExecuted (deployed : Deployed deployment initial)
    (reached : Config.Steps (contract deployment) unrestricted
      (.idle (initial, world)) (.idle now)) (executionId : Bytes32) :
    now.1.log.countP (Event.executes executionId) ≤ 1 ∧
      (now.1.storage.executedIds executionId = true ↔
        now.1.log.countP (Event.executes executionId) = 1) ∧
      (now.1.storage.executedIds executionId = true →
        ∀ later, Config.Steps (contract deployment) unrestricted (.idle now) later →
          later.now.1.storage.executedIds executionId = true) := by
  have counted := deployed.countP_executes reached executionId
  refine ⟨?_, ?_, ?_⟩
  · rw [counted]
    split <;> omega
  · rw [counted]
    split
    · rename_i executed
      exact ⟨fun _ => rfl, fun _ => executed⟩
    · rename_i fresh
      exact ⟨fun executed => absurd executed fresh, fun zero => absurd zero Nat.zero_ne_one⟩
  · intro executed later continued
    have linked := (contract_course deployment unrestricted).linked continued
    refine linked.holds (fun _ now => now.1.books.executedIds executionId = true) ?_ ?_ executed
    · rintro context entry external handed ⟨call, opened, opens, inside⟩ consumed
      exact inside.keeps (fun books => books.executedIds executionId = true)
        Booking.executedIds_mono (opens.executedIds_mono consumed)
    · intro context before after course consumed
      exact course.keeps (fun books => books.executedIds executionId = true)
        Booking.executedIds_mono consumed

/-- Two tokens are allowed, nine of one deposited, and four of them swapped into
three of the other. -/
def swapCompleted : List (Move Call (Option Nat) Unit) :=
  [.call ⟨⟨4, 0, 0⟩, .setTokenAllowed 6 100⟩, .call ⟨⟨4, 0, 0⟩, .setTokenAllowed 9 100⟩,
    .call ⟨⟨7, 0, 0⟩, .deposit 6 9⟩, .reply (some 0) (), .reply (some 1) (), .reply (some 9) (),
    .call ⟨⟨5, 0, 0⟩, .executeSwap ⟨8, 7, 6, 9, 3000, 4, 2, 50⟩⟩, .reply (some 1) (),
    .reply (some 3) (), .reply (some 1) ()]

private theorem swapCompleted_runs :
    ∃ initial now, Deployed ⟨1, 2, 3⟩ initial ∧
      (Config.idle (initial, ())).run (contract ⟨1, 2, 3⟩) swapCompleted = some (.idle now) ∧
      now.1.storage.executedIds 8 = true ∧ now.1.storage.balances 7 6 = 5 :=
  ⟨_, _, ⟨4, 4, 5, rfl⟩, rfl, rfl, rfl⟩

theorem executedIds_iff_swapExecuted_once :
    ∃ initial now, Deployed ⟨1, 2, 3⟩ initial ∧
      Config.Steps (contract ⟨1, 2, 3⟩) unrestricted (.idle (initial, ())) (.idle now) ∧
      now.1.storage.executedIds 8 = true ∧
      now.1.log.countP (Event.executes 8) = 1 := by
  obtain ⟨initial, now, deployed, ran, executed, _⟩ := swapCompleted_runs
  have reached := Config.steps_of_run _ ran
  have law := executedIds_iff_swapExecuted deployed reached 8
  exact ⟨initial, now, deployed, reached, executed, law.2.1.mp executed⟩

/-- Between transactions every balance is what the log's deposits, withdrawals and
swaps add up to. -/
theorem balances_eq_log (deployed : Deployed deployment initial)
    (reached : Config.Steps (contract deployment) unrestricted
      (.idle (initial, world)) (.idle now)) (user token : Address) :
    (now.1.storage.balances user token : Int) =
      sumOver now.1.log (Event.depositedTo user token) -
        sumOver now.1.log (Event.withdrawnFrom user token) +
        sumOver now.1.log (Event.swappedTo user token) -
        sumOver now.1.log (Event.swappedFrom user token) := by
  have reconciled : now.1.books.Reconciled :=
    deployed.keeps _ Books.Reconciled.booking (fun _ _ => rfl) reached
  have balanced := reconciled user token
  have debited : sumOver now.1.books.journal (Event.debits user token) =
      sumOver now.1.log (Event.withdrawnFrom user token) +
        sumOver now.1.log (Event.swappedFrom user token) := by
    rw [sumOver_journal, ← sumOver_add]
    · rfl
    · intro event still
      cases event <;> first | rfl | exact absurd still.symm Bool.false_ne_true
  have credited : sumOver now.1.books.journal (Event.credits user token) =
      sumOver now.1.log (Event.depositedTo user token) +
        sumOver now.1.log (Event.swappedTo user token) := by
    rw [sumOver_journal, ← sumOver_add]
    · rfl
    · intro event still
      cases event <;> first | rfl | exact absurd still.symm Bool.false_ne_true
  rw [debited, credited] at balanced
  change now.1.storage.balances user token + _ = _ at balanced
  omega

theorem balances_eq_log_swapped :
    ∃ initial now, Deployed ⟨1, 2, 3⟩ initial ∧
      Config.Steps (contract ⟨1, 2, 3⟩) unrestricted (.idle (initial, ())) (.idle now) ∧
      (5 : Int) = sumOver now.1.log (Event.depositedTo 7 6) -
        sumOver now.1.log (Event.withdrawnFrom 7 6) + sumOver now.1.log (Event.swappedTo 7 6) -
        sumOver now.1.log (Event.swappedFrom 7 6) := by
  obtain ⟨initial, now, deployed, ran, _, balance⟩ := swapCompleted_runs
  have reached := Config.steps_of_run _ ran
  have law := balances_eq_log deployed reached 7 6
  rw [balance] at law
  exact ⟨initial, now, deployed, reached, law⟩

end Runs

section Calls

variable {deployment : Deployment}

/-- The event is that of a swap which the record's call, of an executor, has carried out. -/
def Record.Vouches (record : Record) (event : Event) : Prop :=
  ∃ swap amountOut, record.call.entry = .executeSwap swap ∧
    record.before.hasRole .executor record.call.msg.sender = true ∧ swap.minAmountOut ≤ amountOut ∧
    event = .swapExecuted swap.executionId swap.owner record.call.msg.sender swap.tokenIn
      swap.tokenOut swap.amountIn amountOut swap.minAmountOut swap.poolFee

/-- Behind each swap of the log stands a call that has returned. -/
def State.Vouched (state : State) : Prop :=
  ∀ executionId, ∀ event ∈ state.log, event.executes executionId = true →
    ∃ record ∈ state.history, record.Vouches event

/-- An administrative event is not of a swap. -/
theorem Event.executes_administrative {event : Event} {executionId : Bytes32}
    (administrative : event.administrative = true) : event.executes executionId = false := by
  cases event <;> first | rfl | exact absurd administrative Bool.false_ne_true

/-- A call opens without a word in the log, and before any call inside it has returned. -/
theorem Opens.unlogged {call : Call} {before opened : State}
    (opens : Opens deployment call before opened) :
    opened.log = before.log ∧ opened.history = before.history := by
  obtain ⟨msg, entry⟩ := call
  cases entry with
  | deposit | depositETH | withdraw | withdrawETH =>
      obtain ⟨_, _, _, _, rfl⟩ := opens
      exact ⟨rfl, rfl⟩
  | executeSwap swap =>
      obtain ⟨_, rfl⟩ := opens
      exact ⟨rfl, rfl⟩
  | sweepUnaccounted =>
      obtain ⟨_, _, rfl⟩ := opens
      exact ⟨rfl, rfl⟩
  | setExecutor | setTokenAllowed | removeToken | setMaxTradeAmount | pause | unpause | grantRole
  | revokeRole | renounceRole | receive =>
      obtain rfl := opens
      exact ⟨rfl, rfl⟩

/-- A call that logs a swap when it closes vouches for it. -/
theorem Closes.vouches {call : Call} {before opened middle closed : State}
    (opens : Opens deployment call before opened)
    (closes : Closes deployment call before middle closed) :
    closed.history = middle.history ∧ ∀ executionId, ∀ event ∈ closed.log,
      event.executes executionId = true → event ∈ middle.log ∨
        (⟨call, before.storage, closed.storage⟩ : Record).Vouches event := by
  -- A single event that is not of a swap changes nothing.
  have still : ∀ {event : Event}, (∀ executionId, event.executes executionId = false) →
      ∀ executionId, ∀ other ∈ middle.log ++ [event], other.executes executionId = true →
        other ∈ middle.log ∨ (⟨call, before.storage, closed.storage⟩ : Record).Vouches other := by
    intro event none executionId other listed executes
    rcases List.mem_append.mp listed with earlier | last
    · exact Or.inl earlier
    · rw [List.mem_singleton.mp last, none] at executes
      exact absurd executes Bool.false_ne_true
  obtain ⟨msg, entry⟩ := call
  cases entry with
  | deposit token amount =>
      obtain ⟨_, _, rfl⟩ := closes
      exact ⟨rfl, still fun _ => rfl⟩
  | depositETH | withdraw | withdrawETH =>
      obtain rfl := closes
      exact ⟨rfl, still fun _ => rfl⟩
  | executeSwap swap =>
      obtain ⟨amountOut, floor, rfl⟩ := closes
      refine ⟨rfl, fun executionId event listed _ => ?_⟩
      rcases List.mem_append.mp listed with earlier | last
      · exact Or.inl earlier
      · exact Or.inr ⟨swap, amountOut, rfl, opens.1.role, floor, List.mem_singleton.mp last⟩
  | sweepUnaccounted =>
      obtain ⟨_, rfl⟩ := closes
      exact ⟨rfl, still fun _ => rfl⟩
  | setExecutor | setTokenAllowed | removeToken | setMaxTradeAmount | pause | unpause | grantRole
  | revokeRole | renounceRole | receive =>
      obtain ⟨rfl, finished⟩ := closes
      have administers := local_administers rfl finished
      obtain ⟨events, appended, administrative⟩ := administers.log
      refine ⟨administers.history, fun executionId event listed executes => ?_⟩
      rw [appended] at listed
      rcases List.mem_append.mp listed with earlier | last
      · exact Or.inl earlier
      · rw [Event.executes_administrative (administrative event last)] at executes
        exact absurd executes Bool.false_ne_true

/-- A course of calls leaves a call behind each swap of the log. -/
theorem Course.vouched {first last : State} (course : Course deployment first last)
    (vouched : first.Vouched) : last.Vouched := by
  induction course with
  | refl => exact vouched
  | @call root before opened middle closed call prior opens inside closes earlier inner =>
      obtain ⟨log, history⟩ := opens.unlogged
      have within : middle.Vouched := by
        apply inner
        unfold State.Vouched
        rw [log, history]
        exact earlier vouched
      obtain ⟨same, vouches⟩ := Closes.vouches opens closes
      intro executionId event listed executes
      rw [State.recorded_history, same]
      rcases vouches executionId event listed executes with known | new
      · obtain ⟨record, member, vouches⟩ := within executionId event known executes
        exact ⟨record, List.mem_append_left _ member, vouches⟩
      · exact ⟨_, List.mem_append_right _ (List.mem_singleton_self _), new⟩

/-- Between transactions each swap of the log has been carried out by a call of the history. -/
theorem Deployed.vouched {World : Type} {initial : State} {world : World} {now : State × World}
    (deployed : Deployed deployment initial)
    (reached : Config.Steps (contract deployment) unrestricted
      (.idle (initial, world)) (.idle now)) : now.1.Vouched := by
  refine ((contract_course deployment unrestricted).between reached).vouched ?_
  obtain ⟨events, logged, administrative⟩ := deployed.administers.log
  intro executionId event listed executes
  rw [logged, List.nil_append] at listed
  rw [Event.executes_administrative (administrative event listed)] at executes
  exact absurd executes Bool.false_ne_true

end Calls

end Vault
