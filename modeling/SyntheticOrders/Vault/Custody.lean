import SyntheticOrders.Vault.Books

/-! # Who can lower a balance

A user's entry goes down only through a withdrawal the user makes, or through a
swap that an executor makes for the user within every limit the contract knows,
and such a swap books its output to the same user. The calls a run consists of
are read off the history, where each returned call stands with the storage it
found and the storage it left. The remaining entry points, those of admins,
pausers and the sweep, never write an entry at all.
-/

namespace Vault

open Interaction

/-- Balances after taking `amount` of a user's `token`. -/
def debited (balances : Address → Address → Nat) (user token : Address) (amount : Nat) :
    Address → Address → Nat :=
  fun queried asset => if queried = user ∧ asset = token then balances queried asset - amount
    else balances queried asset

/-- Balances after adding `amount` to a user's `token`. -/
def credited (balances : Address → Address → Nat) (user token : Address) (amount : Nat) :
    Address → Address → Nat :=
  fun queried asset => if queried = user ∧ asset = token then balances queried asset + amount
    else balances queried asset

theorem Storage.debit_balances (storage : Storage) (user token : Address) (amount : Nat) :
    (storage.debit user token amount).balances = debited storage.balances user token amount := by
  funext queried asset
  change (storage.setBalance user token (storage.balances user token - amount)).balances
    queried asset = _
  rw [Storage.setBalance_apply, debited]
  split
  · rename_i same
    rw [same.1, same.2]
  · rfl

theorem Storage.credit_balances (storage : Storage) (user token : Address) (amount : Nat) :
    (storage.credit user token amount).balances = credited storage.balances user token amount := by
  funext queried asset
  change (storage.setBalance user token (storage.balances user token + amount)).balances
    queried asset = _
  rw [Storage.setBalance_apply, credited]
  split
  · rename_i same
    rw [same.1, same.2]
  · rfl

theorem le_credited (balances : Address → Address → Nat) (user token queried asset : Address)
    (amount : Nat) : balances queried asset ≤ credited balances user token amount queried asset := by
  unfold credited
  split <;> omega

theorem debited_lower {balances : Address → Address → Nat} {user token queried asset : Address}
    {amount : Nat} (lower : debited balances user token amount queried asset <
      balances queried asset) : queried = user ∧ asset = token := by
  by_contra other
  rw [debited, if_neg other] at lower
  exact Nat.lt_irrefl _ lower

/-- A returned call that may have lowered `user`'s entry for `token`: the user's
own withdrawal, or a swap that passed its guards at entry, took exactly `amountIn`
from the user and booked at least `minAmountOut` to the user alone. -/
def Entitles (deployment : Deployment) (user token : Address) (record : Record) : Prop :=
  match record.call.entry with
  | .withdraw asset _ => record.call.msg.sender = user ∧ asset = token
  | .withdrawETH _ => record.call.msg.sender = user ∧ deployment.weth = token
  | .executeSwap swap =>
      swap.owner = user ∧ swap.tokenIn = token ∧ SwapGuards record.call.msg swap record.before ∧
      ∃ amountOut, swap.minAmountOut ≤ amountOut ∧
        record.after.balances =
          credited (debited record.before.balances user token swap.amountIn) user swap.tokenOut
            amountOut
  | _ => False

/-- Between two states calls have returned, among them one that entitles to each
entry that is lower than before. -/
def Justified (deployment : Deployment) (first last : State) : Prop :=
  ∃ returned, last.history = first.history ++ returned ∧
    ∀ user token, last.storage.balances user token < first.storage.balances user token →
      ∃ record ∈ returned, Entitles deployment user token record

variable {deployment : Deployment}

namespace Justified

theorem refl (state : State) : Justified deployment state state :=
  ⟨[], (List.append_nil _).symm, fun _ _ lower => absurd lower (Nat.lt_irrefl _)⟩

theorem trans {first second third : State} (left : Justified deployment first second)
    (right : Justified deployment second third) : Justified deployment first third := by
  obtain ⟨earlier, prior, lowered⟩ := left
  obtain ⟨later, after, lowers⟩ := right
  refine ⟨earlier ++ later, by rw [after, prior, List.append_assoc], fun user token lower => ?_⟩
  by_cases already : second.storage.balances user token < first.storage.balances user token
  · obtain ⟨record, member, entitles⟩ := lowered user token already
    exact ⟨record, List.mem_append_left _ member, entitles⟩
  · obtain ⟨record, member, entitles⟩ := lowers user token (by omega)
    exact ⟨record, List.mem_append_right _ member, entitles⟩

end Justified

section Guarded

variable {call : Call} {before opened middle closed : State}

/-- A guarded call that lowers an entry is entitled to. -/
private theorem guarded_entitles (guarded : call.entry.guarded = true)
    (opens : Opens deployment call before opened) (inside : Course deployment opened middle)
    (closes : Closes deployment call before middle closed) {user token : Address}
    (lower : closed.storage.balances user token < before.storage.balances user token) :
    Entitles deployment user token ⟨call, before.storage, closed.storage⟩ := by
  have frozen := (inside.frozen (guarded_opens guarded opens).2).books
  have kept : middle.storage.balances = opened.storage.balances := congrArg Books.balances frozen
  obtain ⟨msg, entry⟩ := call
  cases entry with
  | deposit asset amount =>
      obtain ⟨_, _, _, _, rfl⟩ := opens
      obtain ⟨received, _, rfl⟩ := closes
      change (middle.storage.credit msg.sender asset received).balances user token < _ at lower
      rw [Storage.credit_balances, kept] at lower
      exact absurd (le_credited _ _ _ _ _ _) (Nat.not_le_of_lt lower)
  | depositETH =>
      obtain ⟨_, _, _, _, rfl⟩ := opens
      obtain rfl := closes
      change (middle.storage.credit msg.sender deployment.weth msg.value).balances user token < _
        at lower
      rw [Storage.credit_balances, kept] at lower
      exact absurd (le_credited _ _ _ _ _ _) (Nat.not_le_of_lt lower)
  | withdraw asset amount =>
      obtain ⟨_, _, _, _, rfl⟩ := opens
      obtain rfl := closes
      change middle.storage.balances user token < _ at lower
      rw [kept, State.withStorage_storage, Storage.debit_balances] at lower
      obtain ⟨rfl, rfl⟩ := debited_lower lower
      exact ⟨rfl, rfl⟩
  | withdrawETH amount =>
      obtain ⟨_, _, _, _, rfl⟩ := opens
      obtain rfl := closes
      change middle.storage.balances user token < _ at lower
      rw [kept, State.withStorage_storage, Storage.debit_balances] at lower
      obtain ⟨rfl, rfl⟩ := debited_lower lower
      exact ⟨rfl, rfl⟩
  | executeSwap swap =>
      obtain ⟨guards, rfl⟩ := opens
      obtain ⟨amountOut, floor, rfl⟩ := closes
      have booked : (middle.storage.credit swap.owner swap.tokenOut amountOut).balances =
          credited (debited before.storage.balances swap.owner swap.tokenIn swap.amountIn)
            swap.owner swap.tokenOut amountOut := by
        rw [Storage.credit_balances, kept, State.withStorage_storage, Storage.debit_balances]
        rfl
      have debit : debited before.storage.balances swap.owner swap.tokenIn swap.amountIn
          user token < before.storage.balances user token := by
        refine Nat.lt_of_le_of_lt (le_credited _ swap.owner swap.tokenOut user token amountOut) ?_
        rw [← booked]
        exact lower
      obtain ⟨rfl, rfl⟩ := debited_lower debit
      exact ⟨rfl, rfl, guards, amountOut, floor, booked⟩
  | sweepUnaccounted | setExecutor | setTokenAllowed | removeToken | setMaxTradeAmount | pause
  | unpause | grantRole | revokeRole | renounceRole | receive =>
      exact absurd guarded Bool.false_ne_true

private theorem guarded_history (guarded : call.entry.guarded = true)
    (opens : Opens deployment call before opened)
    (closes : Closes deployment call before middle closed) :
    opened.history = before.history ∧ closed.history = middle.history := by
  obtain ⟨msg, entry⟩ := call
  cases entry with
  | deposit =>
      obtain ⟨_, _, _, _, rfl⟩ := opens
      obtain ⟨_, _, rfl⟩ := closes
      exact ⟨rfl, rfl⟩
  | depositETH | withdraw | withdrawETH =>
      obtain ⟨_, _, _, _, rfl⟩ := opens
      obtain rfl := closes
      exact ⟨rfl, rfl⟩
  | executeSwap =>
      obtain ⟨_, rfl⟩ := opens
      obtain ⟨_, _, rfl⟩ := closes
      exact ⟨rfl, rfl⟩
  | sweepUnaccounted | setExecutor | setTokenAllowed | removeToken | setMaxTradeAmount | pause
  | unpause | grantRole | revokeRole | renounceRole | receive =>
      exact absurd guarded Bool.false_ne_true

end Guarded

/-- A course of calls lowers an entry only through a call entitled to it. -/
theorem Course.justified {first last : State} (course : Course deployment first last) :
    Justified deployment first last := by
  induction course with
  | refl => exact .refl _
  | @call root before opened middle closed call prior opens inside closes earlier inner =>
      refine earlier.trans ?_
      obtain ⟨nested, extended, lowered⟩ := inner
      refine ⟨nested ++ [⟨call, before.storage, closed.storage⟩], ?_, fun user token lower => ?_⟩
      · rw [State.recorded_history, ← List.append_assoc]
        cases guard : call.entry.guarded with
        | true =>
            obtain ⟨started, ended⟩ := guarded_history guard opens closes
            rw [ended, extended, started]
        | false =>
            obtain ⟨rfl, same⟩ := unguarded_untouched guard opens closes
            rw [same.history, extended]
      · cases guard : call.entry.guarded with
        | true =>
            exact ⟨_, List.mem_append_right _ List.mem_cons_self,
              guarded_entitles guard opens inside closes lower⟩
        | false =>
            obtain ⟨rfl, same⟩ := unguarded_untouched guard opens closes
            have balances : closed.storage.balances = middle.storage.balances :=
              congrArg Books.balances same.books
            rw [State.recorded_storage, balances] at lower
            obtain ⟨record, member, entitles⟩ := lowered user token lower
            exact ⟨record, List.mem_append_left _ member, entitles⟩

section Unguarded

/-- Balances are handed out as they were when the code was last resumed. The
world is a ghost: the state at that moment. -/
private def quiet : Code.Rules External (Option Nat) State State where
  handing _ handed := handed.1.storage.balances = handed.2.storage.balances
  returns _ _ _ back := back.2 = back.1

private theorem sweepUnaccounted_quiet (msg : Msg) (token recipient : Address) (state : State) :
    Code.wp quiet (sweepUnaccounted msg token recipient) (state, state)
      fun _ after => after.1.storage.balances = after.2.storage.balances := by
  simp only [sweepUnaccounted, unaccountedBalance, balanceOf, safeTransfer, Code.wp_bind,
    wp_onlyRole, Code.wp_failIf, wp_callInterface_eq, wp_callOptionalReturn_eq, wp_storage,
    Code.wp_pure, wp_emit]
  intro _ _
  refine ⟨rfl, fun _ asked resumed _ _ _ => ⟨?_, fun _ back returned _ => ?_⟩⟩
  · exact congrArg (fun state => state.storage.balances) resumed.symm
  · exact congrArg (fun state => state.storage.balances) returned.symm

/-- The code of a call without the guard never changes an entry between two
hand-overs. -/
private theorem unguarded_quiet : Inherited (contract deployment) fun call state residue =>
    call.entry.guarded = false → residue.wp quiet.demand
      (Code.settled fun _ after => after.1.storage.balances = after.2.storage.balances) state where
  body call state unguarded := by
    change Code.wp quiet (body deployment call) (state, state) _
    simp only [body, Code.wp_bind, wp_storage, Code.wp_failIf, Code.wp_update,
      State.recorded_storage]
    intro _
    obtain ⟨msg, entry⟩ := call
    cases entry with
    | deposit | depositETH | withdraw | withdrawETH | executeSwap =>
        exact absurd unguarded.symm Bool.false_ne_true
    | sweepUnaccounted token recipient => exact sweepUnaccounted_quiet msg token recipient state
    | setExecutor | setTokenAllowed | removeToken | setMaxTradeAmount | pause | unpause | grantRole
    | revokeRole | renounceRole | receive =>
        exact (silent_dispatch deployment _ rfl).wp fun _ closed finished =>
          congrArg Books.balances (local_untouched rfl finished).books
  resume call state request resume kept reply back unguarded :=
    (kept unguarded).2 reply (back, back) rfl

end Unguarded

/-- Over any stretch of any run that begins and ends outside all calls, an entry
is lower at the end only if a call entitled to it has returned in between; and no
move that runs the code of an admin, pauser or sweep call changes any entry, unless
that call reverts. -/
theorem balances_custody {World : Type} (now : State × World) :
    (∀ later, Config.Steps (contract deployment) unrestricted (.idle now) (.idle later) →
      ∃ returned, later.1.history = now.1.history ++ returned ∧
        ∀ user token, later.1.storage.balances user token < now.1.storage.balances user token →
          ∃ record ∈ returned, Entitles deployment user token record) ∧
    (∀ config move next, Config.Steps (contract deployment) unrestricted (.idle now) config →
      config.step (contract deployment) move = some next →
      ∀ call state entry, config.resumed move = some (call, state, entry) →
        call.entry.guarded = false →
        next.now.1.storage.balances = state.storage.balances ∨ next.now = entry) := by
  constructor
  · intro later reached
    exact ((contract_course deployment unrestricted).between reached).justified
  · intro config move next reached stepped call state entry runs unguarded
    obtain ⟨rest, world, residue, kept, rfl⟩ := unguarded_quiet.settled reached stepped runs
    have keeps := kept unguarded
    match residue, keeps with
    | .done (.ok (_, closed)), same => exact .inl same
    | .done (.error _), _ => exact .inr rfl
    | .ask (external, handed) resume, asked => exact .inl asked.1

/-- Two tokens are allowed and nine of one deposited. -/
def depositMade : List (Move Call (Option Nat) Unit) :=
  [.call ⟨⟨4, 0, 0⟩, .setTokenAllowed 6 100⟩, .call ⟨⟨4, 0, 0⟩, .setTokenAllowed 9 100⟩,
    .call ⟨⟨7, 0, 0⟩, .deposit 6 9⟩, .reply (some 0) (), .reply (some 1) (), .reply (some 9) ()]

/-- The executor swaps four of them into three of the other. -/
def swapMade : List (Move Call (Option Nat) Unit) :=
  [.call ⟨⟨5, 0, 0⟩, .executeSwap ⟨8, 7, 6, 9, 3000, 4, 2, 50⟩⟩, .reply (some 1) (),
    .reply (some 3) (), .reply (some 1) ()]

private theorem swapMade_runs :
    ∃ initial now later, Deployed ⟨1, 2, 3⟩ initial ∧
      (Config.idle (initial, ())).run (contract ⟨1, 2, 3⟩) depositMade = some (.idle now) ∧
      (Config.idle now).run (contract ⟨1, 2, 3⟩) swapMade = some (.idle later) ∧
      later.1.storage.balances 7 6 < now.1.storage.balances 7 6 :=
  ⟨_, _, _, ⟨4, 4, 5, rfl⟩, rfl, rfl, by decide⟩

theorem balances_custody_swapped :
    ∃ now later : State × Unit,
      Config.Steps (contract ⟨1, 2, 3⟩) unrestricted (.idle now) (.idle later) ∧
      later.1.storage.balances 7 6 < now.1.storage.balances 7 6 ∧
      ∃ record ∈ later.1.history, Entitles ⟨1, 2, 3⟩ 7 6 record := by
  obtain ⟨_, now, later, _, _, ran, lower⟩ := swapMade_runs
  have reached := Config.steps_of_run _ ran
  obtain ⟨returned, extended, lowered⟩ := (balances_custody now).1 later reached
  obtain ⟨record, member, entitles⟩ := lowered 7 6 lower
  refine ⟨now, later, reached, lower, record, ?_, entitles⟩
  rw [extended]
  exact List.mem_append_right _ member

end Vault
