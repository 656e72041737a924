import SyntheticOrders.Vault.Execution
import SyntheticOrders.Vault.Solvency

/-! # A sweep inside a withdrawal

`sweepUnaccounted` is the one function that moves tokens without the re-entrancy
guard. Called by an admin while a withdrawal waits for the token, it finds the
total already lowered and the tokens still there, and takes them for a surplus.
The withdrawal then moves the same amount once more, out of what backs the other
users.
-/

namespace Vault

open Interaction

/-- Wherever the contract holds what it owes, a user withdrawing at most half of a
total and an admin who sweeps in the token's callback leave it holding less than
it owes. -/
theorem sweep_drains (deployment : Deployment) (user admin recipient : Address) (amount : Nat)
    {state : State} {holdings : Holdings} {token : Address}
    (solvent : state.storage.totalAccounted token ≤ holdings.held token)
    (lowered : state.storage.entered = false) (nonzero : amount ≠ 0)
    (funded : amount ≤ state.storage.balances user token)
    (half : 2 * amount ≤ state.storage.totalAccounted token)
    (role : state.storage.hasRole .defaultAdmin admin = true) (valid : recipient ≠ 0)
    (foreignUser : user ≠ deployment.self) (foreignRecipient : recipient ≠ deployment.self) :
    ∃ later, Config.Steps (contract deployment) (tokens deployment (fun _ => True) callbacks)
        (.idle (state, holdings)) (.idle later) ∧
      later.2.held token < later.1.storage.totalAccounted token := by
  -- The withdrawal has lowered the total and handed over to the token, which has the
  -- admin sweep before it moves anything.
  obtain ⟨withdrawn, asks, finishes⟩ :=
    withdraw_asks deployment ⟨user, 0, 0⟩ rfl lowered nonzero funded (by omega)
  generalize opening : state.withStorage ((state.storage.setEntered true).debit user token
    amount) = opened at asks
  have total : opened.storage.totalAccounted token =
      state.storage.totalAccounted token - amount := by
    rw [← opening]
    exact Function.update_self ..
  have stillAdmin : opened.storage.hasRole .defaultAdmin admin = true := by
    rw [← opening]
    exact role
  obtain ⟨measured, reads, measures⟩ :=
    sweepUnaccounted_asks deployment ⟨admin, 0, 0⟩ token rfl stillAdmin valid
  obtain ⟨moved, surplus, sweeps⟩ := measures (holdings.held token) opened (by omega)
  have swept : Moved deployment (fun _ => True) (.transfer token recipient
      (holdings.held token - opened.storage.totalAccounted token)) holdings _ :=
    sent_moved foreignRecipient (Nat.sub_le ..)
  have left : (holdings.sent token (holdings.held token -
      opened.storage.totalAccounted token)).held token = opened.storage.totalAccounted token := by
    rw [Holdings.sent_held]
    omega
  have paid : Moved deployment (fun _ => True) (.transfer token user amount) _ _ :=
    sent_moved foreignUser (by rw [left]; omega)
  refine ⟨_, .head ⟨.call _, ⟨trivial, id, fun _ _ => trivial⟩, Config.step_call_ask asks⟩ <|
    .head ⟨.call _, ⟨trivial, Bool.false_ne_true, fun _ _ => trivial⟩,
      Config.step_call_ask reads⟩ <|
    .head ⟨.reply _ holdings, ⟨fun _ => rfl, fun _ _ => rfl, rfl, rfl⟩,
      Config.step_reply_ask surplus⟩ <|
    .head ⟨.reply (some 1) _, ⟨fun _ => rfl, swept⟩, Config.step_reply_done (sweeps opened)⟩ <|
    .single ⟨.reply (some 1) _, ⟨fun _ => rfl, paid⟩, Config.step_reply_done (finishes _)⟩, ?_⟩
  change ((holdings.sent token _).sent token amount).held token <
    opened.storage.totalAccounted token
  rw [Holdings.sent_held, left]
  omega

/-- One transaction of a contract that holds exactly what it owes, with a sweep
inside a withdrawal, leaves it owing more than it holds. -/
theorem sweepUnaccounted_drains_deposit : ∃ now later, Deployed ⟨1, 2, 3⟩ fresh ∧
    Config.Steps (contract ⟨1, 2, 3⟩) (tokens ⟨1, 2, 3⟩ (fun _ => True) callbacks)
      (.idle (fresh, holding 0)) (.idle now) ∧
    (∀ token, now.1.storage.totalAccounted token ≤ now.2.held token) ∧
    Config.Steps (contract ⟨1, 2, 3⟩) (tokens ⟨1, 2, 3⟩ (fun _ => True) callbacks)
      (.idle now) (.idle later) ∧
    later.2.held 6 < later.1.storage.totalAccounted 6 := by
  obtain ⟨now, ran, total, balances, lowered, admin⟩ := depositAlone_runs
  have quietly := (depositAlone_permitted (fun _ => True)
    (unreservedSweeps ⟨1, 2, 3⟩ fun _ => True) trivial fun _ _ _ _ _ _ => rfl).steps ran
  have reached := (depositAlone_permitted (fun _ => True) callbacks trivial
    fun _ _ => trivial).steps ran
  have solvent : ∀ token, now.1.storage.totalAccounted token ≤ now.2.held token :=
    (backed_of_steps (fresh_deployed.backed _) quietly).solvent
  have funded : 4 ≤ now.1.storage.balances 7 6 := by
    rw [balances]
    decide
  have half : 2 * 4 ≤ now.1.storage.totalAccounted 6 := by omega
  obtain ⟨later, drained, short⟩ := sweep_drains ⟨1, 2, 3⟩ 7 4 10 4 (solvent 6) lowered
    (by decide) funded half admin (by decide) (by decide) (by decide)
  exact ⟨now, later, fresh_deployed, reached, solvent, drained, short⟩

end Vault
