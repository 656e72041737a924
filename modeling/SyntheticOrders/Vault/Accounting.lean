import Mathlib.Algebra.BigOperators.Group.Finset.Basic
import Mathlib.Algebra.Order.BigOperators.Group.Finset
import SyntheticOrders.Vault.Books

/-! # The totals are the sums of the balances

The contract writes a user's entry and the token's total separately, at six
places, with external calls between a debit and the matching credit. The two
mappings nevertheless agree at every point at which anyone else holds control:
each opening and each closing of a call changes both by the same amount.
-/

namespace Vault

open Interaction

/-- Every token's total is the sum of all users' entries. -/
def Books.Balanced (books : Books) : Prop :=
  ∀ token, books.totals token = ∑ user, books.balances user token

namespace Books.Balanced

variable {books : Books}

/-- No entry exceeds the total. -/
theorem le_total (balanced : books.Balanced) (user token : Address) :
    books.balances user token ≤ books.totals token := by
  rw [balanced token]
  exact Finset.single_le_sum (f := fun user => books.balances user token)
    (fun _ _ => Nat.zero_le _) (Finset.mem_univ user)

private theorem sum_adjust (books : Books) (user token : Address) (change : Nat → Nat) :
    (∑ queried, (books.adjust user token change).balances queried token) +
        books.balances user token =
      (∑ queried, books.balances queried token) + change (books.balances user token) := by
  have other : ∑ queried ∈ Finset.univ.erase user,
      (books.adjust user token change).balances queried token =
        ∑ queried ∈ Finset.univ.erase user, books.balances queried token := by
    refine Finset.sum_congr rfl fun queried member => ?_
    rw [adjust_balances, if_neg fun same => Finset.ne_of_mem_erase member same.1]
  rw [← Finset.add_sum_erase _ _ (Finset.mem_univ user),
    ← Finset.add_sum_erase Finset.univ (fun queried => books.balances queried token)
      (Finset.mem_univ user), other, adjust_balances, if_pos ⟨rfl, rfl⟩]
  omega

/-- Changing an entry and the total alike keeps the books balanced. -/
theorem adjust (balanced : books.Balanced) (user token : Address) (change : Nat → Nat)
    (alike : change (books.totals token) + books.balances user token =
      books.totals token + change (books.balances user token)) :
    (books.adjust user token change).Balanced := by
  intro asset
  by_cases same : asset = token
  · subst same
    have moved := sum_adjust books user asset change
    rw [← balanced asset] at moved
    rw [adjust_totals, if_pos rfl]
    omega
  · rw [adjust_totals, if_neg same, balanced asset]
    refine Finset.sum_congr rfl fun queried _ => ?_
    rw [adjust_balances, if_neg fun both => same both.2]

theorem credit (balanced : books.Balanced) (user token : Address) (amount : Nat) :
    (books.adjust user token (· + amount)).Balanced :=
  balanced.adjust user token _ (by omega)

theorem debit (balanced : books.Balanced) {user token : Address} {amount : Nat}
    (funded : amount ≤ books.balances user token) :
    (books.adjust user token (· - amount)).Balanced := by
  have bound := balanced.le_total user token
  exact balanced.adjust user token _ (by omega)

/-- A booking keeps the books balanced. -/
theorem booking {next : Books} (booked : Booking books next) (balanced : books.Balanced) :
    next.Balanced := by
  cases booked with
  | deposit user token amount nonzero => exact balanced.credit user token amount
  | withdrawal user token amount funded accounted => exact balanced.debit funded
  | swap executor swap amountOut unused distinct funded accounted =>
      have marked : (books.mark swap.executionId).Balanced := balanced
      exact (marked.debit funded).credit swap.owner swap.tokenOut amountOut

end Books.Balanced

variable {deployment : Deployment}

/-- A call that has just opened has booked both mappings alike. -/
theorem Opens.balanced {call : Call} {before opened : State}
    (opens : Opens deployment call before opened) (balanced : before.books.Balanced) :
    opened.books.Balanced := by
  obtain ⟨msg, entry⟩ := call
  cases entry with
  | deposit | depositETH =>
      obtain ⟨_, _, _, _, rfl⟩ := opens
      exact balanced
  | withdraw | withdrawETH =>
      obtain ⟨_, _, funded, _, rfl⟩ := opens
      exact balanced.debit funded
  | executeSwap swap =>
      obtain ⟨guards, rfl⟩ := opens
      have marked : (before.books.mark swap.executionId).Balanced := balanced
      exact marked.debit guards.funded
  | sweepUnaccounted =>
      obtain ⟨_, _, rfl⟩ := opens
      exact balanced
  | setExecutor | setTokenAllowed | removeToken | setMaxTradeAmount | pause | unpause | grantRole
  | revokeRole | renounceRole | receive =>
      obtain rfl := opens
      exact balanced

/-- In every configuration of every run from construction, within calls as well
as between them and whatever the environment does, each token's total is the sum
of all users' balances. -/
theorem totalAccounted_eq_sum_balances {World : Type} {initial : State}
    (deployed : Deployed deployment initial) (world : World)
    {config : Config Call External (Option Nat) Fault State World}
    (reached : Config.Steps (contract deployment) unrestricted (.idle (initial, world)) config)
    (token : Address) :
    config.now.1.storage.totalAccounted token =
      ∑ user, config.now.1.storage.balances user token := by
  have start : initial.books.Balanced := by
    rw [deployed.untouched.books]
    intro token
    exact Finset.sum_const_zero.symm
  have linked := (contract_course deployment unrestricted).linked reached
  refine linked.holds (fun _ now => now.1.books.Balanced) ?_ ?_ start token
  · rintro context entry external handed ⟨call, opened, opens, inside⟩ balanced
    exact inside.keeps _ Books.Balanced.booking (opens.balanced balanced)
  · intro context before after course balanced
    exact course.keeps _ Books.Balanced.booking balanced

/-- Nine of token 6 are deposited and four withdrawn, up to the point at which the
token holds control. -/
def withdrawalUnderway : List (Move Call (Option Nat) Unit) :=
  [.call ⟨⟨4, 0, 0⟩, .setTokenAllowed 6 100⟩, .call ⟨⟨7, 0, 0⟩, .deposit 6 9⟩, .reply (some 0) (),
    .reply (some 1) (), .reply (some 9) (), .call ⟨⟨7, 0, 0⟩, .withdraw 6 4⟩]

private theorem withdrawalUnderway_runs :
    ∃ initial config, Deployed ⟨1, 2, 3⟩ initial ∧
      (Config.idle (initial, ())).run (contract ⟨1, 2, 3⟩) withdrawalUnderway = some config ∧
      config.stack.length = 1 ∧ config.now.1.storage.totalAccounted 6 = 5 :=
  ⟨_, _, ⟨4, 4, 5, rfl⟩, rfl, rfl, rfl⟩

theorem totalAccounted_eq_sum_balances_withdrawing :
    ∃ initial config, Deployed ⟨1, 2, 3⟩ initial ∧
      Config.Steps (contract ⟨1, 2, 3⟩) unrestricted (.idle (initial, ())) config ∧
      config.stack.length = 1 ∧ config.now.1.storage.totalAccounted 6 = 5 ∧
      config.now.1.storage.totalAccounted 6 = ∑ user, config.now.1.storage.balances user 6 := by
  obtain ⟨initial, config, deployed, ran, depth, total⟩ := withdrawalUnderway_runs
  have reached := Config.steps_of_run _ ran
  exact ⟨initial, config, deployed, reached, depth, total,
    totalAccounted_eq_sum_balances deployed () reached 6⟩

end Vault
