import SyntheticOrders.Vault.Accounting
import SyntheticOrders.Vault.Execution
import SyntheticOrders.Vault.Solvency

/-! # Everybody can leave

Whatever has happened before, the users can take out all they have, one after the
other and in any order. A withdrawal asks nothing of the pause flag or the
allowlist. Its checked subtractions succeed because no entry exceeds the total,
and the token's transfer succeeds because the total is held.
-/

namespace Vault

open Interaction

/-- An answer of the outside world to each external call, without callbacks. -/
abbrev Answer : Type := External → Holdings → Option Nat × Holdings

/-- Exact tokens carry out every transfer they hold enough for. -/
def TransfersExactly (deployment : Deployment) (exact : Address → Prop) (answer : Answer) : Prop :=
  ∀ token recipient amount holdings, exact token → amount ≤ holdings.held token →
    (answer (.transfer token recipient amount) holdings).1 = some 1 ∧
    Moved deployment exact (.transfer token recipient amount) holdings
      (answer (.transfer token recipient amount) holdings).2

/-- Each listed user in turn withdraws all of the listed token. -/
def withdrawAll (deployment : Deployment) (answer : Answer) (timestamp : Nat) :
    List (Address × Address) → State × Holdings → Except Fault (State × Holdings)
  | [], now => .ok now
  | (user, token) :: rest, now => do
      let (_, next) ← (body deployment ⟨⟨user, 0, timestamp⟩,
        .withdraw token (now.1.storage.balances user token)⟩).runWith answer now
      withdrawAll deployment answer timestamp rest next

/-- The listed users can leave: the list names the nonzero entries, and the books
are balanced and covered. -/
structure Exitable (exact : Address → Prop) (pairs : List (Address × Address))
    (now : State × Holdings) : Prop where
  lowered : now.1.storage.entered = false
  balanced : now.1.books.Balanced
  listed : ∀ user token, (user, token) ∈ pairs ↔ now.1.storage.balances user token ≠ 0
  known : ∀ user token, now.1.storage.balances user token ≠ 0 → exact token
  covered : ∀ token, exact token → now.1.storage.totalAccounted token ≤ now.2.held token

variable {deployment : Deployment} {exact : Address → Prop} {answer : Answer} {timestamp : Nat}

/-- The first user leaves, and the others still can. -/
theorem Exitable.withdraw {user token : Address} {rest : List (Address × Address)}
    {now : State × Holdings} (exitable : Exitable exact ((user, token) :: rest) now)
    (nodup : ((user, token) :: rest).Nodup)
    (answers : TransfersExactly deployment exact answer) :
    ∃ next, (body deployment ⟨⟨user, 0, timestamp⟩,
        .withdraw token (now.1.storage.balances user token)⟩).runWith answer now =
          .ok ((), next) ∧ Exitable exact rest next := by
  have nonzero := (exitable.listed user token).mp List.mem_cons_self
  have accounted := exitable.balanced.le_total user token
  have known := exitable.known user token nonzero
  have held := exitable.covered token known
  obtain ⟨resume, asks, finishes⟩ := withdraw_asks deployment ⟨user, 0, timestamp⟩ rfl
    exitable.lowered nonzero le_rfl accounted
  obtain ⟨replied, moved⟩ := answers token user (now.1.storage.balances user token) now.2 known
    (accounted.trans held)
  refine ⟨_, Code.runWith_ask_done asks (by rw [replied]; exact finishes _), ?_⟩
  refine ⟨rfl, exitable.balanced.debit (le_refl (now.1.books.balances user token)), ?_, ?_, ?_⟩
  · intro owner asset
    change _ ↔ (now.1.storage.setBalance user token _).balances owner asset ≠ 0
    rw [Storage.setBalance_apply]
    split
    · rename_i same
      rw [same.1, same.2]
      refine ⟨fun member => absurd member (List.nodup_cons.mp nodup).1, fun left => ?_⟩
      exact absurd (Nat.sub_self _) left
    · rename_i other
      rw [← exitable.listed owner asset, List.mem_cons]
      refine ⟨.inr, fun member => member.resolve_left fun same => other ?_⟩
      exact Prod.mk.inj same
  · intro owner asset left
    change (now.1.storage.setBalance user token _).balances owner asset ≠ 0 at left
    rw [Storage.setBalance_apply] at left
    split at left
    · exact absurd (Nat.sub_self _) left
    · exact exitable.known owner asset left
  · intro asset moves
    have before := exitable.covered asset moves
    have settled := moved.held asset moves
    change (now.1.storage.setTotal token (now.1.storage.totalAccounted token -
      now.1.storage.balances user token)).totalAccounted asset ≤
      (answer (.transfer token user (now.1.storage.balances user token)) now.2).2.held asset
    rw [Storage.setTotal_apply]
    simp only [External.outgoing, External.incoming, Nat.add_zero] at settled
    by_cases same : asset = token
    · subst same
      rw [if_pos rfl]
      split at settled <;> omega
    · rw [if_neg fun both => same both.1] at settled
      rw [if_neg same]
      omega

/-- Every listed user leaves, and nothing is owed any more. -/
theorem Exitable.withdrawAll {pairs : List (Address × Address)} {now : State × Holdings}
    (exitable : Exitable exact pairs now) (nodup : pairs.Nodup)
    (answers : TransfersExactly deployment exact answer) :
    ∃ final, withdrawAll deployment answer timestamp pairs now = .ok final ∧
      Exitable exact [] final := by
  induction pairs generalizing now with
  | nil => exact ⟨now, rfl, exitable⟩
  | cons pair rest ih =>
      obtain ⟨user, token⟩ := pair
      obtain ⟨next, left, others⟩ := exitable.withdraw nodup answers
      obtain ⟨final, ran, empty⟩ := ih others (List.nodup_cons.mp nodup).2
      refine ⟨final, ?_, empty⟩
      rw [Vault.withdrawAll, left]
      exact ran

/-- From every state between transactions that is reachable against exact tokens
without callbacks, with WETH one to one and a router that pays what it returns, all
users can withdraw all they have in any order, and then nothing is owed. -/
theorem withdrawAll_succeeds {initial : State} (deployed : Deployed deployment initial)
    {world : Holdings} {now : State × Holdings}
    (reached : Config.Steps (contract deployment) (tokens deployment exact (noCallbacks exact))
      (.idle (initial, world)) (.idle now))
    (answers : TransfersExactly deployment exact answer) (timestamp : Nat)
    {pairs : List (Address × Address)} (nodup : pairs.Nodup)
    (listed : ∀ user token, (user, token) ∈ pairs ↔ now.1.storage.balances user token ≠ 0) :
    ∃ final, withdrawAll deployment answer timestamp pairs now = .ok final ∧
      ∀ token, final.1.storage.totalAccounted token = 0 := by
  have course := (contract_course deployment _).between reached
  have backed := backed_of_steps (deployed.backed world) (reached.mono tokens_of_noCallbacks)
  have fresh : initial.books.Balanced := by
    rw [deployed.untouched.books]
    intro token
    exact Finset.sum_const_zero.symm
  have exitable : Exitable exact pairs now := by
    refine ⟨(course.bookings deployed.untouched.entered).2,
      course.keeps _ Books.Balanced.booking fresh, listed, fun user token entry => ?_,
      fun token _ => backed.solvent token⟩
    by_contra stranger
    exact entry ((backed.unknown token stranger).2 user)
  obtain ⟨final, ran, empty⟩ := exitable.withdrawAll nodup answers
  refine ⟨final, ran, fun token => ?_⟩
  change final.1.books.totals token = 0
  rw [empty.balanced token]
  refine Finset.sum_eq_zero fun user _ => ?_
  by_contra entry
  exact absurd ((empty.listed user token).mpr entry) List.not_mem_nil

/-- Transfers as exact tokens carry them out: refused without the funds, otherwise
in full. -/
def transferExactly (deployment : Deployment) : Answer
  | .transfer token recipient amount, holdings =>
      if holdings.held token < amount then (none, holdings)
      else if recipient = deployment.self then (some 1, holdings)
      else (some 1, holdings.sent token amount)
  | _, holdings => (none, holdings)

theorem transfersExactly_transferExactly (deployment : Deployment) (exact : Address → Prop) :
    TransfersExactly deployment exact (transferExactly deployment) := by
  intro token recipient amount holdings _ enough
  simp only [transferExactly, Nat.not_lt.mpr enough, ↓reduceIte]
  split
  · rename_i own
    refine ⟨rfl, fun asset _ => ?_, rfl, rfl⟩
    simp only [External.outgoing, External.incoming, own, ne_eq, not_true_eq_false, and_false,
      ↓reduceIte]
  · rename_i foreign
    exact ⟨rfl, sent_moved foreign enough⟩

theorem withdrawAll_succeeds_partialSwap : ∃ now final,
    Config.Steps (contract ⟨1, 2, 3⟩) (tokens ⟨1, 2, 3⟩ sixOrNine (noCallbacks sixOrNine))
      (.idle (fresh, holdingBoth 0 0 0 0)) (.idle now) ∧
    now.1.storage.totalAccounted 6 = 5 ∧ now.1.storage.totalAccounted 9 = 7 ∧
    withdrawAll ⟨1, 2, 3⟩ (transferExactly ⟨1, 2, 3⟩) 0 [(8, 9), (7, 6), (7, 9)] now = .ok final ∧
    ∀ token, final.1.storage.totalAccounted token = 0 := by
  obtain ⟨now, reached, balances, six, nine⟩ := sweptAfterwards_steps
  have listed : ∀ user token, (user, token) ∈ [((8, 9) : Address × Address), (7, 6), (7, 9)] ↔
      now.1.storage.balances user token ≠ 0 := by
    intro user token
    rw [balances]
    constructor
    · intro member
      simp only [List.mem_cons, Prod.mk.injEq, List.not_mem_nil, or_false] at member
      rcases member with ⟨rfl, rfl⟩ | ⟨rfl, rfl⟩ | ⟨rfl, rfl⟩ <;> decide
    · intro nonzero
      by_contra unlisted
      simp only [List.mem_cons, Prod.mk.injEq, List.not_mem_nil, or_false, not_or] at unlisted
      obtain ⟨deposit, kept, bought⟩ := unlisted
      refine nonzero ?_
      rw [Storage.setBalance_apply, if_neg bought, Storage.setBalance_apply, if_neg kept,
        Storage.setBalance_apply, if_neg deposit, Storage.setBalance_apply, if_neg kept]
      rfl
  obtain ⟨final, left, empty⟩ := withdrawAll_succeeds fresh_deployed reached
    (transfersExactly_transferExactly _ _) 0 (by decide) listed
  exact ⟨now, final, reached, six, nine, left, empty⟩

end Vault
