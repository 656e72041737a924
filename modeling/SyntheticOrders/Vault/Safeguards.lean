import SyntheticOrders.Vault.Custody
import SyntheticOrders.Vault.Replay

/-! # The pause and the keys of the admins

Two promises of the contract about what cannot happen. While it is paused, and until an admin
resumes, nothing comes in and nothing is traded: entries only fall, and only by withdrawals.
And without a call by a holder of the admin role the configuration stays as it is, whoever
else calls: a holder of the executor's or the pauser's key can pause, and can give up roles
of its own, and that is all. Both hold at every moment of every run, whatever tokens, router
and recipients do, calls in the middle of other calls included.
-/

namespace Vault

open Interaction

variable {deployment : Deployment} {call : Call} {first before opened middle closed last : State}

section Pause

/-- The events by which an entry can grow. -/
def Event.brings : Event → Bool
  | .deposited _ _ _ | .swapExecuted _ _ _ _ _ _ _ _ _ => true
  | _ => false

/-- The contract is paused, and since `first` nothing has come in, no swap has begun and no
entry has grown. -/
structure Halted (first last : State) (events : List Event) : Prop where
  log : last.log = first.log ++ events
  paused : last.storage.paused = true
  nothing : ∀ event ∈ events, event.brings = false
  executedIds : last.storage.executedIds = first.storage.executedIds
  entries : ∀ user token, last.storage.balances user token ≤ first.storage.balances user token

/-- Unless an admin has resumed, a paused contract has halted. -/
def Halts (first last : State) : Prop :=
  ∃ events, last.log = first.log ++ events ∧
    (first.storage.paused = true → (∀ account, .unpaused account ∉ events) →
      Halted first last events)

theorem Halts.refl (state : State) : Halts state state :=
  ⟨[], (List.append_nil _).symm, fun paused _ => ⟨(List.append_nil _).symm, paused,
    fun _ listed => absurd listed List.not_mem_nil, rfl, fun _ _ => le_rfl⟩⟩

theorem Halts.trans (left : Halts first middle) (right : Halts middle last) : Halts first last := by
  obtain ⟨earlier, grown, halted⟩ := left
  obtain ⟨later, further, halts⟩ := right
  have whole : last.log = first.log ++ (earlier ++ later) := by
    rw [further, grown, List.append_assoc]
  refine ⟨earlier ++ later, whole, fun paused stands => ?_⟩
  have before := halted paused fun account listed =>
    stands account (List.mem_append_left _ listed)
  have after := halts before.paused fun account listed =>
    stands account (List.mem_append_right _ listed)
  refine ⟨whole, after.paused, fun event listed => ?_,
    after.executedIds.trans before.executedIds,
    fun user token => (after.entries user token).trans (before.entries user token)⟩
  rcases List.mem_append.mp listed with old | new
  · exact before.nothing event old
  · exact after.nothing event new

theorem Halts.recorded (halts : Halts first last) (call : Call) (found : Storage) :
    Halts first (last.recorded call found) := by
  obtain ⟨events, grown, halted⟩ := halts
  refine ⟨events, grown, fun paused stands => ?_⟩
  obtain ⟨log, still, nothing, executedIds, entries⟩ := halted paused stands
  exact ⟨log, still, nothing, executedIds, entries⟩

/-- A pause stays until an admin resumes. -/
theorem Reports.paused {config : Configuration} {log events : List Event}
    (reports : Reports Configuration.Fits first log config) (grown : log = first.log ++ events)
    (paused : first.storage.paused = true) (stands : ∀ account, .unpaused account ∉ events) :
    config.paused = true := by
  obtain ⟨since, whole, chronicle⟩ := reports
  obtain rfl := List.append_cancel_left (whole.symm.trans grown)
  refine @Chronicle.keeps _ _ _ _ _ _ _ (fun config => config.paused = true) chronicle ?_ paused
  intro config event listed _ held
  cases event with
  | unpaused account => exact absurd listed (stands account)
  | paused => rfl
  | _ => exact held

theorem debited_le (balances : Address → Address → Nat) (user token queried asset : Address)
    (amount : Nat) : debited balances user token amount queried asset ≤ balances queried asset := by
  unfold debited
  split <;> omega

/-- A call that passes its guards under a pause books nothing in. -/
theorem Opens.halts (opens : Opens deployment call before opened) : Halts before opened := by
  obtain ⟨log, config⟩ := opens.unreported
  have grown : opened.log = before.log ++ [] := by rw [log, List.append_nil]
  suffices lowered : before.storage.paused = true →
      opened.storage.executedIds = before.storage.executedIds ∧
      ∀ user token, opened.storage.balances user token ≤ before.storage.balances user token by
    refine ⟨[], grown, fun paused _ => ⟨grown, ?_, ?_, (lowered paused).1, (lowered paused).2⟩⟩
    · exact (congrArg Configuration.paused config).trans paused
    · exact fun _ listed => absurd listed List.not_mem_nil
  intro paused
  obtain ⟨msg, entry⟩ := call
  cases entry with
  | deposit | depositETH => exact absurd (paused.symm.trans opens.1) (by decide)
  | executeSwap => exact absurd (paused.symm.trans opens.1.unpaused) (by decide)
  | withdraw | withdrawETH =>
      obtain ⟨_, _, _, _, rfl⟩ := opens
      refine ⟨rfl, fun user token => ?_⟩
      rw [State.withStorage_storage, Storage.debit_balances]
      exact debited_le _ _ _ _ _ _
  | sweepUnaccounted =>
      obtain ⟨_, _, rfl⟩ := opens
      exact ⟨rfl, fun _ _ => le_rfl⟩
  | setExecutor | setTokenAllowed | removeToken | setMaxTradeAmount | pause | unpause | grantRole
  | revokeRole | renounceRole | receive =>
      obtain rfl := opens
      exact ⟨rfl, fun _ _ => le_rfl⟩

/-- Nor does such a call book anything in when it returns. -/
theorem Closes.halts (opens : Opens deployment call before opened)
    (paused : before.storage.paused = true) (closes : Closes deployment call before middle closed) :
    Halts middle closed := by
  have reports := Closes.reports opens closes
  obtain ⟨events, grown, -⟩ := reports
  suffices quiet : (∀ event ∈ events, event.brings = false) ∧
      closed.storage.executedIds = middle.storage.executedIds ∧
      closed.storage.balances = middle.storage.balances by
    obtain ⟨nothing, executedIds, balances⟩ := quiet
    refine ⟨events, grown, fun stands unresumed => ⟨grown, ?_, nothing, executedIds, ?_⟩⟩
    · exact (Closes.reports opens closes).paused grown stands unresumed
    · exact fun user token => le_of_eq (congrFun (congrFun balances user) token)
  have appended : ∀ event, closed.log = middle.log ++ [event] → event.brings = false →
      ∀ logged ∈ events, logged.brings = false := by
    intro event added quiet logged listed
    obtain rfl := List.append_cancel_left (grown.symm.trans added)
    rw [List.mem_singleton.mp listed]
    exact quiet
  obtain ⟨msg, entry⟩ := call
  cases entry with
  | deposit | depositETH => exact absurd (paused.symm.trans opens.1) (by decide)
  | executeSwap => exact absurd (paused.symm.trans opens.1.unpaused) (by decide)
  | withdraw | withdrawETH =>
      obtain rfl := closes
      exact ⟨appended _ rfl rfl, rfl, rfl⟩
  | sweepUnaccounted token recipient =>
      obtain ⟨amount, rfl⟩ := closes
      exact ⟨appended _ rfl rfl, rfl, rfl⟩
  | setExecutor | setTokenAllowed | removeToken | setMaxTradeAmount | pause | unpause | grantRole
  | revokeRole | renounceRole | receive =>
      obtain ⟨rfl, finished⟩ := closes
      have administers := local_administers rfl finished
      obtain ⟨logged, same, administrative⟩ := administers.log
      obtain rfl := List.append_cancel_left (grown.symm.trans same)
      refine ⟨fun event listed => ?_, congrArg Books.executedIds administers.books,
        congrArg Books.balances administers.books⟩
      have owned := administrative event listed
      cases event <;> first | rfl | exact absurd owned Bool.false_ne_true

theorem Course.halts (course : Course deployment first last) : Halts first last := by
  induction course with
  | refl => exact .refl _
  | @call _ before _ _ _ call _ opens inside closes earlier nested =>
      refine earlier.trans ?_
      by_cases paused : before.storage.paused = true
      · have closing := Closes.halts opens paused closes
        exact (((Opens.halts opens).trans nested).trans closing).recorded call before.storage
      · have closing := Closes.reports opens closes
        obtain ⟨events, grown, -⟩ := (Opens.reports opens (.refl _)).trans
          (inside.reports.trans closing)
        exact ⟨events, grown, fun stands => absurd stands paused⟩

/-- From a moment between transactions at which the contract is paused, and as long as the log
shows no resumption, at every moment of every run: the pause stands, no deposit and no swap has
been logged, no execution id has been consumed, and no entry has grown. -/
theorem pause_halts {World : Type} {root : State × World}
    {config : Config Call External (Option Nat) Fault State World}
    (reached : Config.Steps (contract deployment) unrestricted (.idle root) config)
    (paused : root.1.storage.paused = true) :
    ∃ events, config.now.1.log = root.1.log ++ events ∧
      ((∀ account, .unpaused account ∉ events) → Halted root.1 config.now.1 events) := by
  have linked := (contract_course deployment unrestricted).linked reached
  have halts : Halts root.1 config.now.1 := by
    refine linked.holds (fun _ now => Halts root.1 now.1) ?_ ?_ (.refl root.1)
    · rintro context entry external handed ⟨call, opened, opens, inside⟩ earlier
      exact (earlier.trans (Opens.halts opens)).trans inside.halts
    · intro context before after course earlier
      exact earlier.trans course.halts
  obtain ⟨events, grown, halted⟩ := halts
  exact ⟨events, grown, halted paused⟩

/-- After a deposit the contract is paused, and the depositor withdraws four. -/
def pausedWithdrawal : List (Move Call (Option Nat) Unit) :=
  [.call ⟨⟨7, 0, 0⟩, .withdraw 6 4⟩, .reply (some 1) ()]

private theorem pausedWithdrawal_runs :
    ∃ now later : State × Unit,
      (Config.idle (fresh, ())).run (contract ⟨1, 2, 3⟩)
        (depositMade ++ [.call ⟨⟨4, 0, 0⟩, .pause⟩]) = some (.idle now) ∧
      (Config.idle now).run (contract ⟨1, 2, 3⟩) pausedWithdrawal = some (.idle later) ∧
      now.1.storage.paused = true ∧ now.1.storage.balances 7 6 = 9 ∧
      later.1.log = now.1.log ++ [.withdrawn 7 6 4] :=
  ⟨_, _, rfl, rfl, rfl, by decide, rfl⟩

theorem pause_halts_withdrawing :
    ∃ now later : State × Unit, now.1.storage.balances 7 6 = 9 ∧
      later.1.log = now.1.log ++ [.withdrawn 7 6 4] ∧
      Halted now.1 later.1 [.withdrawn 7 6 4] := by
  obtain ⟨now, later, _, ran, paused, held, logged⟩ := pausedWithdrawal_runs
  obtain ⟨events, grown, halted⟩ := pause_halts (Config.steps_of_run _ ran) paused
  obtain rfl := List.append_cancel_left (grown.symm.trans logged)
  refine ⟨now, later, held, logged, halted fun account listed => ?_⟩
  cases List.mem_singleton.mp listed

end Pause

section Privileges

/-- The events that only a holder of the admin role can cause, and the loss of a role of which
the holder has not disposed. -/
def Event.privileged : Event → Bool
  | .executorUpdated _ _ | .tokenAllowed _ _ | .tokenRemoved _ | .maxTradeAmountUpdated _ _ _
  | .unaccountedSwept _ _ _ | .unpaused _ | .roleGranted _ _ _ => true
  | .roleRevoked _ account sender => account ≠ sender
  | _ => false

/-- None of the calls that have returned was made by a holder of the admin role. -/
def Unprivileged (storage : Storage) (returned : List Record) : Prop :=
  ∀ record ∈ returned, storage.hasRole .defaultAdmin record.call.msg.sender = false

/-- The configuration is as it was, but for a pause and for roles that their holders have
given up. -/
structure Confined (first last : State) (returned : List Record) : Prop where
  allowedToken : last.storage.allowedToken = first.storage.allowedToken
  maxTradeAmount : last.storage.maxTradeAmount = first.storage.maxTradeAmount
  executor : last.storage.executor = first.storage.executor
  paused : first.storage.paused = true → last.storage.paused = true
  granted : ∀ role account, last.storage.hasRole role account = true →
    first.storage.hasRole role account = true
  kept : ∀ role account, first.storage.hasRole role account = true →
    last.storage.hasRole role account = true ∨
      ∃ record ∈ returned, record.call = ⟨record.call.msg, .renounceRole role account⟩ ∧
        record.call.msg.sender = account
  log : ∃ events, last.log = first.log ++ events ∧ ∀ event ∈ events, event.privileged = false

/-- Calls have returned since `first`, and if none was made by an admin, they were confined. -/
def Confines (first last : State) : Prop :=
  ∃ returned, last.history = first.history ++ returned ∧
    (Unprivileged first.storage returned → Confined first last returned)

theorem Confined.refl (state : State) : Confined state state [] where
  allowedToken := rfl
  maxTradeAmount := rfl
  executor := rfl
  paused := id
  granted _ _ := id
  kept _ _ := Or.inl
  log := ⟨[], (List.append_nil _).symm, fun _ listed => absurd listed List.not_mem_nil⟩

theorem Confined.trans {earlier later : List Record} (left : Confined first middle earlier)
    (right : Confined middle last later) : Confined first last (earlier ++ later) where
  allowedToken := right.allowedToken.trans left.allowedToken
  maxTradeAmount := right.maxTradeAmount.trans left.maxTradeAmount
  executor := right.executor.trans left.executor
  paused stands := right.paused (left.paused stands)
  granted role account holds := left.granted role account (right.granted role account holds)
  kept role account held := by
    rcases left.kept role account held with holds | ⟨record, returned, renounced⟩
    · rcases right.kept role account holds with still | ⟨record, returned, renounced⟩
      · exact Or.inl still
      · exact Or.inr ⟨record, List.mem_append_right _ returned, renounced⟩
    · exact Or.inr ⟨record, List.mem_append_left _ returned, renounced⟩
  log := by
    obtain ⟨old, grown, plain⟩ := left.log
    obtain ⟨new, further, plainToo⟩ := right.log
    refine ⟨old ++ new, by rw [further, grown, List.append_assoc], fun event listed => ?_⟩
    rcases List.mem_append.mp listed with before | after
    · exact plain event before
    · exact plainToo event after

theorem Confines.refl (state : State) : Confines state state :=
  ⟨[], (List.append_nil _).symm, fun _ => .refl state⟩

theorem Confines.trans (left : Confines first middle) (right : Confines middle last) :
    Confines first last := by
  obtain ⟨earlier, grown, confined⟩ := left
  obtain ⟨later, further, confines⟩ := right
  refine ⟨earlier ++ later, by rw [further, grown, List.append_assoc], fun unprivileged => ?_⟩
  have before := confined fun record listed => unprivileged record (List.mem_append_left _ listed)
  refine before.trans (confines fun record listed => ?_)
  -- Nobody has gained the admin role in the meantime.
  have lacked := unprivileged record (List.mem_append_right _ listed)
  by_contra holds
  have held := before.granted _ _ ((Bool.not_eq_false _).mp holds)
  rw [lacked] at held
  exact Bool.false_ne_true held

/-- A caller gives up a role. -/
theorem Confined.renouncing (state : State) (msg : Msg) (role : Role) (found left : Storage)
    (holds : state.storage.hasRole role msg.sender = true) {storage : Storage}
    (renounced : storage.configuration = { state.storage.configuration with
      keys := state.storage.keys.assign role msg.sender false }) :
    Confined state ((state.withStorage storage).logged (.roleRevoked role msg.sender msg.sender))
      [⟨⟨msg, .renounceRole role msg.sender⟩, found, left⟩] := by
  have roles : ∀ queried holder, storage.hasRole queried holder =
      if queried = role ∧ holder = msg.sender then false else state.storage.hasRole queried holder :=
    fun queried holder => (congrArg (fun config => config.keys.hasRole queried holder)
      renounced).trans (Keys.assign_apply ..)
  refine ⟨congrArg Configuration.allowedToken renounced,
    congrArg Configuration.maxTradeAmount renounced,
    congrArg (fun config => config.keys.executor) renounced,
    fun stands => (congrArg Configuration.paused renounced).trans stands, ?_, ?_, ?_⟩
  · intro queried holder still
    change storage.hasRole queried holder = true at still
    rw [roles] at still
    by_cases given : queried = role ∧ holder = msg.sender
    · rw [if_pos given] at still
      exact absurd still Bool.false_ne_true
    · rwa [if_neg given] at still
  · intro queried holder held
    by_cases given : queried = role ∧ holder = msg.sender
    · obtain ⟨rfl, rfl⟩ := given
      exact Or.inr ⟨_, List.mem_singleton_self _, rfl, rfl⟩
    · apply Or.inl
      change storage.hasRole queried holder = true
      rw [roles, if_neg given]
      exact held
  · refine ⟨[.roleRevoked role msg.sender msg.sender], rfl, fun event listed => ?_⟩
    rw [List.mem_singleton.mp listed]
    exact decide_eq_false (not_not.mpr rfl)

theorem Confined.returning {returned : List Record} (confined : Confined first last returned)
    (record : Record) : Confined first last (returned ++ [record]) :=
  { confined with
    kept := fun role account held => by
      rcases confined.kept role account held with still | ⟨record, listed, renounced⟩
      · exact Or.inl still
      · exact Or.inr ⟨record, List.mem_append_left _ listed, renounced⟩ }

/-- A call without external calls by anybody but an admin leaves the configuration alone, but
for a pause and for a role that the caller gives up. -/
theorem local_confined (isLocal : call.entry.local = true)
    (finished : dispatch deployment call before = .done (.ok ((), closed)))
    (lacks : before.storage.hasRole .defaultAdmin call.msg.sender = false) (found left : Storage) :
    Confined before closed [⟨call, found, left⟩] := by
  suffices kept : Code.wp (⟨fun _ _ => True, fun _ _ _ _ => True⟩ : Code.Rules _ _ _ Unit)
      (dispatch deployment call) (before, ())
      fun _ after => Confined before after.1 [⟨call, found, left⟩] from
    Code.wp_finished kept finished
  have refused {wanted : Prop} : before.storage.hasRole .defaultAdmin call.msg.sender = true →
      wanted := fun holds => absurd (lacks.symm.trans holds) Bool.false_ne_true
  obtain ⟨msg, entry⟩ := call
  cases entry with
  | deposit | depositETH | withdraw | withdrawETH | executeSwap | sweepUnaccounted =>
      exact absurd isLocal Bool.false_ne_true
  | setExecutor newExecutor =>
      simp only [dispatch, setExecutor, Code.wp_bind, wp_onlyRole]
      exact refused
  | setTokenAllowed token maxAmount =>
      simp only [dispatch, setTokenAllowed, Code.wp_bind, wp_onlyRole]
      exact refused
  | removeToken token =>
      simp only [dispatch, removeToken, Code.wp_bind, wp_onlyRole]
      exact refused
  | setMaxTradeAmount token newAmount =>
      simp only [dispatch, setMaxTradeAmount, Code.wp_bind, wp_onlyRole]
      exact refused
  | unpause =>
      simp only [dispatch, unpause, Code.wp_bind, wp_onlyRole]
      exact refused
  | grantRole role account =>
      simp only [dispatch, grantRole, Code.wp_bind, wp_onlyRole]
      exact refused
  | revokeRole role account =>
      simp only [dispatch, revokeRole, Code.wp_bind, wp_onlyRole]
      exact refused
  | pause =>
      simp only [dispatch, pause, Code.wp_bind, wp_onlyRole, wp_whenNotPaused, wp_write, wp_emit]
      intro _ _
      refine ⟨rfl, rfl, rfl, fun _ => rfl, fun _ _ => id, fun _ _ => Or.inl, [.paused msg.sender],
        rfl, fun event listed => ?_⟩
      rw [List.mem_singleton.mp listed]
      rfl
  | renounceRole role callerConfirmation =>
      simp only [dispatch, renounceRole, Code.wp_bind, Code.wp_failIf, revokeRoleUnchecked,
        wp_storage, Code.wp_ite, Code.wp_pure, wp_write, wp_emit]
      intro own
      obtain rfl := not_not.mp own
      split
      · exact (Confined.refl before).returning _
      · rename_i holds
        exact Confined.renouncing before msg role found left ((Bool.not_eq_false _).mp holds) rfl
  | receive =>
      simp only [dispatch, receive, Code.wp_failIf]
      exact fun _ => (Confined.refl before).returning _

/-- What a call does before its first hand-over and after the last answer is confined, unless
an admin has made it. -/
theorem Opens.confined (opens : Opens deployment call before opened) :
    opened.history = before.history ∧ Confined before opened [] := by
  obtain ⟨log, config⟩ := opens.unreported
  refine ⟨?_, congrArg Configuration.allowedToken config,
    congrArg Configuration.maxTradeAmount config, congrArg (fun config => config.keys.executor) config,
    fun stands => (congrArg Configuration.paused config).trans stands, ?_, ?_,
    [], by rw [log, List.append_nil], fun _ listed => absurd listed List.not_mem_nil⟩
  · obtain ⟨msg, entry⟩ := call
    cases entry with
    | deposit | depositETH | withdraw | withdrawETH =>
        obtain ⟨_, _, _, _, rfl⟩ := opens
        rfl
    | executeSwap =>
        obtain ⟨_, rfl⟩ := opens
        rfl
    | sweepUnaccounted => rw [opens.2.2]
    | setExecutor | setTokenAllowed | removeToken | setMaxTradeAmount | pause | unpause
    | grantRole | revokeRole | renounceRole | receive =>
        obtain rfl := opens
        rfl
  · intro role account holds
    exact (congrArg (fun config => config.keys.hasRole role account) config).symm.trans holds
  · intro role account held
    exact Or.inl ((congrArg (fun config => config.keys.hasRole role account) config).trans held)

theorem Closes.confined (opens : Opens deployment call before opened)
    (closes : Closes deployment call before middle closed) (found left : Storage) :
    closed.history = middle.history ∧
      (before.storage.hasRole .defaultAdmin call.msg.sender = false →
        Confined middle closed [⟨call, found, left⟩]) := by
  have booked : ∀ event, event.privileged = false → closed.log = middle.log ++ [event] →
      closed.storage.configuration = middle.storage.configuration →
      Confined middle closed [⟨call, found, left⟩] := by
    intro event plain grown config
    refine ⟨congrArg Configuration.allowedToken config,
      congrArg Configuration.maxTradeAmount config,
      congrArg (fun config => config.keys.executor) config,
      fun stands => (congrArg Configuration.paused config).trans stands, ?_, ?_,
      [event], grown, fun logged listed => ?_⟩
    · intro role account holds
      exact (congrArg (fun config => config.keys.hasRole role account) config).symm.trans holds
    · intro role account held
      exact Or.inl ((congrArg (fun config => config.keys.hasRole role account) config).trans held)
    · rw [List.mem_singleton.mp listed]
      exact plain
  obtain ⟨msg, entry⟩ := call
  cases entry with
  | deposit | executeSwap =>
      obtain ⟨_, _, rfl⟩ := closes
      exact ⟨rfl, fun _ => booked _ rfl rfl rfl⟩
  | depositETH | withdraw | withdrawETH =>
      obtain rfl := closes
      exact ⟨rfl, fun _ => booked _ rfl rfl rfl⟩
  | sweepUnaccounted =>
      obtain ⟨_, rfl⟩ := closes
      exact ⟨rfl, fun lacks => absurd (lacks.symm.trans opens.1) Bool.false_ne_true⟩
  | setExecutor | setTokenAllowed | removeToken | setMaxTradeAmount | pause | unpause | grantRole
  | revokeRole | renounceRole | receive =>
      obtain ⟨rfl, finished⟩ := closes
      exact ⟨(local_untouched rfl finished).history,
        fun lacks => local_confined rfl finished lacks found left⟩

theorem Course.confines (course : Course deployment first last) : Confines first last := by
  induction course with
  | refl => exact .refl _
  | @call _ before opened middle closed call _ opens _ closes earlier nested =>
      refine earlier.trans ?_
      obtain ⟨started, opening⟩ := Opens.confined opens
      obtain ⟨ended, closing⟩ := Closes.confined opens closes before.storage closed.storage
      obtain ⟨returned, grown, confined⟩ := nested
      refine ⟨returned ++ [⟨call, before.storage, closed.storage⟩], ?_, fun unprivileged => ?_⟩
      · rw [State.recorded_history, ended, grown, started, List.append_assoc]
      · have lacks := unprivileged _ (List.mem_append_right _ (List.mem_singleton_self _))
        have inside : Unprivileged opened.storage returned := by
          intro record listed
          have lacked := unprivileged record (List.mem_append_left _ listed)
          by_contra holds
          have held := opening.granted _ _ ((Bool.not_eq_false _).mp holds)
          exact Bool.false_ne_true (lacked.symm.trans held)
        obtain ⟨allowed, caps, executor, paused, granted, kept, log⟩ :=
          (opening.trans (confined inside)).trans (closing lacks)
        exact ⟨allowed, caps, executor, paused, granted, kept, log⟩

/-- From any moment between transactions on, and as long as no call by an account that held the
admin role at that moment has returned, at every moment of every run: allowlist, caps and
executor are what they were, a pause stands, nobody has gained a role or lost one that it has
not given up, and no event is logged that needs the admin role. -/
theorem unprivileged_confined {World : Type} {root : State × World}
    {config : Config Call External (Option Nat) Fault State World}
    (reached : Config.Steps (contract deployment) unrestricted (.idle root) config) :
    ∃ returned, config.now.1.history = root.1.history ++ returned ∧
      (Unprivileged root.1.storage returned → Confined root.1 config.now.1 returned) := by
  have linked := (contract_course deployment unrestricted).linked reached
  refine linked.holds (fun _ now => Confines root.1 now.1) ?_ ?_ (.refl root.1)
  · rintro context entry external handed ⟨call, opened, opens, inside⟩ earlier
    obtain ⟨started, opening⟩ := Opens.confined opens
    exact (earlier.trans ⟨[], by rw [started, List.append_nil], fun _ => opening⟩).trans
      inside.confines
  · intro context before after course earlier
    exact earlier.trans course.confines

/-- The executor swaps, and a stranger tries to resume trading and to take a role. -/
def withoutAdmin : List (Move Call (Option Nat) Unit) :=
  swapMade ++ [.call ⟨⟨7, 0, 0⟩, .unpause⟩, .call ⟨⟨5, 0, 0⟩, .grantRole .defaultAdmin 5⟩,
    .call ⟨⟨5, 0, 0⟩, .renounceRole .executor 5⟩]

private theorem withoutAdmin_runs :
    ∃ now later : State × Unit,
      (Config.idle (fresh, ())).run (contract ⟨1, 2, 3⟩) depositMade = some (.idle now) ∧
      (Config.idle now).run (contract ⟨1, 2, 3⟩) withoutAdmin = some (.idle later) ∧
      (later.1.history.drop now.1.history.length).map (·.call.msg.sender) = [5, 5] ∧
      now.1.storage.hasRole .defaultAdmin 5 = false ∧
      later.1.storage.hasRole .executor 5 = false :=
  ⟨_, _, rfl, rfl, rfl, rfl, rfl⟩

theorem unprivileged_confined_swapping :
    ∃ (now later : State × Unit) (returned : List Record), returned.length = 2 ∧
      later.1.storage.hasRole .executor 5 = false ∧ Confined now.1 later.1 returned := by
  obtain ⟨now, later, _, ran, senders, lacks, renounced⟩ := withoutAdmin_runs
  obtain ⟨returned, grown, confined⟩ := unprivileged_confined (Config.steps_of_run _ ran)
  change later.1.history = _ at grown
  rw [grown, List.drop_left] at senders
  refine ⟨now, later, returned, ?_, renounced, confined fun record listed => ?_⟩
  · simpa using congrArg List.length senders
  · have sender : record.call.msg.sender ∈ [(5 : Address), 5] :=
      senders ▸ List.mem_map_of_mem listed
    have five : record.call.msg.sender = 5 := by simpa using sender
    rw [five]
    exact lacks

end Privileges

end Vault
