import SyntheticOrders.Relation.Chronicle
import SyntheticOrders.Vault.Rotation

/-! # The configuration as a replay of the log

Allowlist, caps, roles, executor and pause are written by the functions of the admins, each
of which logs what it does. Whoever follows the log alone can keep a copy of all of them: an
event changes the copy as the call that logged it changed the contract. What the copy says
before an event also tells that the event could happen: who had the role for it, and which
previous value it replaces. Calls may be nested in any way, for no admin function waits for
another contract between its writes and its event.
-/

namespace Vault

open Interaction

/-- What the functions of the admins write. -/
structure Configuration where
  allowedToken : Address → Bool
  maxTradeAmount : Address → Nat
  keys : Keys
  paused : Bool

def Storage.configuration (storage : Storage) : Configuration where
  allowedToken := storage.allowedToken
  maxTradeAmount := storage.maxTradeAmount
  keys := storage.keys
  paused := storage.paused

namespace Configuration

/-- The configuration under another executor's name. -/
def naming (config : Configuration) (executor : Address) : Configuration :=
  { config with keys := { config.keys with executor := executor } }

/-- What an event says of the configuration. -/
def apply (config : Configuration) : Event → Configuration
  | .executorUpdated _ newExecutor => config.naming newExecutor
  | .tokenAllowed token maxTradeAmount =>
      { config with
        allowedToken := Function.update config.allowedToken token true
        maxTradeAmount := Function.update config.maxTradeAmount token maxTradeAmount }
  | .tokenRemoved token =>
      { config with
        allowedToken := Function.update config.allowedToken token false
        maxTradeAmount := Function.update config.maxTradeAmount token 0 }
  | .maxTradeAmountUpdated token _ newAmount =>
      { config with maxTradeAmount := Function.update config.maxTradeAmount token newAmount }
  | .paused _ => { config with paused := true }
  | .unpaused _ => { config with paused := false }
  | .roleGranted role account _ => { config with keys := config.keys.assign role account true }
  | .roleRevoked role account _ => { config with keys := config.keys.assign role account false }
  | _ => config

/-- An event that can be logged under a configuration. The pause says nothing of deposits and
swaps here, since a call that has begun before it may end after it. -/
def Fits (config : Configuration) : Event → Prop
  | .swapExecuted executionId owner _ tokenIn tokenOut amountIn amountOut minAmountOut _ =>
      executionId ≠ 0 ∧ owner ≠ 0 ∧ tokenIn ≠ tokenOut ∧ amountIn ≠ 0 ∧ minAmountOut ≤ amountOut
  | .executorUpdated previousExecutor newExecutor =>
      previousExecutor = config.keys.executor ∧ newExecutor ≠ previousExecutor
  | .tokenAllowed token maxTradeAmount => token ≠ 0 ∧ maxTradeAmount ≠ 0
  | .tokenRemoved token => config.allowedToken token = true
  | .maxTradeAmountUpdated token previousAmount newAmount =>
      config.allowedToken token = true ∧ previousAmount = config.maxTradeAmount token ∧
        newAmount ≠ 0
  | .deposited _ _ amount | .withdrawn _ _ amount => amount ≠ 0
  | .unaccountedSwept _ recipient _ => recipient ≠ 0
  | .paused account => config.keys.hasRole .pauser account = true ∧ config.paused = false
  | .unpaused account => config.keys.hasRole .defaultAdmin account = true ∧ config.paused = true
  | .roleGranted role account sender =>
      config.keys.hasRole .defaultAdmin sender = true ∧ config.keys.hasRole role account = false
  | .roleRevoked role account sender =>
      (config.keys.hasRole .defaultAdmin sender = true ∨ account = sender) ∧
        config.keys.hasRole role account = true

theorem naming_self {config : Configuration} {executor : Address}
    (named : config.keys.executor = executor) : config.naming executor = config := by
  rw [← named]
  rfl

/-- What a log amounts to. -/
def replay (log : List Event) : Configuration := log.foldl apply Storage.blank.configuration

end Configuration

/-- The events logged since `first` lead from its configuration to `config`. -/
def Reports (fits : Configuration → Event → Prop) (first : State) (log : List Event)
    (config : Configuration) : Prop :=
  ∃ events, log = first.log ++ events ∧
    Chronicle fits Configuration.apply first.storage.configuration events config

namespace Reports

variable {fits : Configuration → Event → Prop} {first middle last : State} {log : List Event}
  {config : Configuration}

theorem refl (state : State) : Reports fits state state.log state.storage.configuration :=
  ⟨[], (List.append_nil _).symm, .nil⟩

theorem trans (left : Reports fits first middle.log middle.storage.configuration)
    (right : Reports fits middle log config) : Reports fits first log config := by
  obtain ⟨earlier, grown, chronicle⟩ := left
  obtain ⟨later, further, rest⟩ := right
  refine ⟨earlier ++ later, ?_, chronicle.trans rest⟩
  rw [further, grown, List.append_assoc]

theorem logged (reports : Reports fits first log config) {event : Event}
    (fitting : fits config event) : Reports fits first (log ++ [event]) (config.apply event) := by
  obtain ⟨events, grown, chronicle⟩ := reports
  refine ⟨events ++ [event], ?_, chronicle.snoc fitting⟩
  rw [grown, List.append_assoc]

end Reports

section Local

variable {World : Type} {rules : Code.Rules External (Option Nat) State World}
  {fits : Configuration → Event → Prop} {first : State} {now : State × World}

private theorem wp_grantRoleUnchecked_reports (role : Role) (account sender executor : Address)
    (reports : Reports fits first now.1.log (now.1.storage.configuration.naming executor))
    (fitting : now.1.storage.hasRole role account = false →
      fits (now.1.storage.configuration.naming executor) (.roleGranted role account sender)) :
    Code.wp rules (grantRoleUnchecked role account sender) now fun _ after =>
      Reports fits first after.1.log (after.1.storage.configuration.naming executor) ∧
        after.1.storage.keys = now.1.storage.keys.assign role account true := by
  simp only [grantRoleUnchecked, Code.wp_bind, wp_storage, Code.wp_ite, Code.wp_pure, wp_write,
    wp_emit]
  split
  · rename_i already
    exact ⟨reports, (Keys.assign_same already).symm⟩
  · rename_i lacks
    exact ⟨reports.logged (fitting (Bool.not_eq_true _ ▸ lacks)), rfl⟩

private theorem wp_revokeRoleUnchecked_reports (role : Role) (account sender executor : Address)
    (reports : Reports fits first now.1.log (now.1.storage.configuration.naming executor))
    (fitting : now.1.storage.hasRole role account = true →
      fits (now.1.storage.configuration.naming executor) (.roleRevoked role account sender)) :
    Code.wp rules (revokeRoleUnchecked role account sender) now fun _ after =>
      Reports fits first after.1.log (after.1.storage.configuration.naming executor) ∧
        after.1.storage.keys = now.1.storage.keys.assign role account false := by
  simp only [revokeRoleUnchecked, Code.wp_bind, wp_storage, Code.wp_ite, Code.wp_pure, wp_write,
    wp_emit]
  split
  · rename_i already
    exact ⟨reports, (Keys.assign_same already).symm⟩
  · rename_i holds
    exact ⟨reports.logged (fitting (Bool.not_eq_false _ ▸ holds)), rfl⟩

private theorem wp_setExecutor_reports (msg : Msg) (newExecutor : Address) :
    Code.wp rules (setExecutor msg newExecutor) now fun _ after =>
      Reports Configuration.Fits now.1 after.1.log after.1.storage.configuration := by
  simp only [setExecutor, Code.wp_bind, wp_onlyRole, wp_storage, Code.wp_ite, Code.wp_pure]
  intro authorised
  split
  · exact .refl _
  · rename_i changes
    -- Until the event is logged, the log names the previous executor.
    have appoint : ∀ middle : State × World,
        Reports Configuration.Fits now.1 middle.1.log
          (middle.1.storage.configuration.naming now.1.storage.executor) ∧
        middle.1.storage.hasRole .defaultAdmin msg.sender = true →
        Code.wp rules (write fun storage => { storage with executor := newExecutor }) middle
          fun _ written => Code.wp rules (Code.when (newExecutor ≠ 0)
            (grantRoleUnchecked .executor newExecutor msg.sender)) written
          fun _ granted => Code.wp rules
            (emit (.executorUpdated now.1.storage.executor newExecutor)) granted
          fun _ after =>
            Reports Configuration.Fits now.1 after.1.log after.1.storage.configuration := by
      rintro middle ⟨reports, authorised⟩
      have closes : ∀ granted : State × World, granted.1.storage.keys.executor = newExecutor →
          Reports Configuration.Fits now.1 granted.1.log
            (granted.1.storage.configuration.naming now.1.storage.executor) →
          Reports Configuration.Fits now.1
            (granted.1.log ++ [.executorUpdated now.1.storage.executor newExecutor])
            granted.1.storage.configuration := by
        intro granted named reports
        have logged := @Reports.logged _ _ _ _ reports
          (.executorUpdated now.1.storage.executor newExecutor) ⟨rfl, Ne.symm changes⟩
        rw [← named] at logged ⊢
        exact logged
      simp only [wp_write, Code.wp_when, wp_emit]
      split
      · have granted := @wp_grantRoleUnchecked_reports World rules Configuration.Fits now.1
          (middle.1.withStorage { middle.1.storage with executor := newExecutor }, middle.2)
          .executor newExecutor msg.sender now.1.storage.executor reports
          fun lacks => ⟨authorised, lacks⟩
        refine Code.wp_imp _ (fun _ after both => closes after ?_ both.1) granted
        rw [both.2]
        rfl
      · exact closes (middle.1.withStorage { middle.1.storage with executor := newExecutor },
          middle.2) rfl reports
    rw [Code.wp_when]
    split
    · have revoked := @wp_revokeRoleUnchecked_reports World rules Configuration.Fits now.1 now .executor
        now.1.storage.executor msg.sender now.1.storage.executor (.refl _)
        fun holds => ⟨.inl authorised, holds⟩
      refine Code.wp_imp _ (fun _ middle both => appoint middle ⟨both.1, ?_⟩) revoked
      have same := Keys.assign_apply now.1.storage.keys .executor .defaultAdmin
        now.1.storage.executor msg.sender false
      rw [if_neg (by simp), ← both.2] at same
      exact same.trans authorised
    · exact appoint now ⟨.refl _, authorised⟩

/-- A call without external calls logs what it writes. -/
theorem local_reports {deployment : Deployment} {call : Call} {before closed : State}
    (isLocal : call.entry.local = true)
    (finished : dispatch deployment call before = .done (.ok ((), closed))) :
    Reports Configuration.Fits before closed.log closed.storage.configuration := by
  suffices kept : Code.wp (⟨fun _ _ => True, fun _ _ _ _ => True⟩ : Code.Rules _ _ _ Unit)
      (dispatch deployment call) (before, ()) fun _ after =>
        Reports Configuration.Fits before after.1.log after.1.storage.configuration from
    Code.wp_finished kept finished
  have named : ∀ (after : State) (role : Role) (account : Address) (holds : Bool),
      Reports Configuration.Fits before after.log
          (after.storage.configuration.naming before.storage.executor) →
      after.storage.keys = before.storage.keys.assign role account holds →
      Reports Configuration.Fits before after.log after.storage.configuration := by
    intro after role account holds reports assigned
    have same : after.storage.configuration.keys.executor = before.storage.executor :=
      congrArg Keys.executor assigned
    rwa [Configuration.naming_self same] at reports
  obtain ⟨msg, entry⟩ := call
  cases entry with
  | deposit | depositETH | withdraw | withdrawETH | executeSwap | sweepUnaccounted =>
      exact absurd isLocal Bool.false_ne_true
  | setExecutor newExecutor => exact wp_setExecutor_reports msg newExecutor
  | setTokenAllowed token maxAmount =>
      simp only [dispatch, setTokenAllowed, Code.wp_bind, wp_onlyRole, Code.wp_failIf, wp_write,
        wp_emit]
      intro _ valid nonzero
      exact (Reports.refl before).logged ⟨valid, nonzero⟩
  | removeToken token =>
      simp only [dispatch, removeToken, Code.wp_bind, wp_onlyRole, wp_storage, Code.wp_failIf,
        wp_write, wp_emit]
      intro _ allowed
      exact (Reports.refl before).logged (Bool.not_eq_false _ ▸ allowed :
        before.storage.allowedToken token = true)
  | setMaxTradeAmount token newAmount =>
      simp only [dispatch, setMaxTradeAmount, Code.wp_bind, wp_onlyRole, wp_storage,
        Code.wp_failIf, wp_write, wp_emit]
      intro _ allowed nonzero
      exact (Reports.refl before).logged ⟨Bool.not_eq_false _ ▸ allowed, rfl, nonzero⟩
  | pause =>
      simp only [dispatch, pause, Code.wp_bind, wp_onlyRole, wp_whenNotPaused, wp_write, wp_emit]
      intro role unpaused
      exact (Reports.refl before).logged ⟨role, unpaused⟩
  | unpause =>
      simp only [dispatch, unpause, Code.wp_bind, wp_onlyRole, wp_whenPaused, wp_write, wp_emit]
      intro role paused
      exact (Reports.refl before).logged ⟨role, paused⟩
  | grantRole role account =>
      simp only [dispatch, grantRole, Code.wp_bind, wp_onlyRole]
      intro authorised
      refine Code.wp_imp _ (fun _ after both => named after.1 role account true both.1 both.2)
        (wp_grantRoleUnchecked_reports role account msg.sender before.storage.executor
          (.refl before) fun lacks => ⟨authorised, lacks⟩)
  | revokeRole role account =>
      simp only [dispatch, revokeRole, Code.wp_bind, wp_onlyRole]
      intro authorised
      refine Code.wp_imp _ (fun _ after both => named after.1 role account false both.1 both.2)
        (wp_revokeRoleUnchecked_reports role account msg.sender before.storage.executor
          (.refl before) fun holds => ⟨.inl authorised, holds⟩)
  | renounceRole role callerConfirmation =>
      simp only [dispatch, renounceRole, Code.wp_bind, Code.wp_failIf]
      intro own
      refine Code.wp_imp _
        (fun _ after both => named after.1 role callerConfirmation false both.1 both.2)
        (wp_revokeRoleUnchecked_reports role callerConfirmation msg.sender before.storage.executor
          (.refl before) fun holds => ⟨.inr (not_not.mp own), holds⟩)
  | receive =>
      simp only [dispatch, receive, Code.wp_failIf]
      intro _
      exact .refl before

end Local

section Runs

variable {deployment : Deployment} {call : Call} {first before opened middle closed last : State}

/-- By its first hand-over a call has neither logged nor configured anything. -/
theorem Opens.unreported (opens : Opens deployment call before opened) :
    opened.log = before.log ∧ opened.storage.configuration = before.storage.configuration := by
  obtain ⟨msg, entry⟩ := call
  cases entry with
  | deposit | depositETH | withdraw | withdrawETH =>
      obtain ⟨_, _, _, _, rfl⟩ := opens
      exact ⟨rfl, rfl⟩
  | executeSwap =>
      obtain ⟨_, rfl⟩ := opens
      exact ⟨rfl, rfl⟩
  | sweepUnaccounted =>
      obtain ⟨_, _, rfl⟩ := opens
      exact ⟨rfl, rfl⟩
  | setExecutor | setTokenAllowed | removeToken | setMaxTradeAmount | pause | unpause | grantRole
  | revokeRole | renounceRole | receive =>
      obtain rfl := opens
      exact ⟨rfl, rfl⟩

/-- From the last answer to its return, a call logs what it configures. -/
theorem Closes.reports (opens : Opens deployment call before opened)
    (closes : Closes deployment call before middle closed) :
    Reports Configuration.Fits middle closed.log closed.storage.configuration := by
  obtain ⟨msg, entry⟩ := call
  cases entry with
  | deposit token amount =>
      obtain ⟨received, nonzero, rfl⟩ := closes
      exact (Reports.refl middle).logged nonzero
  | depositETH =>
      obtain ⟨_, _, _, nonzero, _⟩ := opens
      obtain rfl := closes
      exact (Reports.refl middle).logged nonzero
  | withdraw | withdrawETH =>
      obtain ⟨_, nonzero, _, _, _⟩ := opens
      obtain rfl := closes
      exact (Reports.refl middle).logged nonzero
  | executeSwap swap =>
      obtain ⟨guards, _⟩ := opens
      obtain ⟨amountOut, floor, rfl⟩ := closes
      exact (Reports.refl middle).logged
        ⟨guards.validId, guards.validOwner, guards.distinct, guards.nonzero, floor⟩
  | sweepUnaccounted token recipient =>
      obtain ⟨_, valid, _⟩ := opens
      obtain ⟨amount, rfl⟩ := closes
      exact (Reports.refl middle).logged valid
  | setExecutor | setTokenAllowed | removeToken | setMaxTradeAmount | pause | unpause | grantRole
  | revokeRole | renounceRole | receive =>
      obtain ⟨rfl, finished⟩ := closes
      exact local_reports rfl finished

theorem Opens.reports (opens : Opens deployment call before opened)
    (reports : Reports Configuration.Fits first before.log before.storage.configuration) :
    Reports Configuration.Fits first opened.log opened.storage.configuration := by
  obtain ⟨log, config⟩ := opens.unreported
  rw [log, config]
  exact reports

/-- A course of calls logs what it configures. -/
theorem Course.reports (course : Course deployment first last) :
    Reports Configuration.Fits first last.log last.storage.configuration := by
  induction course with
  | refl => exact .refl _
  | call call _ opens _ closes earlier inside =>
      have closing := Closes.reports opens closes
      exact ((Opens.reports opens earlier).trans inside).trans closing

/-- The events that the constructor logs. -/
def Event.Appoints : Event → Prop
  | .roleGranted _ _ _ | .executorUpdated _ _ => True
  | _ => False

/-- So does the constructor, which no admin has authorised. -/
theorem Deployed.reports (deployed : Deployed deployment first) :
    Reports (fun _ event => event.Appoints) ⟨.blank, [], []⟩ first.log
      first.storage.configuration := by
  obtain ⟨sender, admin, executor, finished⟩ := deployed
  suffices kept : Code.wp (⟨fun _ _ => True, fun _ _ _ _ => True⟩ : Code.Rules _ _ _ Unit)
      (construct deployment sender admin executor) (⟨.blank, [], []⟩, ()) fun _ after =>
        Reports (fun _ event => event.Appoints) ⟨.blank, [], []⟩ after.1.log
          after.1.storage.configuration from Code.wp_finished kept finished
  have grants := @wp_grantRoleUnchecked_reports Unit ⟨fun _ _ => True, fun _ _ _ _ => True⟩
    (fun _ event => event.Appoints) ⟨.blank, [], []⟩
  simp only [construct, Code.wp_bind, Code.wp_failIf]
  intro _
  refine Code.wp_imp _ (fun _ administered granted => ?_)
    (grants .defaultAdmin admin sender 0 (.refl _) fun _ => trivial)
  refine Code.wp_imp _ (fun _ appointed grantedToo => ?_)
    (grants .pauser admin sender 0 granted.1 fun _ => trivial)
  have vacant : appointed.1.storage.keys.executor = 0 := by
    rw [grantedToo.2, granted.2]
    rfl
  simp only [Code.wp_when, Code.wp_bind, wp_write, wp_emit]
  split
  · refine Code.wp_imp _ (fun _ after both => ?_)
      (grants .executor executor sender 0 grantedToo.1 fun _ => trivial)
    have logged := @Reports.logged _ _ _ _ both.1 (.executorUpdated 0 executor) trivial
    have named : after.1.storage.configuration.keys.executor = executor := by
      change after.1.storage.keys.executor = executor
      rw [both.2]
      rfl
    have same := Configuration.naming_self named
    change Reports _ _ _ after.1.storage.configuration
    rw [← same]
    exact logged
  · have same := @Configuration.naming_self appointed.1.storage.configuration 0 vacant
    rw [← same]
    exact grantedToo.1

theorem Deployed.replays (deployed : Deployed deployment first) :
    first.storage.configuration = Configuration.replay first.log := by
  obtain ⟨events, grown, chronicle⟩ := deployed.reports
  rw [chronicle.replay, grown]
  rfl

/-- Every configuration of every run is reported by the log since the deployment. -/
theorem reports_of_steps {World : Type} {root : State × World}
    {config : Config Call External (Option Nat) Fault State World}
    (reached : Config.Steps (contract deployment) unrestricted (.idle root) config) :
    Reports Configuration.Fits root.1 config.now.1.log config.now.1.storage.configuration := by
  have linked := (contract_course deployment unrestricted).linked reached
  refine linked.holds (fun _ now => Reports Configuration.Fits root.1 now.1.log
    now.1.storage.configuration) ?_ ?_ (.refl root.1)
  · rintro context entry external handed ⟨call, opened, opens, inside⟩ earlier
    exact (opens.reports earlier).trans inside.reports
  · intro context before after course earlier
    exact earlier.trans course.reports

/-- In every configuration of every run, also while calls wait for other contracts, the
allowlist, the caps, the roles, the executor and the pause are what a replay of the log from
its very beginning yields; and each event since the deployment could happen under what the
events before it replay to. -/
theorem configuration_replays {World : Type} {world : World} {initial : State}
    (deployed : Deployed deployment initial)
    {config : Config Call External (Option Nat) Fault State World}
    (reached : Config.Steps (contract deployment) unrestricted (.idle (initial, world)) config) :
    config.now.1.storage.configuration = Configuration.replay config.now.1.log ∧
      ∀ earlier event later, config.now.1.log = initial.log ++ earlier ++ event :: later →
        (Configuration.replay (initial.log ++ earlier)).Fits event := by
  obtain ⟨events, grown, chronicle⟩ := reports_of_steps reached
  have replayed : ∀ further, further.foldl Configuration.apply initial.storage.configuration =
      Configuration.replay (initial.log ++ further) := by
    intro further
    rw [deployed.replays, Configuration.replay, Configuration.replay, List.foldl_append]
  constructor
  · rw [chronicle.replay, replayed, grown]
  · intro earlier event later placed
    rw [← replayed]
    rw [grown, List.append_assoc] at placed
    exact chronicle.fits_at (List.append_cancel_left placed)

/-- A token is allowed, and while its deposit waits for the token, an admin pauses. -/
def pausedMidway : List (Move Call (Option Nat) Unit) :=
  [.call ⟨⟨4, 0, 0⟩, .setTokenAllowed 6 100⟩, .call ⟨⟨7, 0, 0⟩, .deposit 6 9⟩, .reply (some 0) (),
    .call ⟨⟨4, 0, 0⟩, .pause⟩]

private theorem pausedMidway_runs : ∃ config,
    (Config.idle (fresh, ())).run (contract ⟨1, 2, 3⟩) pausedMidway = some config ∧
      config.stack.length = 1 ∧ config.now.1.storage.paused = true :=
  ⟨_, rfl, rfl, rfl⟩

theorem configuration_replays_pausedMidway :
    ∃ config : Config Call External (Option Nat) Fault State Unit,
      config.stack.length = 1 ∧ config.now.1.storage.paused = true ∧
      config.now.1.storage.configuration = Configuration.replay config.now.1.log := by
  obtain ⟨config, ran, waiting, paused⟩ := pausedMidway_runs
  exact ⟨config, waiting, paused,
    (configuration_replays fresh_deployed (Config.steps_of_run _ ran)).1⟩

/-- Tokens on the allowlist have a cap, tokens off it have none, and the zero address is never
on it. -/
structure Configuration.Capped (config : Configuration) : Prop where
  capped : ∀ token, config.allowedToken token = true ↔ config.maxTradeAmount token ≠ 0
  nonzero : config.allowedToken 0 = false

theorem Configuration.Capped.apply {config : Configuration} (capped : config.Capped)
    {event : Event} (fitting : config.Fits event) : (config.apply event).Capped := by
  cases event with
  | tokenAllowed token cap =>
      refine ⟨fun queried => ?_, ?_⟩
      · simp only [Configuration.apply, Function.update_apply]
        by_cases same : queried = token
        · simp only [same, ↓reduceIte, fitting.2, ne_eq, not_false_eq_true]
        · simp only [same, ↓reduceIte]
          exact capped.capped queried
      · simp only [Configuration.apply, Function.update_of_ne (Ne.symm fitting.1)]
        exact capped.nonzero
  | tokenRemoved token =>
      refine ⟨fun queried => ?_, ?_⟩
      · simp only [Configuration.apply, Function.update_apply]
        by_cases same : queried = token
        · simp only [same, ↓reduceIte, Bool.false_eq_true, ne_eq, not_true_eq_false]
        · simp only [same, ↓reduceIte]
          exact capped.capped queried
      · simp only [Configuration.apply, Function.update_apply]
        split
        · rfl
        · exact capped.nonzero
  | maxTradeAmountUpdated token previous cap =>
      refine ⟨fun queried => ?_, capped.nonzero⟩
      simp only [Configuration.apply, Function.update_apply]
      by_cases same : queried = token
      · simp only [same, ↓reduceIte, fitting.1, fitting.2.2, ne_eq, not_false_eq_true]
      · simp only [same, ↓reduceIte]
        exact capped.capped queried
  | swapExecuted | executorUpdated | deposited | withdrawn | unaccountedSwept | paused | unpaused
  | roleGranted | roleRevoked => exact ⟨capped.capped, capped.nonzero⟩

/-- In every configuration of every run a token can be traded exactly if its cap is not zero. -/
theorem allowedToken_iff_capped {World : Type} {world : World} {initial : State}
    (deployed : Deployed deployment initial)
    {config : Config Call External (Option Nat) Fault State World}
    (reached : Config.Steps (contract deployment) unrestricted (.idle (initial, world)) config) :
    (∀ token, config.now.1.storage.allowedToken token = true ↔
      config.now.1.storage.maxTradeAmount token ≠ 0) ∧
    config.now.1.storage.allowedToken 0 = false := by
  obtain ⟨events, -, chronicle⟩ := reports_of_steps reached
  have initially : initial.storage.configuration.Capped := by
    obtain ⟨events, -, constructed⟩ := deployed.reports
    refine constructed.keeps (fun config event _ appoints held => ?_)
      ⟨fun token => ⟨fun allowed => absurd allowed Bool.false_ne_true, fun capped => absurd rfl capped⟩,
        rfl⟩
    cases event with
    | roleGranted | executorUpdated => exact ⟨held.capped, held.nonzero⟩
    | _ => exact appoints.elim
  have capped := chronicle.keeps (fun _ _ _ fitting held => Configuration.Capped.apply held fitting) initially
  exact ⟨capped.capped, capped.nonzero⟩

theorem allowedToken_iff_capped_pausedMidway :
    ∃ config : Config Call External (Option Nat) Fault State Unit,
      config.stack.length = 1 ∧ config.now.1.storage.maxTradeAmount 6 = 100 ∧
      ∀ token, config.now.1.storage.allowedToken token = true ↔
        config.now.1.storage.maxTradeAmount token ≠ 0 := by
  obtain ⟨config, ran, waiting, capped⟩ : ∃ config,
      (Config.idle (fresh, ())).run (contract ⟨1, 2, 3⟩) pausedMidway = some config ∧
        config.stack.length = 1 ∧ config.now.1.storage.maxTradeAmount 6 = 100 :=
    ⟨_, rfl, rfl, rfl⟩
  exact ⟨config, waiting, capped,
    (allowedToken_iff_capped fresh_deployed (Config.steps_of_run _ ran)).1⟩

end Runs

end Vault
