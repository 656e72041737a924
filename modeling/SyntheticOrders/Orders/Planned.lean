import SyntheticOrders.Orders.Warrant

/-! # The tasks ask only what is warranted

One walk through the code of each task. The results are summed up in
`workers_planned`; nothing after this module looks at the code again.
-/

namespace Orders

open Interaction

variable {packages : Packages} {config : Config} {task : Task} {heard : Heard} {id : String}
  {update : Update} {order : Order}

/-- What is known after an update: how many rows it changed, if it did not fail, and
that it changed one if it returned a row. -/
structure Answered (heard : Heard) (id : String) (update : Update)
    (outcome : Except Failure (Option Order)) (later : Heard) : Prop where
  grown : heard <:+ later
  returns : ∀ found, outcome = .ok found → ∃ count,
    writes later = (id, update, .ok count) :: writes heard ∧ (found ≠ none → count ≠ 0) ∧
      (found = none → count = 0 ∨ ⟨.findById .lookup id, .ok none⟩ ∈ later)
  throws : ∀ failure, outcome = .error failure → ∃ answer,
    writes later = (id, update, answer) :: writes heard ∧
      ∀ count, answer = .ok count → ⟨.findById .lookup id, .error failure⟩ ∈ later
  sent : sent later = sent heard
  exchanges : (∃ answer, later = ⟨.updateMany id update, answer⟩ :: heard ∧
      (outcome = .ok none ∧ answer = .ok 0 ∨ ∃ failure, answer = .error failure)) ∨
    ∃ count, later = ⟨.findById .lookup id, outcome⟩ :: ⟨.updateMany id update, .ok count⟩ :: heard

theorem updateAndFind_follows (warrant : Warrant packages config task heard (.updateMany id update)) :
    Follows packages config task (OrderRepository.updateAndFind id update)
      (Answered heard id update) heard := by
  have asked : Follows packages config task (ask (.updateMany id update))
      (fun answer later => later = ⟨.updateMany id update, answer⟩ :: heard) heard :=
    .ask warrant fun _ _ _ _ => rfl
  refine asked.bind (fun count later same => ?_) (fun failure later same => ?_)
  · have written : writes later = (id, update, .ok count) :: writes heard := by
      rw [same, writes_updateMany]
    have grown : heard <:+ later := same ▸ List.suffix_cons _ _
    split
    · next unmatched =>
        refine ⟨grown, fun found none => ⟨count, written, fun some => ?_, fun _ => Or.inl unmatched⟩,
          (fun _ none => nomatch none), same ▸ sent_updateMany id update (.ok count) heard,
          Or.inl ⟨_, same, Or.inl ⟨rfl, by rw [unmatched]⟩⟩⟩
        exact absurd (Except.ok.inj none).symm some
    · next landed =>
        have read : Follows packages config task (OrderRepository.findById .lookup id)
            (fun answer last => last = ⟨.findById .lookup id, answer⟩ :: later) later :=
          .ask (.routine _ _ _ rfl) fun _ _ _ _ => rfl
        refine read.mono fun outcome last told => ?_
        have known : ⟨.findById .lookup id, outcome⟩ ∈ last := by
          rw [told]
          exact List.mem_cons_self
        have kept : writes last = writes later := by rw [told]; rfl
        refine ⟨grown.trans (told ▸ List.suffix_cons _ _), fun found returned => ?_,
          fun failure thrown => ?_, ?_, Or.inr ⟨count, told.trans (by rw [same])⟩⟩
        · refine ⟨count, kept.trans written, fun _ => landed, fun none => Or.inr ?_⟩
          rw [returned, none] at known
          exact known
        · exact ⟨.ok count, kept.trans written, fun _ _ => thrown ▸ known⟩
        · rw [told, same]
          rfl
  · refine ⟨same ▸ List.suffix_cons _ _, (fun found none => nomatch none),
      fun other thrown => ?_, ?_, Or.inl ⟨_, same, Or.inr ⟨failure, rfl⟩⟩⟩
    · exact ⟨.error failure, by rw [same, writes_updateMany], fun _ none => nomatch none⟩
    · rw [same]
      rfl

/-- An update whose answer does not matter. -/
theorem update_follows (warrant : Warrant packages config task heard (.updateMany id update))
    {α : Type} (value : α) :
    Follows packages config task
      (do
        let _ ← OrderRepository.updateAndFind id update
        pure value)
      (fun _ later => heard <:+ later) heard :=
  (updateAndFind_follows warrant).bind (fun _ _ answered => answered.grown)
    (fun _ _ answered => answered.grown)

/-- A loop whose body can be run after anything that has been heard meanwhile. -/
theorem foldlM_follows {α β : Type} {body : β → α → Service β} {items : List α}
    (step : ∀ item ∈ items, ∀ total later, heard <:+ later →
      Follows packages config task (body total item) (fun _ last => later <:+ last) later)
    (start : β) :
    Follows packages config task (items.foldlM body start) (fun _ _ => True) heard := by
  refine Async.wp_foldlM ((workers packages config).demand_mono _) body
    (fun _ later => heard <:+ later) _ items ?_ (fun _ _ _ => trivial) start heard
    (List.suffix_refl heard)
  intro item listed total later grown
  refine (step item listed total later grown).mono fun outcome last further => ?_
  cases outcome with
  | ok next => exact grown.trans further
  | error failure => trivial

section Execution

theorem quoteTier_routine (request : QuoteRequest) (fee : Nat) :
    Routine (UniswapAdapter.quoteTier request fee) := by
  refine .tryCatch (.bind (.ask rfl) fun pool => ?_) fun _ => .pure _
  split
  · exact .pure _
  · refine .bind (.ask rfl) fun liquidity => ?_
    split
    · exact .pure _
    · exact .bind (.ask rfl) fun _ => .bind (.ask rfl) fun _ => .pure _

theorem getQuote_routine (request : QuoteRequest) :
    Routine (UniswapAdapter.getQuote config request) := by
  refine .bind (.foldlM (fun quotes fee => .bind (quoteTier_routine request fee) fun _ => .pure _)
    _ _) fun quotes => ?_
  split
  · exact .throw _
  · exact .pure _

/-- The arguments that an execution prepares carry the execution id of its order. -/
theorem prepare_routine (order : Order) :
    Async.wp routineDemand (ExecutionService.prepare packages config order) fun outcome =>
      ∀ params, outcome = .ok params → params.executionId = order.executionId := by
  have fails : ∀ (failure : Failure) (params : ExecutionParams),
      Except.error failure = .ok params → params.executionId = order.executionId :=
    fun _ _ none => nomatch none
  refine Routine.yields (.ask rfl) (fun _ => ?_) fails
  refine Routine.yields (.throwIf _ _) (fun _ => ?_) fails
  refine Routine.yields (.ofExcept _) (fun _ => ?_) fails
  refine Routine.yields (.ofExcept _) (fun _ => ?_) fails
  refine Routine.yields (.ofExcept _) (fun _ => ?_) fails
  refine Routine.yields (.ofExcept _) (fun _ => ?_) fails
  refine Routine.yields (.ask rfl) (fun _ => ?_) fails
  refine Routine.yields (.throwIf _ _) (fun _ => ?_) fails
  refine Routine.yields (getQuote_routine _) (fun _ => ?_) fails
  refine Routine.yields (.ask rfl) (fun _ => ?_) fails
  refine Routine.yields (.throwIf _ _) (fun _ => ?_) fails
  refine Routine.yields (.ask rfl) (fun _ params built => ?_) fails
  cases built
  rfl

theorem handleFailure_follows (began : Began heard id order) (same : order.id = id)
    (failure : Failure) :
    Follows packages config (.executeOrder id) (ExecutionService.handleFailure order failure)
      (fun outcome later => Concluded id later outcome.isOk) heard := by
  subst same
  have reread : Follows packages config (.executeOrder order.id)
      (OrderRepository.findById .handleFailure order.id)
      (fun answer later => later = ⟨.findById .handleFailure order.id, answer⟩ :: heard) heard :=
    .ask (.reread _ heard order began) fun _ _ _ _ => rfl
  refine reread.bind (fun found later same => ?_) (fun failure later same => ?_)
  · have told : ⟨.findById .handleFailure order.id, .ok found⟩ ∈ later := by
      rw [same]
      exact List.mem_cons_self
    cases found with
    | none => exact .absent told
    | some current =>
        dsimp only
        split
        · next signed =>
            have handOff : Routine (Async.tryCatch (ask (.enqueueMonitor order.id))
              fun _ => pure ()) := .tryCatch (.ask rfl) fun _ => .pure _
            refine ((handOff.bind fun _ => .pure _).follows later).mono fun _ _ kept => ?_
            exact .deferred current (kept.grown.subset told) signed.1 signed.2 _
        · next unsigned =>
            have giveUp : Warrant packages config (.executeOrder order.id) later _ :=
              .giveUp _ later order (began.later (same ▸ List.suffix_cons _ _)) current told unsigned
                (slice failure.message 500)
            refine (updateAndFind_follows giveUp).bind (fun found last answered => ?_)
              fun thrown last answered => ?_
            · obtain ⟨count, written, -⟩ := answered.returns found rfl
              exact .failed current (answered.grown.subset told) _ (.ok count)
                (written ▸ List.mem_cons_self) _ fun _ => ⟨count, rfl⟩
            · obtain ⟨answer, written, -⟩ := answered.throws thrown rfl
              exact .failed current (answered.grown.subset told) _ answer
                (written ▸ List.mem_cons_self) _ fun returned => absurd returned Bool.false_ne_true
  · refine .unreread failure ?_
    rw [same]
    exact List.mem_cons_self

/-- From the claim on: sign, record the hash, broadcast. -/
theorem submitClaimed_follows (began : Began heard id order) (same : order.id = id) {count : Nat}
    (claimed : writes heard = [(id, claimUpdate order.version, .ok count)]) (landed : count ≠ 0)
    (unsent : sent heard = []) {params : ExecutionParams}
    (own : params.executionId = order.executionId) :
    Follows packages config (.executeOrder id)
      (ExecutionService.submitClaimed packages config order params)
      (fun outcome later => heard <:+ later ∧ (outcome.isOk = true → Concluded id later true))
      heard := by
  subst same
  have submitted : Follows packages config (.executeOrder order.id)
      (ExecutorContractClient.submit packages config params fun signedHash => do
        let _ ← OrderRepository.recordTxHash order.id signedHash
        pure ())
      (fun outcome later => heard <:+ later ∧ (outcome.isOk = true → ∃ txHash recorded,
        writes later = [(order.id, .recordTxHash txHash, .ok recorded),
          (order.id, claimUpdate order.version, .ok count)])) heard := by
    unfold ExecutorContractClient.submit
    split
    · exact ⟨List.suffix_refl heard, fun none => nomatch none⟩
    · next account signer =>
        refine ((Routine.ask rfl).follows heard).bind (fun _ first kept => ?_)
          fun _ _ kept => ⟨kept.1, fun none => nomatch none⟩
        refine ((Routine.ask rfl).follows first).bind (fun fees second kept' => ?_)
          fun _ _ kept' => ⟨kept.1.trans kept'.1, fun none => nomatch none⟩
        rcases encoding : packages.encodeExecuteSwap params with failure | data
        · exact ⟨kept.1.trans kept'.1, fun none => nomatch none⟩
        have prepared : Follows packages config (.executeOrder order.id)
            (ask (.prepareTransactionRequest account config.executorContract data
              (min fees.1 config.maxFeeCap) fees.2))
            (fun answer later => later = ⟨.prepareTransactionRequest account
              config.executorContract data (min fees.1 config.maxFeeCap) fees.2, answer⟩ :: second)
            second :=
          .ask (.routine _ _ _ rfl) fun _ _ _ _ => rfl
        refine prepared.bind (fun request third told => ?_) fun _ third told =>
          ⟨kept.1.trans (kept'.1.trans (told ▸ List.suffix_cons _ _)), fun none => nomatch none⟩
        have grown : heard <:+ third :=
          kept.1.trans (kept'.1.trans (told ▸ List.suffix_cons _ _))
        have written : writes third = [(order.id, claimUpdate order.version, .ok count)] := by
          rw [told, writes_routine rfl, kept'.2, kept.2, claimed]
        have silent : sent third = [] := by
          rw [told, sent_routine rfl, kept'.3, kept.3, unsent]
        cases signing : packages.signTransaction account request with
        | error failure => exact ⟨grown, fun none => nomatch none⟩
        | ok serialized =>
            have signs : Signs packages config third order serialized :=
              ⟨account, params, data, request, _, _, signer, own, encoding, told ▸ List.mem_cons_self,
                signing⟩
            have recorded : Follows packages config (.executeOrder order.id)
                (do
                  let _ ← OrderRepository.recordTxHash order.id (packages.keccak256 serialized)
                  pure ())
                (fun outcome later => third <:+ later ∧ sent later = [] ∧
                  (outcome.isOk = true → ∃ changed, writes later =
                    [(order.id, .recordTxHash (packages.keccak256 serialized), .ok changed),
                      (order.id, claimUpdate order.version, .ok count)])) third := by
              refine (updateAndFind_follows (.record _ third order (began.later grown) count written
                landed serialized signs)).bind (fun found later answered => ?_)
                fun failure later answered =>
                  ⟨answered.grown, answered.sent.trans silent, fun none => nomatch none⟩
              obtain ⟨changed, known, -⟩ := answered.returns found rfl
              exact ⟨answered.grown, answered.sent.trans silent,
                fun _ => ⟨changed, known.trans (by rw [written])⟩⟩
            refine recorded.bind (fun value last known => ?_) fun _ _ known =>
              ⟨grown.trans known.1, fun none => nomatch none⟩
            obtain ⟨changed, both⟩ := known.2.2 rfl
            have broadcast : Warrant packages config (.executeOrder order.id) last
                (.sendRawTransaction serialized) :=
              .broadcast _ last order (began.later (grown.trans known.1)) count changed serialized
                both landed known.2.1
            exact .ask broadcast fun answer _ _ _ =>
              ⟨(grown.trans known.1).trans (List.suffix_cons _ _), fun _ => ⟨_, changed, both⟩⟩
  refine submitted.bind (fun txHash later held => ?_) fun _ _ held =>
    ⟨held.1, fun none => nomatch none⟩
  obtain ⟨hash, recorded, written⟩ := held.2 rfl
  have handOff : Routine (do
      ask (.enqueueMonitor order.id)
      pure (⟨order.id, .submitted, some txHash, none⟩ : ExecutionOutcome)) :=
    .bind (.ask rfl) fun _ => .pure _
  refine (handOff.follows later).mono fun _ last kept => ⟨held.1.trans kept.1, fun _ => ?_⟩
  exact .recorded order (began.later (held.1.trans kept.1)) hash recorded count
    (kept.2.trans written)

theorem attempt_follows (began : Began heard id order) (same : order.id = id)
    (unwritten : writes heard = []) (unsent : sent heard = []) (unread : rereads heard = [])
    (unspent : ⟨.isExecuted order.executionId, .ok false⟩ ∈ heard) :
    Follows packages config (.executeOrder id) (ExecutionService.attempt packages config order)
      (fun outcome later => heard <:+ later ∧ (outcome.isOk = true → Concluded id later true))
      heard := by
  refine (routine_follows (prepare_routine order) heard).bind (fun params later held => ?_)
    fun _ _ held => ⟨held.1.grown, fun none => nomatch none⟩
  obtain ⟨kept, own⟩ := held
  have claim : Warrant packages config (.executeOrder id) later
      (.updateMany id (claimUpdate order.version)) :=
    .claim id later order (began.later kept.1) (kept.2.trans unwritten) (kept.4.trans unread)
      (kept.1.subset unspent)
  have claimed : Follows packages config (.executeOrder id)
      (OrderRepository.transitionStatus order.id .triggered order.version .executing none none)
      (Answered later id (claimUpdate order.version)) later := by
    rw [same]
    exact updateAndFind_follows claim
  refine claimed.bind (fun found last answered => ?_) fun _ _ answered =>
    ⟨kept.1.trans answered.grown, fun none => nomatch none⟩
  obtain ⟨count, written, landed, nothing⟩ := answered.returns found rfl
  have grown : heard <:+ last := kept.1.trans answered.grown
  rw [kept.2, unwritten] at written
  cases found with
  | none => exact ⟨grown, fun _ => .lost order (began.later grown) count written (nothing rfl)⟩
  | some row =>
      refine (submitClaimed_follows (began.later grown) same written
        (landed (Option.some_ne_none _)) ?_ (own params rfl)).mono fun _ _ held =>
        ⟨grown.trans held.1, held.2⟩
      rw [answered.sent, kept.3, unsent]

theorem executeOrder_follows (id : String) :
    Follows packages config (.executeOrder id)
      (ExecutionService.executeOrder packages config id)
      (fun outcome later => Concluded id later outcome.isOk) [] := by
  have read : Follows packages config (.executeOrder id) (OrderRepository.findById .lookup id)
      (fun answer later => later = [⟨.findById .lookup id, answer⟩] ∧
        ∀ order, answer = .ok (some order) → order.id = id) [] := by
    refine .ask (.routine _ _ _ rfl) fun answer before after executes => ⟨rfl, fun order told => ?_⟩
    subst told
    exact Table.find_id executes.2.symm
  refine read.bind (fun found later known => ?_) fun _ _ known => .broken (known.1 ▸ rfl)
  obtain ⟨rfl, own⟩ := known
  cases found with
  | none =>
      exact .idle none (List.mem_singleton_self _) (fun _ listed => nomatch listed) rfl
  | some order =>
      have same := own order rfl
      dsimp only
      split
      · next untriggered =>
          refine .idle (some order) (List.mem_singleton_self _) (fun other listed => ?_) rfl
          rwa [← Option.mem_some.mp listed]
      · next triggered =>
          have began : Began [⟨.findById .lookup id, .ok (some order)⟩] id order :=
            ⟨rfl, Decidable.not_not.mp triggered⟩
          have asked : Follows packages config (.executeOrder id) (ask (.isExecuted order.executionId))
              (fun answer later => later = [⟨.isExecuted order.executionId, answer⟩,
                ⟨.findById .lookup id, .ok (some order)⟩])
              [⟨.findById .lookup id, .ok (some order)⟩] :=
            .ask (.routine _ _ _ rfl) fun _ _ _ _ => rfl
          refine asked.bind (fun consumed later told => ?_) fun _ _ told => .broken (told ▸ rfl)
          have grown : [⟨.findById .lookup id, .ok (some order)⟩] <:+ later :=
            told ▸ List.suffix_cons _ _
          have unwritten : writes later = [] := by rw [told]; rfl
          have unsent : sent later = [] := by rw [told]; rfl
          have unread : rereads later = [] := by rw [told]; rfl
          have answered : ⟨.isExecuted order.executionId, .ok consumed⟩ ∈ later := by
            rw [told]
            exact List.mem_cons_self
          cases consumed with
          | true =>
              rw [if_pos rfl, same]
              have adopt : Warrant packages config (.executeOrder id) later _ :=
                .adopt id later order (began.later grown) unwritten answered
                  "reconciled: executionId already consumed on-chain"
              refine (updateAndFind_follows adopt).bind (fun found last held => ?_)
                fun failure last held => ?_
              · obtain ⟨count, written, -⟩ := held.returns found rfl
                rw [unwritten] at written
                exact .adopted order (began.later (grown.trans held.grown)) _ (.ok count) written _
                  fun _ => ⟨count, rfl⟩
              · obtain ⟨answer, written, -⟩ := held.throws failure rfl
                rw [unwritten] at written
                exact .adopted order (began.later (grown.trans held.grown)) _ answer written _
                  fun returned => absurd returned Bool.false_ne_true
          | false =>
              rw [if_neg Bool.false_ne_true]
              refine (attempt_follows (began.later grown) same unwritten unsent unread
                answered).tryCatch
                (fun _ _ held => held.2 rfl) fun failure last held => ?_
              exact handleFailure_follows (began.later (grown.trans held.1)) same failure

end Execution

section Lifecycle

theorem createOrder_follows (input : CreateOrderInput) :
    Follows packages config (.createOrder input)
      (OrderService.createOrder packages config input) (fun _ _ => True) heard := by
  have created : ∀ (data : CreateOrderData) (later : Heard),
      data.executionId = deriveExecutionId packages data.id →
      Follows packages config (.createOrder input) (ask (.create data)) (fun _ _ => True) later :=
    fun data later derived => .ask (.create input later data derived) fun _ _ _ _ => trivial
  refine ((Routine.ofExcept _).follows heard).bind (fun _ _ _ => ?_) fun _ _ _ => trivial
  refine ((Routine.ofExcept _).follows _).bind (fun _ _ _ => ?_) fun _ _ _ => trivial
  refine ((Routine.ofExcept _).follows _).bind (fun _ _ _ => ?_) fun _ _ _ => trivial
  refine ((Routine.throwIf _ _).follows _).bind (fun _ _ _ => ?_) fun _ _ _ => trivial
  refine ((Routine.ask rfl).follows _).bind (fun _ _ _ => ?_) fun _ _ _ => trivial
  refine ((Routine.throwIf _ _).follows _).bind (fun _ _ _ => ?_) fun _ _ _ => trivial
  refine ((Routine.ask rfl).follows _).bind (fun _ _ _ => ?_) fun _ _ _ => trivial
  refine ((Routine.ask rfl).follows _).bind (fun _ _ _ => ?_) fun _ _ _ => trivial
  refine ((Routine.ask rfl).follows _).bind (fun _ _ _ => ?_) fun _ _ _ => trivial
  refine ((Routine.throwIf _ _).follows _).bind (fun _ _ _ => ?_) fun _ _ _ => trivial
  refine ((Routine.throwIf _ _).follows _).bind (fun _ _ _ => ?_) fun _ _ _ => trivial
  refine ((Routine.ofExcept _).follows _).bind (fun _ _ _ => ?_) fun _ _ _ => trivial
  refine ((Routine.throwIf _ _).follows _).bind (fun _ _ _ => ?_) fun _ _ _ => trivial
  refine ((Routine.ask rfl).follows _).bind (fun _ _ _ => ?_) fun _ _ _ => trivial
  refine ((Routine.ofExcept _).follows _).bind (fun _ _ _ => ?_) fun _ _ _ => trivial
  refine ((Routine.ofExcept _).follows _).bind (fun _ _ _ => ?_) fun _ _ _ => trivial
  exact created _ _ rfl

/-- The order that `getOrder` returns has been read. -/
theorem getOrder_follows :
    Follows packages config task (OrderService.getOrder id)
      (fun outcome later => heard <:+ later ∧ ∀ order, outcome = .ok order →
        ⟨.findById .lookup id, .ok (some order)⟩ ∈ later) heard := by
  have read : Follows packages config task (OrderRepository.findById .lookup id)
      (fun answer later => later = ⟨.findById .lookup id, answer⟩ :: heard) heard :=
    .ask (.routine _ _ _ rfl) fun _ _ _ _ => rfl
  refine read.bind (fun found later told => ?_) fun failure later told => ?_
  · have grown : heard <:+ later := told ▸ List.suffix_cons _ _
    cases found with
    | none => exact ⟨grown, fun order none => nomatch none⟩
    | some order =>
        refine ⟨grown, fun other same => ?_⟩
        cases same
        rw [told]
        exact List.mem_cons_self
  · exact ⟨told ▸ List.suffix_cons _ _, fun order none => nomatch none⟩

/-- A check that passes. -/
theorem throwIf_follows (condition : Prop) [Decidable condition] (failure : Failure) :
    Follows packages config task (Async.throwIf condition failure)
      (fun outcome later => later = heard ∧ (outcome = .ok () → ¬ condition)) heard := by
  unfold Async.throwIf
  split
  · exact ⟨rfl, fun none => nomatch none⟩
  · next passed => exact ⟨rfl, fun _ => passed⟩

/-- A cancellation that returns has landed. -/
theorem cancelOrder_follows (id : String) :
    Follows packages config (.cancelOrder id) (OrderService.cancelOrder id)
      (fun outcome later => outcome.isOk = true → Cancels id later) heard := by
  refine getOrder_follows.bind (fun order later read => ?_) fun _ _ _ none => nomatch none
  refine (throwIf_follows _ _).bind (fun _ _ passed => ?_) fun _ _ _ none => nomatch none
  obtain ⟨rfl, allowed⟩ := passed
  have cancellable : order.status.isUserCancellable := by simpa using allowed rfl
  have cancel : Warrant packages config (.cancelOrder id) _
      (.updateMany id (.transitionStatus order.status order.version .cancelled none none)) :=
    .cancel id _ order (read.2 order rfl) cancellable
  refine (updateAndFind_follows cancel).bind (fun found last answered => ?_)
    fun _ _ _ none => nomatch none
  obtain ⟨count, written, landed, -⟩ := answered.returns found rfl
  cases found with
  | some updated =>
      intro _
      exact ⟨order.status, order.version, count, cancellable, landed (Option.some_ne_none _),
        mem_writes.mp (written ▸ List.mem_cons_self)⟩
  | none =>
      exact getOrder_follows.bind (fun _ _ _ none => nomatch none) fun _ _ _ none => nomatch none

theorem markTriggered_follows (id : String) :
    Follows packages config (.markTriggered id) (OrderService.markTriggered id) (fun _ _ => True)
      heard := by
  refine getOrder_follows.bind (fun order later read => ?_) fun _ _ _ => trivial
  refine (throwIf_follows _ _).bind (fun _ _ passed => ?_) fun _ _ _ => trivial
  obtain ⟨rfl, allowed⟩ := passed
  have mark : Warrant packages config (.markTriggered id) _
      (.updateMany id (.transitionStatus order.status order.version .triggered none none)) :=
    .mark id _ order (read.2 order rfl) (by simpa using allowed rfl)
  exact (updateAndFind_follows mark).mono fun _ _ _ => trivial

theorem HandsOff.silent (unwritten : writes heard = []) : HandsOff heard := by
  rintro later older id version count rfl
  have written : (id, triggerUpdate version, .ok count) ∈ writes
      (later ++ ⟨.updateMany id (triggerUpdate version), .ok count⟩ :: older) :=
    mem_writes.mpr (List.mem_append_right _ List.mem_cons_self)
  rw [unwritten] at written
  exact absurd written List.not_mem_nil

/-- Nothing is left to hand off after a claim and what has been heard since, if the order
has been handed off meanwhile. -/
theorem HandsOff.claimed (handsOff : HandsOff heard) (since : Heard) {version : Nat}
    {answer : Except Failure Nat} (unwritten : writes since = [])
    (handed : ∀ count, answer = .ok count → count ≠ 0 →
      (∃ answer, ⟨.enqueueExecution id, answer⟩ ∈ since) ∨
        (∃ failure, ⟨.findById .lookup id, .error failure⟩ ∈ since) ∨
          ⟨.findById .lookup id, .ok none⟩ ∈ since) :
    HandsOff (since ++ ⟨.updateMany id (triggerUpdate version), answer⟩ :: heard) := by
  intro later older target version' count same landed
  rcases List.append_eq_append_iff.mp same with ⟨front, rfl, rest⟩ | ⟨front, rfl, rest⟩
  · cases front with
    | nil =>
        cases rest
        rw [List.append_nil]
        exact handed count rfl landed
    | cons exchange front =>
        obtain ⟨rfl, deeper⟩ := List.cons.inj rest
        rcases handsOff front older target version' count deeper landed with
          ⟨answer, known⟩ | ⟨failure, known⟩ | known
        · exact Or.inl ⟨answer, List.mem_append_right _ (List.mem_cons_of_mem _ known)⟩
        · exact Or.inr (Or.inl ⟨failure, List.mem_append_right _ (List.mem_cons_of_mem _ known)⟩)
        · exact Or.inr (Or.inr (List.mem_append_right _ (List.mem_cons_of_mem _ known)))
  · cases front with
    | nil =>
        cases rest
        rw [List.append_nil] at handed
        exact handed count rfl landed
    | cons exchange front =>
        obtain ⟨rfl, -⟩ := List.cons.inj rest
        have written : (target, triggerUpdate version', .ok count) ∈ writes (later ++
            ⟨.updateMany target (triggerUpdate version'), .ok count⟩ :: front) :=
          mem_writes.mpr (List.mem_append_right _ List.mem_cons_self)
        rw [unwritten] at written
        exact absurd written List.not_mem_nil

/-- One candidate of a trigger run. -/
theorem consider_follows {asset : String} {quote : PriceQuote} {candidates : List Order}
    (quoted : ⟨.getValidatedPrice asset, .ok quote⟩ ∈ heard)
    (read : ⟨.findTriggerable quote.price config.batchSize, .ok candidates⟩ ∈ heard)
    (listed : order ∈ candidates) (handsOff : HandsOff heard) (result : TriggerRunResult) :
    Follows packages config (.triggerRun asset) (TriggerEngine.consider quote.price result order)
      (fun _ later => heard <:+ later ∧ HandsOff later) heard := by
  unfold TriggerEngine.consider
  split
  · exact ⟨List.suffix_refl heard, handsOff⟩
  · next satisfied =>
      have met : isTriggered order.side order.triggerPrice quote.price := by simpa using satisfied
      refine (updateAndFind_follows (.trigger asset heard quote candidates order quoted read listed
        met)).bind (fun found later answered => ?_) fun failure later answered => ?_
      · obtain ⟨count, written, landed, nothing⟩ := answered.returns found rfl
        cases found with
        | none =>
            refine ⟨answered.grown, ?_⟩
            rcases answered.exchanges with ⟨answer, rfl, ⟨-, rfl⟩ | ⟨failure, rfl⟩⟩ | ⟨count, rfl⟩
            · exact handsOff.claimed [] rfl fun count same landed =>
                absurd (Except.ok.inj same).symm landed
            · exact handsOff.claimed [] rfl fun count same => nomatch same
            · exact handsOff.claimed [_] rfl fun _ _ _ =>
                Or.inr (Or.inr (List.mem_singleton_self _))
        | some row =>
            have enqueued : Warrant packages config (.triggerRun asset) later
                (.enqueueExecution order.id) :=
              .handOff asset later quote candidates order (answered.grown.subset quoted)
                (answered.grown.subset read) listed met count
                (mem_writes.mp (written ▸ List.mem_cons_self)) (landed (Option.some_ne_none _))
            have asked : Follows packages config (.triggerRun asset)
                (ask (.enqueueExecution order.id))
                (fun _ last => heard <:+ last ∧ HandsOff last) later := by
              refine .ask enqueued fun answer _ _ _ =>
                ⟨answered.grown.trans (List.suffix_cons _ _), ?_⟩
              rcases answered.exchanges with ⟨answer, rfl, ⟨none, -⟩ | ⟨failure, rfl⟩⟩ | ⟨count, rfl⟩
              · cases none
              · exact handsOff.claimed [_] rfl fun count same => nomatch same
              · exact handsOff.claimed [_, _] rfl fun _ _ _ =>
                  Or.inl ⟨answer, List.mem_cons_self⟩
            have handed : Follows packages config (.triggerRun asset) (TriggerEngine.handOff order)
                (fun _ last => heard <:+ last ∧ HandsOff last) later := by
              have reported : Follows packages config (.triggerRun asset)
                  (do
                    ask (.enqueueExecution order.id)
                    pure true)
                  (fun _ last => heard <:+ last ∧ HandsOff last) later :=
                asked.bind (fun _ _ held => held) fun _ _ held => held
              exact reported.tryCatch (fun _ _ held => held) fun _ _ held => held
            exact handed.bind (fun _ _ held => held) fun _ _ held => held
      · refine ⟨answered.grown, ?_⟩
        rcases answered.exchanges with ⟨answer, rfl, ⟨none, -⟩ | ⟨failure, rfl⟩⟩ | ⟨count, rfl⟩
        · cases none
        · exact handsOff.claimed [] rfl fun count same => nomatch same
        · exact handsOff.claimed [_] rfl fun _ _ _ =>
            Or.inr (Or.inl ⟨failure, List.mem_singleton_self _⟩)

theorem run_follows (asset : String) :
    Follows packages config (.triggerRun asset) (TriggerEngine.run config asset)
      (fun _ later => HandsOff later) [] := by
  have priced : Follows packages config (.triggerRun asset) (ask (.getValidatedPrice asset))
      (fun answer later => later = [⟨.getValidatedPrice asset, answer⟩]) [] :=
    .ask (.routine _ _ _ rfl) fun _ _ _ _ => rfl
  refine priced.bind (fun quote later told => ?_) fun _ _ told => .silent (told ▸ rfl)
  have quoted : ⟨.getValidatedPrice asset, .ok quote⟩ ∈ later := by
    rw [told]
    exact List.mem_cons_self
  have selected : Follows packages config (.triggerRun asset)
      (ask (.findTriggerable quote.price config.batchSize))
      (fun answer last => last = ⟨.findTriggerable quote.price config.batchSize, answer⟩ :: later)
      later :=
    .ask (.routine _ _ _ rfl) fun _ _ _ _ => rfl
  refine selected.bind (fun candidates last listed => ?_) fun _ _ listed =>
    .silent (listed ▸ told ▸ rfl)
  have read : ⟨.findTriggerable quote.price config.batchSize, .ok candidates⟩ ∈ last := by
    rw [listed]
    exact List.mem_cons_self
  have quoted' : ⟨.getValidatedPrice asset, .ok quote⟩ ∈ last := by
    rw [listed]
    exact List.mem_cons_of_mem _ quoted
  refine Async.wp_foldlM ((workers packages config).demand_mono _) (TriggerEngine.consider quote.price)
    (fun _ later => last <:+ later ∧ HandsOff later) _ candidates ?_ (fun _ _ held => held.2) _ last
    ⟨List.suffix_refl last, .silent (listed ▸ told ▸ rfl)⟩
  intro order known total later held
  refine (consider_follows (held.1.subset quoted') (held.1.subset read) known held.2 total).mono
    fun outcome _ further => ?_
  cases outcome with
  | ok next => exact ⟨held.1.trans further.1, further.2⟩
  | error failure => exact further.2

end Lifecycle

section Monitor

/-- What an outcome says of the transaction it is about. -/
def Evidence (packages : Packages) (config : Config) (heard : Heard) (txHash executionId : Hex) :
    TransactionOutcome → Prop
  | .success hash blockNumber gasUsed amountOut => hash = txHash ∧ ∃ receipt : Receipt,
      ⟨.getTransactionReceipt txHash, .ok receipt⟩ ∈ heard ∧ receipt.success = true ∧
        blockNumber = receipt.blockNumber ∧ gasUsed = receipt.gasUsed ∧
        amountOut = TransactionMonitor.decodeAmountOut packages config receipt.logs
  | .reverted hash blockNumber gasUsed _ => hash = txHash ∧ ∃ receipt : Receipt,
      ⟨.getTransactionReceipt txHash, .ok receipt⟩ ∈ heard ∧ receipt.success = false ∧
        blockNumber = receipt.blockNumber ∧ gasUsed = receipt.gasUsed
  | .droppedButExecuted hash => hash = txHash ∧ ⟨.isExecuted executionId, .ok true⟩ ∈ heard
  | .droppedNotExecuted hash => hash = txHash ∧ ⟨.isExecuted executionId, .ok false⟩ ∈ heard
  | .pending .. | .rpcError .. => True

theorem readReceipt_follows (txHash executionId : Hex) :
    Follows packages config task (TransactionMonitor.readReceipt packages config txHash)
      (fun outcome later => heard <:+ later ∧ ∀ found, outcome = .ok found →
        Evidence packages config later txHash executionId found) heard := by
  have asked : Follows packages config task (ask (.getTransactionReceipt txHash))
      (fun answer later => later = ⟨.getTransactionReceipt txHash, answer⟩ :: heard) heard :=
    .ask (.routine _ _ _ rfl) fun _ _ _ _ => rfl
  refine asked.bind (fun receipt later told => ?_) fun _ _ told =>
    ⟨told ▸ List.suffix_cons _ _, fun _ none => nomatch none⟩
  have grown : heard <:+ later := told ▸ List.suffix_cons _ _
  have known : ⟨.getTransactionReceipt txHash, .ok receipt⟩ ∈ later := by
    rw [told]
    exact List.mem_cons_self
  split
  · next success =>
      refine ⟨grown, fun found same => ?_⟩
      cases same
      exact ⟨rfl, receipt, known, success, rfl, rfl, rfl⟩
  · next failed =>
      have decoded : Routine (TransactionMonitor.decodeRevertReason txHash receipt.blockNumber) :=
        .tryCatch (.bind (.ask rfl) fun _ => .bind (.ask rfl) fun _ => .pure _) fun _ => .pure _
      refine (decoded.follows later).bind (fun reason last kept => ?_) fun _ _ kept =>
        ⟨grown.trans kept.1, fun _ none => nomatch none⟩
      refine ⟨grown.trans kept.1, fun found same => ?_⟩
      cases same
      exact ⟨rfl, receipt, kept.1.subset known, by simpa using failed, rfl, rfl⟩

theorem askContract_follows (txHash executionId : Hex) :
    Follows packages config task (TransactionMonitor.askContract txHash executionId)
      (fun outcome later => heard <:+ later ∧ ∀ found, outcome = .ok found →
        Evidence packages config later txHash executionId found) heard := by
  have asked : Follows packages config task (ask (.isExecuted executionId))
      (fun answer later => later = ⟨.isExecuted executionId, answer⟩ :: heard) heard :=
    .ask (.routine _ _ _ rfl) fun _ _ _ _ => rfl
  have classified : Follows packages config task
      (do
        let consumed ← ask (.isExecuted executionId)
        pure (if consumed then .droppedButExecuted txHash else .droppedNotExecuted txHash))
      (fun outcome later => heard <:+ later ∧ ∀ found, outcome = .ok found →
        Evidence packages config later txHash executionId found) heard := by
    refine asked.bind (fun consumed later told => ?_) fun _ _ told =>
      ⟨told ▸ List.suffix_cons _ _, fun _ none => nomatch none⟩
    have known : ⟨.isExecuted executionId, .ok consumed⟩ ∈ later := by
      rw [told]
      exact List.mem_cons_self
    refine ⟨told ▸ List.suffix_cons _ _, fun found same => ?_⟩
    cases same
    cases consumed with
    | true => exact ⟨rfl, known⟩
    | false => exact ⟨rfl, known⟩
  refine classified.tryCatch (fun _ _ held => held) fun _ _ held => ⟨held.1, fun found same => ?_⟩
  cases same
  trivial

theorem getOutcome_follows (txHash executionId : Hex) (submittedAt : Nat) :
    Follows packages config task
      (TransactionMonitor.getOutcome packages config txHash executionId submittedAt)
      (fun outcome later => heard <:+ later ∧ ∀ found, outcome = .ok found →
        Evidence packages config later txHash executionId found) heard := by
  refine (readReceipt_follows txHash executionId).tryCatch (fun _ _ held => held)
    fun failure later held => ?_
  have grown := held.1
  split
  · refine ((Routine.ask rfl).follows later).bind (fun now first kept => ?_) fun _ _ kept =>
      ⟨grown.trans kept.1, fun _ none => nomatch none⟩
    have looked : Follows packages config task
        (TransactionMonitor.lookForTransaction txHash (now - submittedAt))
        (fun outcome last => heard <:+ last ∧ ∀ found, outcome = .ok (some found) →
          Evidence packages config last txHash executionId found) first := by
      have seen : Follows packages config task
          (do
            let _ ← ask (.getTransaction txHash)
            pure (some (.pending txHash (now - submittedAt))))
          (fun outcome last => heard <:+ last ∧ ∀ found, outcome = .ok (some found) →
            Evidence packages config last txHash executionId found) first := by
        refine ((Routine.ask rfl).follows first).bind (fun _ _ known => ?_) fun _ _ known => ?_
        · refine ⟨(grown.trans kept.1).trans known.1, fun found same => ?_⟩
          cases same
          trivial
        · exact ⟨(grown.trans kept.1).trans known.1, fun _ none => nomatch none⟩
      refine seen.tryCatch (fun _ _ held => held) fun error last held => ⟨held.1, fun found same => ?_⟩
      split at same
      · cases same
      · cases same
        trivial
    refine looked.bind (fun found last known => ?_) fun _ _ known =>
      ⟨known.1, fun _ none => nomatch none⟩
    cases found with
    | some outcome =>
        refine ⟨known.1, fun other same => ?_⟩
        cases same
        exact known.2 outcome rfl
    | none =>
        dsimp only
        split
        · refine ⟨known.1, fun other same => ?_⟩
          cases same
          trivial
        · exact (askContract_follows txHash executionId).mono fun _ _ asked =>
            ⟨known.1.trans asked.1, asked.2⟩
  · refine ⟨grown, fun found same => ?_⟩
    cases same
    trivial

theorem Monitored.later {txHash : Hex} {later : Heard} (monitored : Monitored heard order txHash)
    (grown : heard <:+ later) : Monitored later order txHash :=
  ⟨grown.subset monitored.read, monitored.executing, monitored.recorded, monitored.submitted⟩

theorem apply_follows (monitors : task.monitors) {txHash : Hex}
    (monitored : Monitored heard order txHash) (outcome : TransactionOutcome)
    (evidence : Evidence packages config heard txHash order.executionId outcome) :
    Follows packages config task (TxMonitorService.apply order outcome)
      (fun _ later => heard <:+ later) heard := by
  cases outcome with
  | success hash blockNumber gasUsed amountOut =>
      obtain ⟨rfl, receipt, found, success, rfl, rfl, rfl⟩ := evidence
      exact update_follows (.confirm task monitors heard order hash monitored receipt found success) _
  | reverted hash blockNumber gasUsed reason =>
      obtain ⟨rfl, receipt, found, success, rfl, rfl⟩ := evidence
      exact update_follows
        (.revert task monitors heard order hash monitored receipt found success reason) _
  | pending => exact List.suffix_refl heard
  | droppedNotExecuted hash =>
      obtain ⟨rfl, unspent⟩ := evidence
      exact update_follows (.dropped task monitors heard order hash monitored unspent _) _
  | droppedButExecuted hash =>
      obtain ⟨rfl, consumed⟩ := evidence
      exact update_follows (.settled task monitors heard order hash monitored consumed) _
  | rpcError => exact List.suffix_refl heard

theorem check_follows (monitors : task.monitors) (id : String) :
    Follows packages config task (TxMonitorService.check packages config id)
      (fun _ later => heard <:+ later) heard := by
  have read : Follows packages config task (OrderRepository.findById .lookup id)
      (fun answer later => later = ⟨.findById .lookup id, answer⟩ :: heard ∧
        ∀ order, answer = .ok (some order) → order.id = id) heard := by
    refine .ask (.routine _ _ _ rfl) fun answer before after executes => ⟨rfl, fun order told => ?_⟩
    subst told
    exact Table.find_id executes.2.symm
  refine read.bind (fun found later known => ?_) fun _ _ known => known.1 ▸ List.suffix_cons _ _
  have grown : heard <:+ later := known.1 ▸ List.suffix_cons _ _
  cases found with
  | none => exact grown
  | some order =>
      have told : ⟨.findById .lookup order.id, .ok (some order)⟩ ∈ later := by
        rw [known.2 order rfl, known.1]
        exact List.mem_cons_self
      dsimp only
      split
      · exact grown
      · next executing =>
          have executing := Decidable.not_not.mp executing
          split
          · next txHash submittedAt recorded submitted =>
              have monitored : Monitored later order txHash :=
                ⟨told, executing, recorded, by rw [submitted]; exact Option.some_ne_none _⟩
              have polled : Follows packages config task
                  (OrderRepository.incrementMonitorAttempts order.id)
                  (fun _ last => later <:+ last) later := by
                have asked : Follows packages config task
                    (ask (.updateMany order.id .incrementMonitorAttempts))
                    (fun _ last => later <:+ last) later :=
                  .ask (.poll task monitors later order txHash monitored) fun _ _ _ _ =>
                    List.suffix_cons _ _
                exact asked.bind (fun _ _ held => held) fun _ _ held => held
              refine polled.bind (fun _ first kept => ?_) fun _ _ kept => grown.trans kept
              refine (getOutcome_follows txHash order.executionId submittedAt).bind
                (fun outcome second evidence => ?_) fun _ _ evidence =>
                grown.trans (kept.trans evidence.1)
              have onward : later <:+ second := kept.trans evidence.1
              exact (apply_follows monitors (monitored.later onward) outcome
                (evidence.2 outcome rfl)).mono fun _ _ last => (grown.trans onward).trans last
          · next unsigned =>
              have missing : truthy order.txHash = none ∨ order.submittedAt = none := by
                cases recorded : truthy order.txHash with
                | none => exact Or.inl rfl
                | some txHash =>
                    cases submitted : order.submittedAt with
                    | none => exact Or.inr rfl
                    | some time => exact absurd submitted (unsigned txHash time recorded)
              exact (update_follows (.unsubmitted task monitors later order told executing missing
                _) _).mono fun _ _ last => grown.trans last

theorem sweepStuck_follows (olderThanMs limit : Nat) :
    Follows packages config (.sweepStuck olderThanMs limit)
      (TxMonitorService.sweepStuck packages config olderThanMs limit) (fun _ _ => True) heard := by
  refine ((Routine.ask rfl).follows heard).bind (fun stuck later _ => ?_) fun _ _ _ => trivial
  refine foldlM_follows (fun order _ results last _ => ?_) _
  exact (check_follows rfl order.id).bind (fun _ _ grown => grown) fun _ _ grown => grown

end Monitor

section Reconciler

variable {α β : Type}

/-- `Follows` for the code of a pass, whatever the report. -/
def PassFollows (packages : Packages) (config : Config) (pass : Pass α)
    (post : Except Failure α → Heard → Prop) (heard : Heard) : Prop :=
  ∀ report, Tracked.wp ((workers packages config).demand (Warrant packages config .reconcile)) pass
    (fun outcome _ => post outcome) report heard

theorem Follows.lift {code : Service α} {post : Except Failure α → Heard → Prop}
    (follows : Follows packages config .reconcile code post heard) :
    PassFollows packages config (Tracked.lift code) post heard := by
  intro report
  rw [Tracked.wp_lift]
  exact follows

theorem PassFollows.modify (change : ReconcileReport → ReconcileReport) :
    PassFollows packages config (Tracked.modify change) (fun _ later => heard <:+ later) heard :=
  fun _ => List.suffix_refl heard

theorem PassFollows.bind {pass : Pass α} {next : α → Pass β}
    {middle : Except Failure α → Heard → Prop} {post : Except Failure β → Heard → Prop}
    (follows : PassFollows packages config pass middle heard)
    (goesOn : ∀ value later, middle (.ok value) later →
      PassFollows packages config (next value) post later)
    (fails : ∀ failure later, middle (.error failure) later → post (.error failure) later) :
    PassFollows packages config (pass >>= next) post heard := by
  intro report
  rw [Tracked.wp_bind]
  refine Program.wp_mono ((workers packages config).demand_mono _) (pass report) ?_ heard
    (follows report)
  rintro ⟨outcome, kept⟩ later held
  cases outcome with
  | ok value => exact goesOn value later held kept
  | error failure => exact fails failure later held

theorem PassFollows.forM {body : α → Pass Unit} {items : List α}
    (step : ∀ item ∈ items, ∀ later, heard <:+ later →
      PassFollows packages config (body item) (fun _ last => later <:+ last) later) :
    PassFollows packages config (items.forM body) (fun _ later => heard <:+ later) heard := by
  suffices general : ∀ later, heard <:+ later →
      PassFollows packages config (items.forM body) (fun _ last => heard <:+ last) later from
    general heard (List.suffix_refl heard)
  induction items with
  | nil => exact fun later grown _ => grown
  | cons item rest ih =>
      intro later grown
      refine (step item List.mem_cons_self later grown).bind (fun _ last further => ?_)
        fun _ last further => grown.trans further
      exact ih (fun other listed => step other (List.mem_cons_of_mem _ listed)) last
        (grown.trans further)

theorem PassFollows.safely (name : String) {pass : Pass Unit}
    (follows : PassFollows packages config pass (fun _ _ => True) heard) :
    PassFollows packages config (ReconcilerService.safely name pass) (fun _ _ => True) heard := by
  intro report
  refine (Tracked.wp_safely _ pass _ report).symm ▸ ?_
  refine Program.wp_mono ((workers packages config).demand_mono _) (pass report) ?_ heard
    (follows report)
  rintro ⟨outcome, kept⟩ later -
  cases outcome with
  | ok value => trivial
  | error failure => trivial

/-- A request that needs no reason, in a pass. -/
theorem PassFollows.ask {op : Op} (routine : op.routine = true) :
    PassFollows packages config (Tracked.lift (ask op))
      (fun answer later => later = ⟨op, answer⟩ :: heard) heard :=
  Follows.lift (.ask (.routine _ _ _ routine) fun _ _ _ _ => rfl)

theorem log_routine (entry : ReconciliationLogEntry) :
    Routine (ReconciliationRepository.log entry) := .ask rfl

theorem setCheckpoint_routine (blockNumber : Nat) :
    Routine (ReconciliationRepository.setCheckpoint blockNumber) := by
  refine .bind (.ask rfl) fun existing => ?_
  split
  · exact .pure _
  · exact .ask rfl

theorem sweepStuckExecuting_follows :
    PassFollows packages config (ReconcilerService.sweepStuckExecuting packages config)
      (fun _ _ => True) heard := by
  refine (PassFollows.ask rfl).bind (fun stuck later _ => ?_) fun _ _ _ => trivial
  refine (PassFollows.modify _).bind (fun _ later _ => ?_) fun _ _ _ => trivial
  have swept : PassFollows packages config
      (stuck.forM (ReconcilerService.resolveStuck packages config))
      (fun _ last => later <:+ last) later := by
    refine PassFollows.forM fun order _ first _ => ?_
    refine (check_follows rfl order.id).lift.bind (fun result second grown => ?_)
      fun _ _ grown => grown
    split
    · refine (PassFollows.modify _).bind (fun _ third further => ?_)
        fun _ _ further => grown.trans further
      exact ((log_routine _).follows third |>.mono fun _ _ kept =>
        grown.trans (further.trans kept.1)).lift
    · exact fun _ => grown
  exact fun report => Program.wp_mono ((workers packages config).demand_mono _) _
    (fun _ _ _ => trivial) later (swept report)

theorem applyLog_follows {first last : Nat} {swaps : List SwapExecutedLog} {swap : SwapExecutedLog}
    (scanned : ⟨.getSwapExecutedLogs first last, .ok swaps⟩ ∈ heard) (listed : swap ∈ swaps) :
    Follows packages config .reconcile (ReconcilerService.applyLog swap)
      (fun _ later => heard <:+ later) heard := by
  have read : Follows packages config .reconcile (ask (.findByExecutionId swap.executionId))
      (fun answer later => later = ⟨.findByExecutionId swap.executionId, answer⟩ :: heard) heard :=
    .ask (.routine _ _ _ rfl) fun _ _ _ _ => rfl
  refine read.bind (fun found later told => ?_) fun _ _ told => told ▸ List.suffix_cons _ _
  have grown : heard <:+ later := told ▸ List.suffix_cons _ _
  cases found with
  | none =>
      exact (((log_routine _).bind fun _ => .pure _).follows later).mono fun _ _ kept =>
        grown.trans kept.1
  | some order =>
      have known : ⟨.findByExecutionId swap.executionId, .ok (some order)⟩ ∈ later := by
        rw [told]
        exact List.mem_cons_self
      dsimp only
      split
      · exact grown
      · next different =>
          refine (updateAndFind_follows (.backfill later first last swaps swap (grown.subset scanned)
            listed order known different _)).bind (fun corrected second answered => ?_)
            fun _ _ answered => grown.trans answered.1
          cases corrected with
          | none => exact grown.trans answered.1
          | some row =>
              exact (((log_routine _).bind fun _ => .pure _).follows second).mono fun _ _ kept =>
                grown.trans (answered.1.trans kept.1)

theorem backfillFromLogs_follows :
    PassFollows packages config (ReconcilerService.backfillFromLogs config) (fun _ _ => True)
      heard := by
  refine (PassFollows.ask rfl).bind (fun head later _ => ?_) fun _ _ _ => trivial
  refine (PassFollows.ask rfl).bind (fun checkpoint later _ => ?_) fun _ _ _ => trivial
  dsimp only
  split
  · exact fun _ => trivial
  · refine (PassFollows.ask rfl).bind (fun swaps later told => ?_) fun _ _ _ => trivial
    refine (PassFollows.modify _).bind (fun _ second grown => ?_) fun _ _ _ => trivial
    have scanned := grown.subset (told ▸ List.mem_cons_self)
    have filled : PassFollows packages config (swaps.forM ReconcilerService.backfill)
        (fun _ last => second <:+ last) second := by
      refine PassFollows.forM fun swap listed third kept => ?_
      refine (applyLog_follows (kept.subset scanned) listed).lift.bind (fun _ fourth further => ?_)
        fun _ _ further => further
      exact fun _ => further
    refine filled.bind (fun _ fifth _ => ?_) fun _ _ _ => trivial
    exact ((setCheckpoint_routine _).follows fifth |>.mono fun _ _ _ => trivial).lift

theorem auditFailed_follows :
    PassFollows packages config (ReconcilerService.auditFailed config) (fun _ _ => True) heard := by
  refine (PassFollows.ask rfl).bind (fun failed later told => ?_) fun _ _ _ => trivial
  have read : ⟨.findManyByStatus .failed config.auditLimit, .ok failed⟩ ∈ later := by
    rw [told]
    exact List.mem_cons_self
  have audited : PassFollows packages config (failed.forM ReconcilerService.auditFailedOrder)
      (fun _ last => later <:+ last) later := by
    refine PassFollows.forM fun order listed first grown => ?_
    unfold ReconcilerService.auditFailedOrder
    split
    · exact fun _ => List.suffix_refl first
    · refine (PassFollows.ask rfl).bind (fun consumed second told => ?_) fun _ _ told =>
        told ▸ List.suffix_cons _ _
      have further : first <:+ second := told ▸ List.suffix_cons _ _
      split
      · exact fun _ => further
      · next spent =>
          have known : ⟨.isExecuted order.executionId, .ok true⟩ ∈ second := by
            rw [told, eq_true_of_ne_false spent]
            exact List.mem_cons_self
          refine (updateAndFind_follows (.audit second config.auditLimit failed
            ((grown.trans further).subset read) order listed known _)).lift.bind
            (fun corrected third answered => ?_) fun _ _ answered => further.trans answered.1
          cases corrected with
          | none => exact fun _ => further.trans answered.1
          | some row =>
              refine (PassFollows.modify _).bind (fun _ fourth kept => ?_)
                fun _ _ kept => further.trans (answered.1.trans kept)
              exact ((log_routine _).follows fourth |>.mono fun _ _ last =>
                further.trans (answered.1.trans (kept.trans last.1))).lift
  exact fun report => Program.wp_mono ((workers packages config).demand_mono _) _
    (fun _ _ _ => trivial) later (audited report)

theorem auditExecuted_follows :
    PassFollows packages config (ReconcilerService.auditExecuted config) (fun _ _ => True)
      heard := by
  refine (PassFollows.ask rfl).bind (fun executed later told => ?_) fun _ _ _ => trivial
  have audited : PassFollows packages config (executed.forM ReconcilerService.auditExecutedOrder)
      (fun _ last => later <:+ last) later := by
    refine PassFollows.forM fun order listed first grown => ?_
    refine (PassFollows.ask rfl).bind (fun consumed second told => ?_) fun _ _ told =>
      told ▸ List.suffix_cons _ _
    have further : first <:+ second := told ▸ List.suffix_cons _ _
    split
    · exact fun _ => further
    · refine (PassFollows.modify _).bind (fun _ third kept => ?_) fun _ _ kept => further.trans kept
      exact ((log_routine _).follows third |>.mono fun _ _ last =>
        further.trans (kept.trans last.1)).lift
  exact fun report => Program.wp_mono ((workers packages config).demand_mono _) _
    (fun _ _ _ => trivial) later (audited report)

theorem reconcile_follows :
    Follows packages config .reconcile (ReconcilerService.run packages config) (fun _ _ => True)
      heard := by
  have passes : PassFollows packages config (ReconcilerService.passes packages config)
      (fun _ _ => True) heard := by
    refine (sweepStuckExecuting_follows.safely _).bind (fun _ _ _ => ?_) fun _ _ _ => trivial
    refine (backfillFromLogs_follows.safely _).bind (fun _ _ _ => ?_) fun _ _ _ => trivial
    refine (auditFailed_follows.safely _).bind (fun _ _ _ => ?_) fun _ _ _ => trivial
    exact auditExecuted_follows.safely _
  unfold Follows Async.wp ReconcilerService.run
  rw [Program.wp_bind]
  exact passes _

end Reconciler

/-- Every request of every task is warranted by what its process has heard, and every task
ends with what `Concludes` says. -/
theorem workers_planned (packages : Packages) (config : Config) :
    (workers packages config).Planned (Warrant packages config) Concludes := by
  have returned : ∀ {task : Task} {α : Type} {code : Service α} (wrap : α → Outcome)
      (post : Bool → Heard → Prop),
      Follows packages config task code (fun outcome later => post outcome.isOk later) [] →
      Follows packages config task (do let value ← code; pure (wrap value))
        (fun outcome later => post outcome.isOk later) [] :=
    fun wrap _ follows => follows.bind (fun _ _ held => held) fun _ _ held => held
  intro task
  cases task with
  | createOrder input => exact returned _ (fun _ _ => True) (createOrder_follows input)
  | cancelOrder id =>
      exact returned _ (fun returned later => returned = true → Cancels id later)
        (cancelOrder_follows id)
  | markTriggered id => exact returned _ (fun _ _ => True) (markTriggered_follows id)
  | triggerRun asset => exact returned _ (fun _ later => HandsOff later) (run_follows asset)
  | executeOrder id =>
      exact returned _ (fun returned later => Concluded id later returned) (executeOrder_follows id)
  | check id =>
      exact returned _ (fun _ _ => True) ((check_follows rfl id).mono fun _ _ _ => trivial)
  | sweepStuck olderThanMs limit =>
      exact returned _ (fun _ _ => True) (sweepStuck_follows olderThanMs limit)
  | reconcile => exact returned _ (fun _ _ => True) reconcile_follows

end Orders
