import SyntheticOrders.Interaction.Async

/-! # Code that runs alone

A program that nobody interleaves with runs from one state to another, where each request is
executed in one of the ways it can be. What the weakest precondition demands of every such
execution holds of every run. Code returns if it ends without a fault in every run, and its
rules are those of sequences, loops and guarded parts.
-/

namespace Interaction

namespace Program

variable {Request : Type} {Answer : Request → Type} {α σ : Type}
  {exec : (request : Request) → Answer request → σ → σ → Prop}

/-- A run from a state to a state, with its result. -/
inductive Runs (exec : (request : Request) → Answer request → σ → σ → Prop) :
    Program Request Answer α → σ → α → σ → Prop
  | done (result : α) (state : σ) : Runs exec (.done result) state result state
  | ask {request : Request} {resume : Answer request → Program Request Answer α}
      {before middle after : σ} {result : α} (answer : Answer request)
      (executes : exec request answer before middle)
      (rest : Runs exec (resume answer) middle result after) :
      Runs exec (.ask request resume) before result after

/-- The demand of a request: the program can go on however it is executed. -/
def upon (exec : (request : Request) → Answer request → σ → σ → Prop) (request : Request)
    (post : Answer request → σ → Prop) (state : σ) : Prop :=
  ∀ answer after, exec request answer state after → post answer after

theorem upon_mono (request : Request) {first second : Answer request → σ → Prop}
    (weaker : ∀ answer, first answer ≤ second answer) :
    upon exec request first ≤ upon exec request second :=
  fun _ holds answer after executes => weaker answer after (holds answer after executes)

/-- What the precondition says of every run. -/
theorem Runs.holds {program : Program Request Answer α} {before after : σ} {result : α}
    (runs : program.Runs exec before result after) {post : α → σ → Prop}
    (held : program.wp (upon exec) post before) : post result after := by
  induction runs with
  | done result state => exact held
  | ask answer executes _ ih => exact ih (held answer _ executes)

/-- What every execution preserves holds before each request of a run. -/
theorem Runs.within {program : Program Request Answer α} {before after : σ} {result : α}
    (runs : program.Runs exec before result after) {kept : σ → Prop} (start : kept before)
    (keeps : ∀ request answer before after, exec request answer before after → kept before →
      kept after) :
    program.Runs (fun request answer before after => kept before ∧ exec request answer before after)
      before result after ∧ kept after := by
  induction runs with
  | done result state => exact ⟨.done result state, start⟩
  | ask answer executes _ ih =>
      obtain ⟨rest, last⟩ := ih (keeps _ _ _ _ executes start)
      exact ⟨.ask answer ⟨start, executes⟩ rest, last⟩

/-- A run is one among more executions. -/
theorem Runs.mono {more : (request : Request) → Answer request → σ → σ → Prop}
    (includes : ∀ request answer before after, exec request answer before after →
      more request answer before after) {program : Program Request Answer α} {before after : σ}
    {result : α} (runs : program.Runs exec before result after) :
    program.Runs more before result after := by
  induction runs with
  | done result state => exact .done result state
  | ask answer executes _ ih => exact .ask answer (includes _ _ _ _ executes) ih

/-- What is shown separately of the same runs holds together. -/
theorem wp_upon_both (program : Program Request Answer α) {first second : α → σ → Prop} {state : σ}
    (one : program.wp (upon exec) first state) (other : program.wp (upon exec) second state) :
    program.wp (upon exec) (fun result after => first result after ∧ second result after) state := by
  induction program generalizing state with
  | done result => exact ⟨one, other⟩
  | ask request resume ih =>
      exact fun answer after executes =>
        ih answer (one answer after executes) (other answer after executes)

/-- What holds of every run among more executions holds of those there are. -/
theorem wp_upon_of_more {more : (request : Request) → Answer request → σ → σ → Prop}
    (includes : ∀ request answer before after, exec request answer before after →
      more request answer before after) {program : Program Request Answer α}
    {post : α → σ → Prop} {state : σ} (holds : program.wp (upon more) post state) :
    program.wp (upon exec) post state := by
  induction program generalizing state with
  | done result => exact holds
  | ask request resume ih =>
      exact fun answer after executes =>
        ih answer (holds answer after (includes request answer state after executes))

/-- A program that began in a certain state has come so far: what is left of it, and the state
now. -/
inductive Visits (exec : (request : Request) → Answer request → σ → σ → Prop)
    (program : Program Request Answer α) (before : σ) : Program Request Answer α → σ → Prop
  | start : Visits exec program before program before
  | ask {request : Request} {resume : Answer request → Program Request Answer α} {now after : σ}
      (visits : Visits exec program before (.ask request resume) now) (answer : Answer request)
      (executes : exec request answer now after) : Visits exec program before (resume answer) after

/-- The demand of a request in which something holds at every moment. -/
def minding (exec : (request : Request) → Answer request → σ → σ → Prop) (minded : σ → Prop)
    (request : Request) (post : Answer request → σ → Prop) (state : σ) : Prop :=
  minded state ∧ upon exec request post state

theorem minding_mono {minded : σ → Prop} (request : Request)
    {first second : Answer request → σ → Prop} (weaker : ∀ answer, first answer ≤ second answer) :
    minding exec minded request first ≤ minding exec minded request second :=
  fun state held => ⟨held.1, upon_mono request weaker state held.2⟩

/-- What is left of a program has the precondition that the whole had. -/
theorem Visits.holds {program rest : Program Request Answer α} {before now : σ} {minded : σ → Prop}
    {post : α → σ → Prop} (visits : program.Visits exec before rest now)
    (held : program.wp (minding exec minded) post before) :
    rest.wp (minding exec minded) post now := by
  induction visits with
  | start => exact held
  | ask _ answer executes ih => exact ih.2 answer _ executes

/-- It holds wherever the program has got to, if it holds at the end. -/
theorem Visits.minds {program rest : Program Request Answer α} {before now : σ} {minded : σ → Prop}
    {post : α → σ → Prop} (visits : program.Visits exec before rest now)
    (held : program.wp (minding exec minded) post before)
    (ends : ∀ result after, post result after → minded after) : minded now := by
  have left := visits.holds held
  cases rest with
  | done result => exact ends result now left
  | ask request resume => exact left.1

/-- The result of a program whose requests are all answered by an oracle. -/
def consult (oracle : (request : Request) → Answer request) : Program Request Answer α → α
  | .done result => result
  | .ask request resume => (resume (oracle request)).consult oracle

theorem consult_bind {β : Type} (oracle : (request : Request) → Answer request)
    (program : Program Request Answer α) (next : α → Program Request Answer β) :
    (program.bind next).consult oracle = (next (program.consult oracle)).consult oracle := by
  induction program with
  | done result => rfl
  | ask request resume ih => exact ih _

/-- A program that issues requests of one kind only, whatever it is answered. -/
def Asks (kind : Request → Prop) (program : Program Request Answer α) : Prop :=
  program.wp (fun request (next : Answer request → Prop) => kind request ∧ ∀ answer, next answer)
    fun _ => True

section Replies

variable {reply : (request : Request) → σ → Answer request × σ}
  {possible : (request : Request) → σ → Bool}

/-- Are all requests of a program answered in a way that is possible? -/
def served (reply : (request : Request) → σ → Answer request × σ)
    (possible : (request : Request) → σ → Bool) : Program Request Answer α → σ → Bool
  | .done _, _ => true
  | .ask request resume, state =>
      possible request state &&
        (resume (reply request state).1).served reply possible (reply request state).2

/-- A number of steps of a program, against somebody who answers every request. -/
def proceed (reply : (request : Request) → σ → Answer request × σ) :
    Nat → Program Request Answer α → σ → Program Request Answer α × σ
  | steps + 1, .ask request resume, state =>
      (resume (reply request state).1).proceed reply steps (reply request state).2
  | _, program, state => (program, state)

theorem Visits.proceed
    (executes : ∀ request state, exec request (reply request state).1 state (reply request state).2)
    {program now : Program Request Answer α} {before state : σ}
    (visits : program.Visits exec before now state) (steps : Nat) :
    program.Visits exec before (now.proceed reply steps state).1 (now.proceed reply steps state).2 := by
  induction steps generalizing now state with
  | zero => exact visits
  | succ steps ih =>
      cases now with
      | done result => exact visits
      | ask request resume => exact ih (visits.ask _ (executes request state))

/-- A program runs against somebody who answers every request. -/
theorem runs_of_served
    (executes : ∀ request state, possible request state = true →
      exec request (reply request state).1 state (reply request state).2)
    (program : Program Request Answer α) (state : σ)
    (answered : program.served reply possible state = true) :
    program.Runs exec state (program.serve reply state).1 (program.serve reply state).2 := by
  induction program generalizing state with
  | done result => exact .done result state
  | ask request resume ih =>
      rw [served, Bool.and_eq_true] at answered
      exact .ask _ (executes request state answered.1) (ih _ _ answered.2)

end Replies

end Program

open Program

namespace Async

variable {Request : Type} {Reply : Request → Type} {Fault α β S : Type}

section Rules

variable {rule : (request : Request) → (Except Fault (Reply request) → S → Prop) → S → Prop}
  (monotone : ∀ request {first second : Except Fault (Reply request) → S → Prop},
    (∀ answer, first answer ≤ second answer) → rule request first ≤ rule request second)
include monotone

theorem wp_imp {code : Async Request Reply Fault α} {first second : Except Fault α → S → Prop}
    {state : S} (holds : wp rule code first state)
    (weaker : ∀ outcome later, first outcome later → second outcome later) :
    wp rule code second state :=
  wp_mono monotone code weaker state holds

theorem wp_seq {code : Async Request Reply Fault α} {next : α → Async Request Reply Fault β}
    {middle : Except Fault α → S → Prop} {post : Except Fault β → S → Prop} {state : S}
    (first : wp rule code middle state)
    (goesOn : ∀ value later, middle (.ok value) later → wp rule (next value) post later)
    (fails : ∀ fault later, middle (.error fault) later → post (.error fault) later) :
    wp rule (code >>= next) post state := by
  rw [wp_bind]
  refine wp_imp monotone first fun outcome later held => ?_
  cases outcome with
  | ok value => exact goesOn value later held
  | error fault => exact fails fault later held

end Rules

section Consulted

variable (oracle : (request : Request) → Except Fault (Reply request))

/-- The outcome of code whose requests are all answered by an oracle. -/
def consult (code : Async Request Reply Fault α) : Except Fault α := Program.consult oracle code

@[simp] theorem consult_pure (value : α) :
    consult oracle (pure value : Async Request Reply Fault α) = .ok value := rfl

@[simp] theorem consult_await (request : Request) :
    consult oracle (await request : Async Request Reply Fault _) = oracle request := rfl

@[simp] theorem consult_ofExcept (result : Except Fault α) :
    consult oracle (ofExcept result : Async Request Reply Fault α) = result := rfl

@[simp] theorem consult_bind (code : Async Request Reply Fault α)
    (next : α → Async Request Reply Fault β) :
    consult oracle (code >>= next) =
      match consult oracle code with
      | .ok value => consult oracle (next value)
      | .error fault => .error fault := by
  refine (Program.consult_bind oracle code _).trans ?_
  unfold consult
  cases Program.consult oracle code <;> rfl

@[simp] theorem consult_tryCatch (code : Async Request Reply Fault α)
    (handler : Fault → Async Request Reply Fault α) :
    consult oracle (tryCatch code handler) =
      match consult oracle code with
      | .ok value => .ok value
      | .error fault => consult oracle (handler fault) := by
  refine (Program.consult_bind oracle code _).trans ?_
  unfold consult
  cases Program.consult oracle code <;> rfl

end Consulted

section Asking

variable {kind : Request → Prop} {code : Async Request Reply Fault α}
  {may : (request : Request) → Except Fault (Reply request) → Prop} {fails : Prop}

/-- Code that issues requests of one kind only and, where it must, returns, whichever of the
possible answers it gets. -/
def Keeps (kind : Request → Prop) (may : (request : Request) → Except Fault (Reply request) → Prop)
    (fails : Prop) (code : Async Request Reply Fault α) : Prop :=
  wp (fun request (next : Except Fault (Reply request) → Prop) =>
    kind request ∧ ∀ answer, may request answer → next answer) code fun
      | .ok _ => True
      | .error _ => fails

theorem Keeps.pure (value : α) :
    Keeps kind may fails (pure value : Async Request Reply Fault α) := trivial

theorem Keeps.await {request : Request} (asked : kind request)
    (answered : fails ∨ ∀ fault, ¬ may request (.error fault)) :
    Keeps kind may fails (await request : Async Request Reply Fault _) := by
  refine ⟨asked, fun answer possible => ?_⟩
  cases answer with
  | ok value => exact trivial
  | error fault => exact answered.resolve_right fun never => never fault possible

private theorem wp_keeps {first second : Except Fault α → Prop} (holds : wp
      (fun request (next : Except Fault (Reply request) → Prop) =>
        kind request ∧ ∀ answer, may request answer → next answer) code first)
    (weaker : ∀ outcome, first outcome → second outcome) : wp
      (fun request (next : Except Fault (Reply request) → Prop) =>
        kind request ∧ ∀ answer, may request answer → next answer) code second := by
  unfold wp at holds ⊢
  induction code with
  | done outcome => exact weaker _ holds
  | ask request resume ih =>
      exact ⟨holds.1, fun answer possible => ih answer (holds.2 answer possible)⟩

theorem Keeps.bind {next : α → Async Request Reply Fault β} (first : Keeps kind may fails code)
    (second : ∀ value, Keeps kind may fails (next value)) : Keeps kind may fails (code >>= next) := by
  unfold Keeps
  rw [wp_bind]
  refine wp_keeps first fun outcome held => ?_
  cases outcome with
  | ok value => exact second value
  | error fault => exact held

theorem Keeps.tryCatch {handler : Fault → Async Request Reply Fault α}
    (guarded : Keeps kind may True code) (handled : ∀ fault, Keeps kind may fails (handler fault)) :
    Keeps kind may fails (Async.tryCatch code handler) := by
  unfold Keeps
  rw [wp_tryCatch]
  refine wp_keeps guarded fun outcome _ => ?_
  cases outcome with
  | ok value => exact trivial
  | error fault => exact handled fault

theorem Keeps.ofExcept {result : Except Fault α} :
    Keeps kind may True (ofExcept result : Async Request Reply Fault α) := by
  cases result <;> exact trivial

theorem Keeps.throwIf {condition : Prop} [Decidable condition] {fault : Fault} :
    Keeps kind may True (throwIf condition fault : Async Request Reply Fault Unit) := by
  unfold Async.throwIf
  split <;> exact trivial

theorem Keeps.foldlM {body : β → α → Async Request Reply Fault β}
    (each : ∀ total item, Keeps kind may fails (body total item)) (items : List α) (start : β) :
    Keeps kind may fails (items.foldlM body start) := by
  induction items generalizing start with
  | nil => exact .pure start
  | cons item rest ih => exact .bind (each start item) ih

/-- Such code issues requests of the kind, if every answer is possible. -/
theorem Keeps.asks (keeps : Keeps kind (fun _ _ => True) fails code) : Program.Asks kind code := by
  unfold Keeps wp at keeps
  unfold Program.Asks
  induction code with
  | done outcome => exact trivial
  | ask request resume ih => exact ⟨keeps.1, fun answer => ih answer (keeps.2 answer trivial)⟩

end Asking

section Ends

variable {exec : (request : Request) → Except Fault (Reply request) → S → S → Prop} {state : S}
  {fails : Prop}
  {code : Async Request Reply Fault α} {first second : α → S → Prop}

/-- Every run of the code that does not end in a fault ends with a result and a state as wanted,
and a fault comes only where `fails`: it is `False` where the code must return. -/
def Ends (exec : (request : Request) → Except Fault (Reply request) → S → S → Prop) (fails : Prop)
    (code : Async Request Reply Fault α) (post : α → S → Prop) (state : S) : Prop :=
  wp (upon exec) code (fun
    | .ok value => post value
    | .error _ => fun _ => fails) state

theorem Ends.imp (ends : Ends exec fails code first state)
    (weaker : ∀ value later, first value later → second value later) :
    Ends exec fails code second state := by
  refine wp_imp upon_mono ends fun outcome later held => ?_
  cases outcome with
  | ok value => exact weaker value later held
  | error fault => exact held

theorem Ends.bind {next : α → Async Request Reply Fault β} {post : β → S → Prop}
    (ends : Ends exec fails code first state)
    (goesOn : ∀ value later, first value later → Ends exec fails (next value) post later) :
    Ends exec fails (code >>= next) post state :=
  wp_seq upon_mono ends goesOn fun _ _ held => held

theorem Ends.await {request : Request} {post : Reply request → S → Prop}
    (answers : ∀ answer after, exec request answer state after →
      (∃ value, answer = .ok value ∧ post value after) ∨ (∃ fault, answer = .error fault ∧ fails)) :
    Ends exec fails (await request) post state := by
  intro answer after executes
  rcases answers answer after executes with ⟨value, rfl, held⟩ | ⟨fault, rfl, allowed⟩
  · exact held
  · exact allowed

/-- Nothing is demanded of code that may fail and of whose result nothing is wanted. -/
theorem Ends.free (code : Async Request Reply Fault α) (state : S) :
    Ends exec True code (fun _ _ => True) state := by
  unfold Ends wp
  induction code generalizing state with
  | done outcome => cases outcome <;> exact trivial
  | ask request resume ih => exact fun answer after _ => ih answer after

theorem Ends.tryCatch {handler : Fault → Async Request Reply Fault α} {post : α → S → Prop}
    (guarded : Ends exec True code post state)
    (handled : ∀ fault later, Ends exec fails (handler fault) post later) :
    Ends exec fails (Async.tryCatch code handler) post state := by
  unfold Ends
  rw [wp_tryCatch]
  refine wp_imp upon_mono guarded fun outcome later held => ?_
  cases outcome with
  | ok value => exact held
  | error fault => exact handled fault later

/-- A handler that relies on what the guarded part says of its fault. -/
theorem Ends.recover {handler : Fault → Async Request Reply Fault α}
    {post : α → S → Prop} (middle : Except Fault α → S → Prop)
    (guarded : wp (upon exec) code middle state)
    (succeeds : ∀ value later, middle (.ok value) later → post value later)
    (handled : ∀ fault later, middle (.error fault) later →
      Ends exec fails (handler fault) post later) :
    Ends exec fails (Async.tryCatch code handler) post state := by
  unfold Ends
  rw [wp_tryCatch]
  refine wp_imp upon_mono guarded fun outcome later held => ?_
  cases outcome with
  | ok value => exact succeeds value later held
  | error fault => exact handled fault later held

theorem Ends.throwIf_bind {condition : Prop} [Decidable condition] {fault : Fault}
    {next : Unit → Async Request Reply Fault β} {post : β → S → Prop}
    (goesOn : ¬ condition → Ends exec fails (next ()) post state) (allowed : condition → fails) :
    Ends exec fails (throwIf condition fault >>= next) post state := by
  unfold Ends
  rw [wp_bind, throwIf]
  split
  · next holds => exact allowed holds
  · next passed => exact goesOn passed

/-- A loop that returns keeps an invariant on the items that are left and on what it has
accumulated. -/
theorem Ends.foldlM {body : β → α → Async Request Reply Fault β} (invariant : List α → β → S → Prop)
    (step : ∀ item rest total state, invariant (item :: rest) total state →
      Ends exec fails (body total item) (invariant rest) state)
    (items : List α) {start : β} (holds : invariant items start state) :
    Ends exec fails (items.foldlM body start) (invariant []) state := by
  induction items generalizing start state with
  | nil => exact holds
  | cons item rest ih =>
      rw [List.foldlM_cons]
      exact (step item rest start state holds).bind fun _ _ now => ih now

/-- Code of one kind of requests, all of which keep something, keeps it. -/
theorem Keeps.ends {kind : Request → Prop}
    {may : (request : Request) → Except Fault (Reply request) → Prop} {kept : S → Prop}
    (executed : ∀ request, kind request → ∀ answer before after, kept before →
      exec request answer before after → may request answer ∧ kept after)
    (keeps : Keeps kind may fails code) (start : kept state) :
    Ends exec fails code (fun _ => kept) state := by
  unfold Keeps wp at keeps
  unfold Ends wp
  induction code generalizing state with
  | done outcome =>
      cases outcome with
      | ok value => exact start
      | error fault => exact keeps
  | ask request resume ih =>
      intro answer after executes
      obtain ⟨possible, now⟩ := executed request keeps.1 answer state after start executes
      exact ih answer (keeps.2 answer possible) now

end Ends

end Async

namespace Tracked

variable {Request : Type} {Reply : Request → Type} {Fault α β S K : Type}

section Rules

variable {rule : (request : Request) → (Except Fault (Reply request) → S → Prop) → S → Prop}
  (monotone : ∀ request {first second : Except Fault (Reply request) → S → Prop},
    (∀ answer, first answer ≤ second answer) → rule request first ≤ rule request second)
include monotone

theorem wp_imp {code : Tracked Request Reply Fault K α}
    {first second : Except Fault α → K → S → Prop} {kept : K} {state : S}
    (holds : wp rule code first kept state)
    (weaker : ∀ outcome changed later, first outcome changed later → second outcome changed later) :
    wp rule code second kept state :=
  Program.wp_mono monotone (code kept) (fun outcome => weaker outcome.1 outcome.2) state holds

theorem wp_seq {code : Tracked Request Reply Fault K α} {next : α → Tracked Request Reply Fault K β}
    {middle : Except Fault α → K → S → Prop} {post : Except Fault β → K → S → Prop} {kept : K}
    {state : S} (first : wp rule code middle kept state)
    (goesOn : ∀ value changed later, middle (.ok value) changed later →
      wp rule (next value) post changed later)
    (fails : ∀ fault changed later, middle (.error fault) changed later →
      post (.error fault) changed later) :
    wp rule (code >>= next) post kept state := by
  rw [wp_bind]
  refine wp_imp monotone first fun outcome changed later held => ?_
  cases outcome with
  | ok value => exact goesOn value changed later held
  | error fault => exact fails fault changed later held

omit monotone in
theorem wp_modify_bind {change : K → K} {next : Unit → Tracked Request Reply Fault K α}
    {post : Except Fault α → K → S → Prop} {kept : K} {state : S}
    (goesOn : wp rule (next ()) post (change kept) state) :
    wp rule (modify change >>= next) post kept state :=
  goesOn

/-- A loop keeps an invariant on what remains to be done if its body does. -/
theorem wp_forM {body : α → Tracked Request Reply Fault K PUnit} {post : Except Fault PUnit → K → S → Prop}
    (invariant : List α → K → S → Prop)
    (step : ∀ item rest kept state, invariant (item :: rest) kept state →
      wp rule (body item) (fun
        | .ok _ => invariant rest
        | .error fault => post (.error fault)) kept state)
    (finish : ∀ kept state, invariant [] kept state → post (.ok ()) kept state)
    (items : List α) {kept : K} {state : S} (holds : invariant items kept state) :
    wp rule (items.forM body) post kept state := by
  induction items generalizing kept state with
  | nil => exact finish kept state holds
  | cons item rest ih =>
      exact wp_seq monotone (step item rest kept state holds) (fun _ changed later held => ih held)
        fun _ _ _ held => held

end Rules

section Ends

variable {exec : (request : Request) → Except Fault (Reply request) → S → S → Prop} {fails : Prop}
  {kept : K} {state : S} {code : Tracked Request Reply Fault K α} {first second : α → K → S → Prop}

/-- Every run of the code that does not end in a fault ends with a result, a variable and a state
as wanted, and a fault comes only where `fails`. -/
def Ends (exec : (request : Request) → Except Fault (Reply request) → S → S → Prop) (fails : Prop)
    (code : Tracked Request Reply Fault K α) (post : α → K → S → Prop) (kept : K) (state : S) : Prop :=
  wp (upon exec) code (fun
    | .ok value => post value
    | .error _ => fun _ _ => fails) kept state

theorem Ends.imp (ends : Ends exec fails code first kept state)
    (weaker : ∀ value changed later, first value changed later → second value changed later) :
    Ends exec fails code second kept state := by
  refine wp_imp upon_mono ends fun outcome changed later held => ?_
  cases outcome with
  | ok value => exact weaker value changed later held
  | error fault => exact held

theorem Ends.bind {next : α → Tracked Request Reply Fault K β} {post : β → K → S → Prop}
    (ends : Ends exec fails code first kept state)
    (goesOn : ∀ value changed later, first value changed later →
      Ends exec fails (next value) post changed later) :
    Ends exec fails (code >>= next) post kept state :=
  wp_seq upon_mono ends goesOn fun _ _ _ held => held

theorem Ends.lift {plain : Async Request Reply Fault α} {post : α → K → S → Prop}
    (ends : Async.Ends exec fails plain (fun value => post value kept) state) :
    Ends exec fails (lift plain : Tracked Request Reply Fault K α) post kept state := by
  unfold Ends
  rw [wp_lift]
  refine Async.wp_imp upon_mono ends fun outcome later held => ?_
  cases outcome with
  | ok value => exact held
  | error fault => exact held

/-- Going on after code that does not touch the variable. -/
theorem Ends.lift_bind {plain : Async Request Reply Fault α} {middle : α → S → Prop}
    {next : α → Tracked Request Reply Fault K β} {post : β → K → S → Prop}
    (ends : Async.Ends exec fails plain middle state)
    (goesOn : ∀ value later, middle value later → Ends exec fails (next value) post kept later) :
    Ends exec fails (Tracked.lift plain >>= next) post kept state := by
  have first : Ends exec fails (Tracked.lift plain)
      (fun value changed later => changed = kept ∧ middle value later) kept state :=
    Ends.lift (ends.imp fun _ _ held => ⟨rfl, held⟩)
  refine first.bind ?_
  rintro value _ later ⟨rfl, held⟩
  exact goesOn value later held

/-- Going on after an assignment to the variable. -/
theorem Ends.modify_bind {change : K → K} {next : PUnit → Tracked Request Reply Fault K β}
    {post : β → K → S → Prop} (goesOn : Ends exec fails (next ()) post (change kept) state) :
    Ends exec fails (Tracked.modify change >>= next) post kept state :=
  goesOn

/-- What is shown of more executions, and separately of the same runs, holds together. -/
theorem Ends.both {more : (request : Request) → Except Fault (Reply request) → S → S → Prop}
    {post : α → K → S → Prop} (one : Ends exec fails code first kept state)
    (includes : ∀ request answer before after, exec request answer before after →
      more request answer before after)
    (other : Ends more fails code second kept state)
    (together : ∀ value changed later, first value changed later → second value changed later →
      post value changed later) : Ends exec fails code post kept state := by
  have both := Program.wp_upon_both (code kept) one (Program.wp_upon_of_more includes other)
  refine Program.wp_mono upon_mono (code kept) (fun outcome later held => ?_) state both
  obtain ⟨outcome, changed⟩ := outcome
  cases outcome with
  | ok value => exact together value changed later held.1 held.2
  | error fault => exact held.1

/-- What every execution keeps holds at the end as well. -/
theorem Ends.within {invariant : S → Prop}
    (keeps : ∀ request answer before after, exec request answer before after → invariant before →
      invariant after)
    (ends : Ends exec fails code first kept state) (start : invariant state) :
    Ends exec fails code (fun value changed later => first value changed later ∧ invariant later)
      kept state := by
  unfold Ends wp at ends ⊢
  generalize code kept = program at ends
  induction program generalizing state with
  | done result =>
      obtain ⟨outcome, changed⟩ := result
      cases outcome with
      | ok value => exact ⟨ends, start⟩
      | error fault => exact ends
  | ask request resume ih =>
      exact fun answer after executes =>
        ih answer (keeps request answer state after executes start) (ends answer after executes)

theorem Ends.forM {body : α → Tracked Request Reply Fault K PUnit} {post : PUnit → K → S → Prop}
    (invariant : List α → K → S → Prop)
    (step : ∀ item rest kept state, invariant (item :: rest) kept state →
      Ends exec fails (body item) (fun _ => invariant rest) kept state)
    (finish : ∀ kept state, invariant [] kept state → post () kept state) (items : List α)
    (holds : invariant items kept state) : Ends exec fails (items.forM body) post kept state := by
  refine wp_forM upon_mono invariant (fun item rest kept state held => ?_) finish items holds
  refine wp_imp upon_mono (step item rest kept state held) fun outcome changed later now => ?_
  cases outcome with
  | ok value => exact now
  | error fault => exact now

/-- A part that returns does so under guard. -/
theorem Ends.safely {record : Fault → K → K} {part : Tracked Request Reply Fault K Unit}
    {post : Unit → K → S → Prop} (ends : Ends exec False part post kept state) :
    Ends exec False (Tracked.safely record part) post kept state := by
  unfold Ends
  rw [wp_safely]
  refine wp_imp upon_mono ends fun outcome changed later held => ?_
  cases outcome with
  | ok value => exact held
  | error fault => exact held.elim

end Ends

end Tracked

end Interaction
