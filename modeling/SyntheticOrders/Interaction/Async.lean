import SyntheticOrders.Interaction.Program

/-! # Asynchronous code

A program in which every request answers or fails, and which may fail itself. An
`await` of the source is a request; whatever lies between two awaits runs without
interruption. The weakest precondition of such code has one equation for each way
of building it, and one rule for loops over a list.
-/

namespace Interaction

/-- Code whose requests answer or fail, and which may fail itself. -/
def Async (Request : Type) (Reply : Request → Type) (Fault α : Type) : Type :=
  Program Request (fun request => Except Fault (Reply request)) (Except Fault α)

namespace Async

variable {Request : Type} {Reply : Request → Type} {Fault α β : Type}

instance : Monad (Async Request Reply Fault) where
  pure value := .done (.ok value)
  bind code next := Program.bind code fun
    | .ok value => next value
    | .error fault => .done (.error fault)

/-- Issue a request and wait. -/
def await (request : Request) : Async Request Reply Fault (Reply request) :=
  .ask request .done

def throw (fault : Fault) : Async Request Reply Fault α := .done (.error fault)

def throwIf (condition : Prop) [Decidable condition] (fault : Fault) :
    Async Request Reply Fault Unit :=
  if condition then throw fault else pure ()

/-- Continue with the result of a computation that may fail. -/
def ofExcept (result : Except Fault α) : Async Request Reply Fault α := .done result

def tryCatch (code : Async Request Reply Fault α) (handler : Fault → Async Request Reply Fault α) :
    Async Request Reply Fault α :=
  Program.bind code fun
    | .ok value => .done (.ok value)
    | .error fault => handler fault

section Served

variable {σ : Type} {reply : (request : Request) → σ → Except Fault (Reply request) × σ}

/-- Run code to its end against somebody who answers every request. -/
def serve (reply : (request : Request) → σ → Except Fault (Reply request) × σ)
    (code : Async Request Reply Fault α) (state : σ) : Except Fault α × σ :=
  Program.serve reply code state

@[simp] theorem serve_pure (value : α) (state : σ) :
    serve reply (pure value : Async Request Reply Fault α) state = (.ok value, state) := rfl

@[simp] theorem serve_await (request : Request) (state : σ) :
    serve reply (await request : Async Request Reply Fault _) state = reply request state := rfl

@[simp] theorem serve_bind (code : Async Request Reply Fault α)
    (next : α → Async Request Reply Fault β) (state : σ) :
    serve reply (code >>= next) state =
      match serve reply code state with
      | (.ok value, after) => serve reply (next value) after
      | (.error fault, after) => (.error fault, after) := by
  refine (Program.serve_bind code _ state).trans ?_
  unfold serve
  rcases Program.serve reply code state with ⟨value | fault, after⟩ <;> rfl

@[simp] theorem serve_tryCatch (code : Async Request Reply Fault α)
    (handler : Fault → Async Request Reply Fault α) (state : σ) :
    serve reply (tryCatch code handler) state =
      match serve reply code state with
      | (.ok value, after) => (.ok value, after)
      | (.error fault, after) => serve reply (handler fault) after := by
  refine (Program.serve_bind code _ state).trans ?_
  unfold serve
  rcases Program.serve reply code state with ⟨value | fault, after⟩ <;> rfl

end Served

variable {L : Type} {demand : (request : Request) → (Except Fault (Reply request) → L) → L}

/-- The weakest precondition of code, with a postcondition for results and faults. -/
def wp (demand : (request : Request) → (Except Fault (Reply request) → L) → L)
    (code : Async Request Reply Fault α) (post : Except Fault α → L) : L :=
  Program.wp demand code post

@[simp] theorem wp_pure (value : α) (post : Except Fault α → L) :
    wp demand (pure value : Async Request Reply Fault α) post = post (.ok value) := rfl

/-- What remains of a postcondition after the first part of a sequence. -/
def andThen (demand : (request : Request) → (Except Fault (Reply request) → L) → L)
    (next : α → Async Request Reply Fault β) (post : Except Fault β → L) : Except Fault α → L
  | .ok value => wp demand (next value) post
  | .error fault => post (.error fault)

@[simp] theorem wp_bind (code : Async Request Reply Fault α)
    (next : α → Async Request Reply Fault β) (post : Except Fault β → L) :
    wp demand (code >>= next) post = wp demand code (andThen demand next post) := by
  refine (Program.wp_bind code _ post).trans ?_
  unfold wp
  congr 1
  funext outcome
  cases outcome <;> rfl

/-- What remains of a postcondition after the guarded part of a `try`. -/
def orElse (demand : (request : Request) → (Except Fault (Reply request) → L) → L)
    (handler : Fault → Async Request Reply Fault α) (post : Except Fault α → L) :
    Except Fault α → L
  | .ok value => post (.ok value)
  | .error fault => wp demand (handler fault) post

@[simp] theorem wp_tryCatch (code : Async Request Reply Fault α)
    (handler : Fault → Async Request Reply Fault α) (post : Except Fault α → L) :
    wp demand (tryCatch code handler) post = wp demand code (orElse demand handler post) := by
  refine (Program.wp_bind code _ post).trans ?_
  unfold wp
  congr 1
  funext outcome
  cases outcome <;> rfl

section Rules

variable {S : Type}
  {rule : (request : Request) → (Except Fault (Reply request) → S → Prop) → S → Prop}
  {next : α → Async Request Reply Fault β} {post : Except Fault β → S → Prop} {state : S}

/-- Going on with the result of a computation that may fail. -/
theorem wp_ofExcept_bind {result : Except Fault α}
    (goesOn : ∀ value, result = .ok value → wp rule (next value) post state)
    (fails : ∀ fault, post (.error fault) state) :
    wp rule (ofExcept result >>= next) post state := by
  rw [wp_bind]
  cases result with
  | ok value => exact goesOn value rfl
  | error fault => exact fails fault

/-- Going on after a check. -/
theorem wp_throwIf_bind {condition : Prop} [Decidable condition] {fault : Fault}
    {next : Unit → Async Request Reply Fault β}
    (goesOn : ¬ condition → wp rule (next ()) post state) (fails : post (.error fault) state) :
    wp rule (throwIf condition fault >>= next) post state := by
  rw [wp_bind, throwIf]
  split
  · exact fails
  · next passed => exact goesOn passed

/-- Going on with an answer. -/
theorem wp_await_bind {request : Request} {next : Reply request → Async Request Reply Fault β}
    (asks : rule request (fun
      | .ok value => wp rule (next value) post
      | .error fault => post (.error fault)) state) :
    wp rule (await request >>= next) post state := by
  have same : wp rule (await request >>= next) post = rule request (fun
      | .ok value => wp rule (next value) post
      | .error fault => post (.error fault)) := by
    rw [wp_bind]
    refine congrArg (rule request) (funext fun answer => ?_)
    cases answer <;> rfl
  rw [same]
  exact asks

end Rules

section Order

variable [Preorder L]
  (monotone : ∀ request {first second : Except Fault (Reply request) → L},
    (∀ answer, first answer ≤ second answer) → demand request first ≤ demand request second)
include monotone

theorem wp_mono (code : Async Request Reply Fault α) {first second : Except Fault α → L}
    (weaker : ∀ outcome, first outcome ≤ second outcome) :
    wp demand code first ≤ wp demand code second :=
  Program.wp_mono monotone code weaker

/-- A loop keeps an invariant on what it has accumulated if its body does; a fault
in the body leaves the loop. -/
theorem wp_foldlM (body : β → α → Async Request Reply Fault β) (invariant : β → L)
    (post : Except Fault β → L) (items : List α)
    (step : ∀ item ∈ items, ∀ total, invariant total ≤ wp demand (body total item) fun
      | .ok next => invariant next
      | .error fault => post (.error fault))
    (finish : ∀ total, invariant total ≤ post (.ok total)) (start : β) :
    invariant start ≤ wp demand (items.foldlM body start) post := by
  induction items generalizing start with
  | nil => exact finish start
  | cons item rest ih =>
      rw [List.foldlM_cons, wp_bind]
      refine (step item List.mem_cons_self start).trans (wp_mono monotone _ fun outcome => ?_)
      cases outcome with
      | ok next => exact ih (fun other listed => step other (List.mem_cons_of_mem _ listed)) next
      | error fault => exact le_rfl

end Order

end Async

/-- Asynchronous code with a local variable, which keeps its value when a fault is
thrown. -/
def Tracked (Request : Type) (Reply : Request → Type) (Fault S α : Type) : Type :=
  S → Program Request (fun request => Except Fault (Reply request)) (Except Fault α × S)

namespace Tracked

variable {Request : Type} {Reply : Request → Type} {Fault S α β : Type}

instance : Monad (Tracked Request Reply Fault S) where
  pure value := fun kept => .done (.ok value, kept)
  bind code next := fun kept => Program.bind (code kept) fun
    | (.ok value, changed) => next value changed
    | (.error fault, changed) => .done (.error fault, changed)

/-- Code that does not touch the variable. -/
def lift (code : Async Request Reply Fault α) : Tracked Request Reply Fault S α :=
  fun kept => Program.bind code fun outcome => .done (outcome, kept)

def modify (change : S → S) : Tracked Request Reply Fault S Unit :=
  fun kept => .done (.ok (), change kept)

/-- Run code and record its fault, if it has one, in the variable. -/
def safely (record : Fault → S → S) (code : Tracked Request Reply Fault S Unit) :
    Tracked Request Reply Fault S Unit :=
  fun kept => Program.bind (code kept) fun
    | (.ok _, changed) => .done (.ok (), changed)
    | (.error fault, changed) => .done (.ok (), record fault changed)

variable {L : Type} {demand : (request : Request) → (Except Fault (Reply request) → L) → L}

/-- The weakest precondition of code, with a postcondition on the outcome and on the
variable. -/
def wp (demand : (request : Request) → (Except Fault (Reply request) → L) → L)
    (code : Tracked Request Reply Fault S α) (post : Except Fault α → S → L) (kept : S) : L :=
  Program.wp demand (code kept) fun outcome => post outcome.1 outcome.2

@[simp] theorem wp_pure (value : α) (post : Except Fault α → S → L) (kept : S) :
    wp demand (pure value : Tracked Request Reply Fault S α) post kept = post (.ok value) kept := rfl

@[simp] theorem wp_lift (code : Async Request Reply Fault α) (post : Except Fault α → S → L)
    (kept : S) :
    wp demand (lift code : Tracked Request Reply Fault S α) post kept =
      Async.wp demand code fun outcome => post outcome kept :=
  Program.wp_bind code _ _

@[simp] theorem wp_bind (code : Tracked Request Reply Fault S α)
    (next : α → Tracked Request Reply Fault S β) (post : Except Fault β → S → L) (kept : S) :
    wp demand (code >>= next) post kept = wp demand code (fun
      | .ok value => wp demand (next value) post
      | .error fault => post (.error fault)) kept := by
  refine (Program.wp_bind (code kept) _ _).trans ?_
  unfold wp
  congr 1
  funext ⟨outcome, changed⟩
  cases outcome <;> rfl

/-- Going on with an answer. -/
theorem wp_await_bind {request : Request} {next : Reply request → Tracked Request Reply Fault S α}
    {post : Except Fault α → S → L} {kept : S} :
    wp demand (lift (Async.await request) >>= next) post kept =
      demand request fun
        | .ok value => wp demand (next value) post kept
        | .error fault => post (.error fault) kept := by
  rw [wp_bind, wp_lift]
  refine congrArg (demand request) (funext fun answer => ?_)
  cases answer <;> rfl

@[simp] theorem wp_safely (record : Fault → S → S) (code : Tracked Request Reply Fault S Unit)
    (post : Except Fault Unit → S → L) (kept : S) :
    wp demand (safely record code) post kept = wp demand code (fun
      | .ok _ => post (.ok ())
      | .error fault => fun changed => post (.ok ()) (record fault changed)) kept := by
  refine (Program.wp_bind (code kept) _ _).trans ?_
  unfold wp
  congr 1
  funext ⟨outcome, changed⟩
  cases outcome <;> rfl

end Tracked

end Interaction
