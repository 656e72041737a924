import Mathlib.Order.Basic

/-! # Programs that wait for answers

A program either has finished or has issued a request and waits for an answer.
Between two requests it computes without interruption, so a request is exactly
a point at which somebody else may act. The same trees serve two purposes: the
code of a component that calls out to an untrusted environment
(`Interaction.Code`), and the asynchronous code of one process among many
(`Interaction.Pool`).
-/

namespace Interaction

universe u v w

/-- A finite-depth program issuing requests and resuming on their answers. -/
inductive Program (Request : Type u) (Answer : Request → Type v) (Result : Type w) where
  | done (result : Result)
  | ask (request : Request) (resume : Answer request → Program Request Answer Result)

/-- A request together with its answer. -/
abbrev Exchange (Request : Type u) (Answer : Request → Type v) : Type (max u v) :=
  (request : Request) × Answer request

namespace Program

variable {Request : Type u} {Answer : Request → Type v} {α β : Type w}

/-- Continue a program with another one chosen by its result. -/
def bind (program : Program Request Answer α) (next : α → Program Request Answer β) :
    Program Request Answer β :=
  match program with
  | .done result => next result
  | .ask request resume => .ask request fun answer => (resume answer).bind next

@[simp] theorem done_bind (result : α) (next : α → Program Request Answer β) :
    (done result : Program Request Answer α).bind next = next result := rfl

@[simp] theorem ask_bind (request : Request) (resume : Answer request → Program Request Answer α)
    (next : α → Program Request Answer β) :
    (ask request resume).bind next = .ask request fun answer => (resume answer).bind next := rfl

variable {L : Type*} {demand : (request : Request) → (Answer request → L) → L}

/-- The weakest precondition of a program in a carrier `L`, given what each
request demands of its answers. -/
def wp (demand : (request : Request) → (Answer request → L) → L) :
    Program Request Answer α → (α → L) → L
  | .done result, post => post result
  | .ask request resume, post => demand request fun answer => (resume answer).wp demand post

@[simp] theorem wp_ask (request : Request) (resume : Answer request → Program Request Answer α)
    (post : α → L) :
    (ask request resume).wp demand post =
      demand request fun answer => (resume answer).wp demand post := rfl

/-- Preconditions compose along sequencing. -/
theorem wp_bind (program : Program Request Answer α) (next : α → Program Request Answer β)
    (post : β → L) :
    (program.bind next).wp demand post =
      program.wp demand fun result => (next result).wp demand post := by
  induction program with
  | done result => rfl
  | ask request resume ih =>
      simp only [ask_bind, wp_ask]
      exact congrArg (demand request) (funext ih)

/-- A weaker postcondition has a weaker precondition. -/
theorem wp_mono [Preorder L]
    (monotone : ∀ request {first second : Answer request → L},
      (∀ answer, first answer ≤ second answer) → demand request first ≤ demand request second)
    (program : Program Request Answer α) {first second : α → L}
    (weaker : ∀ result, first result ≤ second result) :
    program.wp demand first ≤ program.wp demand second := by
  induction program with
  | done result => exact weaker result
  | ask request resume ih => exact monotone request ih

variable {σ : Type*} {reply : (request : Request) → σ → Answer request × σ}

/-- Run a program to its end against somebody who answers every request. -/
def serve (reply : (request : Request) → σ → Answer request × σ) :
    Program Request Answer α → σ → α × σ
  | .done result, state => (result, state)
  | .ask request resume, state =>
      (resume (reply request state).1).serve reply (reply request state).2

theorem serve_bind (program : Program Request Answer α) (next : α → Program Request Answer β)
    (state : σ) :
    (program.bind next).serve reply state =
      (next (program.serve reply state).1).serve reply (program.serve reply state).2 := by
  induction program generalizing state with
  | done result => rfl
  | ask request resume ih => exact ih _ _

/-- A run of a program by itself: what it asks and is answered, in this order, and its
result. -/
inductive Yields : Program Request Answer α → List (Exchange Request Answer) → α → Prop
  | done (result : α) : Yields (.done result) [] result
  | ask {request : Request} {resume : Answer request → Program Request Answer α} {result : α}
      (answer : Answer request) {later : List (Exchange Request Answer)}
      (rest : Yields (resume answer) later result) :
      Yields (.ask request resume) (⟨request, answer⟩ :: later) result

theorem Yields.of_ask {program : Program Request Answer α} {request : Request}
    {resume : Answer request → Program Request Answer α} (asks : program = .ask request resume)
    {answer : Answer request} {later : List (Exchange Request Answer)} {result : α}
    (rest : (resume answer).Yields later result) :
    program.Yields (⟨request, answer⟩ :: later) result := by
  rw [asks]
  exact .ask answer rest

/-- The demand of a request that may be answered in any way, over what has been heard
so far. -/
def remember (request : Request) (post : Answer request → List (Exchange Request Answer) → Prop)
    (heard : List (Exchange Request Answer)) : Prop :=
  ∀ answer, post answer (heard ++ [⟨request, answer⟩])

theorem remember_mono (request : Request)
    {first second : Answer request → List (Exchange Request Answer) → Prop}
    (weaker : ∀ answer, first answer ≤ second answer) :
    remember request first ≤ remember request second :=
  fun _ holds answer => weaker answer _ (holds answer)

/-- What the precondition under any answers says of every run. -/
theorem Yields.recalled {program : Program Request Answer α}
    {later : List (Exchange Request Answer)} {result : α} (yields : program.Yields later result)
    {post : α → List (Exchange Request Answer) → Prop} {heard : List (Exchange Request Answer)}
    (holds : program.wp remember post heard) : post result (heard ++ later) := by
  induction yields generalizing heard with
  | done result =>
      rw [List.append_nil]
      exact holds
  | ask answer _ ih =>
      have goesOn := ih (holds answer)
      rwa [List.append_assoc, List.singleton_append] at goesOn

end Program

end Interaction
