import SyntheticOrders.Interaction.Program

/-! # Code that hands its state to the environment

The code of a component owns a private state `σ` and calls out with requests of
type `External`. A request carries the state as it stands at the hand-over, and
the answer brings back the state as the environment left it: the environment may
have called the component again in between. Code that fails has no final state,
since whoever runs it restores the state it started from.
-/

namespace Interaction

/-- Code over a private state `σ`, with external requests, replies and faults. -/
def Code (External Reply Fault σ α : Type) : Type :=
  σ → Program (External × σ) (fun _ => Reply × σ) (Except Fault (α × σ))

/-- What is left to run after a hand-over. -/
abbrev Residue (External Reply Fault σ α : Type) : Type :=
  Program (External × σ) (fun _ => Reply × σ) (Except Fault (α × σ))

namespace Code

variable {External Reply Fault σ α β : Type}

instance : Monad (Code External Reply Fault σ) where
  pure value := fun state => .done (.ok (value, state))
  bind code next := fun state => (code state).bind fun
    | .ok (value, state) => next value state
    | .error fault => .done (.error fault)

/-- Read the private state. -/
def read : Code External Reply Fault σ σ := fun state => .done (.ok (state, state))

/-- Rewrite the private state. -/
def update (change : σ → σ) : Code External Reply Fault σ Unit :=
  fun state => .done (.ok ((), change state))

/-- Abandon the call. -/
def fail (fault : Fault) : Code External Reply Fault σ α := fun _ => .done (.error fault)

/-- Abandon the call when a condition holds. -/
def failIf (condition : Prop) [Decidable condition] (fault : Fault) :
    Code External Reply Fault σ Unit :=
  if condition then fail fault else pure ()

/-- Run code only when a condition holds. -/
def when (condition : Prop) [Decidable condition] (code : Code External Reply Fault σ Unit) :
    Code External Reply Fault σ Unit :=
  if condition then code else pure ()

/-- Hand control to the environment. -/
def request (external : External) : Code External Reply Fault σ Reply :=
  fun state => .ask (external, state) fun answer => .done (.ok answer)

theorem pure_apply (value : α) (state : σ) :
    (pure value : Code External Reply Fault σ α) state = .done (.ok (value, state)) := rfl

theorem bind_apply (code : Code External Reply Fault σ α)
    (next : α → Code External Reply Fault σ β) (state : σ) :
    (code >>= next) state = (code state).bind fun
      | .ok (value, state) => next value state
      | .error fault => .done (.error fault) := rfl

theorem failIf_apply (condition : Prop) [Decidable condition] (fault : Fault) (state : σ) :
    (failIf condition fault : Code External Reply Fault σ Unit) state =
      if condition then .done (.error fault) else .done (.ok ((), state)) := by
  unfold failIf
  split <;> rfl

variable {World : Type}

/-- Run code against somebody who answers every external call and never calls
back. -/
def runWith (answer : External → World → Reply × World) (code : Code External Reply Fault σ α)
    (now : σ × World) : Except Fault (α × (σ × World)) :=
  go (code now.1) now.2
where
  go : Residue External Reply Fault σ α → World → Except Fault (α × (σ × World))
    | .done (.ok (value, state)), world => .ok (value, (state, world))
    | .done (.error fault), _ => .error fault
    | .ask (external, state) resume, world =>
        go (resume ((answer external world).1, state)) (answer external world).2

/-- Code that makes one external call before it finishes. -/
theorem runWith_ask_done {answer : External → World → Reply × World}
    {code : Code External Reply Fault σ α} {now : σ × World} {external : External}
    {state final : σ} {resume : Reply × σ → Residue External Reply Fault σ α} {value : α}
    (asks : code now.1 = .ask (external, state) resume)
    (finishes : resume ((answer external now.2).1, state) = .done (.ok (value, final))) :
    code.runWith answer now = .ok (value, (final, (answer external now.2).2)) := by
  rw [runWith, asks, runWith.go, finishes, runWith.go]

/-- The rules of one hand-over: what must hold when control leaves, and what is
known of the state and the world when it comes back. -/
structure Rules (External Reply σ World : Type) where
  handing : External → σ × World → Prop
  returns : External → σ × World → Reply → σ × World → Prop

/-- The demand a hand-over makes under `rules`, as a predicate on the world. -/
def Rules.demand (rules : Rules External Reply σ World) (request : External × σ)
    (post : Reply × σ → World → Prop) : World → Prop :=
  fun world => rules.handing request.1 (request.2, world) ∧
    ∀ reply back, rules.returns request.1 (request.2, world) reply back →
      post (reply, back.1) back.2

/-- The postcondition of finished code. A fault leaves nothing behind. -/
def settled (post : α → σ × World → Prop) : Except Fault (α × σ) → World → Prop
  | .ok (value, state), world => post value (state, world)
  | .error _, _ => True

/-- The weakest precondition of code under the rules of its hand-overs. -/
def wp (rules : Rules External Reply σ World) (code : Code External Reply Fault σ α)
    (now : σ × World) (post : α → σ × World → Prop) : Prop :=
  (code now.1).wp rules.demand (settled post) now.2

variable {rules : Rules External Reply σ World} {now : σ × World}

@[simp] theorem wp_pure (value : α) (post : α → σ × World → Prop) :
    wp rules (pure value : Code External Reply Fault σ α) now post = post value now := rfl

@[simp] theorem wp_bind (code : Code External Reply Fault σ α)
    (next : α → Code External Reply Fault σ β) (post : β → σ × World → Prop) :
    wp rules (code >>= next) now post =
      wp rules code now fun value now => wp rules (next value) now post := by
  refine congrFun ((Program.wp_bind (code now.1) _ (settled post)).trans ?_) now.2
  congr 1
  funext outcome
  cases outcome <;> rfl

@[simp] theorem wp_update (change : σ → σ) (post : Unit → σ × World → Prop) :
    wp rules (update change : Code External Reply Fault σ Unit) now post =
      post () (change now.1, now.2) := rfl

@[simp] theorem wp_fail (fault : Fault) (post : α → σ × World → Prop) :
    wp rules (fail fault : Code External Reply Fault σ α) now post = True := rfl

@[simp] theorem wp_failIf (condition : Prop) [Decidable condition] (fault : Fault)
    (post : Unit → σ × World → Prop) :
    wp rules (failIf condition fault : Code External Reply Fault σ Unit) now post =
      (¬ condition → post () now) := by
  unfold failIf
  split
  · rename_i holds
    simp only [wp_fail, holds, not_true_eq_false, false_implies]
  · rename_i fails
    simp only [wp_pure, fails, not_false_eq_true, true_implies]

@[simp] theorem wp_request (external : External) (post : Reply → σ × World → Prop) :
    wp rules (request external : Code External Reply Fault σ Reply) now post =
      (rules.handing external now ∧
        ∀ reply back, rules.returns external now reply back → post reply back) := rfl

@[simp] theorem wp_ite (condition : Prop) [Decidable condition]
    (first second : Code External Reply Fault σ α) (post : α → σ × World → Prop) :
    wp rules (if condition then first else second) now post =
      if condition then wp rules first now post else wp rules second now post := by
  split <;> rfl

@[simp] theorem wp_when (condition : Prop) [Decidable condition]
    (code : Code External Reply Fault σ Unit) (post : Unit → σ × World → Prop) :
    wp rules (when condition code) now post =
      if condition then wp rules code now post else post () now := by
  unfold when
  rw [wp_ite, wp_pure]

/-- Code that keeps to stricter rules keeps to laxer ones. -/
theorem wp_weaken (strict : Rules External Reply σ World) (code : Code External Reply Fault σ α)
    {post : α → σ × World → Prop}
    (handing : ∀ external handed, strict.handing external handed → rules.handing external handed)
    (returns : ∀ external handed reply back, strict.handing external handed →
      rules.returns external handed reply back → strict.returns external handed reply back)
    (holds : wp strict code now post) : wp rules code now post := by
  unfold wp at holds ⊢
  generalize code now.1 = residue at holds ⊢
  generalize now.2 = world at holds ⊢
  induction residue generalizing world with
  | done outcome => exact holds
  | ask request resume ih =>
      refine ⟨handing _ _ holds.1, fun reply back returned => ?_⟩
      exact ih (reply, back.1) back.2 (holds.2 reply back (returns _ _ _ _ holds.1 returned))

/-- A weaker postcondition is easier to reach. -/
theorem wp_imp (code : Code External Reply Fault σ α) {first second : α → σ × World → Prop}
    (weaker : ∀ value after, first value after → second value after)
    (holds : wp rules code now first) : wp rules code now second := by
  have monotone : (code now.1).wp rules.demand (settled first) ≤
      (code now.1).wp rules.demand (settled second) := by
    refine Program.wp_mono ?_ (code now.1) ?_
    · intro request first second le world demanded
      exact ⟨demanded.1, fun reply back returned => le _ _ (demanded.2 reply back returned)⟩
    · intro outcome world reached
      cases outcome with
      | ok result => exact weaker _ _ reached
      | error fault => trivial
  exact monotone now.2 holds

/-- What is shown separately of the same hand-overs holds together. -/
theorem wp_both (code : Code External Reply Fault σ α)
    {returns : External → σ × World → Reply → σ × World → Prop}
    {first second : External → σ × World → Prop} {left right : α → σ × World → Prop}
    (one : wp ⟨first, returns⟩ code now left) (other : wp ⟨second, returns⟩ code now right) :
    wp ⟨fun external handed => first external handed ∧ second external handed, returns⟩ code now
      fun value after => left value after ∧ right value after := by
  unfold wp at one other ⊢
  generalize code now.1 = residue at one other ⊢
  generalize now.2 = world at one other ⊢
  induction residue generalizing world with
  | done outcome =>
      cases outcome with
      | ok result => exact ⟨one, other⟩
      | error fault => trivial
  | ask request resume ih =>
      exact ⟨⟨one.1, other.1⟩, fun reply back returned =>
        ih (reply, back.1) back.2 (one.2 reply back returned) (other.2 reply back returned)⟩

/-- Where every hand-over is permitted and every outcome wanted, nothing has to be
shown of the code. -/
theorem wp_of_forall (code : Code External Reply Fault σ α) {post : α → σ × World → Prop}
    (handing : ∀ external handed, rules.handing external handed)
    (wanted : ∀ value after, post value after) : wp rules code now post := by
  unfold wp
  generalize code now.1 = residue
  generalize now.2 = world
  induction residue generalizing world with
  | done outcome =>
      cases outcome with
      | ok result => exact wanted result.1 (result.2, world)
      | error fault => trivial
  | ask request resume ih => exact ⟨handing _ _, fun reply back _ => ih (reply, back.1) back.2⟩

/-- What the precondition under any hand-overs says of every run that succeeds. -/
theorem wp_yields {code : Code External Reply Fault σ α} {state : σ}
    {ran : List (Exchange (External × σ) fun _ => Reply × σ)} {value : α} {after : σ}
    (yields : (code state).Yields ran (.ok (value, after))) {post : α → σ × Unit → Prop}
    (holds : wp ⟨fun _ _ => True, fun _ _ _ _ => True⟩ code (state, ()) post) :
    post value (after, ()) := by
  change (code state).wp _ (settled post) () at holds
  generalize code state = residue at yields holds
  generalize same : (Except.ok (value, after) : Except Fault (α × σ)) = outcome at yields
  induction yields with
  | done outcome =>
      subst same
      exact holds
  | ask answer _ ih => exact ih (holds.2 answer.1 (answer.2, ()) trivial) same

/-- The rules of somebody who answers every external call and never calls back. -/
def answering (answer : External → World → Reply × World) : Rules External Reply σ World where
  handing _ _ := True
  returns external handed reply back :=
    back.1 = handed.1 ∧ (reply, back.2) = answer external handed.2

/-- What a precondition says of a run against such a somebody. -/
theorem wp_runWith {answer : External → World → Reply × World}
    {code : Code External Reply Fault σ α} {value : α} {after : σ × World}
    (ran : code.runWith answer now = .ok (value, after)) {post : α → σ × World → Prop}
    (holds : wp (answering answer) code now post) : post value after := by
  unfold wp at holds
  unfold runWith at ran
  generalize code now.1 = residue at holds ran
  generalize now.2 = world at holds ran
  induction residue generalizing world with
  | done outcome =>
      cases outcome with
      | ok result =>
          cases ran
          exact holds
      | error fault => cases ran
  | ask request resume ih =>
      exact ih _ _ (holds.2 _ (request.2, (answer request.1 world).2) ⟨rfl, rfl⟩) ran

section Confinement

variable {permitted : Fault → Prop} {state : σ}

/-- Every fault that a run can end in is permitted, whatever the environment answers, and
`post` holds where the run succeeds. -/
def confines (permitted : Fault → Prop) (code : Code External Reply Fault σ α) (state : σ)
    (post : α → σ → Prop) : Prop :=
  (code state).wp (fun _ (next : Reply × σ → Prop) => ∀ answer, next answer) fun
    | .ok (value, after) => post value after
    | .error fault => permitted fault

@[simp] theorem confines_pure (value : α) (post : α → σ → Prop) :
    confines permitted (pure value : Code External Reply Fault σ α) state post = post value state :=
  rfl

@[simp] theorem confines_bind (code : Code External Reply Fault σ α)
    (next : α → Code External Reply Fault σ β) (post : β → σ → Prop) :
    confines permitted (code >>= next) state post =
      confines permitted code state fun value after => confines permitted (next value) after post := by
  refine (Program.wp_bind (code state) _ _).trans ?_
  unfold confines
  congr 1
  funext outcome
  cases outcome <;> rfl

@[simp] theorem confines_update (change : σ → σ) (post : Unit → σ → Prop) :
    confines permitted (update change : Code External Reply Fault σ Unit) state post =
      post () (change state) := rfl

@[simp] theorem confines_failIf (condition : Prop) [Decidable condition] (fault : Fault)
    (post : Unit → σ → Prop) :
    confines permitted (failIf condition fault : Code External Reply Fault σ Unit) state post =
      if condition then permitted fault else post () state := by
  unfold failIf
  split <;> rfl

@[simp] theorem confines_request (external : External) (post : Reply → σ → Prop) :
    confines permitted (request external : Code External Reply Fault σ Reply) state post =
      ∀ reply after, post reply after :=
  propext ⟨fun holds reply after => holds (reply, after), fun holds answer => holds answer.1 answer.2⟩

theorem confines_mono (code : Code External Reply Fault σ α) {first second : α → σ → Prop}
    (weaker : ∀ value after, first value after → second value after)
    (holds : confines permitted code state first) : confines permitted code state second := by
  unfold confines at holds ⊢
  generalize code state = residue at holds ⊢
  induction residue with
  | done outcome =>
      cases outcome with
      | ok result => exact weaker _ _ holds
      | error fault => exact holds
  | ask request resume ih => exact fun answer => ih answer (holds answer)

/-- A run ends in a permitted fault, if it does not succeed. -/
theorem confines_yields {code : Code External Reply Fault σ α}
    {ran : List (Exchange (External × σ) fun _ => Reply × σ)} {fault : Fault}
    (yields : (code state).Yields ran (.error fault)) {post : α → σ → Prop}
    (holds : confines permitted code state post) : permitted fault := by
  unfold confines at holds
  generalize code state = residue at yields holds
  generalize same : (Except.error fault : Except Fault (α × σ)) = outcome at yields
  induction yields with
  | done outcome =>
      subst same
      exact holds
  | ask answer _ ih => exact ih (holds answer) same

/-- Code whose faults are all permitted, from any state. -/
def Confined (permitted : Fault → Prop) (code : Code External Reply Fault σ α) : Prop :=
  ∀ state, confines permitted code state fun _ _ => True

namespace Confined

theorem pure (value : α) :
    Confined permitted (pure value : Code External Reply Fault σ α) := fun _ => trivial

theorem read : Confined permitted (read : Code External Reply Fault σ σ) := fun _ => trivial

theorem update (change : σ → σ) :
    Confined permitted (update change : Code External Reply Fault σ Unit) := fun _ => trivial

theorem request (external : External) :
    Confined permitted (request external : Code External Reply Fault σ Reply) :=
  fun _ _ => trivial

theorem fail {fault : Fault} (allowed : permitted fault) :
    Confined permitted (fail fault : Code External Reply Fault σ α) := fun _ => allowed

theorem ite {condition : Prop} [Decidable condition] {first second : Code External Reply Fault σ α}
    (left : Confined permitted first) (right : Confined permitted second) :
    Confined permitted (if condition then first else second) := by
  split
  · exact left
  · exact right

theorem failIf {condition : Prop} [Decidable condition] {fault : Fault}
    (allowed : permitted fault) :
    Confined permitted (failIf condition fault : Code External Reply Fault σ Unit) :=
  ite (fail allowed) (pure ())

theorem bind {code : Code External Reply Fault σ α} {next : α → Code External Reply Fault σ β}
    (first : Confined permitted code) (second : ∀ value, Confined permitted (next value)) :
    Confined permitted (code >>= next) := by
  intro state
  rw [confines_bind]
  exact confines_mono code (fun value after _ => second value after) (first state)

end Confined

end Confinement

/-- Code that makes no external call. -/
def Silent (code : Code External Reply Fault σ α) : Prop :=
  ∀ state, ∃ outcome, code state = .done outcome

theorem silent_pure (value : α) : (pure value : Code External Reply Fault σ α).Silent :=
  fun _ => ⟨_, rfl⟩

theorem silent_read : (read : Code External Reply Fault σ σ).Silent := fun _ => ⟨_, rfl⟩

theorem silent_update (change : σ → σ) :
    (update change : Code External Reply Fault σ Unit).Silent := fun _ => ⟨_, rfl⟩

theorem silent_failIf (condition : Prop) [Decidable condition] (fault : Fault) :
    (failIf condition fault : Code External Reply Fault σ Unit).Silent := by
  intro state
  unfold failIf
  split <;> exact ⟨_, rfl⟩

theorem Silent.ite {condition : Prop} [Decidable condition]
    {first second : Code External Reply Fault σ α} (left : first.Silent) (right : second.Silent) :
    (if condition then first else second).Silent := by
  split
  · exact left
  · exact right

theorem Silent.when {condition : Prop} [Decidable condition]
    {code : Code External Reply Fault σ Unit} (silent : code.Silent) :
    (Code.when condition code).Silent :=
  silent.ite (silent_pure ())

theorem Silent.bind {code : Code External Reply Fault σ α}
    {next : α → Code External Reply Fault σ β} (first : code.Silent)
    (second : ∀ value, (next value).Silent) : (code >>= next).Silent := by
  intro state
  obtain ⟨outcome, finished⟩ := first state
  change ∃ outcome, (code state).bind _ = _
  rw [finished]
  cases outcome with
  | ok result => exact second result.1 result.2
  | error fault => exact ⟨_, rfl⟩

/-- Silent code is a function of the state, whatever the rules. -/
theorem Silent.wp {code : Code External Reply Fault σ α} (silent : code.Silent)
    {post : α → σ × World → Prop}
    (holds : ∀ value state, code now.1 = .done (.ok (value, state)) → post value (state, now.2)) :
    wp rules code now post := by
  unfold Code.wp
  obtain ⟨outcome, finished⟩ := silent now.1
  rw [finished]
  cases outcome with
  | ok result => exact holds result.1 result.2 finished
  | error fault => trivial

/-- What a precondition says of code that has finished. -/
theorem wp_finished {code : Code External Reply Fault σ α} {post : α → σ × World → Prop}
    {value : α} {state : σ} (holds : Code.wp rules code now post)
    (finished : code now.1 = .done (.ok (value, state))) : post value (state, now.2) := by
  unfold Code.wp at holds
  rw [finished] at holds
  exact holds

end Code

end Interaction
