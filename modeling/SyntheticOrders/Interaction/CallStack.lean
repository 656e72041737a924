import Mathlib.Logic.Relation
import SyntheticOrders.Interaction.Code

/-! # A component under re-entrant calls

A component is called by an environment it does not trust. Whenever its code
calls out, the environment holds control and may call the component again, to
any depth, before it replies. A configuration is the present state together with
the stack of suspended calls. The environment moves: it calls, replies, makes
the outstanding external call revert, changes its own world, or opens a
checkpoint of its own that it later keeps or rolls back. Code that fails, an
external call that reverts and a checkpoint that is rolled back each restore the
snapshot taken when they began, of the component's state and of the world alike.

A discipline restricts the environment's moves by the outstanding external calls
and the present snapshot. `Guarantee` collects what has to be shown of the code
of each call, under an assumption about everything that can happen while one of
its external calls is outstanding, and `Guarantee.linked` turns it into a fact
about every configuration of every run.
-/

namespace Interaction

/-- A component: the code of each call, and what its code sees of an external
call that reverted. -/
structure Component (Call External Reply Fault σ : Type) where
  body : Call → Code External Reply Fault σ Unit
  failed : Reply

/-- A call of the component that waits for the answer to an external call. -/
structure Frame (Call External Reply Fault σ World : Type) where
  call : Call
  entry : σ × World
  external : External
  handed : σ × World
  resume : Reply × σ → Residue External Reply Fault σ Unit

/-- Something suspended: a call of the component, or a checkpoint of the
environment's own. -/
inductive Suspension (Call External Reply Fault σ World : Type) where
  | frame (frame : Frame Call External Reply Fault σ World)
  | checkpoint (saved : σ × World)

/-- The present snapshot and the suspended calls, innermost first. -/
structure Config (Call External Reply Fault σ World : Type) where
  now : σ × World
  stack : List (Suspension Call External Reply Fault σ World)

/-- A move of the environment, which holds control in every configuration. -/
inductive Move (Call Reply World : Type) where
  | call (call : Call)
  | reply (reply : Reply) (world : World)
  | revert
  | world (world : World)
  | checkpoint
  | commit
  | rollback

/-- The outstanding external calls, innermost first, each with the snapshot it
was handed. -/
abbrev Pending (External σ World : Type) : Type := List (External × (σ × World))

/-- The moves an environment may make, given the outstanding external calls and
the present snapshot. -/
abbrev Discipline (Call External Reply σ World : Type) : Type :=
  Pending External σ World → σ × World → Move Call Reply World → Prop

variable {Call External Reply Fault σ World : Type}

/-- The discipline of an environment that may do anything. -/
def unrestricted : Discipline Call External Reply σ World := fun _ _ _ => True

/-- The discipline of an environment that makes one call, in one state: outside of every call it
does nothing else. While an external call is outstanding it may do anything. -/
def lone (call : Call) (entry : σ × World) : Discipline Call External Reply σ World :=
  fun context now move => context = [] → now = entry ∧ move = .call call

namespace Suspension

/-- The outstanding external calls of a stack. -/
def pending : List (Suspension Call External Reply Fault σ World) → Pending External σ World
  | [] => []
  | .frame waiting :: rest => (waiting.external, waiting.handed) :: pending rest
  | .checkpoint _ :: rest => pending rest

end Suspension

namespace Config

/-- A configuration outside every call. -/
def idle (now : σ × World) : Config Call External Reply Fault σ World := ⟨now, []⟩

/-- Run a call's code up to its next hand-over, its end, or its failure. -/
def settle (call : Call) (entry : σ × World)
    (rest : List (Suspension Call External Reply Fault σ World)) (world : World) :
    Residue External Reply Fault σ Unit → Config Call External Reply Fault σ World
  | .done (.ok (_, state)) => ⟨(state, world), rest⟩
  | .done (.error _) => ⟨entry, rest⟩
  | .ask (external, state) resume =>
      ⟨(state, world), .frame ⟨call, entry, external, (state, world), resume⟩ :: rest⟩

/-- One move of the environment. -/
def step (component : Component Call External Reply Fault σ)
    (config : Config Call External Reply Fault σ World) :
    Move Call Reply World → Option (Config Call External Reply Fault σ World)
  | .call call =>
      some (settle call config.now config.stack config.now.2 (component.body call config.now.1))
  | .reply reply world =>
      match config.stack with
      | .frame frame :: rest =>
          some (settle frame.call frame.entry rest world (frame.resume (reply, config.now.1)))
      | _ => none
  | .revert =>
      match config.stack with
      | .frame frame :: rest =>
          some (settle frame.call frame.entry rest frame.handed.2
            (frame.resume (component.failed, frame.handed.1)))
      | _ => none
  | .world world => some ⟨(config.now.1, world), config.stack⟩
  | .checkpoint => some ⟨config.now, .checkpoint config.now :: config.stack⟩
  | .commit =>
      match config.stack with
      | .checkpoint _ :: rest => some ⟨config.now, rest⟩
      | _ => none
  | .rollback =>
      match config.stack with
      | .checkpoint saved :: rest => some ⟨saved, rest⟩
      | _ => none

/-- A sequence of moves. -/
def run (component : Component Call External Reply Fault σ)
    (config : Config Call External Reply Fault σ World) :
    List (Move Call Reply World) → Option (Config Call External Reply Fault σ World)
  | [] => some config
  | move :: moves => (config.step component move).bind fun next => next.run component moves

/-- One move that the discipline permits. -/
def Step (component : Component Call External Reply Fault σ)
    (discipline : Discipline Call External Reply σ World)
    (before after : Config Call External Reply Fault σ World) : Prop :=
  ∃ move, discipline (Suspension.pending before.stack) before.now move ∧
    before.step component move = some after

/-- Any number of permitted moves. -/
abbrev Steps (component : Component Call External Reply Fault σ)
    (discipline : Discipline Call External Reply σ World) :
    Config Call External Reply Fault σ World → Config Call External Reply Fault σ World → Prop :=
  Relation.ReflTransGen (Step component discipline)

/-- A run that keeps to a discipline keeps to every laxer one. -/
theorem Steps.mono {component : Component Call External Reply Fault σ}
    {strict lax : Discipline Call External Reply σ World}
    (permits : ∀ context now move, strict context now move → lax context now move)
    {config final : Config Call External Reply Fault σ World}
    (steps : config.Steps component strict final) : config.Steps component lax final := by
  refine Relation.ReflTransGen.mono ?_ _ _ steps
  rintro before after ⟨move, permitted, stepped⟩
  exact ⟨move, permits _ _ _ permitted, stepped⟩

section Symbolic

variable {component : Component Call External Reply Fault σ} {now : σ × World} {state : σ}
  {stack : List (Suspension Call External Reply Fault σ World)} {external : External}
  {resume : Reply × σ → Residue External Reply Fault σ Unit}

theorem step_call_ask {call : Call}
    (asks : component.body call now.1 = .ask (external, state) resume) :
    (⟨now, stack⟩ : Config Call External Reply Fault σ World).step component (.call call) =
      some ⟨(state, now.2),
        .frame ⟨call, now, external, (state, now.2), resume⟩ :: stack⟩ := by
  simp only [step, asks, settle]

variable {frame : Frame Call External Reply Fault σ World} {reply : Reply} {world : World}

theorem step_reply_ask (asks : frame.resume (reply, now.1) = .ask (external, state) resume) :
    (⟨now, .frame frame :: stack⟩ : Config Call External Reply Fault σ World).step component
        (.reply reply world) =
      some ⟨(state, world),
        .frame ⟨frame.call, frame.entry, external, (state, world), resume⟩ :: stack⟩ := by
  simp only [step, asks, settle]

theorem step_reply_done (finishes : frame.resume (reply, now.1) = .done (.ok ((), state))) :
    (⟨now, .frame frame :: stack⟩ : Config Call External Reply Fault σ World).step component
        (.reply reply world) = some ⟨(state, world), stack⟩ := by
  simp only [step, finishes, settle]

end Symbolic

/-- Every move of a sequence is permitted where it is made. -/
def Permitted (component : Component Call External Reply Fault σ)
    (discipline : Discipline Call External Reply σ World)
    (config : Config Call External Reply Fault σ World) : List (Move Call Reply World) → Prop
  | [] => True
  | move :: moves => discipline (Suspension.pending config.stack) config.now move ∧
      ∀ next, config.step component move = some next → next.Permitted component discipline moves

theorem Permitted.steps {component : Component Call External Reply Fault σ}
    {discipline : Discipline Call External Reply σ World} {moves : List (Move Call Reply World)}
    {config final : Config Call External Reply Fault σ World}
    (permitted : config.Permitted component discipline moves)
    (ran : config.run component moves = some final) :
    config.Steps component discipline final := by
  induction moves generalizing config with
  | nil =>
      obtain rfl := Option.some.inj ran
      exact .refl
  | cons move moves ih =>
      obtain ⟨next, stepped, rest⟩ := Option.bind_eq_some_iff.mp ran
      exact .head ⟨move, permitted.1, stepped⟩ (ih (permitted.2 next stepped) rest)

theorem steps_of_run {component : Component Call External Reply Fault σ}
    (moves : List (Move Call Reply World)) {config final : Config Call External Reply Fault σ World}
    (ran : config.run component moves = some final) :
    config.Steps component unrestricted final := by
  have permitted : config.Permitted component unrestricted moves := by
    clear ran
    induction moves generalizing config with
    | nil => trivial
    | cons move moves ih => exact ⟨trivial, fun _ _ => ih⟩
  exact permitted.steps ran

/-- The call whose code runs in a move, with the state its code starts from and
the snapshot its failure restores. -/
def resumed (config : Config Call External Reply Fault σ World) :
    Move Call Reply World → Option (Call × σ × (σ × World))
  | .call call => some (call, config.now.1, config.now)
  | .reply _ _ =>
      match config.stack with
      | .frame frame :: _ => some (frame.call, config.now.1, frame.entry)
      | _ => none
  | .revert =>
      match config.stack with
      | .frame frame :: _ => some (frame.call, frame.handed.1, frame.entry)
      | _ => none
  | _ => none

end Config

section Residues

variable {component : Component Call External Reply Fault σ}
  {discipline : Discipline Call External Reply σ World}
  {keeps : Call → σ → Residue External Reply Fault σ Unit → Prop}

/-- A property of code, relative to the state it starts from, that every hand-over
passes on to what is left to run. -/
structure Inherited (component : Component Call External Reply Fault σ)
    (keeps : Call → σ → Residue External Reply Fault σ Unit → Prop) : Prop where
  body : ∀ call state, keeps call state (component.body call state)
  resume : ∀ call state request resume, keeps call state (.ask request resume) →
    ∀ reply back, keeps call back (resume (reply, back))

private theorem Inherited.settle (inherited : Inherited component keeps) (call : Call)
    (entry : σ × World) (rest : List (Suspension Call External Reply Fault σ World))
    (world : World) (state : σ) (residue : Residue External Reply Fault σ Unit)
    (kept : keeps call state residue)
    (below : ∀ frame, .frame frame ∈ rest → ∀ reply back,
      keeps frame.call back (frame.resume (reply, back)))
    (frame : Frame Call External Reply Fault σ World)
    (member : .frame frame ∈ (Config.settle call entry rest world residue).stack)
    (reply : Reply) (back : σ) : keeps frame.call back (frame.resume (reply, back)) := by
  match residue, kept with
  | .done (.ok _), _ => exact below frame member reply back
  | .done (.error _), _ => exact below frame member reply back
  | .ask request resume, kept =>
      rcases List.mem_cons.mp member with same | lower
      · obtain rfl := Suspension.frame.inj same
        exact inherited.resume call state request resume kept reply back
      · exact below frame lower reply back

/-- Every suspended call still has the property. -/
theorem Inherited.frames (inherited : Inherited component keeps) {root : σ × World}
    {config : Config Call External Reply Fault σ World}
    (reached : Config.Steps component discipline (.idle root) config)
    (frame : Frame Call External Reply Fault σ World) (member : .frame frame ∈ config.stack)
    (reply : Reply) (back : σ) : keeps frame.call back (frame.resume (reply, back)) := by
  induction reached generalizing frame reply back with
  | refl => exact absurd member List.not_mem_nil
  | @tail before after _ moved ih =>
      obtain ⟨move, _, stepped⟩ := moved
      obtain ⟨now, stack⟩ := before
      cases move with
      | call call =>
          obtain rfl := Option.some.inj stepped
          exact inherited.settle call now stack now.2 now.1 _ (inherited.body call now.1) ih
            frame member reply back
      | world world | checkpoint =>
          obtain rfl := Option.some.inj stepped
          exact ih frame (by simpa using member) reply back
      | reply answer world =>
          match stack, stepped, ih with
          | .frame waiting :: rest, stepped, ih =>
              obtain rfl := Option.some.inj stepped
              exact inherited.settle waiting.call waiting.entry rest world now.1 _
                (ih waiting List.mem_cons_self answer now.1)
                (fun lower deeper => ih lower (List.mem_cons_of_mem _ deeper))
                frame member reply back
      | revert =>
          match stack, stepped, ih with
          | .frame waiting :: rest, stepped, ih =>
              obtain rfl := Option.some.inj stepped
              exact inherited.settle waiting.call waiting.entry rest waiting.handed.2
                waiting.handed.1 _ (ih waiting List.mem_cons_self component.failed waiting.handed.1)
                (fun lower deeper => ih lower (List.mem_cons_of_mem _ deeper))
                frame member reply back
      | commit | rollback =>
          match stack, stepped, ih with
          | .checkpoint saved :: rest, stepped, ih =>
              obtain rfl := Option.some.inj stepped
              exact ih frame (List.mem_cons_of_mem _ member) reply back

/-- In every move that runs code, the code that runs has the property. -/
theorem Inherited.settled (inherited : Inherited component keeps) {root : σ × World}
    {config next : Config Call External Reply Fault σ World} {move : Move Call Reply World}
    (reached : Config.Steps component discipline (.idle root) config)
    (stepped : config.step component move = some next) {call : Call} {state : σ}
    {entry : σ × World} (runs : config.resumed move = some (call, state, entry)) :
    ∃ rest world residue, keeps call state residue ∧
      next = Config.settle call entry rest world residue := by
  have frames := inherited.frames reached
  obtain ⟨now, stack⟩ := config
  cases move with
  | call called =>
      obtain rfl := Option.some.inj stepped
      obtain ⟨rfl, rfl, rfl⟩ := Prod.mk.inj (Option.some.inj runs)
      exact ⟨stack, now.2, _, inherited.body called now.1, rfl⟩
  | reply answer world =>
      match stack, stepped, runs, frames with
      | .frame waiting :: rest, stepped, runs, frames =>
          obtain rfl := Option.some.inj stepped
          obtain ⟨rfl, rfl, rfl⟩ := Prod.mk.inj (Option.some.inj runs)
          exact ⟨rest, world, _, frames waiting List.mem_cons_self answer now.1, rfl⟩
  | revert =>
      match stack, stepped, runs, frames with
      | .frame waiting :: rest, stepped, runs, frames =>
          obtain rfl := Option.some.inj stepped
          obtain ⟨rfl, rfl, rfl⟩ := Prod.mk.inj (Option.some.inj runs)
          exact ⟨rest, waiting.handed.2, _,
            frames waiting List.mem_cons_self component.failed waiting.handed.1, rfl⟩
  | world | checkpoint | commit | rollback => exact absurd runs (by simp [Config.resumed])

end Residues

section Guarantee

variable (component : Component Call External Reply Fault σ)
  (discipline : Discipline Call External Reply σ World)
  (handing : Pending External σ World → σ × World → External → σ × World → Prop)
  (during : Pending External σ World → σ × World → σ × World → Prop)

/-- The rules of the hand-overs of a call entered at `entry`, below the
outstanding external calls `context`: while an external call is outstanding only
what `during` describes happens, and then the environment replies as the
discipline permits, or the external call reverts. -/
def handOver (context : Pending External σ World) (entry : σ × World) :
    Code.Rules External Reply σ World where
  handing external handed := handing context entry external handed
  returns external handed reply back :=
    (∃ middle, during ((external, handed) :: context) handed middle ∧
      discipline ((external, handed) :: context) middle (.reply reply back.2) ∧
      back.1 = middle.1) ∨
    (reply = component.failed ∧ back = handed)

/-- `during` describes everything that can happen below a stack of outstanding
external calls, and `handing` every hand-over. -/
structure Guarantee : Prop where
  refl : ∀ context now, during context now now
  trans : ∀ context {first second third}, during context first second →
    during context second third → during context first third
  world : ∀ context now world, discipline context now (.world world) →
    during context now (now.1, world)
  call : ∀ context now call, discipline context now (.call call) →
    Code.wp (handOver component discipline handing during context now) (component.body call) now
      fun _ after => during context now after

/-- Every suspended call was entered, has handed over and has been interrupted
only as `handing` and `during` say, and its residue still keeps to them. -/
def Linked (root : σ × World) :
    List (Suspension Call External Reply Fault σ World) → σ × World → Prop
  | [], now => during [] root now
  | .checkpoint saved :: rest, now =>
      Linked root rest saved ∧ during (Suspension.pending rest) saved now
  | .frame frame :: rest, now =>
      Linked root rest frame.entry ∧
      handing (Suspension.pending rest) frame.entry frame.external frame.handed ∧
      during ((frame.external, frame.handed) :: Suspension.pending rest) frame.handed now ∧
      ∀ reply back,
        (handOver component discipline handing during (Suspension.pending rest)
          frame.entry).returns frame.external frame.handed reply back →
        (frame.resume (reply, back.1)).wp
          (handOver component discipline handing during (Suspension.pending rest)
            frame.entry).demand
          (Code.settled fun _ after => during (Suspension.pending rest) frame.entry after) back.2

variable {component discipline handing during}

/-- Extending the last stretch of a linked configuration. -/
theorem Linked.extend (guarantee : Guarantee component discipline handing during)
    {root now next : σ × World} {stack : List (Suspension Call External Reply Fault σ World)}
    (linked : Linked component discipline handing during root stack now)
    (moved : during (Suspension.pending stack) now next) :
    Linked component discipline handing during root stack next := by
  cases stack with
  | nil => exact guarantee.trans [] linked moved
  | cons suspension rest =>
      cases suspension with
      | checkpoint saved => exact ⟨linked.1, guarantee.trans _ linked.2 moved⟩
      | frame frame =>
          exact ⟨linked.1, linked.2.1, guarantee.trans _ linked.2.2.1 moved, linked.2.2.2⟩

/-- Running a residue that keeps to the guarantee leads to a linked configuration. -/
theorem Linked.settle (guarantee : Guarantee component discipline handing during)
    {root entry : σ × World} {rest : List (Suspension Call External Reply Fault σ World)}
    (linked : Linked component discipline handing during root rest entry)
    (call : Call) (world : World) (residue : Residue External Reply Fault σ Unit)
    (keeps : residue.wp
      (handOver component discipline handing during (Suspension.pending rest) entry).demand
      (Code.settled fun _ after => during (Suspension.pending rest) entry after) world) :
    Linked component discipline handing during root
      (Config.settle call entry rest world residue).stack
      (Config.settle call entry rest world residue).now := by
  match residue, keeps with
  | .done (.ok (_, state)), finished => exact linked.extend guarantee finished
  | .done (.error _), _ => exact linked
  | .ask (external, state) resume, handed =>
      exact ⟨linked, handed.1, guarantee.refl _ _, handed.2⟩

/-- One permitted move keeps a configuration linked. -/
theorem Linked.step (guarantee : Guarantee component discipline handing during)
    {root : σ × World} {before after : Config Call External Reply Fault σ World}
    (linked : Linked component discipline handing during root before.stack before.now)
    (moved : Config.Step component discipline before after) :
    Linked component discipline handing during root after.stack after.now := by
  obtain ⟨move, permitted, stepped⟩ := moved
  obtain ⟨now, stack⟩ := before
  cases move with
  | call call =>
      obtain rfl := Option.some.inj stepped
      exact linked.settle guarantee call now.2 _ (guarantee.call _ now call permitted)
  | world world =>
      obtain rfl := Option.some.inj stepped
      exact linked.extend guarantee (guarantee.world _ now world permitted)
  | checkpoint =>
      obtain rfl := Option.some.inj stepped
      exact ⟨linked, guarantee.refl _ _⟩
  | reply reply world =>
      match stack, linked, permitted, stepped with
      | .frame frame :: rest, linked, permitted, stepped =>
          obtain rfl := Option.some.inj stepped
          exact linked.1.settle guarantee frame.call world _
            (linked.2.2.2 reply (now.1, world) (.inl ⟨now, linked.2.2.1, permitted, rfl⟩))
  | revert =>
      match stack, linked, stepped with
      | .frame frame :: rest, linked, stepped =>
          obtain rfl := Option.some.inj stepped
          exact linked.1.settle guarantee frame.call frame.handed.2 _
            (linked.2.2.2 component.failed frame.handed (.inr ⟨rfl, rfl⟩))
  | commit =>
      match stack, linked, stepped with
      | .checkpoint saved :: rest, linked, stepped =>
          obtain rfl := Option.some.inj stepped
          exact linked.1.extend guarantee linked.2
  | rollback =>
      match stack, linked, stepped with
      | .checkpoint saved :: rest, linked, stepped =>
          obtain rfl := Option.some.inj stepped
          exact linked.1

/-- Every configuration of every run from outside all calls is linked. -/
theorem Guarantee.linked (guarantee : Guarantee component discipline handing during)
    {root : σ × World} {config : Config Call External Reply Fault σ World}
    (reached : Config.Steps component discipline (.idle root) config) :
    Linked component discipline handing during root config.stack config.now := by
  induction reached with
  | refl => exact guarantee.refl [] root
  | tail _ moved ih => exact ih.step guarantee moved

/-- A property that survives hand-overs and whatever `during` describes holds in
every linked configuration. -/
theorem Linked.holds (property : Pending External σ World → σ × World → Prop)
    (handed : ∀ context entry external handed, handing context entry external handed →
      property context entry → property ((external, handed) :: context) handed)
    (moved : ∀ context before after, during context before after →
      property context before → property context after)
    {root now : σ × World} {stack : List (Suspension Call External Reply Fault σ World)}
    (linked : Linked component discipline handing during root stack now)
    (initially : property [] root) : property (Suspension.pending stack) now := by
  induction stack generalizing now with
  | nil => exact moved _ _ _ linked initially
  | cons suspension rest ih =>
      cases suspension with
      | checkpoint saved => exact moved _ _ _ linked.2 (ih linked.1)
      | frame frame =>
          exact moved _ _ _ linked.2.2.1 (handed _ _ _ _ linked.2.1 (ih linked.1))

/-- Between two configurations outside all calls only what `during` describes
has happened. -/
theorem Guarantee.between (guarantee : Guarantee component discipline handing during)
    {root now : σ × World}
    (reached : Config.Steps component discipline
      (.idle root : Config Call External Reply Fault σ World) (.idle now)) :
    during [] root now :=
  guarantee.linked reached

/-- A guarantee extended by a second one, whose proof may use the first about
everything that happens while an external call is outstanding. -/
theorem Guarantee.extend (base : Guarantee component discipline handing during)
    {handingToo : Pending External σ World → σ × World → External → σ × World → Prop}
    {duringToo : Pending External σ World → σ × World → σ × World → Prop}
    (refl : ∀ context now, duringToo context now now)
    (trans : ∀ context {first second third}, duringToo context first second →
      duringToo context second third → duringToo context first third)
    (world : ∀ context now world, discipline context now (.world world) →
      duringToo context now (now.1, world))
    (call : ∀ context now call, discipline context now (.call call) →
      Code.wp (handOver component discipline handingToo
          (fun context before after => during context before after ∧
            duringToo context before after) context now)
        (component.body call) now fun _ after => duringToo context now after) :
    Guarantee component discipline
      (fun context entry external handed => handing context entry external handed ∧
        handingToo context entry external handed)
      (fun context before after => during context before after ∧
        duringToo context before after) where
  refl context now := ⟨base.refl context now, refl context now⟩
  trans context _ _ _ first second :=
    ⟨base.trans context first.1 second.1, trans context first.2 second.2⟩
  world context now next permitted :=
    ⟨base.world context now next permitted, world context now next permitted⟩
  call context now called permitted := by
    refine Code.wp_both _ ?_ (call context now called permitted)
    refine Code.wp_weaken (handOver component discipline handing during context now) _
      (fun _ _ handed => handed) ?_ (base.call context now called permitted)
    rintro external handed reply back _ (⟨middle, inside, replied, same⟩ | reverted)
    · exact .inl ⟨middle, inside.1, replied, same⟩
    · exact .inr reverted

/-- A lone call either fails and leaves everything as it was, or ends as its code says, if such an
end is never where it started. -/
theorem Guarantee.lone {call : Call} {entry after : σ × World} (ends : σ × World → Prop)
    (base : Guarantee component (lone call entry) handing during)
    (code : Code.wp (handOver component (Interaction.lone call entry) handing during [] entry)
      (component.body call) entry fun _ after => ends after)
    (moves : ¬ ends entry)
    (ran : Config.Steps component (Interaction.lone call entry) (.idle entry) (.idle after)) :
    after = entry ∨ ends after := by
  have extended : Guarantee component (Interaction.lone call entry)
      (fun context found external handed => handing context found external handed ∧ True)
      (fun context before after => during context before after ∧
        (context = [] → after = before ∨ before = entry ∧ ends after)) := by
    refine base.extend (fun _ _ _ => Or.inl rfl) ?_ ?_ ?_
    · intro context first second third one two outside
      rcases two outside with rfl | ⟨rfl, last⟩
      · exact one outside
      · rcases one outside with rfl | ⟨-, ended⟩
        · exact Or.inr ⟨rfl, last⟩
        · exact absurd ended moves
    · intro context now world permitted outside
      cases (permitted outside).2
    · intro context now called permitted
      by_cases outside : context = []
      · obtain ⟨rfl, same⟩ := permitted outside
        obtain rfl := Move.call.inj same
        subst outside
        refine Code.wp_imp _ (fun _ _ ended _ => Or.inr ⟨rfl, ended⟩) ?_
        refine Code.wp_weaken _ _ (fun _ _ _ => trivial) ?_ code
        rintro external handed reply back _ (⟨middle, inside, replied, same⟩ | reverted)
        · exact .inl ⟨middle, inside.1, replied, same⟩
        · exact .inr reverted
      · exact Code.wp_of_forall _ (fun _ _ => trivial) fun _ _ empty => absurd empty outside
  exact ((extended.between ran).2 rfl).imp_right And.right

end Guarantee

end Interaction
