import Mathlib.Logic.Function.Basic
import Mathlib.Logic.Relation
import Mathlib.Data.List.Basic
import SyntheticOrders.Interaction.Program

/-! # Processes that share a state

Any number of processes run code over one shared state. Code runs up to its next
request, and a request is one atomic step on the shared state. Processes are
started at any time, interleave in any order and may crash at any request; between
their steps the state may also drift by itself. The pool keeps the history of all
steps, with the state before and after each.

Reasoning about a pool has two parts. What a process asks is decided by what it
has heard, whatever the others do; `Behaviour.Planned` says so of its code alone.
What then happens is an induction over histories (`Pool.induct`), where each event
is planned by its own process and executed on the shared state.
-/

namespace Interaction

section Pool

variable {Request : Type} {Answer : Request → Type} {Task Result σ : Type}

/-- A process: what it was started for, and what is left of its code unless it has
crashed. -/
structure Process (Request : Type) (Answer : Request → Type) (Task Result : Type) where
  task : Task
  rest : Option (Program Request Answer Result)

/-- One step of one process. -/
structure Event (Request : Type) (Answer : Request → Type) (Task σ : Type) where
  pid : Nat
  task : Task
  request : Request
  answer : Answer request
  before : σ
  after : σ

/-- The request and the answer of an event. -/
def Event.exchange (event : Event Request Answer Task σ) : Exchange Request Answer :=
  ⟨event.request, event.answer⟩

/-- What a process has asked and heard, the latest first. -/
def dialogue (pid : Nat) (history : List (Event Request Answer Task σ)) :
    List (Exchange Request Answer) :=
  (history.filter fun event => event.pid = pid).map Event.exchange

theorem dialogue_cons_self (event : Event Request Answer Task σ)
    (history : List (Event Request Answer Task σ)) :
    dialogue event.pid (event :: history) = event.exchange :: dialogue event.pid history := by
  simp only [dialogue, decide_true, List.filter_cons_of_pos, List.map_cons]

theorem dialogue_cons_of_ne {pid : Nat} {event : Event Request Answer Task σ}
    (other : event.pid ≠ pid) (history : List (Event Request Answer Task σ)) :
    dialogue pid (event :: history) = dialogue pid history := by
  simp only [dialogue, other, decide_false, Bool.false_eq_true, not_false_eq_true,
    List.filter_cons_of_neg]

theorem mem_dialogue {pid : Nat} {exchange : Exchange Request Answer}
    {history : List (Event Request Answer Task σ)} :
    exchange ∈ dialogue pid history ↔
      ∃ event ∈ history, event.pid = pid ∧ event.exchange = exchange := by
  simp only [dialogue, List.mem_map, List.mem_filter, decide_eq_true_eq, and_assoc]

theorem dialogue_suffix (pid : Nat) {older newer : List (Event Request Answer Task σ)}
    (grown : older <:+ newer) : dialogue pid older <:+ dialogue pid newer :=
  (grown.filter _).map _

/-- What a process has heard since an event of its own, and the events it comes from. -/
theorem dialogue_since {event : Event Request Answer Task σ}
    {older history : List (Event Request Answer Task σ)} (placed : event :: older <:+ history) :
    ∃ since, dialogue event.pid history = since ++ event.exchange :: dialogue event.pid older ∧
      ∀ exchange ∈ since, ∃ other elder, other :: elder <:+ history ∧ event :: older <:+ elder ∧
        other.pid = event.pid ∧ other.exchange = exchange := by
  obtain ⟨newer, rfl⟩ := placed
  refine ⟨dialogue event.pid newer, ?_, fun exchange told => ?_⟩
  · rw [← dialogue_cons_self]
    simp only [dialogue, List.filter_append, List.map_append]
  · obtain ⟨other, listed, own, same⟩ := mem_dialogue.mp told
    obtain ⟨front, rest, rfl⟩ := List.append_of_mem listed
    refine ⟨other, rest ++ event :: older, ⟨front, ?_⟩, List.suffix_append _ _, own, same⟩
    rw [List.append_assoc, List.cons_append]

/-- The event behind the latest exchange of a process, which has done nothing since. -/
theorem dialogue_eq_cons {pid : Nat} {history : List (Event Request Answer Task σ)}
    {exchange : Exchange Request Answer} {heard : List (Exchange Request Answer)}
    (same : dialogue pid history = exchange :: heard) :
    ∃ newer event older, history = newer ++ event :: older ∧ (∀ other ∈ newer, other.pid ≠ pid) ∧
      event.pid = pid ∧ event.exchange = exchange ∧ dialogue pid older = heard := by
  obtain ⟨event, rest, filtered, told, below⟩ := List.map_eq_cons_iff.mp same
  obtain ⟨newer, older, rfl, others, own, rfl⟩ := List.filter_eq_cons_iff.mp filtered
  refine ⟨newer, event, older, rfl, fun other listed => ?_, by simpa using own, told, below⟩
  simpa using others other listed

/-- The event behind any exchange of a process. -/
theorem event_of_dialogue {pid : Nat} {history : List (Event Request Answer Task σ)}
    {exchange : Exchange Request Answer} {heard : List (Exchange Request Answer)}
    (told : exchange :: heard <:+ dialogue pid history) :
    ∃ event older, event :: older <:+ history ∧ event.pid = pid ∧ event.exchange = exchange ∧
      dialogue pid older = heard := by
  obtain ⟨newer, same⟩ := told
  obtain ⟨front, back, filtered, -, below⟩ := List.map_eq_append_iff.mp same.symm
  obtain ⟨first, rest, rfl, -, rfl⟩ := List.filter_eq_append_iff.mp filtered
  obtain ⟨others, event, older, rfl, -, own, told, heard⟩ := dialogue_eq_cons below
  exact ⟨event, older, ⟨first ++ others, by rw [List.append_assoc]⟩, own, told, heard⟩

/-- Every event of a history has a property, given the events before it. -/
def Always (property : List (Event Request Answer Task σ) → Event Request Answer Task σ → Prop) :
    List (Event Request Answer Task σ) → Prop
  | [] => True
  | event :: earlier => property earlier event ∧ Always property earlier

section Always

variable {property other : List (Event Request Answer Task σ) → Event Request Answer Task σ → Prop}
  {event : Event Request Answer Task σ} {history : List (Event Request Answer Task σ)}

instance decidableAlways [∀ earlier event, Decidable (property earlier event)] :
    (history : List (Event Request Answer Task σ)) → Decidable (Always property history)
  | [] => .isTrue trivial
  | event :: earlier =>
      have := decidableAlways earlier
      inferInstanceAs (Decidable (property earlier event ∧ Always property earlier))

/-- An event of a history, with the events before it. -/
theorem Always.of_mem (always : Always property history) (listed : event ∈ history) :
    ∃ earlier, event :: earlier <:+ history ∧ property earlier event := by
  induction history with
  | nil => exact absurd listed List.not_mem_nil
  | cons latest earlier ih =>
      rcases List.mem_cons.mp listed with rfl | older
      · exact ⟨earlier, List.suffix_refl _, always.1⟩
      · obtain ⟨before, placed, holds⟩ := ih always.2 older
        exact ⟨before, placed.trans (List.suffix_cons _ _), holds⟩

/-- A history has no property that its latest event lacks. -/
theorem not_always_of_head (latest : event ∈ history.head?)
    (fails : ¬ property history.tail event) : ¬ Always property history := by
  rw [← List.cons_head?_tail latest]
  exact fun always => fails always.1

theorem always_of_forall
    (holds : ∀ event ∈ history, ∀ earlier, earlier <:+ history → property earlier event) :
    Always property history := by
  induction history with
  | nil => exact trivial
  | cons latest earlier ih =>
      refine ⟨holds latest List.mem_cons_self earlier (List.suffix_cons _ _), ih ?_⟩
      exact fun event listed older placed => holds event (List.mem_cons_of_mem _ listed) older
        (placed.trans (List.suffix_cons _ _))

theorem Always.suffix {older : List (Event Request Answer Task σ)}
    (always : Always property history) (placed : older <:+ history) : Always property older := by
  induction history with
  | nil =>
      rw [List.suffix_nil.mp placed]
      exact trivial
  | cons latest earlier ih =>
      rcases List.suffix_cons_iff.mp placed with rfl | older
      · exact always
      · exact ih always.2 older

theorem Always.imp (always : Always property history)
    (implies : ∀ earlier event, event :: earlier <:+ history → property earlier event →
      other earlier event) : Always other history := by
  induction history with
  | nil => exact trivial
  | cons latest earlier ih =>
      refine ⟨implies earlier latest (List.suffix_refl _) always.1, ih always.2 ?_⟩
      exact fun before event placed =>
        implies before event (placed.trans (List.suffix_cons _ _))

end Always

/-- Of two positions in a history one comes before the other, or they are the same. -/
theorem suffix_trichotomy {α : Type} {first second : α} {older elder history : List α}
    (one : first :: older <:+ history) (two : second :: elder <:+ history) :
    first :: older <:+ elder ∨ second :: elder <:+ older ∨ first = second ∧ older = elder := by
  rcases List.suffix_or_suffix_of_suffix one two with within | within
  · rcases List.suffix_cons_iff.mp within with same | before
    · exact Or.inr (Or.inr (List.cons.inj same))
    · exact Or.inl before
  · rcases List.suffix_cons_iff.mp within with same | before
    · obtain ⟨head, tail⟩ := List.cons.inj same
      exact Or.inr (Or.inr ⟨head.symm, tail.symm⟩)
    · exact Or.inr (Or.inl before)

/-- The shared state, the history and the processes ever started. -/
structure Pool (Request : Type) (Answer : Request → Type) (Task Result σ : Type) where
  state : σ
  history : List (Event Request Answer Task σ)
  processes : Nat → Option (Process Request Answer Task Result)

/-- How processes behave: the code of each task, the effect of each request, and
what happens to the state by itself. -/
structure Behaviour (Request : Type) (Answer : Request → Type) (Task Result σ : Type) where
  program : Task → Program Request Answer Result
  exec : (request : Request) → Answer request → σ → σ → Prop
  drift : σ → σ → Prop

namespace Pool

/-- A pool before any process has been started. -/
def initial (state : σ) : Pool Request Answer Task Result σ := ⟨state, [], fun _ => none⟩

/-- The pool with one process started or changed. -/
def set (pool : Pool Request Answer Task Result σ) (pid : Nat)
    (process : Process Request Answer Task Result) : Pool Request Answer Task Result σ :=
  { pool with processes := Function.update pool.processes pid (some process) }

/-- The pool after an event, with what is left of the code of its process. -/
def happen (pool : Pool Request Answer Task Result σ) (event : Event Request Answer Task σ)
    (rest : Program Request Answer Result) : Pool Request Answer Task Result σ :=
  { pool.set event.pid ⟨event.task, some rest⟩ with
    state := event.after
    history := event :: pool.history }

variable (behaviour : Behaviour Request Answer Task Result σ)

/-- A start, one step of one process, a crash, or a drift of the state. -/
inductive Step : Pool Request Answer Task Result σ → Pool Request Answer Task Result σ → Prop
  | spawn (pool : Pool Request Answer Task Result σ) (pid : Nat) (task : Task)
      (unused : pool.processes pid = none) :
      Step pool (pool.set pid ⟨task, some (behaviour.program task)⟩)
  | act (pool : Pool Request Answer Task Result σ) (pid : Nat) (task : Task) (request : Request)
      (resume : Answer request → Program Request Answer Result)
      (waits : pool.processes pid = some ⟨task, some (.ask request resume)⟩)
      (answer : Answer request) (next : σ)
      (executes : behaviour.exec request answer pool.state next) :
      Step pool (pool.happen ⟨pid, task, request, answer, pool.state, next⟩ (resume answer))
  | crash (pool : Pool Request Answer Task Result σ) (pid : Nat)
      (process : Process Request Answer Task Result)
      (runs : pool.processes pid = some process) :
      Step pool (pool.set pid ⟨process.task, none⟩)
  | drift (pool : Pool Request Answer Task Result σ) (next : σ)
      (drifts : behaviour.drift pool.state next) :
      Step pool { pool with state := next }

abbrev Steps : Pool Request Answer Task Result σ → Pool Request Answer Task Result σ → Prop :=
  Relation.ReflTransGen (Step behaviour)

end Pool

/-- What a request demands of a process that has heard so much: it is planned, and
the process can go on with any answer that can be given. -/
def Behaviour.demand (behaviour : Behaviour Request Answer Task Result σ)
    (plan : List (Exchange Request Answer) → Request → Prop) (request : Request)
    (post : Answer request → List (Exchange Request Answer) → Prop)
    (heard : List (Exchange Request Answer)) : Prop :=
  plan heard request ∧ ∀ answer before after, behaviour.exec request answer before after →
    post answer (⟨request, answer⟩ :: heard)

variable (behaviour : Behaviour Request Answer Task Result σ)
  (plan : Task → List (Exchange Request Answer) → Request → Prop)
  (post : Task → Result → List (Exchange Request Answer) → Prop)

theorem Behaviour.demand_mono (scheme : List (Exchange Request Answer) → Request → Prop)
    (request : Request) {first second : Answer request → List (Exchange Request Answer) → Prop}
    (weaker : ∀ answer, first answer ≤ second answer) :
    behaviour.demand scheme request first ≤ behaviour.demand scheme request second :=
  fun _ ⟨planned, goesOn⟩ => ⟨planned, fun answer before after executes =>
    weaker answer _ (goesOn answer before after executes)⟩

/-- What follows a plan follows every laxer one. -/
theorem Behaviour.wp_laxer {scheme lax : List (Exchange Request Answer) → Request → Prop}
    (laxer : ∀ heard request, scheme heard request → lax heard request)
    (program : Program Request Answer Result)
    {post : Result → List (Exchange Request Answer) → Prop} {heard : List (Exchange Request Answer)}
    (follows : program.wp (behaviour.demand scheme) post heard) :
    program.wp (behaviour.demand lax) post heard := by
  induction program generalizing heard with
  | done result => exact follows
  | ask request resume ih =>
      refine ⟨laxer _ _ follows.1, fun answer before after executes => ?_⟩
      exact ih answer (follows.2 answer before after executes)

/-- The code of each task asks only what its plan allows after what it has heard, and
ends as `post` says. -/
def Behaviour.Planned : Prop :=
  ∀ task, (behaviour.program task).wp (behaviour.demand (plan task)) (post task) []

/-- How an event comes about: its process keeps to its task and to its plan, and the
request is executed on the shared state. -/
structure Happens (earlier : List (Event Request Answer Task σ))
    (event : Event Request Answer Task σ) : Prop where
  executes : behaviour.exec event.request event.answer event.before event.after
  planned : plan event.task (dialogue event.pid earlier) event.request
  sameTask : ∀ other ∈ earlier, other.pid = event.pid → other.task = event.task

/-- Each process of a pool is in accordance with the history. -/
structure Orderly (pool : Pool Request Answer Task Result σ) : Prop where
  unused : ∀ pid, pool.processes pid = none → ∀ event ∈ pool.history, event.pid ≠ pid
  sameTask : ∀ pid process, pool.processes pid = some process →
    ∀ event ∈ pool.history, event.pid = pid → event.task = process.task
  running : ∀ pid task program, pool.processes pid = some ⟨task, some program⟩ →
    program.wp (behaviour.demand (plan task)) (post task) (dialogue pid pool.history)

variable {behaviour plan post}

theorem Happens.executes_of {earlier : List (Event Request Answer Task σ)}
    {event : Event Request Answer Task σ} {request : Request} {answer : Answer request}
    (happened : Happens behaviour plan earlier event) (same : event.exchange = ⟨request, answer⟩) :
    behaviour.exec request answer event.before event.after := by
  have executes := happened.executes
  obtain ⟨_, _, asked, replied, _, _⟩ := event
  cases same
  exact executes

theorem Orderly.initial (state : σ) : Orderly behaviour plan post (.initial state) :=
  ⟨fun _ _ _ listed => absurd listed List.not_mem_nil,
    fun _ _ _ _ listed => absurd listed List.not_mem_nil,
    fun _ _ _ found => absurd found.symm (Option.some_ne_none _)⟩

/-- Setting a process whose code is in accordance with the history. -/
theorem Orderly.set {pool : Pool Request Answer Task Result σ}
    (orderly : Orderly behaviour plan post pool) {pid : Nat}
    {process : Process Request Answer Task Result}
    (task : ∀ event ∈ pool.history, event.pid = pid → event.task = process.task)
    (runs : ∀ program, process.rest = some program →
      program.wp (behaviour.demand (plan process.task)) (post process.task)
        (dialogue pid pool.history)) :
    Orderly behaviour plan post (pool.set pid process) := by
  refine ⟨fun other still => ?_, fun other found => ?_, fun other found program => ?_⟩ <;>
    simp only [Pool.set, Function.update_apply] at * <;>
    by_cases same : other = pid
  · rw [if_pos same] at still
    exact absurd still (Option.some_ne_none _)
  · rw [if_neg same] at still
    exact orderly.unused other still
  · rw [if_pos same, same]
    rintro ⟨⟩
    exact task
  · rw [if_neg same]
    exact orderly.sameTask other found
  · rw [if_pos same, same]
    intro started
    cases Option.some.inj started
    exact runs program rfl
  · rw [if_neg same]
    exact orderly.running other found program

/-- An event of a pool happens by its process's own plan. -/
theorem Orderly.happens {pool : Pool Request Answer Task Result σ}
    (orderly : Orderly behaviour plan post pool) (event : Event Request Answer Task σ)
    {resume : Answer event.request → Program Request Answer Result}
    (waits : pool.processes event.pid = some ⟨event.task, some (.ask event.request resume)⟩)
    (executes : behaviour.exec event.request event.answer event.before event.after) :
    Happens behaviour plan pool.history event :=
  ⟨executes, (orderly.running _ _ _ waits).1, orderly.sameTask _ _ waits⟩

/-- A pool is in accordance with its history after an event as well. -/
theorem Orderly.happen {pool : Pool Request Answer Task Result σ}
    (orderly : Orderly behaviour plan post pool) (event : Event Request Answer Task σ)
    {resume : Answer event.request → Program Request Answer Result}
    (waits : pool.processes event.pid = some ⟨event.task, some (.ask event.request resume)⟩)
    (executes : behaviour.exec event.request event.answer event.before event.after) :
    Orderly behaviour plan post (pool.happen event (resume event.answer)) := by
  have ready := orderly.running _ _ _ waits
  have task := orderly.sameTask _ _ waits
  refine ⟨fun other still => ?_, fun other found => ?_, fun other found program => ?_⟩ <;>
    simp only [Pool.happen, Pool.set, Function.update_apply, List.forall_mem_cons] at * <;>
    by_cases same : other = event.pid
  · rw [if_pos same] at still
    exact absurd still (Option.some_ne_none _)
  · rw [if_neg same] at still
    exact ⟨Ne.symm same, orderly.unused other still⟩
  · rw [if_pos same, same]
    rintro ⟨⟩
    exact ⟨fun _ => rfl, task⟩
  · rw [if_neg same]
    exact fun runs => ⟨fun own => absurd own.symm same, orderly.sameTask other found runs⟩
  · rw [if_pos same, same, dialogue_cons_self]
    intro goesOn
    cases Option.some.inj goesOn
    exact ready.2 event.answer event.before event.after executes
  · rw [if_neg same, dialogue_cons_of_ne (Ne.symm same)]
    exact orderly.running other found program

/-- Every pool reached from one without processes is in accordance with its history,
and what every event and every drift keeps holds of it. -/
theorem Pool.induct (planned : behaviour.Planned plan post)
    (holds : σ → List (Event Request Answer Task σ) → Prop) {state : σ} (initially : holds state [])
    (drifts : ∀ {before after history}, holds before history → behaviour.drift before after →
      holds after history)
    (happens : ∀ {earlier event}, holds event.before earlier → Happens behaviour plan earlier event →
      holds event.after (event :: earlier))
    {pool : Pool Request Answer Task Result σ}
    (reached : Pool.Steps behaviour (.initial state) pool) :
    Orderly behaviour plan post pool ∧ holds pool.state pool.history := by
  induction reached with
  | refl => exact ⟨.initial state, initially⟩
  | tail _ stepped ih =>
      obtain ⟨orderly, held⟩ := ih
      cases stepped with
      | spawn pid task unused =>
          refine ⟨orderly.set ?_ ?_, held⟩
          · exact fun event listed own => absurd own (orderly.unused pid unused event listed)
          · intro program started
            have silent : dialogue pid _ = [] := List.map_eq_nil_iff.mpr (List.filter_eq_nil_iff.mpr
              fun event listed => by simpa using orderly.unused pid unused event listed)
            rw [silent, ← Option.some.inj started]
            exact planned task
      | act pid task request resume waits answer next executes =>
          exact ⟨orderly.happen ⟨pid, task, request, answer, _, next⟩ waits executes,
            happens held (orderly.happens ⟨pid, task, request, answer, _, next⟩ waits executes)⟩
      | crash pid process runs =>
          refine ⟨orderly.set (orderly.sameTask pid process runs) ?_, held⟩
          exact fun _ gone => absurd gone.symm (Option.some_ne_none _)
      | drift next drifted =>
          exact ⟨⟨orderly.unused, orderly.sameTask, orderly.running⟩, drifts held drifted⟩

section Histories

variable (planned : behaviour.Planned plan post) {state : σ}
  {pool : Pool Request Answer Task Result σ}
  (reached : Pool.Steps behaviour (.initial state) pool)
include planned reached

/-- Every event of a reachable pool happens by the plan of its process. -/
theorem Pool.happens : Always (Happens behaviour plan) pool.history :=
  (Pool.induct planned (fun _ history => Always (Happens behaviour plan) history) trivial
    (fun held _ => held) (fun held happened => ⟨happened, held⟩) reached).2

/-- What every step carries over is carried over from any event to any later one. -/
theorem Pool.carried {carries : σ → σ → Prop} (trans : ∀ {first second third}, carries first second →
      carries second third → carries first third)
    (drifts : ∀ {before after}, behaviour.drift before after → carries before after)
    (happens : ∀ {earlier event}, Happens behaviour plan earlier event →
      carries event.before event.after) :
    Always (fun earlier event => ∀ other ∈ earlier, carries other.before event.before)
      pool.history := by
  refine (Pool.induct planned (fun state history => (∀ other ∈ history, carries other.before state) ∧
    Always (fun earlier event => ∀ other ∈ earlier, carries other.before event.before) history)
    ⟨fun _ listed => absurd listed List.not_mem_nil, trivial⟩ ?_ ?_ reached).2.2
  · exact fun held drifted => ⟨fun other listed => trans (held.1 other listed) (drifts drifted),
      held.2⟩
  · intro earlier event held happened
    refine ⟨fun other listed => ?_, held.1, held.2⟩
    rcases List.mem_cons.mp listed with rfl | older
    · exact happens happened
    · exact trans (held.1 other older) (happens happened)

/-- As long as only allowed steps are made, what each of them carries over is carried over
from after any event to before any later one, and to the present. -/
theorem Pool.carriedSince {carries : σ → σ → Prop} {allowed : Event Request Answer Task σ → Prop}
    (refl : ∀ state, carries state state)
    (trans : ∀ {first second third}, carries first second → carries second third →
      carries first third)
    (drifts : ∀ {before after}, behaviour.drift before after → carries before after)
    (happens : ∀ {earlier event}, Happens behaviour plan earlier event → allowed event →
      carries event.before event.after)
    (only : ∀ event ∈ pool.history, allowed event) :
    Always (fun earlier event => ∀ other ∈ earlier, carries other.after event.before)
        pool.history ∧ ∀ other ∈ pool.history, carries other.after pool.state := by
  refine (Pool.induct planned (fun state history => (∀ event ∈ history, allowed event) →
    Always (fun earlier event => ∀ other ∈ earlier, carries other.after event.before) history ∧
      ∀ other ∈ history, carries other.after state)
    (fun _ => ⟨trivial, fun _ listed => absurd listed List.not_mem_nil⟩) ?_ ?_ reached).2 only
  · intro before after history held drifted permitted
    obtain ⟨always, present⟩ := held permitted
    exact ⟨always, fun other listed => trans (present other listed) (drifts drifted)⟩
  · intro earlier event held happened permitted
    obtain ⟨permits, rest⟩ := List.forall_mem_cons.mp permitted
    obtain ⟨always, present⟩ := held rest
    refine ⟨⟨present, always⟩, fun other listed => ?_⟩
    rcases List.mem_cons.mp listed with rfl | older
    · exact refl _
    · exact trans (present other older) (happens happened permits)

end Histories

/-- The states of a run, the latest first: the present one, and those before and after each
event. -/
def Pool.moments (pool : Pool Request Answer Task Result σ) : List σ :=
  pool.state :: pool.history.flatMap fun event => [event.after, event.before]

theorem Pool.moments_event {pool : Pool Request Answer Task Result σ} {relation : σ → σ → Prop}
    (moments : pool.moments.Pairwise relation) {event : Event Request Answer Task σ}
    (listed : event ∈ pool.history) : relation event.after event.before := by
  have inside := (List.pairwise_flatMap.mp (List.pairwise_cons.mp moments).2).1 event listed
  exact (List.pairwise_cons.mp inside).1 _ (List.mem_singleton_self _)

/-- The state before an event is later than those after the events before it. -/
theorem Pool.moments_between {pool : Pool Request Answer Task Result σ} {relation : σ → σ → Prop}
    (moments : pool.moments.Pairwise relation) {event other : Event Request Answer Task σ}
    {older : List (Event Request Answer Task σ)} (placed : event :: older <:+ pool.history)
    (listed : other ∈ older) : relation event.before other.after := by
  obtain ⟨newer, same⟩ := placed
  have rest := (List.pairwise_cons.mp moments).2
  rw [← same, List.flatMap_append, List.flatMap_cons] at rest
  have present := (List.pairwise_append.mp rest).2.1
  have earlier := (List.pairwise_cons.mp (List.pairwise_cons.mp present).2).1
  exact earlier _ (List.mem_flatMap.mpr ⟨other, listed, List.mem_cons_self⟩)

/-- As long as only allowed steps are made, what each of them carries over is carried over
from any state of a run to any later one. -/
theorem Pool.moments_carried (planned : behaviour.Planned plan post) {state : σ}
    {pool : Pool Request Answer Task Result σ}
    (reached : Pool.Steps behaviour (.initial state) pool) {carries : σ → σ → Prop}
    {allowed : Event Request Answer Task σ → Prop} (refl : ∀ state, carries state state)
    (trans : ∀ {first second third}, carries first second → carries second third →
      carries first third)
    (drifts : ∀ {before after}, behaviour.drift before after → carries before after)
    (happens : ∀ {earlier event}, Happens behaviour plan earlier event → allowed event →
      carries event.before event.after)
    (only : ∀ event ∈ pool.history, allowed event) :
    pool.moments.Pairwise fun later earlier => carries earlier later := by
  refine (Pool.induct planned (fun state history => (∀ event ∈ history, allowed event) →
    (state :: history.flatMap fun event => [event.after, event.before]).Pairwise
      fun later earlier => carries earlier later)
    (fun _ => List.pairwise_singleton _ _) ?_ ?_ reached).2 only
  · intro before after history held drifted permitted
    obtain ⟨latest, rest⟩ := List.pairwise_cons.mp (held permitted)
    exact List.pairwise_cons.mpr
      ⟨fun old listed => trans (latest old listed) (drifts drifted), rest⟩
  · intro earlier event held happened permitted
    obtain ⟨permits, others⟩ := List.forall_mem_cons.mp permitted
    have before := held others
    have moved := happens happened permits
    have after : ∀ old ∈ event.before :: earlier.flatMap fun event => [event.after, event.before],
        carries old event.after := by
      intro old listed
      rcases List.mem_cons.mp listed with rfl | older
      · exact moved
      · exact trans ((List.pairwise_cons.mp before).1 old older) moved
    have once := List.pairwise_cons.mpr ⟨after, before⟩
    refine List.pairwise_cons.mpr ⟨fun old listed => ?_, once⟩
    rcases List.mem_cons.mp listed with rfl | older
    · exact refl _
    · exact after old older

/-- Nothing is asked of behaviour whose every request is planned. -/
theorem Behaviour.planned_freely (behaviour : Behaviour Request Answer Task Result σ) :
    behaviour.Planned (fun _ _ _ => True) (fun _ _ _ => True) := by
  intro task
  generalize behaviour.program task = program
  generalize ([] : List (Exchange Request Answer)) = heard
  induction program generalizing heard with
  | done result => exact trivial
  | ask request resume ih => exact ⟨trivial, fun answer _ _ _ => ih answer _⟩

/-- Histories grow. -/
theorem Pool.Steps.history_suffix {pool later : Pool Request Answer Task Result σ}
    (steps : Pool.Steps behaviour pool later) : pool.history <:+ later.history := by
  induction steps with
  | refl => exact List.suffix_refl _
  | tail _ stepped ih =>
      cases stepped with
      | spawn | crash | drift => exact ih
      | act => exact ih.trans (List.suffix_cons _ _)

/-- What a process has heard comes from an event of its own. -/
theorem Always.heard {pid : Nat} {request : Request} {answer : Answer request}
    {history : List (Event Request Answer Task σ)}
    (always : Always (Happens behaviour plan) history)
    (told : ⟨request, answer⟩ ∈ dialogue pid history) :
    ∃ other older, other :: older <:+ history ∧ other.pid = pid ∧
      other.exchange = ⟨request, answer⟩ ∧ Happens behaviour plan older other ∧
      behaviour.exec request answer other.before other.after := by
  obtain ⟨other, listed, own, same⟩ := mem_dialogue.mp told
  obtain ⟨older, placed, happened⟩ := always.of_mem listed
  exact ⟨other, older, placed, own, same, happened, happened.executes_of same⟩

section Schedules

/-- A scheduled step: a start, or the next request of a process with its reply. -/
inductive Pool.Move (Request : Type) (Answer : Request → Type) (Task σ : Type) where
  | spawn (pid : Nat) (task : Task)
  | act (pid : Nat) (reply : (request : Request) → σ → Answer request × σ)

/-- The pool after a move. A move that is not possible does nothing. -/
def Pool.move (behaviour : Behaviour Request Answer Task Result σ)
    (pool : Pool Request Answer Task Result σ) :
    Pool.Move Request Answer Task σ → Pool Request Answer Task Result σ
  | .spawn pid task =>
      match pool.processes pid with
      | none => pool.set pid ⟨task, some (behaviour.program task)⟩
      | some _ => pool
  | .act pid reply =>
      match pool.processes pid with
      | some ⟨task, some (.ask request resume)⟩ =>
          pool.happen ⟨pid, task, request, (reply request pool.state).1, pool.state,
            (reply request pool.state).2⟩ (resume (reply request pool.state).1)
      | _ => pool

/-- The pool after a schedule. -/
def Pool.play (behaviour : Behaviour Request Answer Task Result σ)
    (pool : Pool Request Answer Task Result σ) (moves : List (Pool.Move Request Answer Task σ)) :
    Pool Request Answer Task Result σ :=
  moves.foldl (Pool.move behaviour) pool

/-- A schedule whose replies can be given is a run. -/
theorem Pool.play_steps (pool : Pool Request Answer Task Result σ)
    (moves : List (Pool.Move Request Answer Task σ))
    (possible : ∀ pid reply, .act pid reply ∈ moves → ∀ request state,
      behaviour.exec request (reply request state).1 state (reply request state).2) :
    Pool.Steps behaviour pool (pool.play behaviour moves) := by
  induction moves generalizing pool with
  | nil => exact .refl
  | cons move rest ih =>
      refine Relation.ReflTransGen.trans ?_
        (ih (pool.move behaviour move) fun pid reply listed =>
          possible pid reply (List.mem_cons_of_mem _ listed))
      cases move with
      | spawn pid task =>
          simp only [Pool.move]
          split
          · next unused => exact .single (.spawn pool pid task unused)
          · exact .refl
      | act pid reply =>
          simp only [Pool.move]
          split
          · next task request resume waits =>
              exact .single (.act pool pid task request resume waits _ _
                (possible pid reply List.mem_cons_self request pool.state))
          · exact .refl

/-- Are the requests of a schedule all made when they are possible? -/
def Pool.possible (behaviour : Behaviour Request Answer Task Result σ)
    (answers : (request : Request) → σ → Bool) (pool : Pool Request Answer Task Result σ) :
    List (Pool.Move Request Answer Task σ) → Bool
  | [] => true
  | .spawn pid task :: rest =>
      Pool.possible behaviour answers (pool.move behaviour (.spawn pid task)) rest
  | .act pid reply :: rest =>
      (match pool.processes pid with
        | some ⟨_, some (.ask request _)⟩ => answers request pool.state
        | _ => true) &&
        Pool.possible behaviour answers (pool.move behaviour (.act pid reply)) rest

/-- A schedule with one way of replying is a run, if its requests are possible when made. -/
theorem Pool.play_steps_of_possible {answers : (request : Request) → σ → Bool}
    {reply : (request : Request) → σ → Answer request × σ}
    (executes : ∀ request state, answers request state = true →
      behaviour.exec request (reply request state).1 state (reply request state).2)
    (pool : Pool Request Answer Task Result σ) (moves : List (Pool.Move Request Answer Task σ))
    (same : ∀ pid other, .act pid other ∈ moves → other = reply)
    (possible : Pool.possible behaviour answers pool moves = true) :
    Pool.Steps behaviour pool (pool.play behaviour moves) := by
  induction moves generalizing pool with
  | nil => exact .refl
  | cons move rest ih =>
      have later := fun pid other listed => same pid other (List.mem_cons_of_mem move listed)
      cases move with
      | spawn pid task =>
          refine Relation.ReflTransGen.trans ?_ (ih (pool.move behaviour (.spawn pid task)) later possible)
          simp only [Pool.move]
          split
          · next unused => exact .single (.spawn pool pid task unused)
          · exact .refl
      | act pid other =>
          obtain rfl := same pid other List.mem_cons_self
          rw [Pool.possible, Bool.and_eq_true] at possible
          refine Relation.ReflTransGen.trans ?_
            (ih (pool.move behaviour (.act pid other)) later possible.2)
          have now := possible.1
          simp only [Pool.move]
          split
          · next task request resume waits =>
              rw [waits] at now
              exact .single (.act pool pid task request resume waits _ _ (executes request _ now))
          · exact .refl

/-- What every reply of a schedule is like, every event in its history is like. -/
theorem Pool.play_answered {holds : Exchange Request Answer → Prop}
    {pool : Pool Request Answer Task Result σ} {moves : List (Pool.Move Request Answer Task σ)}
    (replies : ∀ pid reply, .act pid reply ∈ moves → ∀ request state,
      holds ⟨request, (reply request state).1⟩)
    (before : ∀ event ∈ pool.history, holds event.exchange) :
    ∀ event ∈ (pool.play behaviour moves).history, holds event.exchange := by
  induction moves generalizing pool with
  | nil => exact before
  | cons move rest ih =>
      apply ih fun pid reply listed => replies pid reply (List.mem_cons_of_mem _ listed)
      cases move with
      | spawn pid task =>
          simp only [Pool.move]
          split
          · exact before
          · exact before
      | act pid reply =>
          simp only [Pool.move]
          split
          · exact List.forall_mem_cons.mpr ⟨replies pid reply List.mem_cons_self _ _, before⟩
          · exact before

/-- A schedule leaves a process alone that it does not start. -/
theorem Pool.play_unstarted {pool : Pool Request Answer Task Result σ} {pid : Nat}
    {moves : List (Pool.Move Request Answer Task σ)} (unused : pool.processes pid = none)
    (unstarted : ∀ task, .spawn pid task ∉ moves) :
    (pool.play behaviour moves).processes pid = none := by
  induction moves generalizing pool with
  | nil => exact unused
  | cons move rest ih =>
      refine ih ?_ fun task listed => unstarted task (List.mem_cons_of_mem _ listed)
      cases move with
      | spawn other task =>
          have foreign : pid ≠ other := by
            rintro rfl
            exact unstarted task List.mem_cons_self
          simp only [Pool.move]
          split
          · simp only [Pool.set, Function.update_of_ne foreign, unused]
          · exact unused
      | act other reply =>
          simp only [Pool.move]
          split
          · next task request resume waits =>
              have foreign : pid ≠ other := by
                rintro rfl
                rw [unused] at waits
                cases waits
              simp only [Pool.happen, Pool.set, Function.update_of_ne foreign, unused]
          · exact unused

end Schedules

end Pool

end Interaction
