import SyntheticOrders.Orders.Lifespan

/-! # The claim of an execution

An order gets to EXECUTING only by the claim of an execution. The claim is the first write
of its process, and the failure handler of the process has not run before it.
-/

namespace Orders

open Interaction

/-- The event moves the order from TRIGGERED to EXECUTING. -/
def Starts (event : Happening) (id : String) : Prop :=
  (event.before.orders.find id).map Order.status = some .triggered ∧
    (event.after.orders.find id).map Order.status = some .executing

instance (event : Happening) (id : String) : Decidable (Starts event id) :=
  inferInstanceAs (Decidable (_ ∧ _))

/-- A claim that takes effect, and what its process has done before. -/
structure Claims (id : String) (version : Nat) (older : List Happening) (event : Happening) :
    Prop where
  task : event.task = .executeOrder id
  asked : event.request = .updateMany id (claimUpdate version)
  began : ∃ order, Began (dialogue event.pid older) id order
  unwritten : writes (dialogue event.pid older) = []
  unread : rereads (dialogue event.pid older) = []
  lands : ∃ row, event.before.orders.find id = some row ∧ row.status = .triggered ∧
    row.version = version ∧
    event.after.orders.find id = some ((claimUpdate version).data event.before.clock row)

section Claims

variable {packages : Packages} {config : Config} {world : World} {system : System} {pid : Nat}
  {id : String} {version : Nat}

/-- Only a claim moves an order to EXECUTING. -/
theorem claims_of_moved {earlier : List Happening} {event : Happening}
    (happened : Happens (workers packages config) (Warrant packages config) earlier event)
    {row next : Order} (found : event.before.orders.find id = some row)
    (foundNext : event.after.orders.find id = some next) (idle : row.status ≠ .executing)
    (executing : next.status = .executing) :
    ∃ version, Claims id version earlier event := by
  rcases exec_row happened.executes found with kept | ⟨update, asked, accepted, now⟩
  · cases kept.symm.trans foundNext
    exact absurd executing idle
  · cases now.symm.trans foundNext
    rw [Update.data_status] at executing
    have warrant := happened.planned
    rw [asked] at warrant
    generalize same : event.task = task at warrant
    cases warrant with
    | routine _ _ _ routine => exact absurd routine Bool.false_ne_true
    | claim _ _ order began unwritten unread =>
        have before := accepted
        rw [claimUpdate, Update.accepts_transitionStatus] at before
        exact ⟨order.version, same, asked, ⟨order, began⟩, unwritten, unread, row, found, before.1,
          before.2, now⟩
    | record => exact absurd executing idle
    | poll => exact absurd executing idle
    | cancel | mark | trigger | adopt | giveUp | unsubmitted | confirm | revert | settled | dropped
    | backfill | audit => cases executing

theorem Won.claims (reached : Pool.Steps (workers packages config) (.initial world) system)
    (won : Won pid id system.history) :
    ∃ event older version, event :: older <:+ system.history ∧ event.pid = pid ∧
      Claims id version older event := by
  obtain ⟨event, listed, own, before, after⟩ := won
  obtain ⟨older, placed, happened⟩ := (reached_happens reached).of_mem listed
  obtain ⟨row, found, triggered⟩ := Option.map_eq_some_iff.mp before
  obtain ⟨next, foundNext, executing⟩ := Option.map_eq_some_iff.mp after
  have idle : row.status ≠ .executing := by
    rw [triggered]
    exact fun same => nomatch same
  obtain ⟨version, claims⟩ := claims_of_moved happened found foundNext idle executing
  exact ⟨event, older, version, placed, own, claims⟩

theorem Claims.starts {older : List Happening} {event : Happening}
    (claims : Claims id version older event) : Starts event id := by
  obtain ⟨row, found, triggered, -, now⟩ := claims.lands
  refine ⟨?_, ?_⟩
  · rw [found, Option.map_some, triggered]
  · rw [now]
    rfl

/-- The order of a broadcast transaction was moved to EXECUTING before. -/
theorem broadcast_starts
    (reached : Pool.Steps (workers packages config) (.initial world) system) {event : Happening}
    {older : List Happening} (placed : event :: older <:+ system.history)
    (task : event.task = .executeOrder id) {serialized : Hex}
    (sends : event.request.sends = some serialized) : ∃ claim ∈ older, Starts claim id := by
  obtain ⟨-, claim, elder, version, within, -, asked, ⟨row, found, early⟩, next, now, late⟩ :=
    broadcast_claimed reached placed task sends
  have happened :=
    ((reached_happens reached).suffix ((within.trans (List.suffix_cons _ _)).trans placed)).1
  refine ⟨claim, within.subset List.mem_cons_self, ?_⟩
  rcases exec_row happened.executes found with kept | ⟨update, asked', accepted, written⟩
  · cases kept.symm.trans now
    omega
  · cases asked.symm.trans asked'
    rw [claimUpdate, Update.accepts_transitionStatus] at accepted
    refine ⟨?_, ?_⟩
    · rw [found, Option.map_some, accepted.1]
    · rw [written]
      rfl

theorem Claims.won {older history : List Happening} {event : Happening}
    (claims : Claims id version older event) (placed : event :: older <:+ history) :
    Won event.pid id history :=
  ⟨event, placed.subset List.mem_cons_self, rfl, claims.starts⟩

/-- The other updates of the process, and the read of its failure handler, come after its
claim. -/
theorem Claims.first {history older elder : List Happening} {event other : Happening}
    (claims : Claims id version older event) (placed : event :: older <:+ history)
    (placed' : other :: elder <:+ history) (own : other.pid = event.pid)
    (acts : (∃ update, other.request = .updateMany id update ∧ update ≠ claimUpdate version) ∨
      other.request = .findById .handleFailure id) : event :: older <:+ elder := by
  rcases suffix_trichotomy placed placed' with before | before | same
  · exact before
  · have told : other.exchange ∈ dialogue event.pid older :=
      mem_dialogue.mpr ⟨other, before.subset List.mem_cons_self, own, rfl⟩
    rcases acts with ⟨update, asked, -⟩ | asked
    · have written : (writes (dialogue event.pid older)) ≠ [] := by
        obtain ⟨_, _, request, answer, _, _⟩ := other
        cases asked
        exact List.ne_nil_of_mem (mem_writes.mpr told)
      exact absurd claims.unwritten written
    · have reread : id ∈ rereads (dialogue event.pid older) :=
        List.mem_filterMap.mpr ⟨other.exchange, told, congrArg Op.rereads asked⟩
      rw [claims.unread] at reread
      exact absurd reread List.not_mem_nil
  · rcases acts with ⟨update, asked, different⟩ | asked
    · rw [← same.1, claims.asked] at asked
      cases asked
      exact absurd rfl different
    · rw [← same.1, claims.asked] at asked
      cases asked

end Claims

end Orders
