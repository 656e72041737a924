import Mathlib

/-! # Logs from which a state can be rebuilt

A log is a chronicle of a state if each of its events fits what the events before it amount
to, and replaying all of them yields the state. An invariant that every fitting event keeps
then holds of the state, and what fitting says of an event can be read off at its place in
the log.
-/

/-- The events of a log have happened one after the other and have led from one state to
another. -/
inductive Chronicle {S E : Type*} (fits : S → E → Prop) (apply : S → E → S) (first : S) :
    List E → S → Prop
  | nil : Chronicle fits apply first [] first
  | snoc {state : S} {log : List E} {event : E} (earlier : Chronicle fits apply first log state)
      (fitting : fits state event) : Chronicle fits apply first (log ++ [event]) (apply state event)

namespace Chronicle

variable {S E : Type*} {fits : S → E → Prop} {apply : S → E → S} {first middle last : S}
  {log later : List E}

theorem trans (left : Chronicle fits apply first log middle)
    (right : Chronicle fits apply middle later last) :
    Chronicle fits apply first (log ++ later) last := by
  induction right with
  | nil =>
      rw [List.append_nil]
      exact left
  | snoc _ fitting ih =>
      rw [← List.append_assoc]
      exact ih.snoc fitting

/-- The state is what the log replays to. -/
theorem replay (chronicle : Chronicle fits apply first log last) : last = log.foldl apply first := by
  induction chronicle with
  | nil => rfl
  | snoc _ _ ih =>
      rw [List.foldl_append, ← ih]
      rfl

/-- Every event fits what the events before it replay to. -/
theorem fits_at (chronicle : Chronicle fits apply first log last) {earlier later : List E} {event : E}
    (placed : log = earlier ++ event :: later) : fits (earlier.foldl apply first) event := by
  induction chronicle generalizing later with
  | nil => exact absurd placed.symm (List.append_ne_nil_of_right_ne_nil _ (List.cons_ne_nil _ _))
  | @snoc state log latest chronicle fitting ih =>
      rcases List.eq_nil_or_concat later with rfl | ⟨rest, final, rfl⟩
      · obtain ⟨rfl, same⟩ := List.append_inj' placed rfl
        cases same
        rw [← chronicle.replay]
        exact fitting
      · have split : log ++ [latest] = (earlier ++ event :: rest) ++ [final] := by
          rw [placed, List.append_assoc, List.cons_append, List.concat_eq_append]
        exact ih (List.append_inj' split rfl).1

/-- What every event of the log keeps, given that it fits, holds in the end if it held in the
beginning. -/
theorem keeps {invariant : S → Prop} (chronicle : Chronicle fits apply first log last)
    (step : ∀ state, ∀ event ∈ log, fits state event → invariant state →
      invariant (apply state event)) (initially : invariant first) : invariant last := by
  induction chronicle with
  | nil => exact initially
  | snoc _ fitting ih =>
      apply step _ _ (List.mem_append_right _ (List.mem_singleton_self _)) fitting
      apply ih
      intro state event listed
      exact step state event (List.mem_append_left _ listed)

end Chronicle
