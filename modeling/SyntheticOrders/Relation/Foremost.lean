import Mathlib

/-! # The foremost of a list

From a list in an order the first few are taken. What is left out comes after a full batch, and
what is taken comes before all that is left out. So an item is taken unless enough others stand
before it, and it is left out as long as they do.
-/

namespace Foremost

variable {α : Type*} {precedes : α → α → Prop} {ordered : List α} {limit : Nat} {item : α}

/-- An item is left out only for a full batch of items that precede it. -/
theorem full_of_left (sorted : ordered.Pairwise precedes) (listed : item ∈ ordered)
    (left : item ∉ ordered.take limit) :
    (ordered.take limit).length = limit ∧ ∀ other ∈ ordered.take limit, precedes other item := by
  rw [← List.take_append_drop limit ordered] at sorted listed
  have later := (List.mem_append.mp listed).resolve_left left
  constructor
  · have rest : 0 < (ordered.drop limit).length := List.length_pos_of_mem later
    rw [List.length_drop] at rest
    rw [List.length_take]
    omega
  · exact fun other taken => (List.pairwise_append.mp sorted).2.2 other taken item later

/-- If fewer than a batch stand in its way, an item is taken, or another one that does not stand
in its way is taken before it. -/
theorem taken_or_ahead (sorted : ordered.Pairwise precedes) (listed : item ∈ ordered)
    {blocks : α → Bool} (few : ordered.countP blocks < limit) :
    item ∈ ordered.take limit ∨
      ∃ other ∈ ordered.take limit, precedes other item ∧ blocks other = false := by
  by_contra! none
  obtain ⟨left, blocked⟩ := none
  obtain ⟨full, before⟩ := full_of_left sorted listed left
  have all : (ordered.take limit).countP blocks = (ordered.take limit).length := by
    rw [List.countP_eq_length]
    exact fun other taken => Bool.of_not_eq_false (blocked other taken (before other taken))
  have within := (List.take_sublist limit ordered).countP_le (p := blocks)
  omega

/-- An item is left out as long as a batch of others precede it. -/
theorem left_of_many (sorted : ordered.Pairwise precedes) {ahead : α → Bool}
    (many : limit ≤ ordered.countP ahead) (behind : ahead item = false)
    (first : ∀ other, ahead other = true → ¬ precedes item other) : item ∉ ordered.take limit := by
  intro taken
  rw [← List.take_append_drop limit ordered] at sorted many
  have rest : (ordered.drop limit).countP ahead = 0 := by
    rw [List.countP_eq_zero]
    intro other later before
    exact first other before ((List.pairwise_append.mp sorted).2.2 item taken other later)
  have batch : (ordered.take limit).countP ahead < (ordered.take limit).length := by
    refine lt_of_le_of_ne List.countP_le_length fun same => ?_
    have all := List.countP_eq_length.mp same item taken
    rw [behind] at all
    cases all
  rw [List.countP_append, rest] at many
  have short := List.length_take_le limit ordered
  omega

end Foremost
