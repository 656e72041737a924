import Mathlib

/-! # Lists that are related element by element

A list that changes only by its elements moving along a relation keeps its length and its
order. What a relation says of an element can be carried over in both directions, and a measure
that no element increases tells, by its total, whether any element has moved down.
-/

namespace Pointwise

section Elements

variable {α β : Type*} {relation : α → β → Prop} {first : List α} {second : List β}

/-- Where an element comes from. -/
theorem origin (related : List.Forall₂ relation first second) {item : β} (listed : item ∈ second) :
    ∃ old ∈ first, relation old item := by
  induction related with
  | nil => exact absurd listed List.not_mem_nil
  | cons head _ ih =>
      rcases List.mem_cons.mp listed with rfl | later
      · exact ⟨_, List.mem_cons_self, head⟩
      · obtain ⟨old, there, moved⟩ := ih later
        exact ⟨old, List.mem_cons_of_mem _ there, moved⟩

/-- What becomes of an element. -/
theorem outcome (related : List.Forall₂ relation first second) {item : α} (listed : item ∈ first) :
    ∃ new ∈ second, relation item new := by
  induction related with
  | nil => exact absurd listed List.not_mem_nil
  | cons head _ ih =>
      rcases List.mem_cons.mp listed with rfl | later
      · exact ⟨_, List.mem_cons_self, head⟩
      · obtain ⟨new, there, moved⟩ := ih later
        exact ⟨new, List.mem_cons_of_mem _ there, moved⟩

end Elements

variable {α : Type*} {relation : α → α → Prop} {first second third : List α}

theorem trans (transitive : ∀ one two three, relation one two → relation two three →
      relation one three) (left : List.Forall₂ relation first second)
    (right : List.Forall₂ relation second third) : List.Forall₂ relation first third := by
  induction left generalizing third with
  | nil =>
      cases right
      exact .nil
  | cons head _ ih =>
      cases right with
      | cons head' rest => exact .cons (transitive _ _ _ head head') (ih rest)

/-- Two changes in a row, each along a relation of its own. -/
theorem comp {one two whole : α → α → Prop} (left : List.Forall₂ one first second)
    (right : List.Forall₂ two second third)
    (composes : ∀ old middle new, one old middle → two middle new → whole old new) :
    List.Forall₂ whole first third := by
  induction left generalizing third with
  | nil =>
      cases right
      exact .nil
  | cons head _ ih =>
      cases right with
      | cons head' rest => exact .cons (composes _ _ _ head head') (ih rest)

/-- A relation may be weakened with a view to the elements that occur. -/
theorem imp_of_mem {other : α → α → Prop} (related : List.Forall₂ relation first second)
    (implies : ∀ old ∈ first, ∀ new ∈ second, relation old new → other old new) :
    List.Forall₂ other first second := by
  induction related with
  | nil => exact .nil
  | cons head _ ih =>
      refine .cons (implies _ List.mem_cons_self _ List.mem_cons_self head) (ih ?_)
      intro old listed new listed'
      exact implies old (List.mem_cons_of_mem _ listed) new (List.mem_cons_of_mem _ listed')

section Measure

variable {measure : α → Nat} (lowers : ∀ old new, relation old new → measure new ≤ measure old)
include lowers

theorem total_le (related : List.Forall₂ relation first second) :
    (second.map measure).sum ≤ (first.map measure).sum := by
  induction related with
  | nil => exact le_rfl
  | cons head _ ih =>
      simp only [List.map_cons, List.sum_cons]
      exact Nat.add_le_add (lowers _ _ head) ih

/-- As long as the total stands, every element has kept its measure. -/
theorem kept_of_total (related : List.Forall₂ relation first second)
    (stands : (first.map measure).sum ≤ (second.map measure).sum) :
    List.Forall₂ (fun old new => relation old new ∧ measure old ≤ measure new) first second := by
  induction related with
  | nil => exact .nil
  | cons head tail ih =>
      have below := lowers _ _ head
      have rest := total_le lowers tail
      simp only [List.map_cons, List.sum_cons] at stands
      exact .cons ⟨head, by omega⟩ (ih (by omega))

end Measure

end Pointwise
