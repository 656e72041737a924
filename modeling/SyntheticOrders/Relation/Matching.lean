import Mathlib

/-! # Amounts covered by limits

Amounts and limits carry labels. If no two amounts share a label and each has a limit under its
label that it does not exceed, then all amounts together do not exceed all limits together.
-/

namespace Matching

variable {α β κ : Type} [DecidableEq β] {amount : α → Nat} {limit : β → Nat} (label : α → κ)
  (bears : β → κ)

/-- Amounts of distinct labels, each within a limit of its label, add up to at most the limits. -/
theorem sum_le {items : List α} {limits : List β}
    (distinct : items.Pairwise fun first second =>
      amount first ≠ 0 → amount second ≠ 0 → label first ≠ label second)
    (within : ∀ item ∈ items, amount item ≠ 0 → ∃ cover ∈ limits, bears cover = label item ∧
      amount item ≤ limit cover) :
    (items.map amount).sum ≤ (limits.map limit).sum := by
  induction items generalizing limits with
  | nil => exact Nat.zero_le _
  | cons item rest ih =>
      obtain ⟨others, apart⟩ := List.pairwise_cons.mp distinct
      rw [List.map_cons, List.sum_cons]
      by_cases nothing : amount item = 0
      · have remain := ih apart fun other member => within other (List.mem_cons_of_mem _ member)
        omega
      obtain ⟨cover, listed, same, enough⟩ := within item List.mem_cons_self nothing
      -- The limit of the first amount is no other's, so the others do without it.
      have remain : (rest.map amount).sum ≤ ((limits.erase cover).map limit).sum := by
        refine ih apart fun other member something => ?_
        obtain ⟨further, known, same', enough'⟩ :=
          within other (List.mem_cons_of_mem _ member) something
        have differs : further ≠ cover := by
          intro equal
          apply others other member nothing something
          rw [← same, ← same', equal]
        exact ⟨further, (List.mem_erase_of_ne differs).mpr known, same', enough'⟩
      have total := List.sum_map_erase limit listed
      omega

end Matching
