import Mathlib.Data.List.Basic

/-!
# A series of calls that stops at the first failure

A loop makes one call per element of a list. Calls are numbered, and which of them fail is decided
from outside. `completed` lists the elements whose call went through: all of them, or those before
the first failure.
-/

set_option autoImplicit false

namespace InventoryHero.Interaction

variable {α : Type*}

/-- The elements whose calls go through, when the first call has the number `k`. -/
def completed (fails : ℕ → Bool) : ℕ → List α → List α
  | _, [] => []
  | k, a :: l => if fails k then [] else a :: completed fails (k + 1) l

@[simp] theorem completed_nil (fails : ℕ → Bool) (k : ℕ) :
    completed fails k ([] : List α) = [] := rfl

theorem completed_cons_of_fails {fails : ℕ → Bool} {k : ℕ} (h : fails k = true) (a : α)
    (l : List α) : completed fails k (a :: l) = [] := if_pos h

theorem completed_cons_of_ok {fails : ℕ → Bool} {k : ℕ} (h : fails k = false) (a : α)
    (l : List α) : completed fails k (a :: l) = a :: completed fails (k + 1) l := by
  simp [completed, h]

/-- All calls go through, or one is the first to fail and those before it go through. -/
theorem completed_cases (fails : ℕ → Bool) (k : ℕ) (l : List α) :
    (completed fails k l = l ∧ ∀ i < l.length, fails (k + i) = false) ∨
      ∃ i < l.length, fails (k + i) = true ∧ (∀ j < i, fails (k + j) = false) ∧
        completed fails k l = l.take i := by
  induction l generalizing k with
  | nil => exact .inl ⟨rfl, by simp⟩
  | cons a l ih =>
      cases hk : fails k with
      | true => exact .inr ⟨0, by simp, hk, by simp, completed_cons_of_fails hk a l⟩
      | false =>
          -- the call `j` of the tail is the call `j + 1` of the list
          have hshift : ∀ j, k + 1 + j = k + (j + 1) := by
            intro j
            omega
          have hlater : ∀ {n : ℕ}, (∀ j < n, fails (k + 1 + j) = false) →
              ∀ j < n + 1, fails (k + j) = false := by
            intro n h j hj
            cases j with
            | zero => exact hk
            | succ j => exact hshift j ▸ h j (by omega)
          rw [completed_cons_of_ok hk]
          rcases ih (k + 1) with ⟨heq, hall⟩ | ⟨i, hi, hfails, hbefore, htake⟩
          · exact .inl ⟨by rw [heq], hlater hall⟩
          · refine .inr ⟨i + 1, by simpa using hi, hshift i ▸ hfails, hlater hbefore, ?_⟩
            rw [htake, List.take_succ_cons]

end InventoryHero.Interaction
