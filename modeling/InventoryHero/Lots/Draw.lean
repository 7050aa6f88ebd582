import Mathlib.Algebra.Order.BigOperators.Group.List
import Mathlib.Algebra.Order.Group.Defs
import Mathlib.Tactic.Abel

/-!
# Drawing an amount from lots in order

A list of lots, each with an amount. `draw t` takes `t` from the front: a lot that is used up goes,
the lot in which the draw ends keeps the remainder, and a lot without a positive amount is passed
over and stays. `Drawn` says the same without the recursion, as a relation between the lots before
and after.

What is taken is `t`, as long as the positive lots hold as much (`stock_draw`). Draws add up
(`draw_draw`). A draw either ends in the first part of the list (`draw_append_of_lt`) or takes all
that this part has to give (`draw_append_of_le`).
-/

set_option autoImplicit false

namespace InventoryHero.Lots

/-- Lots of type `β` hold amounts in `G`. -/
class Lot (β : Type) (G : outParam Type) where
  amount : β → G
  setAmount : G → β → β
  amount_setAmount : ∀ g b, amount (setAmount g b) = g
  setAmount_setAmount : ∀ g g' b, setAmount g (setAmount g' b) = setAmount g b
  setAmount_amount : ∀ b, setAmount (amount b) b = b

export Lot (amount setAmount)

attribute [simp] Lot.amount_setAmount Lot.setAmount_setAmount Lot.setAmount_amount

variable {β G : Type} [Lot β G] [AddCommGroup G]

/-- What all lots hold together. -/
def stock (l : List β) : G := (l.map amount).sum

@[simp] theorem stock_nil : stock ([] : List β) = 0 := rfl

@[simp] theorem stock_cons (b : β) (rest : List β) :
    stock (b :: rest) = amount b + stock rest := by
  simp [stock]

variable [LinearOrder G]

/-- What the positive lots hold together. -/
def supply (l : List β) : G := (l.map fun b => max (amount b) 0).sum

/-- The lots without a positive amount. -/
def empties (l : List β) : List β := l.filter fun b => amount b ≤ (0 : G)

/-- The lots after `t` was drawn from them. -/
def draw (t : G) : List β → List β
  | [] => []
  | b :: rest =>
      if 0 < amount b then
        if amount b ≤ t then draw (t - amount b) rest else setAmount (amount b - t) b :: rest
      else b :: draw t rest

/-- How many lots without a positive amount the draw passes over. -/
def passed (t : G) : List β → Nat
  | [] => 0
  | b :: rest =>
      if 0 < amount b then if amount b ≤ t then passed (t - amount b) rest else 0
      else passed t rest + 1

/-- `l'` is `l` after a draw: the positive lots of an initial part are gone, the next positive one
may be lowered to what is still a positive amount, and nothing else has changed. -/
def Drawn (l l' : List β) : Prop :=
  ∃ used left left', l = used ++ left ∧ l' = empties used ++ left' ∧
    (left' = left ∨ ∃ skipped b after g, left = skipped ++ b :: after ∧
      (∀ s ∈ skipped, amount s ≤ (0 : G)) ∧ 0 < g ∧ g ≤ amount b ∧
      left' = skipped ++ setAmount g b :: after)

section Equations

variable {t : G} {b : β} (rest : List β)

theorem draw_used_up (h₀ : 0 < amount b) (h : amount b ≤ t) :
    draw t (b :: rest) = draw (t - amount b) rest := by
  simp only [draw, h₀, h, if_true]

theorem draw_remainder (h₀ : 0 < amount b) (h : ¬amount b ≤ t) :
    draw t (b :: rest) = setAmount (amount b - t) b :: rest := by
  simp only [draw, h₀, h, if_true, if_false]

theorem draw_skip (h₀ : ¬0 < amount b) : draw t (b :: rest) = b :: draw t rest := by
  simp only [draw, h₀, if_false]

theorem passed_used_up (h₀ : 0 < amount b) (h : amount b ≤ t) :
    passed t (b :: rest) = passed (t - amount b) rest := by
  simp only [passed, h₀, h, if_true]

theorem passed_remainder (h₀ : 0 < amount b) (h : ¬amount b ≤ t) : passed t (b :: rest) = 0 := by
  simp only [passed, h₀, h, if_true, if_false]

theorem passed_skip (h₀ : ¬0 < amount b) : passed t (b :: rest) = passed t rest + 1 := by
  simp only [passed, h₀, if_false]

end Equations

@[simp] theorem supply_nil : supply ([] : List β) = 0 := rfl

theorem supply_cons_pos {b : β} (rest : List β) (h : 0 < amount b) :
    supply (b :: rest) = amount b + supply rest := by
  simp [supply, max_eq_left h.le]

theorem supply_cons_nonpos {b : β} (rest : List β) (h : ¬0 < amount b) :
    supply (b :: rest) = supply rest := by
  simp [supply, max_eq_right (not_lt.1 h)]

@[simp] theorem empties_nil : empties ([] : List β) = [] := rfl

theorem empties_cons_pos {b : β} (rest : List β) (h : 0 < amount b) :
    empties (b :: rest) = empties rest :=
  List.filter_cons_of_neg (by simpa using h)

theorem empties_cons_nonpos {b : β} (rest : List β) (h : ¬0 < amount b) :
    empties (b :: rest) = b :: empties rest :=
  List.filter_cons_of_pos (by simpa using h)

theorem supply_append (l l' : List β) : supply (l ++ l') = supply l + supply l' := by
  simp [supply]

theorem supply_take_succ {l : List β} {i : Nat} (hi : i < l.length) (h : 0 < amount l[i]) :
    supply (l.take (i + 1)) = supply (l.take i) + amount l[i] := by
  rw [List.take_succ_eq_append_getElem hi, supply_append, supply_cons_pos [] h, supply_nil,
    add_zero]

@[simp] theorem draw_zero (l : List β) : draw (0 : G) l = l := by
  induction l with
  | nil => rfl
  | cons b rest ih =>
      by_cases h₀ : 0 < amount b
      · rw [draw_remainder rest h₀ (not_le.2 h₀), sub_zero, Lot.setAmount_amount]
      · rw [draw_skip rest h₀, ih]

/-- A draw removes lots and changes amounts, nothing else. -/
theorem map_draw_sublist {γ : Type} {f : β → γ} (hf : ∀ g b, f (setAmount g b) = f b) (t : G)
    (l : List β) : List.Sublist ((draw t l).map f) (l.map f) := by
  induction l generalizing t with
  | nil => exact List.Sublist.refl _
  | cons b rest ih =>
      by_cases h₀ : 0 < amount b
      · by_cases hb : amount b ≤ t
        · rw [draw_used_up rest h₀ hb]
          exact (ih _).cons _
        · rw [draw_remainder rest h₀ hb, List.map_cons, hf, List.map_cons]
      · rw [draw_skip rest h₀]
        exact (ih t).cons_cons _

variable [IsOrderedAddMonoid G]

theorem supply_nonneg (l : List β) : 0 ≤ supply l := by
  apply List.sum_nonneg
  intro g hg
  obtain ⟨b, -, rfl⟩ := List.mem_map.1 hg
  exact le_max_right _ _

theorem supply_take_mono (l : List β) {i j : Nat} (h : i ≤ j) :
    supply (l.take i) ≤ supply (l.take j) := by
  have hsplit : supply (l.take j) = supply (l.take i) + supply ((l.take j).drop i) := by
    conv_lhs => rw [← List.take_append_drop i (l.take j)]
    rw [supply_append, List.take_take, min_eq_left h]
  rw [hsplit]
  exact le_add_of_nonneg_right (supply_nonneg _)

theorem stock_le_supply (l : List β) : stock l ≤ supply l :=
  List.sum_le_sum fun _ _ => le_max_left _ _

/-- A draw takes the amount asked for. -/
theorem stock_draw {t : G} {l : List β} (ht : 0 ≤ t) (h : t ≤ supply l) :
    stock (draw t l) = stock l - t := by
  induction l generalizing t with
  | nil =>
      have hzero : t = 0 := le_antisymm h ht
      simp [draw, hzero]
  | cons b rest ih =>
      by_cases h₀ : 0 < amount b
      · rw [supply_cons_pos rest h₀] at h
        by_cases hb : amount b ≤ t
        · have hrest := ih (t := t - amount b) (by grind) (by grind)
          rw [draw_used_up rest h₀ hb, hrest, stock_cons]
          abel
        · rw [draw_remainder rest h₀ hb, stock_cons, stock_cons, Lot.amount_setAmount]
          abel
      · rw [supply_cons_nonpos rest h₀] at h
        rw [draw_skip rest h₀, stock_cons, stock_cons, ih ht h]
        abel

/-- To go on with a lot that was lowered by `s` is to start with `s` more. -/
theorem draw_lowered {s : G} {b : β} (h₀ : 0 < amount b) (hb : ¬amount b ≤ s) (t : G)
    (rest : List β) :
    draw t (setAmount (amount b - s) b :: rest) = draw (s + t) (b :: rest) ∧
      passed t (setAmount (amount b - s) b :: rest) = passed (s + t) (b :: rest) := by
  have hamount : amount (setAmount (amount b - s) b) = amount b - s := Lot.amount_setAmount _ _
  have h₁ : 0 < amount (setAmount (amount b - s) b) := by
    rw [hamount]
    grind
  by_cases hst : amount b ≤ s + t
  · have h₂ : amount (setAmount (amount b - s) b) ≤ t := by
      rw [hamount]
      grind
    have hleft : t - (amount b - s) = s + t - amount b := by abel
    rw [draw_used_up rest h₁ h₂, draw_used_up rest h₀ hst, passed_used_up rest h₁ h₂,
      passed_used_up rest h₀ hst, hamount, hleft]
    exact ⟨rfl, rfl⟩
  · have h₂ : ¬amount (setAmount (amount b - s) b) ≤ t := by
      rw [hamount]
      grind
    have hleft : amount b - s - t = amount b - (s + t) := by abel
    rw [draw_remainder rest h₁ h₂, draw_remainder rest h₀ hst, passed_remainder rest h₁ h₂,
      passed_remainder rest h₀ hst, hamount, hleft, Lot.setAmount_setAmount]
    exact ⟨rfl, rfl⟩

/-- Two draws are one draw of both amounts, and the second passes over what that one does. -/
theorem draw_draw {s t : G} (hs : 0 ≤ s) (ht : 0 ≤ t) (l : List β) :
    draw t (draw s l) = draw (s + t) l ∧ passed t (draw s l) = passed (s + t) l := by
  -- along the lots: the first draw ends after, in or before the lot in front
  induction l generalizing s with
  | nil => exact ⟨rfl, rfl⟩
  | cons b rest ih =>
      by_cases h₀ : 0 < amount b
      · by_cases hb : amount b ≤ s
        · obtain ⟨hdraw, hpassed⟩ := ih (sub_nonneg.2 hb)
          have hst : amount b ≤ s + t := by grind
          have hleft : s - amount b + t = s + t - amount b := by abel
          rw [draw_used_up rest h₀ hb, hdraw, hpassed, draw_used_up rest h₀ hst,
            passed_used_up rest h₀ hst, hleft]
          exact ⟨rfl, rfl⟩
        · rw [draw_remainder rest h₀ hb]
          exact draw_lowered h₀ hb t rest
      · obtain ⟨hdraw, hpassed⟩ := ih hs
        rw [draw_skip rest h₀, draw_skip _ h₀, draw_skip rest h₀, passed_skip _ h₀,
          passed_skip rest h₀, hdraw, hpassed]
        exact ⟨rfl, rfl⟩

theorem passed_mono {s t : G} (h : s ≤ t) (l : List β) : passed s l ≤ passed t l := by
  induction l generalizing s t with
  | nil => exact le_rfl
  | cons b rest ih =>
      by_cases h₀ : 0 < amount b
      · by_cases hb : amount b ≤ s
        · rw [passed_used_up rest h₀ hb, passed_used_up rest h₀ (hb.trans h)]
          exact ih (sub_le_sub_right h _)
        · rw [passed_remainder rest h₀ hb]
          exact Nat.zero_le _
      · rw [passed_skip rest h₀, passed_skip rest h₀]
        exact Nat.succ_le_succ (ih h)

/-! ## Where a draw ends -/

/-- A draw that takes all the first part has to give goes on in the second. -/
theorem draw_append_of_le {t : G} {l : List β} (h : supply l ≤ t) (l' : List β) :
    draw t (l ++ l') = empties l ++ draw (t - supply l) l' := by
  induction l generalizing t with
  | nil => simp
  | cons b rest ih =>
      by_cases h₀ : 0 < amount b
      · rw [supply_cons_pos rest h₀] at h ⊢
        have hb : amount b ≤ t := by
          have := supply_nonneg rest
          grind
        have hrest := ih (t := t - amount b) (by grind)
        rw [List.cons_append, draw_used_up _ h₀ hb, hrest, empties_cons_pos rest h₀]
        congr 2
        abel
      · rw [supply_cons_nonpos rest h₀] at h ⊢
        rw [List.cons_append, draw_skip _ h₀, ih h, empties_cons_nonpos rest h₀, List.cons_append]

/-- A draw of less than that ends in the first part. -/
theorem draw_append_of_lt {t : G} {l : List β} (ht : 0 ≤ t) (h : t < supply l) (l' : List β) :
    draw t (l ++ l') = draw t l ++ l' := by
  induction l generalizing t with
  | nil => exact absurd h (not_lt.2 ht)
  | cons b rest ih =>
      by_cases h₀ : 0 < amount b
      · rw [supply_cons_pos rest h₀] at h
        by_cases hb : amount b ≤ t
        · rw [List.cons_append, draw_used_up _ h₀ hb, draw_used_up _ h₀ hb]
          exact ih (by grind) (by grind)
        · rw [List.cons_append, draw_remainder _ h₀ hb, draw_remainder _ h₀ hb, List.cons_append]
      · rw [supply_cons_nonpos rest h₀] at h
        rw [List.cons_append, draw_skip _ h₀, draw_skip _ h₀, ih ht h, List.cons_append]

/-- A draw is what it is meant to be. -/
theorem drawn_draw {t : G} (ht : 0 ≤ t) (l : List β) : Drawn l (draw t l) := by
  induction l generalizing t with
  | nil => exact ⟨[], [], [], rfl, rfl, .inl rfl⟩
  | cons b rest ih =>
      by_cases h₀ : 0 < amount b
      · by_cases hb : amount b ≤ t
        · obtain ⟨used, left, left', hl, hl', hlast⟩ := ih (sub_nonneg.2 hb)
          refine ⟨b :: used, left, left', by rw [hl, List.cons_append], ?_, hlast⟩
          rw [draw_used_up rest h₀ hb, hl', empties_cons_pos used h₀]
        · refine ⟨[], b :: rest, setAmount (amount b - t) b :: rest, rfl, ?_,
            .inr ⟨[], b, rest, amount b - t, rfl, List.forall_mem_nil _, ?_, ?_, rfl⟩⟩
          · rw [draw_remainder rest h₀ hb, empties_nil, List.nil_append]
          · exact sub_pos.2 (not_le.1 hb)
          · exact sub_le_self _ ht
      · -- a lot that is passed over belongs to the initial part
        obtain ⟨used, left, left', hl, hl', hlast⟩ := ih ht
        refine ⟨b :: used, left, left', by rw [hl, List.cons_append], ?_, hlast⟩
        rw [draw_skip rest h₀, hl', empties_cons_nonpos used h₀, List.cons_append]

end InventoryHero.Lots
