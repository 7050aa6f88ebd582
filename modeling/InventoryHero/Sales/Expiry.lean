import InventoryHero.Sales.Drawing

/-!
# The order of expiry

The aggregation of `recordSales` sorts by `expiryDate`, but what it sorts are products, after their
batches were joined to them; a product has no such field, and there is only one. The batches stay
in storage order, and so pieces are taken from a batch while another one, which expires earlier,
comes after it. Exactly when this happens is a matter of the pieces in front of the two batches
(`sale_by_expiry_iff`).
-/

set_option autoImplicit false

namespace InventoryHero.Sales

open Interaction Storage Model Stock Serial Lots

/-- Pieces were taken from the batch: it is gone, or it has fewer. -/
def TakenFrom (s' : Store) (y : Inventory) : Prop :=
  ∀ y' ∈ s'.inventories.get? y._id, y'.quantity < y.quantity

instance (s' : Store) (y : Inventory) : Decidable (TakenFrom s' y) :=
  inferInstanceAs (Decidable (∀ _ ∈ _, _))

/-- Before pieces are taken from a batch, those with pieces that expire earlier are used up. -/
def FirstExpiredFirstOut (s s' : Store) (id : ObjectId) : Prop :=
  ∀ y ∈ s.batches id, TakenFrom s' y → ∀ x ∈ s.batches id, 0 < x.quantity →
    x.expiryDate < y.expiryDate → s'.inventories.get? x._id = none

instance (s s' : Store) (id : ObjectId) : Decidable (FirstExpiredFirstOut s s' id) :=
  inferInstanceAs (Decidable (∀ _ ∈ _, _))

/-- Where a batch stands before one that expires earlier, a draw of `t` pieces either ends before
the first of the two or takes all pieces up to the second. -/
def DrawnByExpiry (l : List Inventory) (t : ℚ) : Prop :=
  ∀ i j : Fin l.length, i < j → 0 < l[i].quantity → 0 < l[j].quantity →
    l[j].expiryDate < l[i].expiryDate → t ≤ supply (l.take i) ∨ supply (l.take (j + 1)) ≤ t

instance (l : List Inventory) (t : ℚ) : Decidable (DrawnByExpiry l t) :=
  inferInstanceAs (Decidable (∀ _ _, _))

section Positions

variable {s s' : Store} {id : ObjectId} {t : ℚ}
  (h : s'.inventories = s.inventories.writeAll (drawWrites t (s.batches id))) (ht : 0 ≤ t)

include h ht

theorem get?_drawn (i : Fin (s.batches id).length) (h₀ : 0 < (s.batches id)[i].quantity) :
    s'.inventories.get? (s.batches id)[i]._id =
      if supply ((s.batches id).take (i + 1)) ≤ t then none
      else some { (s.batches id)[i] with
        quantity := (s.batches id)[i].quantity - max (t - supply ((s.batches id).take i)) 0 } := by
  have hl : s.batches id =
      (s.batches id).take i ++ (s.batches id)[i] :: (s.batches id).drop (i + 1) := by
    conv_lhs => rw [← List.take_append_drop i (s.batches id), List.drop_eq_getElem_cons i.2]
    rfl
  rw [h, get?_drawWrites hl h₀ ht]
  exact if_congr (by rw [supply_take_succ i.2 h₀]; rfl) rfl rfl

theorem usedUp_iff (i : Fin (s.batches id).length) (h₀ : 0 < (s.batches id)[i].quantity) :
    s'.inventories.get? (s.batches id)[i]._id = none ↔
      supply ((s.batches id).take (i + 1)) ≤ t := by
  rw [get?_drawn h ht i h₀]
  split
  · rename_i hle
    exact iff_of_true rfl hle
  · rename_i hlt
    exact iff_of_false (Option.some_ne_none _) hlt

theorem takenFrom_iff (i : Fin (s.batches id).length) (h₀ : 0 < (s.batches id)[i].quantity) :
    TakenFrom s' (s.batches id)[i] ↔ supply ((s.batches id).take i) < t := by
  rw [TakenFrom, get?_drawn h ht i h₀]
  have hnext : supply ((s.batches id).take (i + 1)) =
      supply ((s.batches id).take i) + (s.batches id)[i].quantity := supply_take_succ i.2 h₀
  split
  · rename_i hle
    refine iff_of_true (by simp) ?_
    linarith
  · simp

/-- A batch without pieces is left alone. -/
theorem not_takenFrom {y : Inventory} (hy : y ∈ s.batches id) (h₀ : ¬0 < y.quantity) :
    ¬TakenFrom s' y := by
  obtain ⟨before, after, hl⟩ := List.append_of_mem hy
  have hmem : y ∈ draw t (s.batches id) := by
    rw [hl]
    by_cases hbefore : supply before ≤ t
    · rw [draw_append_of_le hbefore, Lots.draw_skip after h₀]
      simp
    · rw [draw_append_of_lt ht (not_le.1 hbefore)]
      simp
  rw [← batches_drawWrites h, mem_batches] at hmem
  intro htaken
  exact lt_irrefl _ (htaken y (Collection.get?_of_mem hmem.1))

/-- The draw follows the order of expiry exactly if no batch that expires earlier is left behind. -/
theorem firstExpiredFirstOut_iff :
    FirstExpiredFirstOut s s' id ↔ DrawnByExpiry (s.batches id) t := by
  constructor
  · intro hfefo i j _ hi hj hexpiry
    by_contra hneither
    push Not at hneither
    have htaken := (takenFrom_iff h ht i hi).2 hneither.1
    have hgone := hfefo _ (List.getElem_mem i.2) htaken _ (List.getElem_mem j.2) hj hexpiry
    exact not_le.2 hneither.2 ((usedUp_iff h ht j hj).1 hgone)
  · intro hdrawn y hy htaken x hx hpos hexpiry
    have hy₀ : 0 < y.quantity := by
      by_contra hempty
      exact not_takenFrom h ht hy hempty htaken
    obtain ⟨i, rfl⟩ := List.get_of_mem hy
    obtain ⟨j, rfl⟩ := List.get_of_mem hx
    have hbefore := (takenFrom_iff h ht i hy₀).1 htaken
    refine (usedUp_iff h ht j hpos).2 ?_
    rcases lt_trichotomy i j with hij | rfl | hji
    · rcases hdrawn i j hij hy₀ hpos hexpiry with hle | hle
      · exact absurd hbefore (not_lt.2 hle)
      · exact hle
    · exact absurd hexpiry (lt_irrefl _)
    · -- what comes before a batch that is drawn from is used up
      exact (supply_take_mono _ (Nat.succ_le_of_lt hji)).trans hbefore.le

end Positions

/-- A committed sale follows the order of expiry exactly if, for every two batches of which the
second expires earlier, it ends before the first or takes all pieces up to the second. -/
theorem sale_by_expiry_iff {db : Db} {id : ObjectId} {body : SalesBody} {caller : Caller}
    {env : Env} {t : ℚ} (hids : AllFresh db) (hasks : piecesAsked db.store id body = some t)
    (ht : 0 < t) (hcommits : Commits ⟨.recordSales id body, caller, env⟩ db) :
    FirstExpiredFirstOut db.store (serveStep ⟨.recordSales id body, caller, env⟩ db).store id ↔
      DrawnByExpiry (db.store.batches id) t := by
  obtain ⟨user, product, data, h⟩ := (commits_recordSales_iff hids).1 hcommits
  obtain rfl := pieces_of_sells h hasks
  refine firstExpiredFirstOut_iff ?_ ht.le
  rw [h.store hids]
  rfl

/-- Ten pieces that expire at 10, then five that expire at 5. -/
def laterFirst : Db :=
  serveAll [Sample.call (.addProduct { Sample.productBody 10 100 with expiryDate := some 10 }),
    Sample.call (.addInventory 1 { Sample.inventoryBody 5 50 with expiryDate := some 5 })] Sample.db

theorem allFresh_laterFirst : AllFresh laterFirst :=
  (allFresh_of_isEmpty Sample.isEmpty).serveAll _

/-- A sale of all fifteen pieces leaves nothing behind. -/
theorem sale_by_expiry_fifteen :
    FirstExpiredFirstOut laterFirst.store
      (serveStep (Sample.call (.recordSales 1 (Sample.salesBody 15))) laterFirst).store 1 :=
  (sale_by_expiry_iff (t := 15) allFresh_laterFirst (by decide +kernel) (by decide +kernel)
    (by decide +kernel)).2 (by decide +kernel)

/-- A sale of three pieces takes them from the batch that expires later. -/
theorem sale_passes_earlier_expiry :
    Commits (Sample.call (.recordSales 1 (Sample.salesBody 3))) laterFirst ∧
      ¬FirstExpiredFirstOut laterFirst.store
        (serveStep (Sample.call (.recordSales 1 (Sample.salesBody 3))) laterFirst).store 1 := by
  decide +kernel

end InventoryHero.Sales
