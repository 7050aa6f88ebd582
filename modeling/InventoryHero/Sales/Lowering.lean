import InventoryHero.Sales.Drawing

/-!
# Sales that add stock

Neither the quantity of a sale nor the pieces in a bulk have to be positive. A sale of a negative
number of pieces passes the comparison with the stock and is drawn like any other: the first batch
with pieces grows. A committed sale lowers the stock exactly if it asks for a positive number of
pieces (`sale_lowers_iff`).
-/

set_option autoImplicit false

namespace InventoryHero.Sales

open Interaction Storage Model Stock Serial Lots

/-- A sale of a positive quantity was recorded, and every batch was there before with at least as
many pieces. -/
def OnlyLowers (s s' : Store) : Prop :=
  (∃ sale ∈ s'.sales.docs.getLast?, s'.sales.docs = s.sales.docs ++ [sale] ∧ 0 < sale.quantity) ∧
    ∀ b' ∈ s'.inventories.docs, ∃ b ∈ s.inventories.docs, b._id = b'._id ∧ b'.quantity ≤ b.quantity

instance (s s' : Store) : Decidable (OnlyLowers s s') := inferInstanceAs (Decidable (_ ∧ _))

/-- In every state reached, a sale that commits lowers the stock exactly if it asks for a positive
number of pieces. -/
theorem sale_lowers_iff {db : Db} (hempty : db.IsEmpty) (calls : List Call) {id : ObjectId}
    {body : SalesBody} {caller : Caller} {env : Env} {t : ℚ}
    (hasks : piecesAsked (serveAll calls db).store id body = some t)
    (hcommits : Commits ⟨.recordSales id body, caller, env⟩ (serveAll calls db)) :
    OnlyLowers (serveAll calls db).store
        (serveStep ⟨.recordSales id body, caller, env⟩ (serveAll calls db)).store ↔ 0 < t := by
  have hids : AllFresh (serveAll calls db) := (allFresh_of_isEmpty hempty).serveAll calls
  obtain ⟨user, product, data, h⟩ := (commits_recordSales_iff hids).1 hcommits
  obtain rfl := pieces_of_sells h hasks
  rw [OnlyLowers, h.sales hids]
  constructor
  · rintro ⟨⟨sale, hlast, -, hpos⟩, -⟩
    obtain rfl : soldAs user id data _ _ _ = sale := by simpa using hlast
    exact hpos
  · intro hpos
    refine ⟨⟨_, by simp, rfl, hpos⟩, ?_⟩
    intro b' hb'
    rw [h.store hids] at hb'
    obtain ⟨b, hb, heq, hcase⟩ := mem_drawWrites (fun e he => (mem_batches.1 he).1)
      (nodup_batches (serveAll calls db).store id) hb'
    refine ⟨b, hb, by rw [heq], ?_⟩
    rcases hcase with hsame | ⟨-, hle⟩
    · exact hsame.le
    · exact hle hpos.le

/-- A sale of three of ten pieces. -/
theorem sale_lowers_three :
    OnlyLowers
      (serveAll [Sample.call (.addProduct (Sample.productBody 10 100))] Sample.db).store
      (serveStep (Sample.call (.recordSales 1 (Sample.salesBody 3)))
        (serveAll [Sample.call (.addProduct (Sample.productBody 10 100))] Sample.db)).store :=
  (sale_lowers_iff (t := 3) Sample.isEmpty _ (by decide +kernel) (by decide +kernel)).2
    (by decide +kernel)

/-- A sale of minus five pieces is committed and leaves fifteen of the ten pieces. -/
theorem sale_of_minus_five :
    let db := serveAll [Sample.call (.addProduct (Sample.productBody 10 100))] Sample.db
    let c := Sample.call (.recordSales 1 (Sample.salesBody (-5)))
    Commits c db ∧ (db.store.batches 1).map Inventory.quantity = [10] ∧
      ((serveStep c db).store.batches 1).map Inventory.quantity = [15] ∧
      ¬OnlyLowers db.store (serveStep c db).store := by
  decide +kernel

end InventoryHero.Sales
