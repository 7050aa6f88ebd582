import InventoryHero.Serial.Origin
import InventoryHero.Batches.Requests

/-!
# No empty batch

As long as requests supply positive quantities, sales and the pieces per bulk stay positive
(`Trading`), and so does every batch (`AllPositive`), with one exception: `editInventory` subtracts
the pieces already sold from the quantity it is given, and stores a batch without pieces when the
two are equal.
-/

set_option autoImplicit false

namespace InventoryHero.Batches

open Interaction Storage Model Stock Serial

/-- Sales and pieces per bulk are positive. -/
structure Trading (s : Store) : Prop where
  upb : ∀ p ∈ s.products.docs, 0 < p.upb
  sales : ∀ sale ∈ s.sales.docs, 0 < sale.quantity

theorem trading_of_isEmpty {db : Db} (h : db.IsEmpty) : Trading db.store := by
  obtain ⟨hp, -, hs, -⟩ := h
  exact ⟨by simp [hp], by simp [hs]⟩

/-- The pieces of a sale are positive. -/
theorem Trading.pieces_pos {s : Store} (h : Trading s) {id : ObjectId} {product : Product}
    {body : SalesBody} {data : SalesInput} (found : s.findProduct id = some product)
    (valid : validateSales body = .ok data) (hq : Positive body.quantity) :
    0 < data.pieces product := by
  have hdata : 0 < data.quantity := hq _ (validateSales_ok valid)
  have hupb := h.upb product (Store.mem_of_findProduct found).1
  unfold SalesInput.pieces
  split
  · exact mul_pos hdata hupb
  · exact hdata

/-- Requests with positive quantities keep sales and pieces per bulk positive. -/
theorem Trading.effect {db db' : Db} {c : Call} (h : Trading db.store) (e : Effect db c db')
    (hc : SuppliesPositive c.request) : Trading db'.store := by
  cases e with
  | unchanged store next => rwa [store]
  | addProduct product batch cost purchase batch_product product_id quantity upb costPrice commit =>
      rw [commit.store]
      refine ⟨fun p hp => ?_, h.sales⟩
      rcases Collection.mem_of_mem_insert hp with hp | rfl
      · exact h.upb p hp
      · exact hc.2 _ upb
  | addInventory product price batch cost found purchase batch_product quantity costPrice commit =>
      rw [commit.store]
      refine ⟨fun p hp => ?_, h.sales⟩
      rw [Store.products_apply, writeAll_priceWrites] at hp
      obtain ⟨a, ha, rfl⟩ := Collection.mem_modify.1 hp
      have hupb := h.upb a ha
      split
      · exact hupb
      · exact hupb
  | recordSales product data sale lasts known found valid enough sale_product sale_quantity sale_id
      snapshot usedUp commit =>
      rw [commit.store]
      refine ⟨h.upb, fun s hs => ?_⟩
      rcases Collection.mem_of_mem_insert hs with hs | rfl
      · exact h.sales s hs
      · rw [sale_quantity]
        exact h.pieces_pos found valid hc
  | deleteSalesRecord may reversed =>
      cases reversed with
      | restock sale batch found first valid commit =>
          rw [commit.store]
          exact ⟨h.upb, fun s hs => h.sales s (Collection.mem_delete.1 hs).1⟩
      | rebuild sale last n found none_live snapshot valid batch_id commit =>
          rw [commit.store]
          exact ⟨h.upb, fun s hs => h.sales s (Collection.mem_delete.1 hs).1⟩
  | deleteAllSales live store next =>
      rw [store]
      exact ⟨h.upb, fun s hs => absurd hs List.not_mem_nil⟩
  | userDeleteProduct store next =>
      rw [store]
      exact ⟨fun p hp => h.upb p (Collection.mem_delete.1 hp).1,
        fun s hs => h.sales s (List.mem_filter.1 hs).1⟩
  | deleteInventory admin store next =>
      rw [store]
      exact ⟨h.upb, h.sales⟩
  -- an edit touches neither products nor sales
  | editInventory batch quantity initialQuantity q cpq admin found edited castQuantity castCpq
      store next =>
      rw [store]
      exact ⟨h.upb, h.sales⟩

/-- Every batch has pieces. -/
def AllPositive (s : Store) : Prop := ∀ b ∈ s.inventories.docs, 0 < b.quantity

/-- The request is not an edit by an admin that sets the quantity of a partly sold batch to just the
pieces sold. -/
def LeavesPieces (c : Call) (db : Db) : Prop :=
  OnAcceptedEdit (fun b data => 0 < quantitySold b → data.quantity ≠ some (quantitySold b)) c db

instance (c : Call) (db : Db) : Decidable (LeavesPieces c db) :=
  inferInstanceAs (Decidable (OnAcceptedEdit _ c db))

/-- A batch stored by a request with positive quantities has pieces, unless an edit leaves none. -/
theorem AllPositive.origin {db : Db} {n' : ObjectId} {c : Call} {b : Inventory}
    (h : AllPositive db.store) (ht : Trading db.store) (o : Origin db n' c b)
    (hc : SuppliesPositive c.request) (hedit : LeavesPieces c db) : 0 < b.quantity := by
  cases o with
  | kept mem => exact h b mem
  | bought cost purchase quantity => exact hc.bought_pos quantity
  | drawn a product data mem found valid same positive less => exact positive
  | credited a sale may found first =>
      have hsale := ht.sales sale (Collection.get?_eq_some_iff.1 found).1
      exact add_pos (h a (firstLive_spec first).1) hsale
  | rebuilt last sale n may found none_live snapshot valid batch_id =>
      exact ht.sales sale (Collection.get?_eq_some_iff.1 found).1
  | creditedAll a mem live =>
      exact add_pos_of_pos_of_nonneg (h a mem) (credited_nonneg ht.sales _ _)
  | @edited id data caller env a quantity initialQuantity q cpq mem admin found edited castQuantity
      castCpq =>
      -- the quantity given, less the pieces sold, or the old quantity
      change 0 < q.getD a.quantity
      have hgiven : 0 < data.quantity.getD a.quantity := by
        cases hn : data.quantity with
        | none => exact h a mem
        | some n => exact hc.1 n hn
      rcases edited_cases edited castQuantity with
        ⟨-, -, rfl, -⟩ | ⟨n, hsold, hn, hle, -, rfl, -⟩ | ⟨-, -, rfl, -⟩
      · exact hgiven
      · have haccepted := accepted_of_edited edited castQuantity
        -- exactly the pieces sold would leave none
        have hne : n ≠ quantitySold a := fun heq =>
          hedit admin a found haccepted hsold (heq ▸ hn)
        exact sub_pos.2 (lt_of_le_of_ne hle hne.symm)
      · exact hgiven

/-! ## Runs -/

/-- Requests with positive quantities, in which no edit leaves a batch without pieces. -/
def KeepsPieces (c : Call) (db : Db) : Prop := SuppliesPositive c.request ∧ LeavesPieces c db

instance (c : Call) (db : Db) : Decidable (KeepsPieces c db) := inferInstanceAs (Decidable (_ ∧ _))

theorem trading_and_positive {db : Db} (h : Reach Db.IsEmpty KeepsPieces serveStep db) :
    Trading db.store ∧ AllPositive db.store := by
  refine h.invariant (I := fun db => Trading db.store ∧ AllPositive db.store) ?_ ?_
  · intro db hempty
    exact ⟨trading_of_isEmpty hempty, by simp [AllPositive, hempty.2.1]⟩
  · rintro c db ⟨ht, hpos⟩ ⟨hc, hedit⟩
    have e := serve_effect c db
    exact ⟨ht.effect e hc, fun b hb => hpos.origin ht (e.origin hb) hc hedit⟩

/-- **No empty batch.** In every run of requests with positive quantities in which no edit sets the
quantity of a batch to exactly the pieces sold from it, every batch has pieces, and a sale never
meets an empty one. -/
theorem batches_positive {db : Db} (h : Reach Db.IsEmpty KeepsPieces serveStep db) :
    (∀ b ∈ db.store.inventories.docs, 0 < b.quantity) ∧
      ∀ id body caller env,
        inventoryEmpty ∉ (serve ⟨.recordSales id body, caller, env⟩ db).loc.sent := by
  have hpos := (trading_and_positive h).2
  refine ⟨hpos, fun id body caller env => ?_⟩
  exact (recordSales_served db id body caller env).2 fun b hb => hpos b (mem_batches.1 hb).1

/-- Ten pieces come in, four are sold, and the quantity is edited to eight. -/
theorem batches_positive_edited :
    let db := serveAll [Sample.call (.addProduct (Sample.productBody 10 100)),
      Sample.call (.recordSales 1 (Sample.salesBody 4)),
      Sample.call (.editInventory 2 (Sample.editBody (some 8) none))] Sample.db
    db.store.inventories.docs.map Inventory.quantity = [4] ∧
      ∀ b ∈ db.store.inventories.docs, 0 < b.quantity :=
  ⟨by decide +kernel,
    (batches_positive (Reach.foldl (.start Sample.isEmpty) (by decide +kernel))).1⟩

/-- Ten pieces come in, four are sold, the quantity is edited to four, and five more come in. -/
def emptyingRun : List Call :=
  [Sample.call (.addProduct (Sample.productBody 10 100)),
    Sample.call (.recordSales 1 (Sample.salesBody 4)),
    Sample.call (.editInventory 2 (Sample.editBody (some 4) none)),
    Sample.call (.addInventory 1 (Sample.inventoryBody 5 50))]

/-- The edit leaves a batch without pieces, and the next sale answers from the middle of its
transaction. -/
theorem emptyingRun_leaves_empty :
    Reach Db.IsEmpty (fun c _ => SuppliesPositive c.request) serveStep
        (serveAll emptyingRun Sample.db) ∧
      (∃ b ∈ (serveAll emptyingRun Sample.db).store.inventories.docs, b.quantity = 0) ∧
      inventoryEmpty ∈ (serve (Sample.call (.recordSales 1 (Sample.salesBody 2)))
        (serveAll emptyingRun Sample.db)).loc.sent :=
  ⟨Reach.foldl (.start Sample.isEmpty) (by decide +kernel), by decide +kernel, by decide +kernel⟩

end InventoryHero.Batches
