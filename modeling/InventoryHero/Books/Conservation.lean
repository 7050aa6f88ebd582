import InventoryHero.Books.Books
import InventoryHero.Batches.Positive

/-!
# Conservation of stock

The store is a model of the ledger: each request of a shop that only buys, sells, takes sales back
and gives products up posts a list of exact entries to the books (`serve_posts`). Books that balance
at the start therefore balance after every request (`stock_conserved`).
-/

set_option autoImplicit false

namespace InventoryHero.Books

open Interaction Storage Model Stock Serial Ledger Batches

/-- The requests of a shop that never edits or deletes a batch, with positive quantities. A sale is
reversed for its own product. -/
def ShopRequest (c : Call) (db : Db) : Prop :=
  SuppliesPositive c.request ∧ ReversesOwn c db ∧
    (c.request.OnBatchRemoval fun _ => False) ∧ c.request.OnEdit fun _ _ => False

instance (c : Call) (db : Db) : Decidable (ShopRequest c db) :=
  inferInstanceAs (Decidable (_ ∧ _ ∧ _ ∧ _))

/-- **Simulation.** A request of the shop posts exact entries to the books, and closes an account
only when a product is removed. -/
theorem serve_posts {db : Db} {c : Call} (ht : Trading db.store) (hc : ShopRequest c db) :
    ∃ entries, books (serveStep c db).store = post (books db.store) entries ∧
      ∀ e ∈ entries, e.2.Exact ∧
        ((c.request.OnProductRemoval fun _ => False) → e.2 ≠ .close) := by
  -- most requests post one entry
  have single : ∀ {k : ObjectId} {e : Entry ℚ}, e.Exact → e ≠ .close → ∀ e' ∈ [(k, e)],
      e'.2.Exact ∧ ((c.request.OnProductRemoval fun _ => False) → e'.2 ≠ .close) := by
    intro k e he hopen e' he'
    rw [List.mem_singleton.1 he']
    exact ⟨he, fun _ => hopen⟩
  cases serve_effect c db with
  | unchanged store next => exact ⟨[], by rw [store, post_nil], by simp⟩
  | addProduct product batch cost purchase batch_product product_id quantity upb costPrice commit =>
      refine ⟨[(batch.product, .purchase batch.quantity)], ?_, single trivial nofun⟩
      rw [commit.store]
      exact books_purchase commit.accepted purchase.cost_product
        (purchase.cost_quantity.trans purchase.quantity.symm)
  | addInventory product price batch cost found purchase batch_product quantity costPrice commit =>
      refine ⟨[(batch.product, .purchase batch.quantity)], ?_, single trivial nofun⟩
      rw [commit.store]
      exact books_purchase commit.accepted purchase.cost_product
        (purchase.cost_quantity.trans purchase.quantity.symm)
  | @recordSales id body caller env _ product data sale lasts known found valid enough sale_product
      sale_quantity sale_id snapshot usedUp commit =>
      refine ⟨[(id, .sell (data.pieces product))], ?_, single trivial nofun⟩
      -- the pieces are positive and covered by the batches, so the draw takes them all
      have hsale := Store.accepts_sales commit.accepted
      rw [Collection.acceptsAll_singleton] at hsale
      have hpos := ht.pieces_pos found valid hc.1
      rw [commit.store]
      exact books_sell hsale sale_product sale_quantity hpos.le enough
  | deleteSalesRecord may reversed =>
      obtain ⟨q, hq⟩ := books_reversed reversed hc.2.1
      exact ⟨_, hq, single trivial nofun⟩
  | deleteAllSales live store next =>
      refine ⟨undoEntries db.store.sales.docs, ?_, ?_⟩
      · rw [store]
        exact books_reversedAll live
      · intro e he
        obtain ⟨sale, -, rfl⟩ := List.mem_map.1 he
        exact ⟨trivial, nofun⟩
  | @userDeleteProduct id caller env _ store next =>
      refine ⟨[(id, .close)], ?_, ?_⟩
      · rw [store]
        exact books_dropProduct _ _
      · intro e he
        rw [List.mem_singleton.1 he]
        exact ⟨trivial, False.elim⟩
  | deleteInventory admin store next => exact hc.2.2.1.elim
  | editInventory batch quantity initialQuantity q cpq admin found edited castQuantity castCpq
      store next => exact hc.2.2.2.elim

/-- **Stock conservation.** After every request of a run that starts with an empty store, what was
bought of a product is in its batches or was sold. -/
theorem stock_conserved {db : Db} (h : Reach Db.IsEmpty ShopRequest serveStep db)
    (p : ObjectId) :
    costQuantity db.store p = stockQuantity db.store p + salesQuantity db.store p := by
  suffices hinv : Trading db.store ∧ ∀ p, (books db.store p).Balanced from hinv.2 p
  -- balance needs the positive quantities of `Trading`, so the two are kept together
  refine h.invariant (I := fun db => Trading db.store ∧ ∀ p, (books db.store p).Balanced) ?_ ?_
  · intro db hempty
    refine ⟨trading_of_isEmpty hempty, fun p => ?_⟩
    obtain ⟨-, hi, hs, hc, -⟩ := hempty
    simp [Account.Balanced, books, costQuantity, stockQuantity, salesQuantity, hi, hs, hc]
  · rintro c db ⟨ht, hbal⟩ hc
    obtain ⟨entries, hposts, hexact⟩ := serve_posts ht hc
    refine ⟨ht.effect (serve_effect c db) hc.1, ?_⟩
    rw [hposts]
    exact balanced_post hbal fun e he => (hexact e he).1

/-- Two batches, a sale that uses up the first, and its reversal. -/
theorem stock_conserved_reversal :
    let db := serveAll [Sample.call (.addProduct (Sample.productBody 10 100)),
      Sample.call (.addInventory 1 (Sample.inventoryBody 5 50)),
      Sample.call (.recordSales 1 (Sample.salesBody 12)),
      Sample.call (.recordSales 1 (Sample.salesBody 2)),
      Sample.call (.deleteSalesRecord 6 1)] Sample.db
    costQuantity db.store 1 = stockQuantity db.store 1 + salesQuantity db.store 1 ∧
      stockQuantity db.store 1 = 13 :=
  ⟨stock_conserved (Reach.foldl (.start Sample.isEmpty) (by decide +kernel)) 1, by decide +kernel⟩

end InventoryHero.Books
