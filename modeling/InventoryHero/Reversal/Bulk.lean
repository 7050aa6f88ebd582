import InventoryHero.Serial.Serve

/-!
# Reversing all sales, at once or one by one

`deleteAllSales` reads the batches once and accumulates the credits in memory, `deleteSalesRecord`
reads them anew for every sale. Both amount to the same sequence of credits, and since credits
commute, any order of single reversals leaves the batches that the bulk reversal leaves.
-/

set_option autoImplicit false

namespace InventoryHero.Reversal

open Interaction Storage Model Stock Serial

/-- The order of credits does not matter. -/
theorem creditAll_perm {sales sales' : List Sale} (h : sales.Perm sales')
    (c : Collection Inventory) : creditAll sales c = creditAll sales' c :=
  h.foldl_eq' (fun _ _ _ _ _ => credit_comm _ _ _ _ _) c

/-- Requests that reverse the given sales one at a time. -/
def reverseEach (admin : Caller) (env : Sale → Env) (sales : List Sale) : List Call :=
  sales.map fun sale => ⟨.deleteSalesRecord sale._id sale.product, admin, env sale⟩

/-- One reversal after the sales `done` were reversed. -/
theorem serve_reversal {db₀ db : Db} {admin : Caller} {env : Env} {done : List Sale} {sale : Sale}
    (hadmin : MayReverse db₀ admin) (henv : env.commitFails = false)
    (hstore : db.store = reversedStore db₀.store done) (hsale : sale ∈ db₀.store.sales.docs)
    (hnew : sale._id ∉ done.map Sale._id)
    (hlive : (firstLive sale.product db₀.store.inventories).any Inventory.valid = true) :
    (serveStep ⟨.deleteSalesRecord sale._id sale.product, admin, env⟩ db).store =
      reversedStore db₀.store (done ++ [sale]) := by
  -- the sale has not been reversed yet, and credits leave live batches live
  have hget : db.store.sales.get? sale._id = some sale := by
    rw [hstore, Collection.get?_eq_some_iff, sales_reversedStore]
    exact ⟨List.mem_filter.2 ⟨hsale, by simpa using hnew⟩, rfl⟩
  obtain ⟨first, hfirst, hvalid⟩ : ∃ first,
      firstLive sale.product db.store.inventories = some first ∧ first.valid = true := by
    rw [← any_valid_creditAll done] at hlive
    rw [hstore]
    exact Option.any_eq_true _ _ |>.1 hlive
  rcases deleteSalesRecord_served db sale._id sale.product admin env with
    ⟨⟨-, hrev⟩, -⟩ | ⟨-, -, -, hnot⟩
  · cases hrev with
    | restock sale' batch found first valid commit =>
        obtain rfl : sale = sale' := by simpa [hget] using found
        rw [hstore] at first
        rw [commit.store, hstore, ← reversedStore_concat first, ← Store.apply_append]
        rfl
    | rebuild sale' last n found none_live snapshot valid batch_id commit =>
        rw [hfirst] at none_live
        cases none_live
  -- a failure is impossible: the caller is an admin, and the sale has a batch to go to
  · refine absurd ⟨?_, ⟨by simp [hget], ?_⟩, henv⟩ hnot
    swap
    · rw [hfirst]
      exact hvalid
    refine ⟨hadmin.1, ?_⟩
    rw [hstore]
    exact hadmin.2

/-- Reversing a list of sales one by one, after the sales `done`. -/
theorem serveAll_reverseEach {db₀ db : Db} {admin : Caller} {env : Sale → Env}
    {done sales : List Sale} (hadmin : MayReverse db₀ admin)
    (henv : ∀ sale, (env sale).commitFails = false)
    (hstore : db.store = reversedStore db₀.store done)
    (hsales : ∀ sale ∈ sales, sale ∈ db₀.store.sales.docs)
    (hnodup : ((done ++ sales).map Sale._id).Nodup) (hlive : AllLive db₀.store) :
    (serveAll (reverseEach admin env sales) db).store =
      reversedStore db₀.store (done ++ sales) := by
  -- the store after each request is that of the sales reversed so far
  induction sales generalizing db done with
  | nil => rw [List.append_nil]; exact hstore
  | cons sale rest ih =>
      have hsale := hsales sale List.mem_cons_self
      have hnew : sale._id ∉ done.map Sale._id := by
        intro hmem
        rw [List.map_append, List.nodup_append] at hnodup
        exact hnodup.2.2 _ hmem _ (by simp) rfl
      have hstep := serve_reversal hadmin (henv sale) hstore hsale hnew (hlive sale hsale)
      have hassoc : done ++ sale :: rest = done ++ [sale] ++ rest := by simp
      rw [hassoc] at hnodup ⊢
      exact ih hstep (fun s hs => hsales s (List.mem_cons_of_mem _ hs)) hnodup

/-- Every order of single reversals of all sales leads to the store of the bulk reversal. -/
theorem serveAll_reverseEach_all {db : Db} {admin : Caller} {env : Sale → Env} {order : List Sale}
    (hadmin : MayReverse db admin) (henv : ∀ sale, (env sale).commitFails = false)
    (horder : order.Perm db.store.sales.docs) (hlive : AllLive db.store) :
    (serveAll (reverseEach admin env order) db).store = reversedAll db.store := by
  have hnodup : (order.map Sale._id).Nodup :=
    (horder.map Sale._id).nodup_iff.2 db.store.sales.nodup
  have hrun : (serveAll (reverseEach admin env order) db).store =
      reversedStore db.store ([] ++ order) :=
    serveAll_reverseEach hadmin henv rfl (fun sale hs => horder.mem_iff.1 hs) hnodup hlive
  rw [hrun, List.nil_append, reversedStore_all fun sale hs => horder.mem_iff.2 hs,
    creditAll_perm horder]
  rfl

/-- A batch can be saved again if it names its creator and its unit cost is a number. -/
theorem allLive_iff (s : Store) :
    AllLive s ↔ ∀ sale ∈ s.sales.docs, ∃ first ∈ (s.liveBatches sale.product).head?,
      first.createdBy.firstName ≠ "" ∧ first.cpq ≠ .nan := by
  simp only [AllLive, ← head?_liveBatches, Option.any_eq_true, Inventory.valid_iff,
    Person.valid_iff]
  rfl

/-- **Bulk reversal agrees with one-by-one reversal.** `deleteAllSales` succeeds just when every
sale's product has a live batch, and the first one can be saved again. On success no sale is left,
and the batches are those that single reversals leave, in any order; otherwise batches and sales are
as before. -/
theorem bulk_reversal_agrees (db : Db) (caller : Caller) (env : Env)
    (henv : env.commitFails = false) :
    ((serve ⟨.deleteAllSales, caller, env⟩ db).loc.sent = [allSalesDeleted] ↔
        ∀ sale ∈ db.store.sales.docs, ∃ first ∈ (db.store.liveBatches sale.product).head?,
          first.createdBy.firstName ≠ "" ∧ first.cpq ≠ .nan) ∧
      ((serve ⟨.deleteAllSales, caller, env⟩ db).loc.sent = [allSalesDeleted] →
        (serveStep ⟨.deleteAllSales, caller, env⟩ db).store.sales.docs = [] ∧
        ∀ (admin : Caller) (envs : Sale → Env) (order : List Sale), MayReverse db admin →
          (∀ sale, (envs sale).commitFails = false) → order.Perm db.store.sales.docs →
          (serveAll (reverseEach admin envs order) db).store.inventories =
              (serveStep ⟨.deleteAllSales, caller, env⟩ db).store.inventories ∧
            (serveAll (reverseEach admin envs order) db).store.sales =
              (serveStep ⟨.deleteAllSales, caller, env⟩ db).store.sales) ∧
      ((serve ⟨.deleteAllSales, caller, env⟩ db).loc.sent ≠ [allSalesDeleted] →
        (serveStep ⟨.deleteAllSales, caller, env⟩ db).store.inventories = db.store.inventories ∧
          (serveStep ⟨.deleteAllSales, caller, env⟩ db).store.sales = db.store.sales) := by
  rw [← allLive_iff]
  -- the two ways in which the bulk reversal can end
  rcases deleteAllSales_served db caller env with
    ⟨⟨hlive, -⟩, hstore, -, hsent⟩ | ⟨hnot, hstore, -, hsent⟩
  · refine ⟨⟨fun _ => hlive, fun _ => hsent⟩, fun _ => ?_, fun hne => absurd hsent hne⟩
    rw [hstore]
    refine ⟨rfl, fun admin envs order hadmin henvs horder => ?_⟩
    rw [serveAll_reverseEach_all hadmin henvs horder hlive]
    exact ⟨rfl, rfl⟩
  · have hdead : ¬ AllLive db.store := fun hlive => hnot ⟨hlive, henv⟩
    refine ⟨⟨fun h => absurd h hsent, fun h => absurd h hdead⟩, fun h => absurd h hsent,
      fun _ => ?_⟩
    rw [hstore]
    exact ⟨rfl, rfl⟩

/-- Two sales of one product, reversed at once and from the last to the first. -/
theorem bulk_reversal_agrees_two_sales :
    let db := serveAll [Sample.call (.addProduct (Sample.productBody 10 100)),
      Sample.call (.recordSales 1 (Sample.salesBody 4)),
      Sample.call (.recordSales 1 (Sample.salesBody 3))] Sample.db
    (serve (Sample.call .deleteAllSales) db).loc.sent = [allSalesDeleted] ∧
      (serveAll (reverseEach Sample.admin (fun _ => Sample.env) db.store.sales.docs.reverse)
          db).store.inventories =
        (serveStep (Sample.call .deleteAllSales) db).store.inventories := by
  intro db
  have h := bulk_reversal_agrees db Sample.admin Sample.env rfl
  have hsent := h.1.2 (by decide +kernel)
  exact ⟨hsent, ((h.2.1 hsent).2 Sample.admin (fun _ => Sample.env) _ ⟨rfl, by decide +kernel⟩
    (fun _ => rfl) (List.reverse_perm _)).1⟩

/-- An edit takes the name from the batch, and four pieces are sold. The batch is live, but cannot
be saved with the pieces back: no reversal, of all sales or of this one, goes through. -/
theorem bulk_reversal_unnamed :
    let db := serveAll [Sample.call (.addProduct (Sample.productBody 10 100)),
      Sample.call (.editInventory 2 Sample.blankName),
      Sample.call (.recordSales 1 (Sample.salesBody 4))] Sample.db
    (db.store.sales.docs.map fun sale => (sale._id, sale.product, sale.quantity)) = [(4, 1, 4)] ∧
      db.store.liveBatches 1 ≠ [] ∧
      (serve (Sample.call .deleteAllSales) db).loc.sent = [internalServerError] ∧
      (serveStep (Sample.call .deleteAllSales) db).store.sales.docs = db.store.sales.docs ∧
      (serveStep (Sample.call (.deleteSalesRecord 4 1)) db).store.sales.docs =
        db.store.sales.docs := by
  decide +kernel

end InventoryHero.Reversal
