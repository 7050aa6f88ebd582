import InventoryHero.Serial.Catalog
import InventoryHero.Serial.Origin

/-!
# References between documents

Batches, sales, cost records and snapshots name their product by id, and cost records name their
batch; the database checks none of this. `Intact` says that no reference dangles and that cost
records agree with their batches. Every request keeps it except the two that can change the product
of a batch or the identity of a document (`editInventory`, `editProduct`), and the removal of a
product takes exactly the documents of that product with it.
-/

set_option autoImplicit false

namespace InventoryHero.References

open Interaction Storage Model Stock Serial

/-- There is a product document with this id; it may be soft-deleted. -/
def Known (s : Store) (product : ObjectId) : Prop := ∃ p ∈ s.products.docs, p._id = product

/-- No reference dangles, and cost records belong to the product of their batch. -/
structure Intact (s : Store) : Prop where
  batch : ∀ b ∈ s.inventories.docs, Known s b.product
  sale : ∀ sale ∈ s.sales.docs, Known s sale.product
  cost : ∀ cost ∈ s.costs.docs, Known s cost.product
  last : ∀ last ∈ s.lasts.docs, Known s last.product
  cost_unique : ∀ c ∈ s.costs.docs, ∀ d ∈ s.costs.docs, c.inventoryId = d.inventoryId → c = d
  cost_product : ∀ cost ∈ s.costs.docs, ∀ b ∈ s.inventories.docs,
    cost.inventoryId = b._id → cost.product = b.product

/-! ## Products that stay known -/

theorem Known.insert {s s' : Store} {p : Product} {id : ObjectId} (h : Known s id)
    (hs : s'.products = s.products.insert p) : Known s' id := by
  obtain ⟨q, hq, rfl⟩ := h
  exact ⟨q, hs ▸ Collection.mem_insert_of_mem hq, rfl⟩

theorem Known.modify {s s' : Store} {k id : ObjectId} {patch : Patch Product} (h : Known s id)
    (hs : s'.products = s.products.modify k patch) : Known s' id := by
  obtain ⟨q, hq, rfl⟩ := h
  refine ⟨_, hs ▸ Collection.mem_modify.2 ⟨q, hq, rfl⟩, ?_⟩
  -- a patch keeps the id
  split
  · exact patch.key_apply q
  · rfl

theorem known_of_findProduct {s : Store} {id : ObjectId} {p : Product}
    (h : s.findProduct id = some p) : Known s id :=
  ⟨p, Store.mem_of_findProduct h⟩

/-! ## One lemma for each kind of change -/

namespace Intact

variable {s s' : Store}

/-- Documents may go, and products may change, as long as no product goes. -/
theorem shrink (h : Intact s) (hk : ∀ id, Known s id → Known s' id)
    (hi : ∀ b ∈ s'.inventories.docs, ∃ a ∈ s.inventories.docs, a._id = b._id ∧
      a.product = b.product)
    (hs : ∀ d ∈ s'.sales.docs, d ∈ s.sales.docs) (hc : ∀ d ∈ s'.costs.docs, d ∈ s.costs.docs)
    (hl : ∀ d ∈ s'.lasts.docs, Known s d.product) : Intact s' where
  batch b hb := by
    obtain ⟨a, ha, -, hp⟩ := hi b hb
    exact hk _ (hp ▸ h.batch a ha)
  sale d hd := hk _ (h.sale d (hs d hd))
  cost d hd := hk _ (h.cost d (hc d hd))
  last d hd := hk _ (hl d hd)
  cost_unique c hcm d hdm := h.cost_unique c (hc c hcm) d (hc d hdm)
  cost_product cost hcost b hb hid := by
    obtain ⟨a, ha, hai, hap⟩ := hi b hb
    exact (h.cost_product cost (hc cost hcost) a ha (hid.trans hai.symm)).trans hap

/-- A new batch of a known product, with no cost record. -/
theorem addBatch (h : Intact s) {b : Inventory} (hp : Known s b.product)
    (hfresh : ∀ cost ∈ s.costs.docs, cost.inventoryId ≠ b._id) :
    Intact { s with inventories := s.inventories.insert b } where
  batch a ha := by
    rcases Collection.mem_of_mem_insert ha with ha | rfl
    · exact h.batch a ha
    · exact hp
  sale := h.sale
  cost := h.cost
  last := h.last
  cost_unique := h.cost_unique
  cost_product cost hcost a ha hid := by
    rcases Collection.mem_of_mem_insert ha with ha | rfl
    · exact h.cost_product cost hcost a ha hid
    · exact absurd hid (hfresh cost hcost)

/-- A new batch of a known product together with its cost record. -/
theorem addPurchase (h : Intact s) {n n' : ObjectId} {b : Inventory} {cost : Cost}
    (purchase : Purchase n n' b cost) (hp : Known s b.product)
    (hb : ∀ a ∈ s.inventories.docs, a._id < n) (hc : ∀ d ∈ s.costs.docs, d.inventoryId < n) :
    Intact { s with inventories := s.inventories.insert b, costs := s.costs.insert cost } := by
  -- the id of the batch is new: no older record refers to it
  have hfresh : ∀ d ∈ s.costs.docs, d.inventoryId ≠ b._id := fun d hd =>
    ((hc d hd).trans_le purchase.batch_id.1).ne
  have hbatch := h.addBatch hp hfresh
  refine ⟨hbatch.batch, h.sale, fun d hd => ?_, h.last, ?_, ?_⟩
  · rcases Collection.mem_of_mem_insert hd with hd | rfl
    · exact h.cost d hd
    · exact purchase.cost_product ▸ hp
  · intro c hcm d hdm hid
    rcases Collection.mem_of_mem_insert hcm with hc₀ | rfl <;>
      rcases Collection.mem_of_mem_insert hdm with hd₀ | rfl
    · exact h.cost_unique c hc₀ d hd₀ hid
    · exact absurd (hid.trans purchase.cost_inventoryId) (hfresh c hc₀)
    · exact absurd (hid.symm.trans purchase.cost_inventoryId) (hfresh d hd₀)
    · rfl
  · intro d hd a ha hid
    rcases Collection.mem_of_mem_insert hd with hd | rfl
    · exact hbatch.cost_product d hd a ha hid
    · rcases Collection.mem_of_mem_insert ha with ha | rfl
      · have hlt := hb a ha
        rw [← hid, purchase.cost_inventoryId] at hlt
        exact absurd hlt (not_lt.2 purchase.batch_id.1)
      · exact purchase.cost_product

/-- The removal of a product takes everything that refers to it. -/
theorem dropProduct (h : Intact s) (id : ObjectId) : Intact (Serial.dropProduct s id) := by
  -- what is left refers to other products, and those stay
  have hk : ∀ product, product ≠ id → Known s product →
      Known (Serial.dropProduct s id) product := by
    rintro product hne ⟨p, hp, rfl⟩
    exact ⟨p, Collection.mem_delete.2 ⟨hp, hne⟩, rfl⟩
  refine ⟨?_, ?_, ?_, ?_, ?_, ?_⟩
  · intro b hb
    obtain ⟨hb, hne⟩ := List.mem_filter.1 hb
    exact hk _ (by simpa using hne) (h.batch b hb)
  · intro d hd
    obtain ⟨hd, hne⟩ := List.mem_filter.1 hd
    exact hk _ (by simpa using hne) (h.sale d hd)
  · intro d hd
    obtain ⟨hd, hne⟩ := List.mem_filter.1 hd
    exact hk _ (by simpa using hne) (h.cost d hd)
  · intro d hd
    obtain ⟨hd, hne⟩ := List.mem_filter.1 hd
    exact hk _ (by simpa using hne) (h.last d hd)
  · intro c hc d hd
    exact h.cost_unique c (List.mem_filter.1 hc).1 d (List.mem_filter.1 hd).1
  · intro cost hc b hb
    exact h.cost_product cost (List.mem_filter.1 hc).1 b (List.mem_filter.1 hb).1

end Intact

/-! ## Requests -/

/-- The requests of which the references are claimed to stay intact: all but the edits. -/
def NoEdit : CatalogRequest → Prop
  | .stock (.editInventory _ _) => False
  | .editProduct _ _ => False
  | _ => True

instance : DecidablePred NoEdit
  | .stock (.editInventory _ _) | .editProduct _ _ => .isFalse id
  | .stock (.addProduct _) | .stock (.addInventory _ _) | .stock (.recordSales _ _)
  | .stock (.deleteSalesRecord _ _) | .stock .deleteAllSales | .stock (.userDeleteProduct _)
  | .stock (.deleteInventory _) | .adminDeleteProduct _ => .isTrue trivial

/-- Requests of the stock keep the references intact. -/
theorem Intact.effect {db db' : Db} {c : Call} (h : Intact db.store) (hids : FreshIds db)
    (hc : NoEdit (.stock c.request)) (e : Effect db c db') : Intact db'.store := by
  cases e with
  | unchanged store next => exact store ▸ h
  | addProduct product batch cost purchase batch_product product_id quantity upb costPrice commit =>
      have hacc := ((Store.accepts_iff _ _).1 commit.accepted).1
      rw [Collection.acceptsAll_singleton] at hacc
      -- first the product, then its batch and the cost record
      have hprod : Intact { db.store with products := db.store.products.insert product } := by
        refine h.shrink (fun _ hk => hk.insert rfl) (fun b hb => ⟨b, hb, rfl, rfl⟩) ?_ ?_ h.last
        · exact fun _ hd => hd
        · exact fun _ hd => hd
      have hknown : Known { db.store with products := db.store.products.insert product }
          batch.product := ⟨product, by simp [Collection.docs_insert hacc], batch_product.symm⟩
      rw [commit.store]
      exact hprod.addPurchase purchase hknown hids.batch hids.cost
  | addInventory product price batch cost found purchase batch_product quantity costPrice commit =>
      have hprod : Intact { db.store with
          products := db.store.products.modify batch.product (setCurrentPrice price) } := by
        refine h.shrink (fun _ hk => hk.modify rfl) (fun b hb => ⟨b, hb, rfl, rfl⟩) ?_ ?_ h.last
        · exact fun _ hd => hd
        · exact fun _ hd => hd
      subst batch_product
      rw [commit.store, Store.apply_restocked]
      exact hprod.addPurchase purchase ((known_of_findProduct found).modify rfl) hids.batch
        hids.cost
  | @recordSales id body caller env db' product data sale lasts known found valid enough
      sale_product sale_quantity sale_id snapshot usedUp commit =>
      have hproduct := known_of_findProduct found
      rw [commit.store]
      refine ⟨fun b hb => ?_, fun d hd => ?_, h.cost, fun d hd => ?_, h.cost_unique, ?_⟩
      -- the draw lowers batches and deletes some
      · obtain ⟨a, ha, hab, -⟩ := mem_drawWrites
          (fun e he => (List.mem_filter.1 he).1) (nodup_batches db.store _) hb
        rw [hab]
        exact h.batch a ha
      · rcases Collection.mem_of_mem_insert hd with hd | rfl
        · exact h.sale d hd
        · exact sale_product ▸ hproduct
      · rcases snapshot.mem d hd with hd | ⟨hof, -⟩
        · exact h.last d hd
        · exact hof.product ▸ hproduct
      · intro cost hcost b hb hid
        obtain ⟨a, ha, hab, -⟩ := mem_drawWrites
          (fun e he => (List.mem_filter.1 he).1) (nodup_batches db.store _) hb
        rw [hab] at hid ⊢
        exact h.cost_product cost hcost a ha hid
  | deleteSalesRecord may reversed =>
      cases reversed with
      | restock sale batch found first valid commit =>
          rw [commit.store]
          refine h.shrink (fun _ hk => hk) (fun b hb => ?_) ?_ (fun _ hd => hd) h.last
          · obtain ⟨a, ha, rfl⟩ := Collection.mem_modify.1 hb
            refine ⟨a, ha, ?_⟩
            split <;> exact ⟨rfl, rfl⟩
          · exact fun d hd => (Collection.mem_delete.1 hd).1
      | rebuild sale last n found none_live snapshot valid batch_id commit =>
          -- the snapshot refers to a product, so does the batch that is rebuilt from it
          have hknown := h.last last (Store.mem_lastsOf_head snapshot).1
          have hbatch := h.addBatch (b := last.toInventory n sale.quantity) hknown
            fun cost hcost => ((hids.cost cost hcost).trans_le batch_id.1).ne
          rw [commit.store]
          refine hbatch.shrink (fun _ hk => hk) (fun b hb => ⟨b, hb, rfl, rfl⟩) ?_
            (fun _ hd => hd) h.last
          exact fun d hd => (Collection.mem_delete.1 hd).1
  | deleteAllSales live store next =>
      rw [store]
      refine h.shrink (fun _ hk => hk) (fun b hb => ?_) (fun d hd => nomatch hd)
        (fun _ hd => hd) h.last
      obtain ⟨a, ha, rfl⟩ := mem_creditAll hb
      exact ⟨a, ha, rfl, rfl⟩
  | userDeleteProduct store next =>
      rw [store]
      exact h.dropProduct _
  | deleteInventory admin store next =>
      rw [store]
      refine h.shrink (fun _ hk => hk) (fun b hb => ?_) (fun _ hd => hd)
        (fun d hd => mem_of_mem_costsWithout hd) h.last
      exact ⟨b, (Collection.mem_delete.1 hb).1, rfl, rfl⟩
  | editInventory batch quantity initialQuantity q cpq admin found edited castQuantity castCpq
      store next => exact hc.elim

/-- Hiding a product removes nothing. -/
theorem Intact.adminDeleteProduct {db : Db} (h : Intact db.store) (id : ObjectId) (caller : Caller)
    (env : Env) : Intact (catalogStep ⟨.adminDeleteProduct id, caller, env⟩ db).store := by
  obtain ⟨-, hst | hst⟩ := adminDeleteProduct_effect db id caller env
  · exact hst ▸ h
  · rw [hst]
    refine h.shrink (fun _ hk => hk.modify rfl) (fun b hb => ⟨b, hb, rfl, rfl⟩) ?_ ?_ h.last
    · exact fun _ hd => hd
    · exact fun _ hd => hd

theorem freshIds_adminDeleteProduct {db : Db} (h : FreshIds db) (id : ObjectId) (caller : Caller)
    (env : Env) : FreshIds (catalogStep ⟨.adminDeleteProduct id, caller, env⟩ db) := by
  obtain ⟨hn, hst⟩ := adminDeleteProduct_effect db id caller env
  -- only the products change
  have hsame : (catalogStep ⟨.adminDeleteProduct id, caller, env⟩ db).store.inventories =
      db.store.inventories ∧ (catalogStep ⟨.adminDeleteProduct id, caller, env⟩ db).store.costs =
      db.store.costs ∧ (catalogStep ⟨.adminDeleteProduct id, caller, env⟩ db).store.lasts =
      db.store.lasts := by
    rcases hst with hst | hst <;> rw [hst] <;> exact ⟨rfl, rfl, rfl⟩
  obtain ⟨hi, hc, hl⟩ := hsame
  refine ⟨?_, ?_, ?_⟩
  · rw [hi, hn]
    exact h.batch
  · rw [hc, hn]
    exact h.cost
  · rw [hl, hn]
    exact h.last

/-- One request served alone. -/
theorem intact_step (c : CatalogCall) (db : Db) (h : Intact db.store ∧ FreshIds db)
    (hc : NoEdit c.request) :
    Intact (catalogStep c db).store ∧ FreshIds (catalogStep c db) := by
  obtain ⟨request, caller, env⟩ := c
  cases request with
  | stock request =>
      have e := serve_effect ⟨request, caller, env⟩ db
      exact ⟨h.1.effect h.2 hc e, h.2.effect e⟩
  | editProduct id data => exact hc.elim
  | adminDeleteProduct id =>
      exact ⟨h.1.adminDeleteProduct id caller env, freshIds_adminDeleteProduct h.2 id caller env⟩

theorem intact_of_isEmpty {db : Db} (h : db.IsEmpty) : Intact db.store := by
  obtain ⟨-, hi, hs, hc, hl⟩ := h
  exact ⟨by simp [hi], by simp [hs], by simp [hc], by simp [hl], by simp [hc], by simp [hc]⟩

/-- **Referential integrity.** In every state that requests without edits reach from a database
with accounts only, no reference dangles and the cost records agree with the batches; and a
removal that is answered as done takes exactly the documents of its product. -/
theorem references_intact {db : Db}
    (h : Reach Db.IsEmpty (fun c _ => NoEdit c.request) catalogStep db) :
    Intact db.store ∧ ∀ id caller env,
      (serve ⟨.userDeleteProduct id, caller, env⟩ db).loc.sent = [productDeleted] →
      (serveStep ⟨.userDeleteProduct id, caller, env⟩ db).store = dropProduct db.store id := by
  constructor
  · refine (h.invariant (I := fun db => Intact db.store ∧ FreshIds db) ?_ ?_).1
    · exact fun db h => ⟨intact_of_isEmpty h, freshIds_of_isEmpty h⟩
    · exact fun c db hdb hc => intact_step c db hdb hc
  · intro id caller env hsent
    obtain ⟨-, ⟨hst, -⟩ | ⟨-, hne⟩⟩ := userDeleteProduct_served db id caller env
    · exact hst
    · exact absurd hsent hne

/-- Product `1` is sold out in sale `5`, the sale is reversed, which rebuilds the batch from the
snapshot, and a product that does not exist is hidden. -/
def rebuiltCalls : List CatalogCall :=
  [.stock (.addProduct (Sample.productBody 10 100)),
    .stock (.recordSales 1 (Sample.salesBody 10)), .stock (.deleteSalesRecord 5 1),
    .adminDeleteProduct 7].map fun request => ⟨request, Sample.admin, Sample.env⟩

/-- After this run the product is removed, with its rebuilt batch and its snapshot. -/
theorem references_intact_rebuilt :
    let db := rebuiltCalls.foldl (fun db c => catalogStep c db) Sample.db
    Intact db.store ∧ (serveStep (Sample.call (.userDeleteProduct 1)) db).store =
      dropProduct db.store 1 := by
  have hrun : Reach Db.IsEmpty (fun c _ => NoEdit (CatalogCall.request c)) catalogStep
      (rebuiltCalls.foldl (fun db c => catalogStep c db) Sample.db) :=
    Reach.foldl (.start Sample.isEmpty) (by decide +kernel)
  have h := references_intact hrun
  exact ⟨h.1, h.2 1 Sample.admin Sample.env (by decide +kernel)⟩

end InventoryHero.References
