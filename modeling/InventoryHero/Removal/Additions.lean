import InventoryHero.Retries.Deletions
import InventoryHero.Serial.Outcome

/-!
# Taking back what was added

`addInventory` stores a batch and a cost record, `addProduct` a product with both. A purchase that
was entered by mistake is taken back by `deleteInventory`, a product by `userDeleteProduct`. Since
no older document can refer to the new ids, the removal takes exactly what was added: after it, the
store is what it was before, up to the current price that the purchase set.
-/

set_option autoImplicit false

namespace InventoryHero.Removal

open Interaction Storage Model Serial References Retries

section Collections

variable {δ : Type} [Keyed δ ObjectId] {c : Collection δ} {d : δ}

/-- A document that is added and deleted again. -/
theorem delete_insert_self (h : c.accepts (.insert d) = true) :
    (c.insert d).delete (Keyed.key d) = c := by
  apply Collection.ext
  rw [Collection.docs_delete, Collection.docs_insert h, List.filter_append]
  simpa using (c.accepts_insert_iff d).1 h

/-- The same, by a condition that no older document meets. -/
theorem filter_insert_self {P : δ → Bool} (h : c.accepts (.insert d) = true) (hd : P d = false)
    (hc : ∀ e ∈ c.docs, P e = true) : (c.insert d).filter P = c := by
  apply Collection.ext
  rw [Collection.docs_filter, Collection.docs_insert h, List.filter_append,
    List.filter_eq_self.2 hc]
  simp [hd]

end Collections

/-! ## A purchase -/

/-- The cost record of a batch under a new id is the one that came in with it. -/
theorem costsWithout_purchase {db : Db} {n' : ObjectId} {batch : Inventory} {cost : Cost}
    (hids : FreshIds db) (purchase : Purchase db.nextId n' batch cost)
    (hacc : db.store.costs.accepts (.insert cost) = true) {s : Store}
    (hs : s.costs = db.store.costs.insert cost) : costsWithout s batch._id = db.store.costs := by
  have hnone : db.store.costs.docs.find? (fun d => d.inventoryId = batch._id) = none := by
    rw [List.find?_eq_none]
    intro d hd
    have hlt : d.inventoryId < batch._id := (hids.cost d hd).trans_le purchase.batch_id.1
    simpa using hlt.ne
  have hfound : s.costOf batch._id = some cost := by
    rw [Store.costOf, hs, Collection.docs_insert hacc, List.find?_append, hnone]
    simp [purchase.cost_inventoryId]
  rw [costsWithout, hfound, Option.elim_some, hs]
  exact delete_insert_self hacc

/-- The removal of a batch by an admin, when the commit does not fail. -/
theorem store_deleteInventory {db : Db} {id : ObjectId} {caller : Caller} {env : Env}
    (hadmin : isAdmin (db.store.users.get? caller._id) = true) (hcommit : env.commitFails = false) :
    (serveStep ⟨.deleteInventory id, caller, env⟩ db).store =
      { db.store with
        inventories := db.store.inventories.delete id
        costs := costsWithout db.store id } := by
  have hserved := (deleteInventory_outcome db id caller env).store
  simp only [deleteInventoryOutcome, hadmin, if_true, Outcome.commit, hcommit, Bool.false_eq_true,
    if_false] at hserved
  refine hserved.trans ?_
  rw [costsWithout]
  cases db.store.costOf id with
  | none => rfl
  | some cost => rfl

/-- **A purchase can be taken back.** In every run, a purchase that changes the store adds a batch
with the quantity given, and an admin's removal of that batch leaves every batch, cost record, sale
and snapshot as it was before the purchase. Of the products, only the current price of the one that
was bought can differ. -/
theorem purchase_taken_back {db : Db} (h : Reach Db.IsEmpty (fun _ _ => True) serveStep db)
    {id : ObjectId} {body : InventoryBody} {caller : Caller} {env : Env}
    (hchanged : (serveStep ⟨.addInventory id body, caller, env⟩ db).store ≠ db.store) :
    ∃ batch ∈ (serveStep ⟨.addInventory id body, caller, env⟩ db).store.inventories.docs,
      batch ∉ db.store.inventories.docs ∧ body.quantity = some batch.quantity ∧
      ∀ (admin : Caller) (env' : Env), isAdmin (db.store.users.get? admin._id) = true →
        env'.commitFails = false → ∃ price : Option Price,
          (serveStep ⟨.deleteInventory batch._id, admin, env'⟩
            (serveStep ⟨.addInventory id body, caller, env⟩ db)).store =
          { db.store with
            products := db.store.products.modify id (setCurrentPrice price) } := by
  have hids : FreshIds db := h.invariant (I := FreshIds) (fun _ => freshIds_of_isEmpty)
    fun c db hids _ => hids.effect (serve_effect c db)
  cases serve_effect ⟨.addInventory id body, caller, env⟩ db with
  | unchanged store next => exact absurd store hchanged
  | addInventory product price batch cost found purchase batch_product quantity costPrice commit =>
      obtain ⟨-, hbatch, -, hcost, -⟩ := (Store.accepts_iff _ _).1 commit.accepted
      rw [Collection.acceptsAll_singleton] at hbatch hcost
      have hstore := commit.store
      generalize serveStep ⟨.addInventory id body, caller, env⟩ db = db' at hstore ⊢
      refine ⟨batch, ?_, ?_, quantity, fun admin env' hadmin hcommit => ⟨price, ?_⟩⟩
      · simp [hstore, Collection.docs_insert hbatch]
      · intro hmem
        exact absurd (hids.batch batch hmem) (not_lt.2 purchase.batch_id.1)
      · have hadmin' : isAdmin (db'.store.users.get? admin._id) = true := by rwa [hstore]
        have hcosts : costsWithout db'.store batch._id = db.store.costs :=
          costsWithout_purchase hids purchase hcost (congrArg Store.costs hstore)
        have hbatches : db'.store.inventories.delete batch._id = db.store.inventories := by
          rw [hstore]
          exact delete_insert_self hbatch
        rw [store_deleteInventory hadmin' hcommit, hcosts, hbatches, hstore, Store.apply_restocked]

/-- Five pieces more of the product in the shop, and back. -/
theorem purchase_taken_back_shop :
    (∃ batch ∈ (serveStep (Sample.call (.addInventory 1 (Sample.inventoryBody 5 50)))
        Sample.shop).store.inventories.docs,
      batch ∉ Sample.shop.store.inventories.docs ∧
        (Sample.inventoryBody 5 50).quantity = some batch.quantity ∧
      ∀ (admin : Caller) (env' : Env),
        isAdmin (Sample.shop.store.users.get? admin._id) = true →
        env'.commitFails = false → ∃ price : Option Price,
          (serveStep ⟨.deleteInventory batch._id, admin, env'⟩
            (serveStep (Sample.call (.addInventory 1 (Sample.inventoryBody 5 50)))
              Sample.shop)).store =
          { Sample.shop.store with
            products := Sample.shop.store.products.modify 1 (setCurrentPrice price) }) ∧
    isAdmin (Sample.shop.store.users.get? Sample.admin._id) = true := by
  have hshop : Reach Db.IsEmpty (fun _ _ => True) serveStep Sample.shop :=
    .next _ (.next _ (.start Sample.isEmpty) trivial) trivial
  refine ⟨purchase_taken_back hshop fun hsame => ?_, by decide +kernel⟩
  exact absurd (congrArg (fun s => s.inventories.docs.length) hsame) (by decide +kernel)

/-! ## A product -/

/-- What is dropped with a new product came in with it. -/
theorem dropProduct_added {s : Store} {product : Product} {batch : Inventory} {cost : Cost}
    (hs : Intact s) (hnew : ¬Known s product._id)
    (hproduct : s.products.accepts (.insert product) = true)
    (hbatch : s.inventories.accepts (.insert batch) = true)
    (hcost : s.costs.accepts (.insert cost) = true) (hb : batch.product = product._id)
    (hc : cost.product = product._id) :
    dropProduct (s.apply { products := [.insert product], inventories := [.insert batch],
                           costs := [.insert cost] }) product._id = s := by
  -- the documents of before refer to other products
  have hother {δ : Type} [Keyed δ ObjectId] (c : Collection δ) (f : δ → ObjectId)
      (hknown : ∀ d ∈ c.docs, Known s (f d)) :
      ∀ d ∈ c.docs, (!decide (f d = product._id)) = true := by
    intro d hd
    simp only [Bool.not_eq_true', decide_eq_false_iff_not]
    intro hf
    exact hnew (hf ▸ hknown d hd)
  have hkept := dropProduct_eq_self hs hnew
  have hbatches := filter_insert_self (P := fun d => !decide (d.product = product._id)) hbatch
    (by simp [hb]) (hother s.inventories Inventory.product hs.batch)
  have hcosts := filter_insert_self (P := fun d => !decide (d.product = product._id)) hcost
    (by simp [hc]) (hother s.costs Cost.product hs.cost)
  calc dropProduct (s.apply { products := [.insert product], inventories := [.insert batch],
                              costs := [.insert cost] }) product._id
      = { dropProduct s product._id with
          products := (s.products.insert product).delete product._id
          inventories := (s.inventories.insert batch).filter
            fun d => !decide (d.product = product._id)
          costs := (s.costs.insert cost).filter fun d => !decide (d.product = product._id) } := rfl
    _ = s := by
      rw [hbatches, hcosts, hkept]
      simp only [show (s.products.insert product).delete product._id = s.products from
        delete_insert_self hproduct]

/-- **A product can be taken back.** In every run without edits, a product that is added and then
removed leaves the store exactly as it was: there is one product that was not there before, and
whenever its removal is answered as done, all five collections are those before it was added. -/
theorem product_taken_back {db : Db}
    (h : Reach Db.IsEmpty (fun c _ => NoEdit c.request) catalogStep db) {body : ProductBody}
    {caller : Caller} {env : Env}
    (hchanged : (serveStep ⟨.addProduct body, caller, env⟩ db).store ≠ db.store) :
    ∃ product ∈ (serveStep ⟨.addProduct body, caller, env⟩ db).store.products.docs,
      product ∉ db.store.products.docs ∧
      ∀ (caller' : Caller) (env' : Env),
        (serve ⟨.userDeleteProduct product._id, caller', env'⟩
          (serveStep ⟨.addProduct body, caller, env⟩ db)).loc.sent = [productDeleted] →
        (serveStep ⟨.userDeleteProduct product._id, caller', env'⟩
          (serveStep ⟨.addProduct body, caller, env⟩ db)).store = db.store := by
  have horderly : Orderly db :=
    h.invariant (I := Orderly) (fun _ => orderly_of_isEmpty) fun _ _ horderly hc => horderly.step hc
  cases serve_effect ⟨.addProduct body, caller, env⟩ db with
  | unchanged store next => exact absurd store hchanged
  | addProduct product batch cost purchase batch_product product_id quantity upb costPrice commit =>
      obtain ⟨hproduct, hbatch, -, hcost, -⟩ := (Store.accepts_iff _ _).1 commit.accepted
      rw [Collection.acceptsAll_singleton] at hproduct hbatch hcost
      have hnew : ¬Known db.store product._id := fun hknown =>
        absurd (horderly.drawn (.product product._id) hknown) (not_lt.2 product_id.1)
      have hstore := commit.store
      generalize serveStep ⟨.addProduct body, caller, env⟩ db = db' at hstore ⊢
      refine ⟨product, ?_, fun hmem => hnew ⟨product, hmem, rfl⟩, fun caller' env' hsent => ?_⟩
      · simp [hstore, Collection.docs_insert hproduct]
      · obtain ⟨-, ⟨hdone, -⟩ | ⟨-, hne⟩⟩ := userDeleteProduct_served db' product._id caller' env'
        · rw [hdone, hstore]
          exact dropProduct_added horderly.intact hnew hproduct hbatch hcost batch_product
            (purchase.cost_product.trans batch_product)
        · exact absurd hsent hne

/-- The first product of the shop, and back. -/
theorem product_taken_back_empty :
    (∃ product ∈ (serveStep (Sample.call (.addProduct (Sample.productBody 10 100)))
        Sample.db).store.products.docs,
      product ∉ Sample.db.store.products.docs ∧
      ∀ (caller' : Caller) (env' : Env),
        (serve ⟨.userDeleteProduct product._id, caller', env'⟩
          (serveStep (Sample.call (.addProduct (Sample.productBody 10 100)))
            Sample.db)).loc.sent = [productDeleted] →
        (serveStep ⟨.userDeleteProduct product._id, caller', env'⟩
          (serveStep (Sample.call (.addProduct (Sample.productBody 10 100)))
            Sample.db)).store = Sample.db.store) ∧
    (serve (Sample.call (.userDeleteProduct 1))
      (serveStep (Sample.call (.addProduct (Sample.productBody 10 100)))
        Sample.db)).loc.sent = [productDeleted] := by
  refine ⟨product_taken_back (.start Sample.isEmpty) fun hsame => ?_, by decide +kernel⟩
  exact absurd (congrArg (fun s => s.products.docs.length) hsame) (by decide +kernel)

end InventoryHero.Removal
