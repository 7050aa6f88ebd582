import InventoryHero.References.Integrity
import InventoryHero.Serial.Serve

/-!
# Deletions that are delivered more than once

A client that gets no answer sends its request again, and other requests may be served in between.
A deletion names a document by its id. Once the document is gone no request brings it back, because
ids are not given out twice, and a deletion that finds nothing changes nothing. So of all the
deliveries of a deletion one at most takes effect (`deletions_once`).
-/

set_option autoImplicit false

namespace InventoryHero.Retries

open Interaction Storage Model Serial References

/-- The requests that delete what they name: a sale, a batch with its cost record, a product with
everything that refers to it, or a product for the shop only. -/
inductive Deletion
  | sale (id prd : ObjectId)
  | batch (id : ObjectId)
  | product (id : ObjectId)
  | hide (id : ObjectId)
  deriving DecidableEq, Repr

namespace Deletion

def request : Deletion → CatalogRequest
  | sale id prd => .stock (.deleteSalesRecord id prd)
  | batch id => .stock (.deleteInventory id)
  | product id => .stock (.userDeleteProduct id)
  | hide id => .adminDeleteProduct id

/-- The id of the document that is to be deleted. -/
def target : Deletion → ObjectId
  | sale id _ => id
  | batch id => id
  | product id => id
  | hide id => id

/-- What is to be deleted is there. -/
def Pending (s : Store) : Deletion → Prop
  | sale id _ => ∃ sale ∈ s.sales.docs, sale._id = id
  | batch id =>
      (∃ b ∈ s.inventories.docs, b._id = id) ∨ ∃ cost ∈ s.costs.docs, cost.inventoryId = id
  | product id => Known s id
  | hide id => ∃ p ∈ s.products.docs, p._id = id ∧ p.isDeleted = false

end Deletion

/-! ## One delivery -/

theorem findProduct_eq_none {s : Store} {id : ObjectId}
    (h : ¬∃ p ∈ s.products.docs, p._id = id ∧ p.isDeleted = false) : s.findProduct id = none := by
  cases hfound : s.findProduct id with
  | none => rfl
  | some p =>
      obtain ⟨hmem, hid⟩ := Store.mem_of_findProduct hfound
      have hlive := (Option.filter_eq_some_iff.1 hfound).2
      exact absurd ⟨p, hmem, hid, by simpa using hlive⟩ h

theorem costOf_eq_none {s : Store} {id : ObjectId}
    (h : ¬∃ cost ∈ s.costs.docs, cost.inventoryId = id) : s.costOf id = none := by
  cases hfound : s.costOf id with
  | none => rfl
  | some cost => exact absurd ⟨cost, Store.mem_of_costOf hfound⟩ h

/-- Nothing refers to a product that is not known. -/
theorem dropProduct_eq_self {s : Store} {id : ObjectId} (hs : Intact s) (h : ¬Known s id) :
    dropProduct s id = s := by
  have hkeep {δ : Type} [Keyed δ ObjectId] (c : Collection δ) (product : δ → ObjectId)
      (hc : ∀ d ∈ c.docs, Known s (product d)) :
      c.filter (fun d => !decide (product d = id)) = c := by
    apply Collection.ext
    rw [Collection.docs_filter, List.filter_eq_self]
    intro d hd
    simp only [Bool.not_eq_true', decide_eq_false_iff_not]
    rintro rfl
    exact h (hc d hd)
  have hproducts : s.products.delete id = s.products := by
    apply Collection.delete_eq_self
    rw [Collection.get?_eq_none_iff]
    exact fun p hp hid => h ⟨p, hp, hid⟩
  simp only [dropProduct, hproducts, hkeep s.inventories Inventory.product hs.batch,
    hkeep s.sales Sale.product hs.sale, hkeep s.costs Cost.product hs.cost,
    hkeep s.lasts (fun last => last.product) hs.last]

section Delivery

variable {db : Db} {caller : Caller} {env : Env}

/-- A deletion that finds nothing changes nothing. -/
theorem Deletion.store_of_not_pending {d : Deletion} (hs : Intact db.store)
    (h : ¬d.Pending db.store) : (catalogStep ⟨d.request, caller, env⟩ db).store = db.store := by
  cases d with
  | sale id prd =>
      cases serve_effect ⟨.deleteSalesRecord id prd, caller, env⟩ db with
      | unchanged store next => exact store
      | deleteSalesRecord may reversed =>
          exfalso
          cases reversed with
          | restock sale batch found first valid commit =>
              exact h ⟨sale, Collection.get?_eq_some_iff.1 found⟩
          | rebuild sale last n found none_live snapshot valid batch_id commit =>
              exact h ⟨sale, Collection.get?_eq_some_iff.1 found⟩
  | batch id =>
      obtain ⟨hbatch, hcost⟩ := not_or.1 h
      cases serve_effect ⟨.deleteInventory id, caller, env⟩ db with
      | unchanged store next => exact store
      | deleteInventory admin store next =>
          have hget : db.store.inventories.get? id = none :=
            Collection.get?_eq_none_iff.2 fun b hb hid => hbatch ⟨b, hb, hid⟩
          refine store.trans ?_
          simp only [costsWithout, costOf_eq_none hcost, Option.elim_none,
            Collection.delete_eq_self hget]
  | product id =>
      cases serve_effect ⟨.userDeleteProduct id, caller, env⟩ db with
      | unchanged store next => exact store
      | userDeleteProduct store next => exact store.trans (dropProduct_eq_self hs h)
  | hide id =>
      obtain ⟨-, ⟨hfound, -⟩ | ⟨store, -⟩⟩ := adminDeleteProduct_served db id caller env
      · exact absurd (findProduct_eq_none h) hfound
      · exact store

/-- A deletion that changes something leaves nothing to delete. -/
theorem Deletion.not_pending_of_changed {d : Deletion} (hs : Intact db.store)
    (h : (catalogStep ⟨d.request, caller, env⟩ db).store ≠ db.store) :
    ¬d.Pending (catalogStep ⟨d.request, caller, env⟩ db).store := by
  cases d with
  | sale id prd =>
      rintro ⟨sale', hmem, hid⟩
      cases serve_effect ⟨.deleteSalesRecord id prd, caller, env⟩ db with
      | unchanged store next => exact h store
      | deleteSalesRecord may reversed =>
          cases reversed with
          | restock sale batch found first valid commit =>
              replace hmem := congrArg Store.sales commit.store ▸ hmem
              exact (Collection.mem_delete.1 hmem).2 hid
          | rebuild sale last n found none_live snapshot valid batch_id commit =>
              replace hmem := congrArg Store.sales commit.store ▸ hmem
              exact (Collection.mem_delete.1 hmem).2 hid
  | batch id =>
      cases serve_effect ⟨.deleteInventory id, caller, env⟩ db with
      | unchanged store next => exact absurd store h
      | deleteInventory admin store next =>
          rintro (⟨b, hb, hid⟩ | ⟨cost, hcost, hid⟩)
          · replace hb := congrArg Store.inventories store ▸ hb
            exact (Collection.mem_delete.1 hb).2 hid
          · replace hcost := congrArg Store.costs store ▸ hcost
            have hold := mem_of_mem_costsWithout hcost
            cases hfound : db.store.costOf id with
            | none =>
                simp only [Store.costOf, List.find?_eq_none, decide_eq_true_eq] at hfound
                exact hfound cost hold hid
            | some bill =>
                -- the record that was deleted is the only one of the batch
                obtain ⟨hbill, hbatch⟩ := Store.mem_of_costOf hfound
                obtain rfl := hs.cost_unique cost hold bill hbill (hid.trans hbatch.symm)
                simp only [costsWithout, hfound, Option.elim_some] at hcost
                exact (Collection.mem_delete.1 hcost).2 rfl
  | product id =>
      rintro ⟨p, hp, hid⟩
      cases serve_effect ⟨.userDeleteProduct id, caller, env⟩ db with
      | unchanged store next => exact h store
      | userDeleteProduct store next =>
          replace hp := congrArg Store.products store ▸ hp
          exact (Collection.mem_delete.1 hp).2 hid
  | hide id =>
      rintro ⟨p, hp, hid, hlive⟩
      obtain ⟨-, ⟨-, store⟩ | ⟨store, -⟩⟩ := adminDeleteProduct_served db id caller env
      · replace hp := congrArg Store.products store ▸ hp
        obtain ⟨q, -, rfl⟩ := Collection.mem_modify.1 hp
        by_cases hq : q._id = id
        · simp [hq, softDelete] at hlive
        · simp [hq] at hid
      · exact h store

end Delivery

/-! ## Other requests -/

/-- A document of the store `s'` was in `s`, up to what is not looked at, or its id was drawn when
the counter went from `n` to `n'`. -/
def OldOrNew {δ : Type} (docs docs' : List δ) (id : δ → ObjectId) (same : δ → δ → Prop)
    (n n' : ObjectId) : Prop :=
  ∀ d' ∈ docs', (∃ d ∈ docs, id d = id d' ∧ same d d') ∨ n ≤ id d' ∧ id d' < n'

/-- Documents come in under new ids only. -/
structure Grows (db db' : Db) : Prop where
  products : OldOrNew db.store.products.docs db'.store.products.docs Product._id
    (fun p p' => p'.isDeleted = false → p.isDeleted = false) db.nextId db'.nextId
  inventories : OldOrNew db.store.inventories.docs db'.store.inventories.docs Inventory._id
    (fun _ _ => True) db.nextId db'.nextId
  sales : OldOrNew db.store.sales.docs db'.store.sales.docs Sale._id (fun _ _ => True) db.nextId
    db'.nextId
  costs : OldOrNew db.store.costs.docs db'.store.costs.docs Cost.inventoryId (fun _ _ => True)
    db.nextId db'.nextId
  next : db.nextId ≤ db'.nextId

section OldOrNew

variable {δ : Type} {docs docs' : List δ} {id : δ → ObjectId} {same : δ → δ → Prop}
  {n n' : ObjectId}

theorem OldOrNew.sub (hsame : ∀ d, same d d) (h : ∀ d ∈ docs', d ∈ docs) :
    OldOrNew docs docs' id same n n' :=
  fun d hd => .inl ⟨d, h d hd, rfl, hsame d⟩

theorem OldOrNew.insert [Keyed δ ObjectId] {c : Collection δ} {a : δ} (hsame : ∀ d, same d d)
    (ha : n ≤ id a ∧ id a < n') : OldOrNew c.docs (c.insert a).docs id same n n' := by
  intro d hd
  rcases Collection.mem_of_mem_insert hd with hd | rfl
  · exact .inl ⟨d, hd, rfl, hsame d⟩
  · exact .inr ha

theorem OldOrNew.modify [Keyed δ ObjectId] {c : Collection δ} {k : ObjectId} {p : Patch δ}
    (hrefl : ∀ d, same d d) (hp : ∀ d, id (p.apply d) = id d ∧ same d (p.apply d)) :
    OldOrNew c.docs (c.modify k p).docs id same n n' := by
  intro d hd
  obtain ⟨a, ha, rfl⟩ := Collection.mem_modify.1 hd
  refine .inl ⟨a, ha, ?_⟩
  split
  · exact ⟨(hp a).1.symm, (hp a).2⟩
  · exact ⟨rfl, hrefl a⟩

end OldOrNew

theorem grows_of_store_eq {db db' : Db} (h : db'.store = db.store) (next : db.nextId ≤ db'.nextId) :
    Grows db db' := by
  refine ⟨?_, ?_, ?_, ?_, next⟩ <;> rw [h]
  · exact .sub (fun _ h => h) fun _ hd => hd
  all_goals exact .sub (fun _ => trivial) fun _ hd => hd

theorem Effect.grows {db db' : Db} {c : Call} (hc : NoEdit (.stock c.request))
    (e : Effect db c db') : Grows db db' := by
  cases e with
  | unchanged store next => exact grows_of_store_eq store next
  | addProduct product batch cost purchase batch_product product_id quantity upb costPrice commit =>
      refine ⟨?_, ?_, ?_, ?_, commit.next⟩ <;> rw [commit.store]
      · exact .insert (fun _ h => h) product_id
      · exact .insert (fun _ => trivial) purchase.batch_id
      · exact .sub (fun _ => trivial) fun _ hd => hd
      · exact .insert (fun _ => trivial) (purchase.cost_inventoryId ▸ purchase.batch_id)
  | addInventory product price batch cost found purchase batch_product quantity costPrice commit =>
      refine ⟨?_, ?_, ?_, ?_, commit.next⟩ <;> rw [commit.store, Store.apply_restocked]
      · exact .modify (fun _ h => h) fun _ => ⟨rfl, fun h => h⟩
      · exact .insert (fun _ => trivial) purchase.batch_id
      · exact .sub (fun _ => trivial) fun _ hd => hd
      · exact .insert (fun _ => trivial) (purchase.cost_inventoryId ▸ purchase.batch_id)
  | recordSales product data sale lasts known found valid enough sale_product sale_quantity sale_id
      snapshot usedUp commit =>
      refine ⟨?_, ?_, ?_, ?_, commit.next⟩ <;> rw [commit.store]
      · exact .sub (fun _ h => h) fun _ hd => hd
      · intro b hb
        obtain ⟨a, ha, hab, -⟩ := Stock.mem_drawWrites
          (fun e he => (List.mem_filter.1 he).1) (Stock.nodup_batches db.store _) hb
        exact .inl ⟨a, ha, (congrArg Inventory._id hab).symm, trivial⟩
      · exact .insert (fun _ => trivial) sale_id
      · exact .sub (fun _ => trivial) fun _ hd => hd
  | deleteSalesRecord may reversed =>
      cases reversed with
      | restock sale batch found first valid commit =>
          refine ⟨?_, ?_, ?_, ?_, commit.next⟩ <;> rw [commit.store]
          · exact .sub (fun _ h => h) fun _ hd => hd
          · exact .modify (fun _ => trivial) fun _ => ⟨rfl, trivial⟩
          · exact .sub (fun _ => trivial) fun _ hd => (Collection.mem_delete.1 hd).1
          · exact .sub (fun _ => trivial) fun _ hd => hd
      | rebuild sale last n found none_live snapshot valid batch_id commit =>
          refine ⟨?_, ?_, ?_, ?_, commit.next⟩ <;> rw [commit.store]
          · exact .sub (fun _ h => h) fun _ hd => hd
          · exact .insert (fun _ => trivial) batch_id
          · exact .sub (fun _ => trivial) fun _ hd => (Collection.mem_delete.1 hd).1
          · exact .sub (fun _ => trivial) fun _ hd => hd
  | deleteAllSales live store next =>
      refine ⟨?_, ?_, ?_, ?_, next⟩ <;> rw [store]
      · exact .sub (fun _ h => h) fun _ hd => hd
      · intro b hb
        obtain ⟨a, ha, rfl⟩ := Stock.mem_creditAll hb
        exact .inl ⟨a, ha, rfl, trivial⟩
      · exact .sub (fun _ => trivial) fun _ hd => absurd hd List.not_mem_nil
      · exact .sub (fun _ => trivial) fun _ hd => hd
  | userDeleteProduct store next =>
      refine ⟨?_, ?_, ?_, ?_, next⟩ <;> rw [store]
      · exact .sub (fun _ h => h) fun _ hd => (Collection.mem_delete.1 hd).1
      all_goals exact .sub (fun _ => trivial) fun _ hd => (List.mem_filter.1 hd).1
  | deleteInventory admin store next =>
      refine ⟨?_, ?_, ?_, ?_, next⟩ <;> rw [store]
      · exact .sub (fun _ h => h) fun _ hd => hd
      · exact .sub (fun _ => trivial) fun _ hd => (Collection.mem_delete.1 hd).1
      · exact .sub (fun _ => trivial) fun _ hd => hd
      · exact .sub (fun _ => trivial) fun _ hd => mem_of_mem_costsWithout hd
  | editInventory batch quantity initialQuantity q cpq admin found edited castQuantity castCpq
      store next => exact hc.elim

theorem grows_step {c : CatalogCall} (db : Db) (hc : NoEdit c.request) :
    Grows db (catalogStep c db) := by
  obtain ⟨request, caller, env⟩ := c
  cases request with
  | stock request => exact Effect.grows hc (serve_effect ⟨request, caller, env⟩ db)
  | editProduct id data => exact hc.elim
  | adminDeleteProduct id =>
      obtain ⟨next, store | store⟩ := adminDeleteProduct_effect db id caller env
      · exact grows_of_store_eq store next.ge
      · refine ⟨?_, ?_, ?_, ?_, next.ge⟩ <;> rw [store]
        · exact .modify (fun _ h => h) fun _ => ⟨rfl, fun h => nomatch h⟩
        all_goals exact .sub (fun _ => trivial) fun _ hd => hd

/-- What a deletion is there for was there before, or has a new id. -/
theorem Grows.pending {db db' : Db} (h : Grows db db') {d : Deletion} (hd : d.Pending db'.store) :
    d.Pending db.store ∨ db.nextId ≤ d.target ∧ d.target < db'.nextId := by
  cases d with
  | sale id prd =>
      obtain ⟨sale, hsale, rfl⟩ := hd
      exact (h.sales sale hsale).imp_left fun ⟨old, hold, hid, _⟩ => ⟨old, hold, hid⟩
  | batch id =>
      rcases hd with ⟨b, hb, rfl⟩ | ⟨cost, hcost, rfl⟩
      · exact (h.inventories b hb).imp_left fun ⟨old, hold, hid, _⟩ => .inl ⟨old, hold, hid⟩
      · exact (h.costs cost hcost).imp_left fun ⟨old, hold, hid, _⟩ => .inr ⟨old, hold, hid⟩
  | product id =>
      obtain ⟨p, hp, rfl⟩ := hd
      exact (h.products p hp).imp_left fun ⟨old, hold, hid, _⟩ => ⟨old, hold, hid⟩
  | hide id =>
      obtain ⟨p, hp, rfl, hlive⟩ := hd
      exact (h.products p hp).imp_left fun ⟨old, hold, hid, hsame⟩ => ⟨old, hold, hid, hsame hlive⟩

/-! ## Runs -/

/-- References are intact, and what there is to delete has an id that was drawn. -/
structure Orderly (db : Db) : Prop where
  intact : Intact db.store
  ids : FreshIds db
  drawn : ∀ d : Deletion, d.Pending db.store → d.target < db.nextId

theorem orderly_of_isEmpty {db : Db} (h : db.IsEmpty) : Orderly db := by
  refine ⟨intact_of_isEmpty h, freshIds_of_isEmpty h, fun d hd => ?_⟩
  obtain ⟨hp, hi, hs, hc, -⟩ := h
  cases d <;> simp [Deletion.Pending, Known, hp, hi, hs, hc] at hd

theorem Orderly.step {db : Db} (h : Orderly db) {c : CatalogCall} (hc : NoEdit c.request) :
    Orderly (catalogStep c db) := by
  obtain ⟨hintact, hids⟩ := intact_step c db ⟨h.intact, h.ids⟩ hc
  have hgrows := grows_step db hc
  refine ⟨hintact, hids, fun d hd => ?_⟩
  rcases hgrows.pending hd with hold | ⟨-, hlt⟩
  · exact (h.drawn d hold).trans_le hgrows.next
  · exact hlt

/-- The document is gone for good. -/
structure Gone (d : Deletion) (db : Db) : Prop extends Orderly db where
  not_pending : ¬d.Pending db.store
  below : d.target < db.nextId

theorem Gone.step {d : Deletion} {db : Db} (h : Gone d db) {c : CatalogCall}
    (hc : NoEdit c.request) : Gone d (catalogStep c db) := by
  have hgrows := grows_step db hc
  refine ⟨h.toOrderly.step hc, fun hd => ?_, h.below.trans_le hgrows.next⟩
  rcases hgrows.pending hd with hold | ⟨hle, -⟩
  · exact h.not_pending hold
  · exact absurd h.below (not_lt.2 hle)

theorem Gone.foldl {d : Deletion} {db : Db} (h : Gone d db) {calls : List CatalogCall}
    (hcalls : ∀ c ∈ calls, NoEdit c.request) :
    Gone d (calls.foldl (fun db c => catalogStep c db) db) := by
  induction calls generalizing db with
  | nil => exact h
  | cons c rest ih =>
      obtain ⟨hc, hrest⟩ := List.forall_mem_cons.1 hcalls
      exact ih (h.step hc) hrest

/-- **A deletion takes effect once.** In every run of requests without edits, if a delivery of a
deletion changes the store, then no later delivery of it does, whoever sends it and whatever other
requests are served in between. -/
theorem deletions_once {db : Db}
    (h : Reach Db.IsEmpty (fun c _ => NoEdit c.request) catalogStep db) (d : Deletion)
    {caller caller' : Caller} {env env' : Env}
    (hchanged : (catalogStep ⟨d.request, caller, env⟩ db).store ≠ db.store)
    (between : List CatalogCall) (hbetween : ∀ c ∈ between, NoEdit c.request) :
    let db' := between.foldl (fun db c => catalogStep c db)
      (catalogStep ⟨d.request, caller, env⟩ db)
    (catalogStep ⟨d.request, caller', env'⟩ db').store = db'.store := by
  intro db'
  have horderly : Orderly db :=
    h.invariant (I := Orderly) (fun _ => orderly_of_isEmpty) fun _ _ horderly hc => horderly.step hc
  have hd : NoEdit d.request := by cases d <;> trivial
  have hpending : d.Pending db.store := by
    by_contra hnone
    exact hchanged (d.store_of_not_pending horderly.intact hnone)
  have hgone : Gone d (catalogStep ⟨d.request, caller, env⟩ db) :=
    ⟨horderly.step hd, d.not_pending_of_changed horderly.intact hchanged,
      (horderly.drawn d hpending).trans_le (grows_step db hd).next⟩
  have hdb' : Gone d db' := hgone.foldl hbetween
  exact d.store_of_not_pending hdb'.intact hdb'.not_pending

/-- Ten pieces are bought and four sold; the sale is reversed, another is recorded, and the reversal
arrives a second time. -/
theorem deletions_once_shop :
    let db := (catalogStep ⟨.stock (.recordSales 1 (Sample.salesBody 4)), Sample.admin, Sample.env⟩
      (catalogStep ⟨.stock (.addProduct (Sample.productBody 10 100)), Sample.admin, Sample.env⟩
        Sample.db))
    let db' := catalogStep ⟨.stock (.recordSales 1 (Sample.salesBody 3)), Sample.admin, Sample.env⟩
      (catalogStep ⟨(Deletion.sale 4 1).request, Sample.admin, Sample.env⟩ db)
    (catalogStep ⟨(Deletion.sale 4 1).request, Sample.admin, Sample.env⟩ db').store = db'.store ∧
      db'.store.sales.docs.map (·.quantity) = [3] := by
  intro db db'
  have hdb : Reach Db.IsEmpty (fun c _ => NoEdit (CatalogCall.request c)) catalogStep db :=
    .next _ (.next _ (.start Sample.isEmpty) trivial) trivial
  have hchanged : (catalogStep ⟨(Deletion.sale 4 1).request, Sample.admin, Sample.env⟩ db).store ≠
      db.store := by
    intro hsame
    exact absurd (congrArg (fun s => s.sales.docs.length) hsame) (by decide +kernel)
  exact ⟨deletions_once hdb (.sale 4 1) hchanged
    [⟨.stock (.recordSales 1 (Sample.salesBody 3)), Sample.admin, Sample.env⟩]
    (List.forall_mem_singleton.2 trivial), by decide +kernel⟩

end InventoryHero.Retries
