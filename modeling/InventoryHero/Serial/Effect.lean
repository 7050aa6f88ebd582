import InventoryHero.Model.Server
import InventoryHero.Stock.Credit

/-!
# What a request served alone can do

`Effect db c db'` lists, request by request, every change the call `c` can make when it is served
with no other request in between. It is the inversion principle of `serveStep` (proved as
`serve_effect`): the invariants of whole runs are case analyses on it and do not look into the
handlers.
-/

set_option autoImplicit false

namespace InventoryHero.Serial

open Interaction Storage Model Stock

/-- The database after the writes `w` of one transaction were committed. -/
structure Commit (db : Db) (w : Writes) (db' : Db) : Prop where
  store : db'.store = db.store.apply w
  accepted : db.store.accepts w = true
  next : db.nextId ≤ db'.nextId

/-- A batch with the cost record that is created together with it, under ids in `[n, n')`. -/
structure Purchase (n n' : ObjectId) (batch : Inventory) (cost : Cost) : Prop where
  batch_id : n ≤ batch._id ∧ batch._id < n'
  cost_id : n ≤ cost._id ∧ cost._id < n'
  cost_product : cost.product = batch.product
  cost_inventoryId : cost.inventoryId = batch._id
  cost_quantity : cost.quantity = batch.initialQuantity
  cost_cost : cost.cost = batch.costPrice
  quantity : batch.quantity = batch.initialQuantity
  cpq : batch.cpq = .div batch.costPrice batch.initialQuantity
  valid : batch.valid = true
  cost_createdBy : cost.createdBy = batch.createdBy
  live : batch.isDeleted = false

/-- The snapshot `d` of product `p` is that of one of the `batches`, and its unit cost is a number:
an update of a snapshot checks no more. -/
structure SnapshotOf (batches : List Inventory) (p : ObjectId) (d : Last) : Prop where
  product : d.product = p
  cpq : d.cpq ≠ .nan
  batch : ∃ b ∈ batches, d.toSnapshot = b.snapshot

/-- How a sale changes the snapshots `lasts` into `lasts'`: only snapshots of product `p` are added
or overwritten, with the data of one of the `batches`, and no product loses its last one. -/
structure Snapshotted (batches : List Inventory) (p n' : ObjectId)
    (lasts lasts' : Collection Last) : Prop where
  mem : ∀ d ∈ lasts'.docs, d ∈ lasts.docs ∨ SnapshotOf batches p d ∧
    (d._id < n' ∨ ∃ e ∈ lasts.docs, e._id = d._id)
  keep : ∀ d ∈ lasts.docs, ∃ d' ∈ lasts'.docs, d'.product = d.product

/-- The store without a product and everything that refers to it. -/
def dropProduct (s : Store) (id : ObjectId) : Store :=
  { s with
    products := s.products.delete id
    inventories := s.inventories.filter fun d => !decide (d.product = id)
    sales := s.sales.filter fun d => !decide (d.product = id)
    costs := s.costs.filter fun d => !decide (d.product = id)
    lasts := s.lasts.filter fun d => !decide (d.product = id) }

/-- Every sale has a live batch to go back to, one that passes the schema. -/
def AllLive (s : Store) : Prop :=
  ∀ sale ∈ s.sales.docs, (firstLive sale.product s.inventories).any Inventory.valid = true

instance (s : Store) : Decidable (AllLive s) := inferInstanceAs (Decidable (∀ _ ∈ _, _))

theorem AllLive.firstLive_ne_none {s : Store} (h : AllLive s) :
    ∀ sale ∈ s.sales.docs, firstLive sale.product s.inventories ≠ none := by
  intro sale hs hnone
  have hvalid := h sale hs
  rw [hnone] at hvalid
  cases hvalid

/-- The store with every sale given back. -/
def reversedAll (s : Store) : Store :=
  { s with inventories := creditAll s.sales.docs s.inventories, sales := .empty }

/-- The costs after an edit of the batch `id`: the first cost record of the batch is changed. -/
def editedCosts (s : Store) (id : ObjectId) (data : EditBody) (quantity : Option JsNumber) :
    Collection Cost :=
  match s.costOf id with
  | some cost =>
      if editsCost data quantity then s.costs.modify cost._id (editCostData data quantity).patch
      else s.costs
  | none => s.costs

/-- The store after an edit of the batch `id`, which was `batch`. The updated batch is saved before
the cost record is touched: if it does not pass the schema, the edit ends there. -/
def editedStore (s : Store) (id : ObjectId) (batch : Inventory) (data : EditBody)
    (quantity : Option JsNumber) (patch : Patch Inventory) : Store :=
  { s with
    inventories := s.inventories.modify id patch
    costs := if (patch.apply batch).valid then editedCosts s id data quantity else s.costs }

/-- The token says `admin`, and the account exists. -/
def MayReverse (db : Db) (caller : Caller) : Prop :=
  caller.role = .admin ∧ db.store.users.get? caller._id ≠ none

instance (db : Db) (caller : Caller) : Decidable (MayReverse db caller) :=
  inferInstanceAs (Decidable (_ ∧ _))

/-- The reversal of sale `id` for product `prd`. -/
inductive Reversed (db : Db) (id prd : ObjectId) (db' : Db) : Prop
  /-- The first live batch is credited. -/
  | restock (sale : Sale) (batch : Inventory) (found : db.store.sales.get? id = some sale)
      (first : firstLive prd db.store.inventories = some batch) (valid : batch.valid = true)
      (commit : Commit db
        { inventories := [.modify batch._id (setQuantity (batch.quantity + sale.quantity))],
          sales := [.delete id] } db')
  /-- Without a live batch, one is rebuilt from the snapshot. -/
  | rebuild (sale : Sale) (last : Last) (n : ObjectId) (found : db.store.sales.get? id = some sale)
      (none_live : firstLive prd db.store.inventories = none)
      (snapshot : (db.store.lastsOf prd).head? = some last) (valid : last.valid = true)
      (batch_id : db.nextId ≤ n ∧ n < db'.nextId)
      (commit : Commit db { inventories := [.insert (last.toInventory n sale.quantity)],
                            sales := [.delete id] } db')

/-- A reversal touches nothing but batches and sales. -/
theorem Reversed.frame {db db' : Db} {id prd : ObjectId} (h : Reversed db id prd db') :
    db'.store.costs = db.store.costs ∧ db'.store.lasts = db.store.lasts := by
  cases h with
  | restock sale batch found first valid commit =>
      exact ⟨by rw [commit.store]; rfl, by rw [commit.store]; rfl⟩
  | rebuild sale last n found none_live snapshot valid batch_id commit =>
      exact ⟨by rw [commit.store]; rfl, by rw [commit.store]; rfl⟩

/-- The cost records without that of batch `id`. -/
def costsWithout (s : Store) (id : ObjectId) : Collection Cost :=
  (s.costOf id).elim s.costs fun cost => s.costs.delete cost._id

theorem mem_of_mem_costsWithout {s : Store} {id : ObjectId} {cost : Cost}
    (h : cost ∈ (costsWithout s id).docs) : cost ∈ s.costs.docs := by
  unfold costsWithout at h
  cases hc : s.costOf id with
  | none => rwa [hc] at h
  | some found =>
      rw [hc] at h
      exact (Collection.mem_delete.1 h).1

/-- What the call can do to the database. -/
inductive Effect (db : Db) : Call → Db → Prop
  /-- Refused, failed or aborted. -/
  | unchanged {c : Call} {db' : Db} (store : db'.store = db.store)
      (next : db.nextId ≤ db'.nextId) : Effect db c db'
  /-- A product with its first batch. -/
  | addProduct {body : ProductBody} {caller : Caller} {env : Env} {db' : Db}
      (product : Product) (batch : Inventory) (cost : Cost)
      (purchase : Purchase db.nextId db'.nextId batch cost)
      (batch_product : batch.product = product._id)
      (product_id : db.nextId ≤ product._id ∧ product._id < db'.nextId)
      (quantity : body.quantity = some batch.quantity) (upb : body.upb = some product.upb)
      (costPrice : body.costPrice = some batch.costPrice)
      (commit : Commit db { products := [.insert product], inventories := [.insert batch],
                            costs := [.insert cost] } db') :
      Effect db ⟨.addProduct body, caller, env⟩ db'
  /-- A further batch of a product. -/
  | addInventory {id : ObjectId} {body : InventoryBody} {caller : Caller} {env : Env} {db' : Db}
      (product : Product) (price : Option Price) (batch : Inventory) (cost : Cost)
      (found : db.store.findProduct id = some product)
      (purchase : Purchase db.nextId db'.nextId batch cost) (batch_product : batch.product = id)
      (quantity : body.quantity = some batch.quantity)
      (costPrice : body.costPrice = some batch.costPrice)
      (commit : Commit db { products := priceWrites id price,
                            inventories := [.insert batch], costs := [.insert cost] } db') :
      Effect db ⟨.addInventory id body, caller, env⟩ db'
  /-- A sale. It takes a snapshot when it uses up the only live batch. -/
  | recordSales {id : ObjectId} {body : SalesBody} {caller : Caller} {env : Env} {db' : Db}
      (product : Product) (data : SalesInput) (sale : Sale) (lasts : List (DocWrite Last))
      (known : db.store.users.get? caller._id ≠ none)
      (found : db.store.findProduct id = some product) (valid : validateSales body = .ok data)
      (enough : data.pieces product ≤ quantitySum (db.store.batches id))
      (sale_product : sale.product = id) (sale_quantity : sale.quantity = data.pieces product)
      (sale_id : db.nextId ≤ sale._id ∧ sale._id < db'.nextId)
      (snapshot : Snapshotted (db.store.batches id) id db'.nextId db.store.lasts
        (db.store.lasts.writeAll lasts))
      (usedUp : ∀ only, db.store.liveBatches id = [only] → only.valid = true →
        (∀ d ∈ db.store.lasts.docs, d._id < db.nextId) →
        (∃ k, .delete k ∈ drawWrites (data.pieces product) (db.store.batches id)) →
        ∃ d ∈ (db.store.lasts.writeAll lasts).docs, d.product = id)
      (commit : Commit db
        { inventories := drawWrites (data.pieces product) (db.store.batches id),
          sales := [.insert sale], lasts := lasts } db') :
      Effect db ⟨.recordSales id body, caller, env⟩ db'
  /-- The reversal of a sale. -/
  | deleteSalesRecord {id prd : ObjectId} {caller : Caller} {env : Env} {db' : Db}
      (may : MayReverse db caller) (reversed : Reversed db id prd db') :
      Effect db ⟨.deleteSalesRecord id prd, caller, env⟩ db'
  /-- The reversal of every sale. -/
  | deleteAllSales {caller : Caller} {env : Env} {db' : Db}
      (live : AllLive db.store) (store : db'.store = reversedAll db.store)
      (next : db.nextId ≤ db'.nextId) :
      Effect db ⟨.deleteAllSales, caller, env⟩ db'
  /-- The removal of a product with everything that refers to it. -/
  | userDeleteProduct {id : ObjectId} {caller : Caller} {env : Env} {db' : Db}
      (store : db'.store = dropProduct db.store id) (next : db.nextId ≤ db'.nextId) :
      Effect db ⟨.userDeleteProduct id, caller, env⟩ db'
  /-- The removal of a batch together with its cost record. -/
  | deleteInventory {id : ObjectId} {caller : Caller} {env : Env} {db' : Db}
      (admin : isAdmin (db.store.users.get? caller._id) = true)
      (store : db'.store = { db.store with
        inventories := db.store.inventories.delete id
        costs := costsWithout db.store id })
      (next : db.nextId ≤ db'.nextId) :
      Effect db ⟨.deleteInventory id, caller, env⟩ db'
  /-- An edit: its two writes are not part of the transaction. -/
  | editInventory {id : ObjectId} {data : EditBody} {caller : Caller} {env : Env} {db' : Db}
      (batch : Inventory) (quantity : Option JsNumber) (initialQuantity : Option ℚ)
      (q : Option ℚ) (cpq : Option JsNumber)
      (admin : isAdmin (db.store.users.get? caller._id) = true)
      (found : db.store.findInventory id = some batch)
      (edited : editQuantities batch data = some (quantity, initialQuantity))
      (castQuantity : castQuantity quantity = .ok q)
      (castCpq : castCpq (editCpq batch data quantity) = .ok cpq)
      (store : db'.store = editedStore db.store id batch data quantity
        ((editUpdate batch data quantity initialQuantity).patch q cpq))
      (next : db.nextId ≤ db'.nextId) :
      Effect db ⟨.editInventory id data, caller, env⟩ db'

/-! ## Snapshots -/

namespace Snapshotted

variable {l : List Inventory} {p n n' : ObjectId} {c c' c'' : Collection Last}

theorem refl (l : List Inventory) (p n : ObjectId) (c : Collection Last) : Snapshotted l p n c c :=
  ⟨fun _ hd => .inl hd, fun d hd => ⟨d, hd, rfl⟩⟩

theorem mono (h : Snapshotted l p n c c') (hn : n ≤ n') : Snapshotted l p n' c c' := by
  refine ⟨fun d hd => (h.mem d hd).imp_right ?_, h.keep⟩
  rintro ⟨hof, hid⟩
  exact ⟨hof, hid.imp_left fun h => h.trans_le hn⟩

theorem trans (h : Snapshotted l p n c c') (h' : Snapshotted l p n c' c'') :
    Snapshotted l p n c c'' := by
  constructor
  · intro d hd
    rcases h'.mem d hd with hd | ⟨hof, hid⟩
    · exact h.mem d hd
    · refine .inr ⟨hof, ?_⟩
      rcases hid with hid | ⟨e, he, hed⟩
      · exact .inl hid
      · rcases h.mem e he with he | ⟨-, hid⟩
        · exact .inr ⟨e, he, hed⟩
        · rwa [← hed]
  · intro d hd
    obtain ⟨d', hd', hp⟩ := h.keep d hd
    obtain ⟨d'', hd'', hp'⟩ := h'.keep d' hd'
    exact ⟨d'', hd'', hp'.trans hp⟩

/-- A snapshot is added. -/
theorem insert {d : Last} (hd : SnapshotOf l p d) (hid : d._id < n) :
    Snapshotted l p n c (c.insert d) := by
  constructor
  · intro e he
    rcases Collection.mem_of_mem_insert he with he | rfl
    · exact .inl he
    · exact .inr ⟨hd, .inl hid⟩
  · intro e he
    refine ⟨e, ?_, rfl⟩
    unfold Collection.insert
    split
    · exact he
    · simp [he]

/-- A snapshot of the product is overwritten. -/
theorem modify {last : Last} {b : Inventory} (hlast : last ∈ c.docs) (hl : last.product = p)
    (hb : b ∈ l) (hp : b.product = p) (hc : b.cpq ≠ .nan) :
    Snapshotted l p n c (c.modify last._id (setSnapshot b.snapshot)) := by
  constructor
  · intro d hd
    obtain ⟨a, ha, rfl⟩ := Collection.mem_modify.1 hd
    by_cases hk : a._id = last._id
    · right
      simp only [key_last, hk, if_true]
      exact ⟨⟨hp, hc, b, hb, rfl⟩, .inr ⟨a, ha, rfl⟩⟩
    · left
      simpa [hk] using ha
  · intro d hd
    refine ⟨_, Collection.mem_modify.2 ⟨d, hd, rfl⟩, ?_⟩
    by_cases hk : d._id = last._id
    · have hdl : d = last := Collection.eq_of_key_eq hd hlast hk
      have hsame : b.snapshot.product = p := hp
      simp [setSnapshot, hsame, hdl, hl]
    · simp [hk]

end Snapshotted

end InventoryHero.Serial
