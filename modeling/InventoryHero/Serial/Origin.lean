import InventoryHero.Serial.Edits
import InventoryHero.Serial.Serve

/-!
# Where batches come from

`Origin db n' c b` says how the batch `b` that is stored after the call `c` came about: it was there
before, it was bought, or it is an older batch that the call changed. Invariants of single batches
follow from it case by case; the rest of the store does not matter to them.
-/

set_option autoImplicit false

namespace InventoryHero.Serial

open Interaction Storage Model Stock

/-- How a batch that is stored after the call came about; new ids are below `n'`. -/
inductive Origin (db : Db) (n' : ObjectId) : Call → Inventory → Prop
  /-- It was there before. -/
  | kept {c : Call} {b : Inventory} (mem : b ∈ db.store.inventories.docs) : Origin db n' c b
  /-- It came in with the call. -/
  | bought {c : Call} {b : Inventory} (cost : Cost) (purchase : Purchase db.nextId n' b cost)
      (quantity : c.request.bought = some b.quantity) : Origin db n' c b
  /-- A sale took pieces from it, and left some. -/
  | drawn {id : ObjectId} {body : SalesBody} {caller : Caller} {env : Env} {b : Inventory}
      (a : Inventory) (product : Product) (data : SalesInput) (mem : a ∈ db.store.inventories.docs)
      (found : db.store.findProduct id = some product) (valid : validateSales body = .ok data)
      (same : b = { a with quantity := b.quantity }) (positive : 0 < b.quantity)
      (less : 0 ≤ data.pieces product → b.quantity ≤ a.quantity) :
      Origin db n' ⟨.recordSales id body, caller, env⟩ b
  /-- It was credited with the pieces of a sale. -/
  | credited {id prd : ObjectId} {caller : Caller} {env : Env} (a : Inventory) (sale : Sale)
      (may : MayReverse db caller) (found : db.store.sales.get? id = some sale)
      (first : firstLive prd db.store.inventories = some a) :
      Origin db n' ⟨.deleteSalesRecord id prd, caller, env⟩
        { a with quantity := a.quantity + sale.quantity }
  /-- It was rebuilt from a snapshot, with the pieces of a sale. -/
  | rebuilt {id prd : ObjectId} {caller : Caller} {env : Env} (last : Last) (sale : Sale)
      (n : ObjectId) (may : MayReverse db caller) (found : db.store.sales.get? id = some sale)
      (none_live : firstLive prd db.store.inventories = none)
      (snapshot : (db.store.lastsOf prd).head? = some last) (valid : last.valid = true)
      (batch_id : n < n') :
      Origin db n' ⟨.deleteSalesRecord id prd, caller, env⟩ (last.toInventory n sale.quantity)
  /-- All sales were given back. -/
  | creditedAll {caller : Caller} {env : Env} (a : Inventory) (mem : a ∈ db.store.inventories.docs)
      (live : AllLive db.store) :
      Origin db n' ⟨.deleteAllSales, caller, env⟩
        { a with quantity := a.quantity + credited db.store.sales.docs db.store.inventories a }
  /-- It was edited. -/
  | edited {id : ObjectId} {data : EditBody} {caller : Caller} {env : Env} (a : Inventory)
      (quantity : Option JsNumber) (initialQuantity : Option ℚ) (q : Option ℚ)
      (cpq : Option JsNumber) (mem : a ∈ db.store.inventories.docs)
      (admin : isAdmin (db.store.users.get? caller._id) = true)
      (found : db.store.findInventory id = some a)
      (edited : editQuantities a data = some (quantity, initialQuantity))
      (castQuantity : castQuantity quantity = .ok q)
      (castCpq : castCpq (editCpq a data quantity) = .ok cpq) :
      Origin db n' ⟨.editInventory id data, caller, env⟩
        (((editUpdate a data quantity initialQuantity).patch q cpq).apply a)

/-- Every batch stored after a call has an origin. -/
theorem Effect.origin {db db' : Db} {c : Call} (e : Effect db c db') {b : Inventory}
    (hb : b ∈ db'.store.inventories.docs) : Origin db db'.nextId c b := by
  cases e with
  | unchanged store next => exact .kept (store ▸ hb)
  | addProduct product batch cost purchase batch_product product_id quantity upb costPrice commit =>
      rw [commit.store] at hb
      rcases Collection.mem_of_mem_insert hb with hb | rfl
      · exact .kept hb
      · exact .bought cost purchase quantity
  | addInventory product price batch cost found purchase batch_product quantity costPrice commit =>
      rw [commit.store] at hb
      rcases Collection.mem_of_mem_insert hb with hb | rfl
      · exact .kept hb
      · exact .bought cost purchase quantity
  | recordSales product data sale lasts known found valid enough sale_product sale_quantity sale_id
      snapshot usedUp commit =>
      rw [commit.store] at hb
      -- the draw has left the batch alone or lowered it
      obtain ⟨a, ha, hab, hq | ⟨hpos, hless⟩⟩ := mem_drawWrites
        (fun e he => (List.mem_filter.1 he).1) (nodup_batches db.store _) hb
      · rw [hq] at hab
        exact .kept (hab ▸ ha)
      · exact .drawn a product data ha found valid hab hpos hless
  | deleteSalesRecord may reversed =>
      cases reversed with
      | restock sale batch found first valid commit =>
          rw [commit.store] at hb
          change b ∈ (db.store.inventories.modify _ _).docs at hb
          -- the write of the reversal, read as a credit
          rw [← credit_of_some first] at hb
          rcases mem_credit hb with ⟨hb, -⟩ | ⟨a, ha, rfl⟩
          · exact .kept hb
          · exact .credited a sale may found ha
      | rebuild sale last n found none_live snapshot valid batch_id commit =>
          rw [commit.store] at hb
          rcases Collection.mem_of_mem_insert hb with hb | rfl
          · exact .kept hb
          · exact .rebuilt last sale n may found none_live snapshot valid batch_id.2
  | deleteAllSales live store next =>
      rw [store] at hb
      obtain ⟨a, ha, rfl⟩ := mem_creditAll hb
      exact .creditedAll a ha live
  | userDeleteProduct store next =>
      rw [store] at hb
      exact .kept (List.mem_filter.1 hb).1
  | deleteInventory admin store next =>
      rw [store] at hb
      exact .kept (Collection.mem_delete.1 hb).1
  | editInventory batch quantity initialQuantity q cpq admin found edited castQuantity castCpq
      store next =>
      rw [store] at hb
      rcases mem_edited found hb with ⟨hb, -⟩ | rfl
      · exact .kept hb
      · obtain ⟨hmem, -⟩ := Store.mem_of_findInventory found
        exact .edited batch quantity initialQuantity q cpq hmem admin found edited castQuantity
          castCpq

/-! ## Ids -/

/-- The ids of batches and snapshots, and the references to batches, were given out before. -/
structure FreshIds (db : Db) : Prop where
  batch : ∀ b ∈ db.store.inventories.docs, b._id < db.nextId
  cost : ∀ cost ∈ db.store.costs.docs, cost.inventoryId < db.nextId
  last : ∀ last ∈ db.store.lasts.docs, last._id < db.nextId

theorem freshIds_of_isEmpty {db : Db} (h : db.IsEmpty) : FreshIds db := by
  obtain ⟨-, hi, -, hc, hl⟩ := h
  exact ⟨by simp [hi], by simp [hc], by simp [hl]⟩

theorem Effect.next {db db' : Db} {c : Call} (e : Effect db c db') : db.nextId ≤ db'.nextId := by
  cases e with
  | addProduct product batch cost purchase batch_product product_id quantity upb costPrice commit =>
      exact commit.next
  | addInventory product price batch cost found purchase batch_product quantity costPrice commit =>
      exact commit.next
  | recordSales product data sale lasts known found valid enough sale_product sale_quantity sale_id
      snapshot usedUp commit => exact commit.next
  | deleteSalesRecord may reversed =>
      cases reversed with
      | restock sale batch found first valid commit => exact commit.next
      | rebuild sale last n found none_live snapshot valid batch_id commit => exact commit.next
  | unchanged store next => exact next
  | deleteAllSales live store next => exact next
  | userDeleteProduct store next => exact next
  | deleteInventory admin store next => exact next
  | editInventory batch quantity initialQuantity q cpq admin found edited castQuantity castCpq
      store next => exact next

theorem FreshIds.origin {db : Db} {n' : ObjectId} {c : Call} {b : Inventory} (h : FreshIds db)
    (o : Origin db n' c b) (hn : db.nextId ≤ n') : b._id < n' := by
  cases o with
  | kept mem => exact (h.batch b mem).trans_le hn
  | bought cost purchase quantity => exact purchase.batch_id.2
  | drawn a product data mem found valid same positive less =>
      rw [same]
      exact (h.batch a mem).trans_le hn
  | credited a sale may found first => exact (h.batch a (firstLive_spec first).1).trans_le hn
  | rebuilt last sale n may found none_live snapshot valid batch_id => exact batch_id
  | creditedAll a mem live => exact (h.batch a mem).trans_le hn
  | edited a quantity initialQuantity q cpq mem admin found edited castQuantity castCpq =>
      exact (h.batch a mem).trans_le hn

/-- The cost record is the record `old` as far as edits do not change it. -/
def SameRecord (old cost : Cost) : Prop :=
  old.inventoryId = cost.inventoryId ∧ old._id = cost._id ∧ old.createdBy = cost.createdBy

/-- An edit does not change the id of a cost record, nor which batch it belongs to. -/
theorem mem_editedCosts {s : Store} {id : ObjectId} {data : EditBody} {quantity : Option JsNumber}
    {cost : Cost} (h : cost ∈ (editedCosts s id data quantity).docs) :
    ∃ old ∈ s.costs.docs, SameRecord old cost := by
  unfold editedCosts at h
  split at h
  · split at h
    · obtain ⟨old, hold, rfl⟩ := Collection.mem_modify.1 h
      refine ⟨old, hold, ?_⟩
      split <;> exact ⟨rfl, rfl, rfl⟩
    · exact ⟨cost, h, rfl, rfl, rfl⟩
  · exact ⟨cost, h, rfl, rfl, rfl⟩

/-- The cost record of a new batch. -/
theorem Purchase.new_cost {n n' : ObjectId} {batch : Inventory} {cost : Cost}
    (h : Purchase n n' batch cost) :
    cost.inventoryId < n' ∧ cost._id < n' ∧ cost.createdBy.valid = true :=
  ⟨h.cost_inventoryId ▸ h.batch_id.2, h.cost_id.2,
    h.cost_createdBy ▸ (Inventory.valid_iff.1 h.valid).1⟩

/-- A cost record was there before, for the same batch, or came in with a batch and passes the
schema. -/
theorem Effect.mem_costs {db db' : Db} {c : Call} (e : Effect db c db') {cost : Cost}
    (hc : cost ∈ db'.store.costs.docs) :
    (∃ old ∈ db.store.costs.docs, SameRecord old cost) ∨
      cost.inventoryId < db'.nextId ∧ cost._id < db'.nextId ∧ cost.createdBy.valid = true := by
  cases e with
  | addProduct product batch bill purchase batch_product product_id quantity upb costPrice commit =>
      rw [commit.store] at hc
      rcases Collection.mem_of_mem_insert hc with hc | rfl
      · exact .inl ⟨cost, hc, rfl, rfl, rfl⟩
      · exact .inr purchase.new_cost
  | addInventory product price batch bill found purchase batch_product quantity costPrice commit =>
      rw [commit.store] at hc
      rcases Collection.mem_of_mem_insert hc with hc | rfl
      · exact .inl ⟨cost, hc, rfl, rfl, rfl⟩
      · exact .inr purchase.new_cost
  | recordSales product data sale lasts known found valid enough sale_product sale_quantity sale_id
      snapshot usedUp commit =>
      rw [commit.store] at hc
      exact .inl ⟨cost, hc, rfl, rfl, rfl⟩
  | deleteSalesRecord may reversed =>
      rw [reversed.frame.1] at hc
      exact .inl ⟨cost, hc, rfl, rfl, rfl⟩
  | unchanged store next =>
      rw [store] at hc
      exact .inl ⟨cost, hc, rfl, rfl, rfl⟩
  | deleteAllSales live store next =>
      rw [store] at hc
      exact .inl ⟨cost, hc, rfl, rfl, rfl⟩
  | userDeleteProduct store next =>
      rw [store] at hc
      exact .inl ⟨cost, (List.mem_filter.1 hc).1, rfl, rfl, rfl⟩
  | deleteInventory admin store next =>
      rw [store] at hc
      exact .inl ⟨cost, mem_of_mem_costsWithout hc, rfl, rfl, rfl⟩
  | editInventory batch quantity initialQuantity q cpq admin found edited castQuantity castCpq
      store next =>
      rw [store] at hc
      simp only [editedStore] at hc
      split at hc
      · exact .inl (mem_editedCosts hc)
      · exact .inl ⟨cost, hc, rfl, rfl, rfl⟩

/-- A sale was there before, or was recorded. -/
theorem Effect.mem_sales {db db' : Db} {c : Call} (e : Effect db c db') {sale : Sale}
    (hs : sale ∈ db'.store.sales.docs) : sale ∈ db.store.sales.docs ∨ sale._id < db'.nextId := by
  cases e with
  | recordSales product data sold lasts known found valid enough sale_product sale_quantity sale_id
      snapshot usedUp commit =>
      rw [commit.store] at hs
      rcases Collection.mem_of_mem_insert hs with hs | rfl
      · exact .inl hs
      · exact .inr sale_id.2
  | deleteSalesRecord may reversed =>
      cases reversed with
      | restock sold batch found first valid commit =>
          rw [commit.store] at hs
          exact .inl (Collection.mem_delete.1 hs).1
      | rebuild sold last n found none_live snapshot valid batch_id commit =>
          rw [commit.store] at hs
          exact .inl (Collection.mem_delete.1 hs).1
  | userDeleteProduct store next =>
      rw [store] at hs
      exact .inl (List.mem_filter.1 hs).1
  | deleteAllSales live store next =>
      rw [store] at hs
      exact absurd hs List.not_mem_nil
  | addProduct product batch cost purchase batch_product product_id quantity upb costPrice commit =>
      rw [commit.store] at hs
      exact .inl hs
  | addInventory product price batch cost found purchase batch_product quantity costPrice commit =>
      rw [commit.store] at hs
      exact .inl hs
  | unchanged store next => exact .inl (store ▸ hs)
  | deleteInventory admin store next =>
      rw [store] at hs
      exact .inl hs
  | editInventory batch quantity initialQuantity q cpq admin found edited castQuantity castCpq
      store next =>
      rw [store] at hs
      exact .inl hs

/-- A snapshot was there before, or a sale wrote it, with the data of a batch. -/
theorem Effect.mem_lasts {db db' : Db} {c : Call} (e : Effect db c db') {last : Last}
    (hl : last ∈ db'.store.lasts.docs) :
    last ∈ db.store.lasts.docs ∨
      (last.cpq ≠ .nan ∧ ∃ b ∈ db.store.inventories.docs, last.toSnapshot = b.snapshot) ∧
      (last._id < db'.nextId ∨ ∃ old ∈ db.store.lasts.docs, old._id = last._id) := by
  cases e with
  | recordSales product data sale lasts known found valid enough sale_product sale_quantity sale_id
      snapshot usedUp commit =>
      rw [commit.store] at hl
      refine (snapshot.mem last hl).imp_right fun ⟨hof, hid⟩ => ⟨⟨hof.cpq, ?_⟩, hid⟩
      obtain ⟨b, hb, hsame⟩ := hof.batch
      exact ⟨b, (mem_batches.1 hb).1, hsame⟩
  | userDeleteProduct store next =>
      rw [store] at hl
      exact .inl (List.mem_filter.1 hl).1
  | addProduct product batch cost purchase batch_product product_id quantity upb costPrice commit =>
      rw [commit.store] at hl
      exact .inl hl
  | addInventory product price batch cost found purchase batch_product quantity costPrice commit =>
      rw [commit.store] at hl
      exact .inl hl
  | deleteSalesRecord may reversed => exact .inl (reversed.frame.2 ▸ hl)
  | unchanged store next => exact .inl (store ▸ hl)
  | deleteAllSales live store next =>
      rw [store] at hl
      exact .inl hl
  | deleteInventory admin store next =>
      rw [store] at hl
      exact .inl hl
  | editInventory batch quantity initialQuantity q cpq admin found edited castQuantity castCpq
      store next =>
      rw [store] at hl
      exact .inl hl

theorem FreshIds.effect {db db' : Db} {c : Call} (h : FreshIds db) (e : Effect db c db') :
    FreshIds db' := by
  have hnext := e.next
  refine ⟨fun b hb => h.origin (e.origin hb) hnext, fun cost hc => ?_, fun last hl => ?_⟩
  · rcases e.mem_costs hc with ⟨old, hold, hid, -⟩ | ⟨hlt, -⟩
    · exact hid ▸ (h.cost old hold).trans_le hnext
    · exact hlt
  -- kept, inserted under a new id, or updated under its old one
  · rcases e.mem_lasts hl with hold | ⟨-, hlt | ⟨old, hold, hid⟩⟩
    · exact (h.last last hold).trans_le hnext
    · exact hlt
    · exact hid ▸ (h.last old hold).trans_le hnext

/-! ## Documents that pass the schema -/

/-- Every batch and every snapshot has data with the property `V`. -/
structure AllData (V : Snapshot → Prop) (s : Store) : Prop where
  batch : ∀ b ∈ s.inventories.docs, V b.snapshot
  last : ∀ last ∈ s.lasts.docs, V last.toSnapshot

/-- Edits keep the property of the batch that they change. -/
def EditsData (V : Snapshot → Prop) (c : Call) : Prop :=
  c.request.OnEdit fun _ data => ∀ b, V b.snapshot → ∀ quantity initialQuantity q cpq,
    castCpq (editCpq b data quantity) = .ok cpq →
    V (((editUpdate b data quantity initialQuantity).patch q cpq).apply b).snapshot

theorem allData_of_isEmpty {V : Snapshot → Prop} {db : Db} (h : db.IsEmpty) :
    AllData V db.store := by
  obtain ⟨-, hi, -, -, hl⟩ := h
  exact ⟨by simp [hi], by simp [hl]⟩

/-- Batches and snapshots are made from each other: a property that the schema ensures of new ones
is kept by all requests but edits. -/
theorem AllData.effect {V : Snapshot → Prop} {db db' : Db} {c : Call} (h : AllData V db.store)
    (hvalid : ∀ data : Snapshot, data.valid = true → V data) (hedit : EditsData V c)
    (e : Effect db c db') : AllData V db'.store := by
  refine ⟨fun b hb => ?_, fun last hl => ?_⟩
  · cases e.origin hb with
    | kept mem => exact h.batch b mem
    | bought cost purchase quantity => exact hvalid _ purchase.valid
    | drawn a product data mem found valid same positive less =>
        rw [same]
        exact h.batch a mem
    | credited a sale may found first => exact h.batch a (firstLive_spec first).1
    | rebuilt last sale n may found none_live snapshot valid batch_id => exact hvalid _ valid
    | creditedAll a mem live => exact h.batch a mem
    | edited a quantity initialQuantity q cpq mem admin found edited castQuantity castCpq =>
        exact hedit a (h.batch a mem) quantity initialQuantity q cpq castCpq
  · rcases e.mem_lasts hl with hold | ⟨⟨-, b, hb, hsame⟩, -⟩
    · exact h.last last hold
    · exact hsame ▸ h.batch b hb

/-- The unit cost is a number. -/
def Numeric (data : Snapshot) : Prop := data.cpq ≠ .nan

theorem numeric_of_valid (data : Snapshot) (h : data.valid = true) : Numeric data :=
  (Snapshot.valid_iff.1 h).2

/-- The name after the update passes the schema. -/
def NamedAfter (u : InventoryUpdate) (b : Inventory) : Prop :=
  (u.createdBy.getD b.createdBy).valid = true

section Update

variable {b : Inventory} {u : InventoryUpdate} {q : Option ℚ} {cpq : Option JsNumber}

/-- An update cannot spoil the unit cost: the cast refuses `NaN`. -/
theorem numeric_updated (hb : Numeric b.snapshot) (hcast : castCpq u.cpq = .ok cpq) :
    Numeric ((u.patch q cpq).apply b).snapshot := by
  change cpq.getD b.cpq ≠ .nan
  obtain rfl := castCpq_ok hcast
  cases hc : u.cpq with
  | none => exact hb
  | some n =>
      rintro rfl
      rw [hc] at hcast
      cases hcast

theorem valid_updated (hb : Numeric b.snapshot) (hcast : castCpq u.cpq = .ok cpq)
    (hname : NamedAfter u b) : ((u.patch q cpq).apply b).valid = true :=
  Inventory.valid_iff.2 ⟨hname, numeric_updated (q := q) hb hcast⟩

end Update

theorem editsData_numeric (c : Call) : EditsData Numeric c := by
  unfold EditsData
  cases c.request with
  | editInventory id data =>
      intro b hb quantity initialQuantity q cpq hcast
      exact numeric_updated (u := editUpdate b data quantity initialQuantity) hb hcast
  | _ => trivial

/-- The edit gives no name that the schema refuses. -/
def NamesBatch (data : EditBody) : Prop := ∀ person ∈ data.createdBy, person.valid = true

theorem NamesBatch.namedAfter {data : EditBody} (h : NamesBatch data) {b : Inventory}
    (hb : b.valid = true) (quantity : Option JsNumber) (initialQuantity : Option ℚ) :
    NamedAfter (editUpdate b data quantity initialQuantity) b := by
  change (data.createdBy.getD b.createdBy).valid = true
  cases hd : data.createdBy with
  | none => exact (Inventory.valid_iff.1 hb).1
  | some person => exact h person hd

theorem editsData_valid {c : Call} (h : c.request.OnEdit fun _ data => NamesBatch data) :
    EditsData (fun data => data.valid = true) c := by
  refine h.mono ?_
  intro id data hdata b hb quantity initialQuantity q cpq hcast
  exact valid_updated (u := editUpdate b data quantity initialQuantity) (numeric_of_valid _ hb)
    hcast (hdata.namedAfter hb quantity initialQuantity)

/-- The batches, the cost records and the snapshots can all be saved again. -/
structure AllValid (s : Store) : Prop extends AllData (fun data => data.valid = true) s where
  cost : ∀ cost ∈ s.costs.docs, cost.createdBy.valid = true

theorem allValid_of_isEmpty {db : Db} (h : db.IsEmpty) : AllValid db.store :=
  ⟨allData_of_isEmpty h, by simp [h.2.2.2.1]⟩

/-- Edits that give an empty name apart, every request leaves documents that pass the schema. -/
theorem AllValid.effect {db db' : Db} {c : Call} (h : AllValid db.store)
    (hedit : c.request.OnEdit fun _ data => NamesBatch data) (e : Effect db c db') :
    AllValid db'.store := by
  refine ⟨h.toAllData.effect (fun _ hdata => hdata) (editsData_valid hedit) e, fun cost hc => ?_⟩
  rcases e.mem_costs hc with ⟨old, hold, -, -, hsame⟩ | ⟨-, -, hvalid⟩
  · exact hsame ▸ h.cost old hold
  · exact hvalid

end InventoryHero.Serial
