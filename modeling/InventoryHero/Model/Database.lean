import InventoryHero.Model.Validation
import Mathlib.Data.List.Sort

/-!
# Queries and write commands of the database

The committed contents of the database (`Store`), the reads the handlers issue (`Query`) and the
writes they issue (`Command`). A command is planned against a view of the store: the plan names the
single-document writes it amounts to and the value the driver returns, or the error with which
Mongoose or MongoDB refuses it.

The schemas' `pre('find')` and `pre('findOne')` hooks add `isDeleted: false` to `find`, `findOne`
and `findById`. Aggregations, updates and deletions have no hook.
-/

set_option autoImplicit false

namespace InventoryHero.Model

open Storage

/-- The committed collections. -/
structure Store where
  users : Collection User
  products : Collection Product
  inventories : Collection Inventory
  sales : Collection Sale
  costs : Collection Cost
  lasts : Collection Last

/-- Single-document writes, collection by collection. -/
structure Writes where
  products : List (DocWrite Product) := []
  inventories : List (DocWrite Inventory) := []
  sales : List (DocWrite Sale) := []
  costs : List (DocWrite Cost) := []
  lasts : List (DocWrite Last) := []

/-- Documents across collections. -/
inductive DocKey
  | product (id : ObjectId)
  | inventory (id : ObjectId)
  | sale (id : ObjectId)
  | cost (id : ObjectId)
  | last (id : ObjectId)
  deriving DecidableEq, Repr

namespace Writes

instance : Append Writes where
  append w w' :=
    { products := w.products ++ w'.products
      inventories := w.inventories ++ w'.inventories
      sales := w.sales ++ w'.sales
      costs := w.costs ++ w'.costs
      lasts := w.lasts ++ w'.lasts }

@[simp] theorem mk_append (p p' : List (DocWrite Product)) (i i' : List (DocWrite Inventory))
    (s s' : List (DocWrite Sale)) (c c' : List (DocWrite Cost)) (l l' : List (DocWrite Last)) :
    (⟨p, i, s, c, l⟩ ++ ⟨p', i', s', c', l'⟩ : Writes) =
      ⟨p ++ p', i ++ i', s ++ s', c ++ c', l ++ l'⟩ := rfl

@[simp] theorem append_empty (w : Writes) : w ++ {} = w := by
  cases w
  simp

@[simp] theorem products_append (w w' : Writes) :
    (w ++ w').products = w.products ++ w'.products := rfl
@[simp] theorem inventories_append (w w' : Writes) :
    (w ++ w').inventories = w.inventories ++ w'.inventories := rfl
@[simp] theorem sales_append (w w' : Writes) : (w ++ w').sales = w.sales ++ w'.sales := rfl
@[simp] theorem costs_append (w w' : Writes) : (w ++ w').costs = w.costs ++ w'.costs := rfl
@[simp] theorem lasts_append (w w' : Writes) : (w ++ w').lasts = w.lasts ++ w'.lasts := rfl

/-- The documents written. -/
def keys (w : Writes) : List DocKey :=
  w.products.map (.product ·.key) ++ w.inventories.map (.inventory ·.key) ++
    w.sales.map (.sale ·.key) ++ w.costs.map (.cost ·.key) ++ w.lasts.map (.last ·.key)

end Writes

namespace Store

/-- Applies the writes to each collection. -/
def apply (s : Store) (w : Writes) : Store where
  users := s.users
  products := s.products.writeAll w.products
  inventories := s.inventories.writeAll w.inventories
  sales := s.sales.writeAll w.sales
  costs := s.costs.writeAll w.costs
  lasts := s.lasts.writeAll w.lasts

/-- No write inserts a document under a key in use. -/
def accepts (s : Store) (w : Writes) : Bool :=
  s.products.acceptsAll w.products && s.inventories.acceptsAll w.inventories &&
    s.sales.acceptsAll w.sales && s.costs.acceptsAll w.costs && s.lasts.acceptsAll w.lasts

@[simp] theorem products_apply (s : Store) (w : Writes) :
    (s.apply w).products = s.products.writeAll w.products := rfl
@[simp] theorem inventories_apply (s : Store) (w : Writes) :
    (s.apply w).inventories = s.inventories.writeAll w.inventories := rfl
@[simp] theorem sales_apply (s : Store) (w : Writes) :
    (s.apply w).sales = s.sales.writeAll w.sales := rfl
@[simp] theorem costs_apply (s : Store) (w : Writes) :
    (s.apply w).costs = s.costs.writeAll w.costs := rfl
@[simp] theorem lasts_apply (s : Store) (w : Writes) :
    (s.apply w).lasts = s.lasts.writeAll w.lasts := rfl

@[simp] theorem apply_empty (s : Store) : s.apply {} = s := rfl

theorem apply_append (s : Store) (w w' : Writes) : s.apply (w ++ w') = (s.apply w).apply w' := by
  simp [apply, Collection.writeAll_append]

@[simp] theorem accepts_empty (s : Store) : s.accepts {} = true := rfl

theorem accepts_iff (s : Store) (w : Writes) :
    s.accepts w = true ↔ s.products.acceptsAll w.products = true ∧
      s.inventories.acceptsAll w.inventories = true ∧ s.sales.acceptsAll w.sales = true ∧
      s.costs.acceptsAll w.costs = true ∧ s.lasts.acceptsAll w.lasts = true := by
  simp [accepts, and_assoc]

theorem accepts_inventories {s : Store} {w : Writes} (h : s.accepts w = true) :
    s.inventories.acceptsAll w.inventories = true := ((s.accepts_iff w).1 h).2.1

theorem accepts_sales {s : Store} {w : Writes} (h : s.accepts w = true) :
    s.sales.acceptsAll w.sales = true := ((s.accepts_iff w).1 h).2.2.1

theorem accepts_costs {s : Store} {w : Writes} (h : s.accepts w = true) :
    s.costs.acceptsAll w.costs = true := ((s.accepts_iff w).1 h).2.2.2.1

theorem accepts_append (s : Store) (w w' : Writes) :
    s.accepts (w ++ w') = true ↔ s.accepts w = true ∧ (s.apply w).accepts w' = true := by
  simp only [accepts_iff, Writes.products_append, Writes.inventories_append, Writes.sales_append,
    Writes.costs_append, Writes.lasts_append, Collection.acceptsAll_append, Bool.and_eq_true,
    products_apply, inventories_apply, sales_apply, costs_apply, lasts_apply]
  tauto

end Store

/-! ## Queries -/

/-- A product with the batches `$lookup` joins to it. -/
structure Populated where
  product : Product
  inventoryData : List Inventory

/-- The value `$sort` reads at `expiryDate`: the joined document is a product, and products have no
such field. -/
def Populated.expiryDate (_ : Populated) : Option Date := none

/-- Order of `$sort: { field: 1 }`: a missing field comes first. -/
def sortLe : Option Date → Option Date → Bool
  | none, _ => true
  | some _, none => false
  | some a, some b => a ≤ b

namespace Store

/-- The batches that refer to product `id`, in storage order. -/
def batches (s : Store) (id : ObjectId) : List Inventory :=
  s.inventories.docs.filter fun inv => inv.product = id

/-- `Inventory.find()`. -/
def liveInventories (s : Store) : List Inventory :=
  s.inventories.docs.filter fun inv => !inv.isDeleted

/-- `Inventory.find({ product: id })`. -/
def liveBatches (s : Store) (id : ObjectId) : List Inventory :=
  s.liveInventories.filter fun inv => inv.product = id

/-- `Lasts.find({ product: id })`. -/
def lastsOf (s : Store) (id : ObjectId) : List Last :=
  s.lasts.docs.filter fun last => last.product = id

theorem mem_lastsOf_head {s : Store} {id : ObjectId} {last : Last}
    (h : (s.lastsOf id).head? = some last) : last ∈ s.lasts.docs ∧ last.product = id := by
  have hmem := List.mem_of_head? h
  simpa [lastsOf] using hmem

/-- The aggregation of `recordSales`: `$match` on the id, `$lookup` of the batches, `$sort`. -/
def stock (s : Store) (id : ObjectId) : List Populated :=
  let matched := s.products.docs.filter fun p => p._id = id
  let joined := matched.map fun p => Populated.mk p (s.batches p._id)
  -- sorts products, of which there is at most one, not their batches
  joined.insertionSort fun a b => sortLe a.expiryDate b.expiryDate

/-- The product with id `id`, unless it is soft-deleted. -/
def findProduct (s : Store) (id : ObjectId) : Option Product :=
  (s.products.get? id).filter fun p => !p.isDeleted

/-- The batch with id `id`, unless it is soft-deleted. -/
def findInventory (s : Store) (id : ObjectId) : Option Inventory :=
  (s.inventories.get? id).filter fun inv => !inv.isDeleted

section Found

variable {s : Store} {id : ObjectId}

theorem get?_of_findProduct {p : Product} (h : s.findProduct id = some p) :
    s.products.get? id = some p :=
  (Option.filter_eq_some_iff.1 h).1

theorem mem_of_findProduct {p : Product} (h : s.findProduct id = some p) :
    p ∈ s.products.docs ∧ p._id = id :=
  Collection.get?_eq_some_iff.1 (get?_of_findProduct h)

theorem get?_of_findInventory {inv : Inventory} (h : s.findInventory id = some inv) :
    s.inventories.get? id = some inv :=
  (Option.filter_eq_some_iff.1 h).1

theorem mem_of_findInventory {inv : Inventory} (h : s.findInventory id = some inv) :
    inv ∈ s.inventories.docs ∧ inv._id = id :=
  Collection.get?_eq_some_iff.1 (get?_of_findInventory h)

end Found

/-- The first cost record of a batch. -/
def costOf (s : Store) (inventoryId : ObjectId) : Option Cost :=
  s.costs.docs.find? fun cost => cost.inventoryId = inventoryId

theorem mem_of_costOf {s : Store} {id : ObjectId} {cost : Cost} (h : s.costOf id = some cost) :
    cost ∈ s.costs.docs ∧ cost.inventoryId = id :=
  ⟨List.mem_of_find?_eq_some h, by simpa using List.find?_some h⟩

theorem get?_of_costOf {s : Store} {id : ObjectId} {cost : Cost} (h : s.costOf id = some cost) :
    s.costs.get? cost._id = some cost :=
  Collection.get?_of_mem (mem_of_costOf h).1

end Store

/-- Reads issued without a session. -/
inductive Query
  | user (id : ObjectId)
  | product (id : ObjectId)
  | stock (id : ObjectId)
  | inventory (id : ObjectId)
  | inventories (product : ObjectId)
  | allInventories
  | sale (id : ObjectId)
  | allSales
  | last (product : ObjectId)
  | lasts (product : ObjectId)
  deriving DecidableEq, Repr

/-- What a read returns. -/
@[reducible] def Query.Result : Query → Type
  | .user _ => Option User
  | .product _ => Option Product
  | .stock _ => List Populated
  | .inventory _ => Option Inventory
  | .inventories _ => List Inventory
  | .allInventories => List Inventory
  | .sale _ => Option Sale
  | .allSales => List Sale
  | .last _ => Option Last
  | .lasts _ => List Last

def Query.eval : (q : Query) → Store → q.Result
  | .user id, s => s.users.get? id
  | .product id, s => s.findProduct id
  | .stock id, s => s.stock id
  | .inventory id, s => s.findInventory id
  | .inventories id, s => s.liveBatches id
  | .allInventories, s => s.liveInventories
  | .sale id, s => s.sales.get? id
  | .allSales, s => s.sales.docs
  | .last id, s => (s.lastsOf id).head?
  | .lasts id, s => s.lastsOf id

/-! ## Write commands -/

/-- Errors of the driver and of Mongoose. -/
inductive MongoError
  | duplicateKey
  | validation
  | cast
  | documentNotFound
  | writeConflict
  | commitFailed
  | illegalTransactionState
  deriving DecidableEq, Repr

/-- Raised by Mongoose before anything is sent. -/
def MongoError.isLocal : MongoError → Bool
  | .validation => true
  | .cast => true
  | _ => false

/-- Second argument of `Inventory.findByIdAndUpdate`; absent fields are ignored. -/
structure InventoryUpdate where
  quantity : Option JsNumber := none
  initialQuantity : Option ℚ := none
  cpq : Option JsNumber := none
  costPrice : Option ℚ := none
  price : Option Price := none
  batch : Option ℚ := none
  expiryDate : Option Date := none
  product : Option ObjectId := none
  createdBy : Option Person := none
  createdAt : Option Date := none
  isDeleted : Option Bool := none
  deriving DecidableEq

/-- Second argument of `Costs.findOneAndUpdate`; absent fields are ignored. -/
structure CostUpdate where
  quantity : Option ℚ
  cost : Option ℚ
  createdAt : Option Date

/-- Casting to a schema number: `NaN` is refused. The infinities cannot reach a quantity, which is
only ever a rational or the difference of `undefined` and a rational. -/
def castQuantity : Option JsNumber → Except MongoError (Option ℚ)
  | none => .ok none
  | some (.fin q) => .ok (some q)
  | some _ => .error .cast

/-- Casting a unit cost: `NaN` is refused, the infinities are stored. -/
def castCpq : Option JsNumber → Except MongoError (Option JsNumber)
  | some .nan => .error .cast
  | c => .ok c

/-- `$set` of the fields present in an update. -/
def InventoryUpdate.patch (u : InventoryUpdate) (quantity : Option ℚ) (cpq : Option JsNumber) :
    Patch Inventory where
  apply inv :=
    { inv with
      quantity := quantity.getD inv.quantity
      initialQuantity := u.initialQuantity.getD inv.initialQuantity
      cpq := cpq.getD inv.cpq
      costPrice := u.costPrice.getD inv.costPrice
      price := u.price.getD inv.price
      batch := u.batch.getD inv.batch
      expiryDate := u.expiryDate.getD inv.expiryDate
      product := u.product.getD inv.product
      createdBy := u.createdBy.getD inv.createdBy
      createdAt := u.createdAt.getD inv.createdAt
      isDeleted := u.isDeleted.getD inv.isDeleted }
  key_apply _ := rfl

def CostUpdate.patch (u : CostUpdate) : Patch Cost where
  apply cost :=
    { cost with
      quantity := u.quantity.getD cost.quantity
      cost := u.cost.getD cost.cost
      createdAt := u.createdAt.getD cost.createdAt }
  key_apply _ := rfl

/-- Second argument of `Product.findByIdAndUpdate`: any field of the product schema, absent fields
are ignored. `deletedAt` is read nowhere and not kept; an update with this field alone is still one
that is sent. -/
structure ProductUpdate where
  name : Option String := none
  description : Option String := none
  category : Option String := none
  sku : Option String := none
  currentPrice : Option Price := none
  upb : Option ℚ := none
  image : Option (List Image) := none
  brand : Option String := none
  measurement : Option String := none
  status : Option Status := none
  available : Option Bool := none
  createdBy : Option Person := none
  seller : Option ObjectId := none
  createdAt : Option Date := none
  isDeleted : Option Bool := none
  deletedAt : Option Date := none
  deriving DecidableEq

def ProductUpdate.patch (u : ProductUpdate) : Patch Product where
  apply p :=
    { p with
      name := u.name.getD p.name
      description := u.description.getD p.description
      category := u.category.or p.category
      sku := u.sku.getD p.sku
      currentPrice := u.currentPrice.getD p.currentPrice
      upb := u.upb.getD p.upb
      image := u.image.getD p.image
      brand := u.brand.getD p.brand
      measurement := u.measurement.or p.measurement
      status := u.status.getD p.status
      available := u.available.getD p.available
      createdBy := u.createdBy.getD p.createdBy
      seller := u.seller.or p.seller
      createdAt := u.createdAt.getD p.createdAt
      isDeleted := u.isDeleted.getD p.isDeleted }
  key_apply _ := rfl

/-- `$set: { isDeleted: true }`. -/
def softDelete : Patch Product where
  apply p := { p with isDeleted := true }
  key_apply _ := rfl

/-- `$set: { quantity }`. -/
def setQuantity (quantity : ℚ) : Patch Inventory where
  apply inv := { inv with quantity := quantity }
  key_apply _ := rfl

/-- `$set: { currentPrice }`; an undefined price is ignored. -/
def setCurrentPrice (price : Option Price) : Patch Product where
  apply p := { p with currentPrice := price.getD p.currentPrice }
  key_apply _ := rfl

/-- The write that sets the price of a product; there is none without a price. -/
def priceWrites (id : ObjectId) (price : Option Price) : List (DocWrite Product) :=
  if price = none then [] else [.modify id (setCurrentPrice price)]

/-- `$set` of every snapshot field. -/
def setSnapshot (obj : Snapshot) : Patch Last where
  apply last := { last with toSnapshot := obj }
  key_apply _ := rfl

/-- Writes the handlers issue, inside or outside a session. -/
inductive Command
  /-- `new Product(d).save()`, and likewise for the other collections. -/
  | saveProduct (d : Product)
  | saveInventory (d : Inventory)
  | saveCost (d : Cost)
  | saveSale (d : Sale)
  | saveLast (d : Last)
  /-- `Product.findOneAndUpdate({ _id }, { $set: { currentPrice } })`. -/
  | updateCurrentPrice (id : ObjectId) (price : Option Price)
  /-- `Lasts.findOneAndUpdate({ product }, obj)`. -/
  | updateLast (product : ObjectId) (obj : Snapshot)
  /-- `Inventory.updateOne({ _id }, { $set: { quantity } })`. -/
  | updateQuantity (id : ObjectId) (quantity : ℚ)
  /-- `save()` of a batch that was read and whose `quantity` was assigned, as it is in memory. -/
  | saveQuantity (d : Inventory)
  /-- `save()` of a batch, or of a cost record, with no assigned field. -/
  | touchInventory (d : Inventory)
  | touchCost (d : Cost)
  /-- `Inventory.deleteOne({ _id })` and `Inventory.findByIdAndDelete`. -/
  | deleteInventory (id : ObjectId)
  /-- `Sales.deleteOne({ _id })` and `Sales.findByIdAndDelete`. -/
  | deleteSale (id : ObjectId)
  /-- `Costs.findOneAndDelete({ inventoryId })`. -/
  | deleteCostOf (inventoryId : ObjectId)
  /-- `Product.findOneAndDelete({ _id })`. -/
  | deleteProduct (id : ObjectId)
  /-- `deleteMany({ product })`. -/
  | deleteSales (product : ObjectId)
  | deleteInventories (product : ObjectId)
  | deleteCosts (product : ObjectId)
  | deleteLasts (product : ObjectId)
  /-- `Inventory.findByIdAndUpdate(id, data, { new: true })`. -/
  | updateInventory (id : ObjectId) (data : InventoryUpdate)
  /-- `Costs.findOneAndUpdate({ inventoryId }, data, { new: true })`. -/
  | updateCostOf (inventoryId : ObjectId) (data : CostUpdate)
  /-- `Product.findOneAndUpdate({ _id }, { isDeleted: true, deletedAt })`. -/
  | softDeleteProduct (id : ObjectId)
  /-- `Product.findByIdAndUpdate(id, data, { new: true })`. -/
  | updateProduct (id : ObjectId) (data : ProductUpdate)

/-- What the driver returns: the updated document where a handler uses it. -/
@[reducible] def Command.Result : Command → Type
  | .updateCurrentPrice _ _ => Option Product
  | .updateInventory _ _ => Option Inventory
  | .updateCostOf _ _ => Option Cost
  | .updateProduct _ _ => Option Product
  | _ => Unit

/-- The writes a command amounts to on the contents `s` it sees. A deletion or update by id is
planned even when no document matches: it then has no effect. An update that sets no field is sent
as a `findOne`. -/
def Command.plan : (c : Command) → Store → Except MongoError (Writes × c.Result)
  | .saveProduct d, s =>
      if d.createdBy.valid then
        -- unique indexes on `name` and `sku`
        if s.products.docs.any fun p => p.name = d.name || p.sku = d.sku then .error .duplicateKey
        else .ok ({ products := [.insert d] }, ())
      else .error .validation
  | .saveInventory d, _ =>
      if d.valid then .ok ({ inventories := [.insert d] }, ()) else .error .validation
  | .saveCost d, _ =>
      if d.createdBy.valid then .ok ({ costs := [.insert d] }, ()) else .error .validation
  | .saveSale d, _ =>
      if d.createdBy.valid then .ok ({ sales := [.insert d] }, ()) else .error .validation
  | .saveLast d, _ =>
      if d.valid then .ok ({ lasts := [.insert d] }, ()) else .error .validation
  | .updateCurrentPrice id price, s =>
      .ok ({ products := priceWrites id price },
        (s.products.get? id).map (setCurrentPrice price).apply)
  | .updateLast product obj, s =>
      match (s.lastsOf product).head? with
      | none => .ok ({}, ())
      | some last =>
          if obj.cpq = .nan then .error .cast
          else .ok ({ lasts := [.modify last._id (setSnapshot obj)] }, ())
  | .updateQuantity id q, _ => .ok ({ inventories := [.modify id (setQuantity q)] }, ())
  | .saveQuantity d, s =>
      if d.valid then
        match s.inventories.get? d._id with
        | none => .error .documentNotFound
        | some _ => .ok ({ inventories := [.modify d._id (setQuantity d.quantity)] }, ())
      else .error .validation
  -- `save()` without changes writes nothing, but checks that the document exists
  | .touchInventory d, s =>
      if d.valid then
        match s.inventories.get? d._id with
        | none => .error .documentNotFound
        | some _ => .ok ({}, ())
      else .error .validation
  | .touchCost d, s =>
      if d.createdBy.valid then
        match s.costs.get? d._id with
        | none => .error .documentNotFound
        | some _ => .ok ({}, ())
      else .error .validation
  | .deleteInventory id, _ => .ok ({ inventories := [.delete id] }, ())
  | .deleteSale id, _ => .ok ({ sales := [.delete id] }, ())
  | .deleteCostOf inventoryId, s =>
      match s.costOf inventoryId with
      | none => .ok ({}, ())
      | some cost => .ok ({ costs := [.delete cost._id] }, ())
  | .deleteProduct id, _ => .ok ({ products := [.delete id] }, ())
  | .deleteSales id, s =>
      .ok ({ sales := (s.sales.docs.filter fun d => d.product = id).map (.delete ·._id) }, ())
  | .deleteInventories id, s => .ok ({ inventories := (s.batches id).map (.delete ·._id) }, ())
  | .deleteCosts id, s =>
      .ok ({ costs := (s.costs.docs.filter fun d => d.product = id).map (.delete ·._id) }, ())
  | .deleteLasts id, s => .ok ({ lasts := (s.lastsOf id).map (.delete ·._id) }, ())
  | .updateInventory id data, s => do
      let quantity ← castQuantity data.quantity
      let cpq ← castCpq data.cpq
      let patch := data.patch quantity cpq
      .ok (if data = {} then {} else { inventories := [.modify id patch] },
        (s.inventories.get? id).map patch.apply)
  | .updateCostOf inventoryId data, s =>
      match s.costOf inventoryId with
      | none => .ok ({}, none)
      | some cost => .ok ({ costs := [.modify cost._id data.patch] }, some (data.patch.apply cost))
  | .softDeleteProduct id, _ => .ok ({ products := [.modify id softDelete] }, ())
  | .updateProduct id data, s =>
      match s.products.get? id with
      | none => .ok ({}, none)
      | some p =>
          if data = {} then .ok ({}, some p)
          -- the unique indexes again: no other product may have the new name or number
          else if s.products.docs.any fun q => q._id ≠ id &&
              (q.name = (data.patch.apply p).name || q.sku = (data.patch.apply p).sku) then
            .error .duplicateKey
          else .ok ({ products := [.modify id data.patch] }, some (data.patch.apply p))

/-! ## Plans of the saves that can be refused -/

theorem plan_saveProduct {d : Product} {s : Store} {w : Writes} {r : Unit}
    (h : (Command.saveProduct d).plan s = .ok (w, r)) :
    d.createdBy.valid = true ∧ w = { products := [.insert d] } := by
  simp only [Command.plan] at h
  split at h
  · rename_i hv
    split at h
    · cases h
    · cases h
      exact ⟨hv, rfl⟩
  · cases h

/-- A document is stored only if it passes the schema. -/
theorem plan_saveInventory {d : Inventory} {s : Store} {w : Writes} {r : Unit}
    (h : (Command.saveInventory d).plan s = .ok (w, r)) :
    d.valid = true ∧ w = { inventories := [.insert d] } := by
  simp only [Command.plan] at h
  split at h
  · rename_i hv
    cases h
    exact ⟨hv, rfl⟩
  · cases h

theorem plan_saveCost {d : Cost} {s : Store} {w : Writes} {r : Unit}
    (h : (Command.saveCost d).plan s = .ok (w, r)) :
    d.createdBy.valid = true ∧ w = { costs := [.insert d] } := by
  simp only [Command.plan] at h
  split at h
  · rename_i hv
    cases h
    exact ⟨hv, rfl⟩
  · cases h

theorem plan_saveSale {d : Sale} {s : Store} {w : Writes} {r : Unit}
    (h : (Command.saveSale d).plan s = .ok (w, r)) :
    d.createdBy.valid = true ∧ w = { sales := [.insert d] } := by
  simp only [Command.plan] at h
  split at h
  · rename_i hv
    cases h
    exact ⟨hv, rfl⟩
  · cases h

theorem plan_saveLast {d : Last} {s : Store} {w : Writes} {r : Unit}
    (h : (Command.saveLast d).plan s = .ok (w, r)) :
    d.valid = true ∧ w = { lasts := [.insert d] } := by
  simp only [Command.plan] at h
  split at h
  · rename_i hv
    cases h
    exact ⟨hv, rfl⟩
  · cases h

/-- A batch without a cost record can be deleted all the same. -/
theorem plan_deleteCostOf_of_none {id : ObjectId} {s : Store} (h : s.costOf id = none) :
    (Command.deleteCostOf id).plan s = .ok ({}, ()) := by
  simp only [Command.plan, h]

theorem plan_deleteCostOf_of_some {id : ObjectId} {s : Store} {cost : Cost}
    (h : s.costOf id = some cost) :
    (Command.deleteCostOf id).plan s = .ok ({ costs := [.delete cost._id] }, ()) := by
  simp only [Command.plan, h]

theorem plan_updateCostOf_of_none {id : ObjectId} {s : Store} (data : CostUpdate)
    (h : s.costOf id = none) : (Command.updateCostOf id data).plan s = .ok ({}, none) := by
  simp only [Command.plan, h]

theorem plan_updateCostOf_of_some {id : ObjectId} {s : Store} {cost : Cost} (data : CostUpdate)
    (h : s.costOf id = some cost) :
    (Command.updateCostOf id data).plan s =
      .ok ({ costs := [.modify cost._id data.patch] }, some (data.patch.apply cost)) := by
  simp only [Command.plan, h]

theorem plan_deleteCostOf {id : ObjectId} {s : Store} {w : Writes} {r : Unit}
    (h : (Command.deleteCostOf id).plan s = .ok (w, r)) :
    s.costOf id = none ∧ w = {} ∨
      ∃ cost, s.costOf id = some cost ∧ w = { costs := [.delete cost._id] } := by
  simp only [Command.plan] at h
  cases hc : s.costOf id with
  | none =>
      rw [hc] at h
      cases h
      exact .inl ⟨rfl, rfl⟩
  | some cost =>
      rw [hc] at h
      cases h
      exact .inr ⟨cost, rfl, rfl⟩

/-- An update of a snapshot that is not there does nothing. -/
theorem plan_updateLast {p : ObjectId} {obj : Snapshot} {s : Store} {w : Writes} {r : Unit}
    (h : (Command.updateLast p obj).plan s = .ok (w, r)) :
    (s.lastsOf p).head? = none ∧ w = {} ∨ ∃ last, (s.lastsOf p).head? = some last ∧
      obj.cpq ≠ .nan ∧ w = { lasts := [.modify last._id (setSnapshot obj)] } := by
  simp only [Command.plan] at h
  cases hl : (s.lastsOf p).head? with
  | none =>
      rw [hl] at h
      cases h
      exact .inl ⟨rfl, rfl⟩
  | some last =>
      rw [hl] at h
      dsimp only at h
      split at h
      · cases h
      · rename_i hn
        cases h
        exact .inr ⟨last, rfl, hn, rfl⟩

theorem plan_saveQuantity_of_get {d b : Inventory} {s : Store} (hv : d.valid = true)
    (h : s.inventories.get? d._id = some b) :
    (Command.saveQuantity d).plan s =
      .ok ({ inventories := [.modify d._id (setQuantity d.quantity)] }, ()) := by
  simp only [Command.plan, hv, h, if_true]

/-- A batch that was read can be saved while it exists and passes the schema. -/
theorem plan_saveQuantity {d : Inventory} {s : Store} {w : Writes} {r : Unit}
    (h : (Command.saveQuantity d).plan s = .ok (w, r)) :
    d.valid = true ∧ w = { inventories := [.modify d._id (setQuantity d.quantity)] } := by
  simp only [Command.plan] at h
  split at h
  · rename_i hv
    split at h
    · cases h
    · cases h
      exact ⟨hv, rfl⟩
  · cases h

/-! ## Updates without a field to set -/

/-- Whether or not it is sent, the update leaves the products as the patch does. -/
@[simp] theorem writeAll_priceWrites (c : Collection Product) (id : ObjectId)
    (price : Option Price) :
    c.writeAll (priceWrites id price) = c.modify id (setCurrentPrice price) := by
  cases price with
  | some price => rfl
  | none =>
      refine Collection.ext ?_
      simp [priceWrites, setCurrentPrice]

/-- The store after the purchase of a further batch. -/
theorem Store.apply_restocked (s : Store) (id : ObjectId) (price : Option Price) (batch : Inventory)
    (cost : Cost) :
    s.apply { products := priceWrites id price, inventories := [.insert batch]
              costs := [.insert cost] } =
      { s with products := s.products.modify id (setCurrentPrice price)
               inventories := s.inventories.insert batch, costs := s.costs.insert cost } := by
  rw [Store.apply, writeAll_priceWrites]
  rfl

@[simp] theorem acceptsAll_priceWrites (c : Collection Product) (id : ObjectId)
    (price : Option Price) : c.acceptsAll (priceWrites id price) = true := by
  unfold priceWrites
  split <;> rfl

/-- The update of a batch succeeds when its numbers can be cast. -/
theorem plan_updateInventory_of_cast {id : ObjectId} {data : InventoryUpdate} {s : Store}
    {q : Option ℚ} {cpq : Option JsNumber} (hq : castQuantity data.quantity = .ok q)
    (hc : castCpq data.cpq = .ok cpq) :
    (Command.updateInventory id data).plan s =
      .ok (if data = {} then {} else { inventories := [.modify id (data.patch q cpq)] },
        (s.inventories.get? id).map (data.patch q cpq).apply) := by
  simp only [Command.plan, hq, hc]
  rfl

/-- An update that sets no field leaves the store as its patch would. -/
theorem apply_updateInventory {data : InventoryUpdate} {q : Option ℚ} {cpq : Option JsNumber}
    (hq : castQuantity data.quantity = .ok q) (hc : castCpq data.cpq = .ok cpq) (s : Store)
    (id : ObjectId) :
    s.apply (if data = {} then {} else { inventories := [.modify id (data.patch q cpq)] }) =
      s.apply { inventories := [.modify id (data.patch q cpq)] } := by
  split
  · rename_i hdata
    subst hdata
    cases hq
    cases hc
    have hsame : s.inventories.modify id (InventoryUpdate.patch {} none none) = s.inventories :=
      Collection.ext (by simp [InventoryUpdate.patch])
    simp [Store.apply, hsame]
  · rfl

end InventoryHero.Model
