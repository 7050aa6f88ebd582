import InventoryHero.Storage.Collection
import Mathlib.Algebra.Order.Ring.Rat

/-!
# Documents of the inventory database

The six collections the product controller uses, with the fields its handlers read or write
(`database/models/*.js`). Amounts are exact rationals. The one stored number that can fail to be
finite is `cpq`, a quotient taken without a check of the divisor, so it is a `JsNumber`.

Of the `isDeleted` flags only those of products and batches are kept: no handler writes the flag of
a sale, a cost record or a snapshot, so their `pre('find')` filters never remove anything. The
`product` reference of a stored document is taken to be present.

`save()` runs the validators of the schema on the whole document, also on fields that have not
changed; updates run none. Of the fields kept here, `createdBy.firstName` is the required string
that can be empty, which counts as missing (`Person.valid`), and `cpq` the required number that can
fail to be one (`Snapshot.valid`).
-/

set_option autoImplicit false

namespace InventoryHero.Model

open Storage

/-- Document identifiers, `mongoose.Types.ObjectId`. -/
abbrev ObjectId := Nat

/-- Instants in milliseconds. `moment(d).tz(zone).toDate()` is the instant `d` again: the zone only
affects how it is displayed. -/
abbrev Date := Int

/-- JavaScript numbers without rounding and without overflow: a quotient of two finite numbers that
a double cannot hold is still finite here. -/
inductive JsNumber
  | fin (q : ℚ)
  | posInf
  | negInf
  | nan
  deriving DecidableEq, Repr

namespace JsNumber

/-- `a / b`. -/
def div (a b : ℚ) : JsNumber :=
  if b ≠ 0 then fin (a / b)
  else if 0 < a then posInf
  else if a < 0 then negInf
  else nan

/-- `0` and `NaN` are falsy. -/
def truthy : JsNumber → Bool
  | fin q => q ≠ 0
  | posInf => true
  | negInf => true
  | nan => false

theorem div_of_ne {a b : ℚ} (h : b ≠ 0) : div a b = fin (a / b) := if_pos h

end JsNumber

/-- `enum: ['user', 'admin', 'super admin']`. -/
inductive Role
  | user
  | admin
  | superAdmin
  deriving DecidableEq, Repr

/-- `createdBy`. -/
structure Person where
  firstName : String
  lastName : String
  deriving DecidableEq, Repr

/-- `firstName: { type: String, required: true }`. A name that is `null`, as a profile update can
leave it, is represented by the empty string: both fail. -/
def Person.valid (p : Person) : Bool := p.firstName ≠ ""

theorem Person.valid_iff {p : Person} : p.valid = true ↔ p.firstName ≠ "" := decide_eq_true_iff

/-- `price` and `currentPrice`. -/
structure Price where
  bulkPrice : ℚ
  piecesPrice : ℚ
  deriving DecidableEq, Repr

/-- The schema default of both price fields. -/
def Price.default : Price := ⟨0, 0⟩

/-- `enum: ['pending', 'verified', 'rejected']`. -/
inductive Status
  | pending
  | verified
  | rejected
  deriving DecidableEq, Repr

/-- The status a string names; any other string fails the schema's `enum` validator. -/
def Status.ofString? (s : String) : Option Status :=
  if s = "pending" then some .pending
  else if s = "verified" then some .verified
  else if s = "rejected" then some .rejected
  else none

/-- An entry of `image`. -/
structure Image where
  url : Option String
  type : Option String
  cloudId : Option String
  deriving DecidableEq, Repr

/-- `database/models/users.js`. -/
structure User where
  _id : ObjectId
  firstName : String
  lastName : String
  role : Role
  deriving DecidableEq, Repr

/-- `database/models/products.js`. -/
structure Product where
  _id : ObjectId
  name : String
  description : String
  category : Option String
  sku : String
  currentPrice : Price
  upb : ℚ
  image : List Image
  brand : String
  measurement : Option String
  status : Status
  available : Bool
  createdBy : Person
  seller : Option ObjectId
  createdAt : Date
  isDeleted : Bool
  deriving DecidableEq, Repr

/-- `database/models/inventory.js`: one batch of a product. -/
structure Inventory where
  _id : ObjectId
  product : ObjectId
  price : Price
  costPrice : ℚ
  quantity : ℚ
  initialQuantity : ℚ
  cpq : JsNumber
  batch : ℚ
  expiryDate : Date
  createdBy : Person
  createdAt : Date
  isDeleted : Bool
  deriving DecidableEq, Repr

/-- The part of a sale that `recordSales` computes and answers with. -/
structure SalesData where
  bQuantity : ℚ
  aQuantity : ℚ
  packages : String
  ppu : ℚ
  quantity : ℚ
  cost : ℚ
  createdBy : Person
  deriving DecidableEq, Repr

/-- `database/models/sales.js`. -/
structure Sale extends SalesData where
  _id : ObjectId
  product : ObjectId
  createdAt : Date
  deriving DecidableEq, Repr

/-- `database/models/costs.js`: the purchase record of a batch. -/
structure Cost where
  _id : ObjectId
  product : ObjectId
  quantity : ℚ
  cost : ℚ
  inventoryId : ObjectId
  createdBy : Person
  createdAt : Date
  deriving DecidableEq, Repr

/-- The fields that are copied from a batch to `lasts` and back. -/
structure Snapshot where
  price : Price
  createdBy : Person
  costPrice : ℚ
  cpq : JsNumber
  batch : ℚ
  expiryDate : Date
  product : ObjectId
  createdAt : Date
  deriving DecidableEq, Repr

/-- `database/models/lasts.js`: what is kept of a product's last batch. -/
structure Last extends Snapshot where
  _id : ObjectId
  deriving DecidableEq, Repr

instance : Keyed User ObjectId := ⟨User._id⟩
instance : Keyed Product ObjectId := ⟨Product._id⟩
instance : Keyed Inventory ObjectId := ⟨Inventory._id⟩
instance : Keyed Sale ObjectId := ⟨Sale._id⟩
instance : Keyed Cost ObjectId := ⟨Cost._id⟩
instance : Keyed Last ObjectId := ⟨Last._id⟩

@[simp] theorem key_product (d : Product) : Keyed.key d = d._id := rfl
@[simp] theorem key_inventory (d : Inventory) : Keyed.key d = d._id := rfl
@[simp] theorem key_sale (d : Sale) : Keyed.key d = d._id := rfl
@[simp] theorem key_cost (d : Cost) : Keyed.key d = d._id := rfl
@[simp] theorem key_last (d : Last) : Keyed.key d = d._id := rfl

/-- The snapshot of a batch. -/
def Inventory.snapshot (inv : Inventory) : Snapshot where
  price := inv.price
  createdBy := inv.createdBy
  costPrice := inv.costPrice
  cpq := inv.cpq
  batch := inv.batch
  expiryDate := inv.expiryDate
  product := inv.product
  createdAt := inv.createdAt

/-- What `save()` checks of a snapshot. -/
def Snapshot.valid (s : Snapshot) : Bool := s.createdBy.valid && s.cpq ≠ .nan

/-- What `save()` checks of a batch: the required fields are those of a snapshot. -/
def Inventory.valid (inv : Inventory) : Bool := inv.snapshot.valid

theorem Snapshot.valid_iff {s : Snapshot} :
    s.valid = true ↔ s.createdBy.valid = true ∧ s.cpq ≠ .nan := by
  simp [valid]

theorem Inventory.valid_iff {inv : Inventory} :
    inv.valid = true ↔ inv.createdBy.valid = true ∧ inv.cpq ≠ .nan := Snapshot.valid_iff

/-- The batch `new Inventory(newObj)` builds from a snapshot and a quantity. The snapshot has no
`initialQuantity`, so the schema default `0` is stored. -/
def Snapshot.toInventory (s : Snapshot) (_id : ObjectId) (quantity : ℚ) : Inventory where
  _id := _id
  product := s.product
  price := s.price
  costPrice := s.costPrice
  quantity := quantity
  initialQuantity := 0
  cpq := s.cpq
  batch := s.batch
  expiryDate := s.expiryDate
  createdBy := s.createdBy
  createdAt := s.createdAt
  isDeleted := false

@[simp] theorem valid_with_quantity (inv : Inventory) (quantity : ℚ) :
    Inventory.valid { inv with quantity := quantity } = inv.valid := rfl

end InventoryHero.Model
