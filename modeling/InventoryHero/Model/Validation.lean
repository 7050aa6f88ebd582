import InventoryHero.Model.Documents

/-!
# Request bodies and their validation

`validations/product.validation.js`. A body is what a client sends: every field may be absent. A
validator checks the keys in the order of its schema and reports the first failure with the text
Joi gives it; on success it returns the body with the required fields present.

Bodies are typed: keys the schema does not list and values of another type, which Joi rejects, are
not representable, and a numeric string is taken as the number it stands for.
-/

set_option autoImplicit false

namespace InventoryHero.Model

namespace Joi

/-- `.required()`. -/
def required {α : Type} (label : String) : Option α → Except String α
  | some a => .ok a
  | none => .error ("\"" ++ label ++ "\" is required")

/-- `Number.MAX_SAFE_INTEGER`. -/
def maxSafe : ℚ := 9007199254740991

/-- `Joi.number()`. -/
def number (label : String) (x : ℚ) : Except String ℚ :=
  if maxSafe < x ∨ x < -maxSafe then .error ("\"" ++ label ++ "\" must be a safe number")
  else .ok x

/-- `Joi.string()`. -/
def string (label : String) (s : String) : Except String String :=
  if s = "" then .error ("\"" ++ label ++ "\" is not allowed to be empty") else .ok s

/-- `Joi.number().required()`. -/
def requiredNumber (label : String) (x : Option ℚ) : Except String ℚ := do
  number label (← required label x)

/-- `Joi.string().required()`. -/
def requiredString (label : String) (s : Option String) : Except String String := do
  string label (← required label s)

/-- `.optional()`: an absent value is not checked. -/
def optional {α β : Type} (check : α → Except String β) : Option α → Except String (Option β)
  | none => .ok none
  | some a => do return some (← check a)

end Joi

/-- `price` as sent. -/
structure PriceBody where
  bulkPrice : Option ℚ
  piecesPrice : Option ℚ

/-- `Joi.object({ bulkPrice, piecesPrice })`. -/
def validatePrice (data : PriceBody) : Except String Price := do
  let bulkPrice ← Joi.requiredNumber "price.bulkPrice" data.bulkPrice
  let piecesPrice ← Joi.requiredNumber "price.piecesPrice" data.piecesPrice
  return ⟨bulkPrice, piecesPrice⟩

/-- The items of `Joi.array().items(Image)`, from index `i` on. -/
def validateImages : Nat → List Image → Except String (List Image)
  | _, [] => .ok []
  | i, image :: rest => do
      let path := "image[" ++ toString i ++ "]."
      let url ← Joi.requiredString (path ++ "url") image.url
      let type ← Joi.requiredString (path ++ "type") image.type
      let cloudId ← Joi.requiredString (path ++ "cloudId") image.cloudId
      let images ← validateImages (i + 1) rest
      return ⟨some url, some type, some cloudId⟩ :: images

/-- Body of `addProduct`. -/
structure ProductBody where
  name : Option String
  description : Option String
  category : Option String
  image : Option (List Image)
  sku : Option String
  expiryDate : Option Date
  upb : Option ℚ
  measurement : Option String
  brand : Option String
  transactionDate : Option Date
  quantity : Option ℚ
  available : Option Bool
  status : Option String
  batch : Option ℚ
  costPrice : Option ℚ
  price : Option PriceBody

/-- A body that `validateProduct` accepts. -/
structure ProductData where
  name : String
  description : Option String
  category : Option String
  image : List Image
  sku : String
  expiryDate : Date
  upb : ℚ
  measurement : Option String
  brand : Option String
  transactionDate : Option Date
  quantity : ℚ
  available : Bool
  status : String
  batch : ℚ
  costPrice : ℚ
  price : Option Price

def validateProduct (data : ProductBody) : Except String ProductData := do
  let name ← Joi.requiredString "name" data.name
  let description ← Joi.optional (Joi.string "description") data.description
  let category ← Joi.optional (Joi.string "category") data.category
  let image ← Joi.optional (validateImages 0) data.image
  let sku ← Joi.requiredString "sku" data.sku
  let expiryDate ← Joi.required "expiryDate" data.expiryDate
  let upb ← Joi.requiredNumber "upb" data.upb
  let measurement ← Joi.optional (Joi.string "measurement") data.measurement
  let brand ← Joi.optional (Joi.string "brand") data.brand
  let quantity ← Joi.requiredNumber "quantity" data.quantity
  let available ← Joi.required "available" data.available
  let status ← Joi.requiredString "status" data.status
  let batch ← Joi.requiredNumber "batch" data.batch
  let costPrice ← Joi.requiredNumber "costPrice" data.costPrice
  let price ← Joi.optional validatePrice data.price
  return { name, description, category, image := image.getD [], sku, expiryDate, upb, measurement,
           brand, transactionDate := data.transactionDate, quantity, available, status, batch,
           costPrice, price }

/-- Body of `addInventory`. -/
structure InventoryBody where
  batch : Option ℚ
  expiryDate : Option Date
  quantity : Option ℚ
  costPrice : Option ℚ
  transactionDate : Option Date
  price : Option PriceBody

/-- A body that `validateInventory` accepts. -/
structure InventoryData where
  batch : ℚ
  expiryDate : Date
  quantity : ℚ
  costPrice : ℚ
  transactionDate : Option Date
  price : Option Price

def validateInventory (data : InventoryBody) : Except String InventoryData := do
  let batch ← Joi.requiredNumber "batch" data.batch
  let expiryDate ← Joi.required "expiryDate" data.expiryDate
  let quantity ← Joi.requiredNumber "quantity" data.quantity
  let costPrice ← Joi.requiredNumber "costPrice" data.costPrice
  let price ← Joi.optional validatePrice data.price
  return { batch, expiryDate, quantity, costPrice, transactionDate := data.transactionDate, price }

/-- Body of `recordSales`. -/
structure SalesBody where
  quantity : Option ℚ
  packages : Option String
  cost : Option ℚ
  ppu : Option ℚ
  date : Option Date
  name : Option String
  id : Option String

/-- A body that `validateSales` accepts; `name` and `id` are not used afterwards. -/
structure SalesInput where
  quantity : ℚ
  packages : String
  cost : ℚ
  ppu : ℚ
  date : Date

def validateSales (data : SalesBody) : Except String SalesInput := do
  let quantity ← Joi.requiredNumber "quantity" data.quantity
  let packages ← Joi.requiredString "packages" data.packages
  let cost ← Joi.requiredNumber "cost" data.cost
  let ppu ← Joi.requiredNumber "ppu" data.ppu
  let date ← Joi.required "date" data.date
  let _ ← Joi.optional (Joi.string "name") data.name
  let _ ← Joi.optional (Joi.string "id") data.id
  return { quantity, packages, cost, ppu, date }

/-- Body of `editInventory`, which is passed to the update without validation: any field of the
batch schema, and `transactionDate`. -/
structure EditBody where
  quantity : Option ℚ
  costPrice : Option ℚ
  price : Option Price
  batch : Option ℚ
  expiryDate : Option Date
  transactionDate : Option Date
  initialQuantity : Option ℚ
  cpq : Option ℚ
  product : Option ObjectId
  createdBy : Option Person
  createdAt : Option Date
  isDeleted : Option Bool

/-! ## What the validators let through -/

theorem Joi.requiredNumber_ok {label : String} {x : Option ℚ} {q : ℚ}
    (h : Joi.requiredNumber label x = .ok q) : x = some q := by
  cases x with
  | none => cases h
  | some a =>
      change Joi.number label a = .ok q at h
      unfold Joi.number at h
      split at h
      · cases h
      · cases h
        rfl

/-- An accepted value went through every check before it. -/
theorem bind_ok {ε α β : Type} {x : Except ε α} {f : α → Except ε β} {b : β}
    (h : (x >>= f) = .ok b) : ∃ a, x = .ok a ∧ f a = .ok b := by
  cases x with
  | error e => cases h
  | ok a => exact ⟨a, rfl, h⟩

theorem validateProduct_ok {body : ProductBody} {data : ProductData}
    (h : validateProduct body = .ok data) :
    body.quantity = some data.quantity ∧ body.upb = some data.upb ∧
      body.costPrice = some data.costPrice := by
  unfold validateProduct at h
  obtain ⟨name, -, h⟩ := bind_ok h
  obtain ⟨description, -, h⟩ := bind_ok h
  obtain ⟨category, -, h⟩ := bind_ok h
  obtain ⟨image, -, h⟩ := bind_ok h
  obtain ⟨sku, -, h⟩ := bind_ok h
  obtain ⟨expiryDate, -, h⟩ := bind_ok h
  obtain ⟨upb, hupb, h⟩ := bind_ok h
  obtain ⟨measurement, -, h⟩ := bind_ok h
  obtain ⟨brand, -, h⟩ := bind_ok h
  obtain ⟨quantity, hq, h⟩ := bind_ok h
  obtain ⟨available, -, h⟩ := bind_ok h
  obtain ⟨status, -, h⟩ := bind_ok h
  obtain ⟨batch, -, h⟩ := bind_ok h
  obtain ⟨costPrice, hcost, h⟩ := bind_ok h
  obtain ⟨price, -, h⟩ := bind_ok h
  cases h
  exact ⟨Joi.requiredNumber_ok hq, Joi.requiredNumber_ok hupb, Joi.requiredNumber_ok hcost⟩

theorem validateInventory_ok {body : InventoryBody} {data : InventoryData}
    (h : validateInventory body = .ok data) :
    body.quantity = some data.quantity ∧ body.costPrice = some data.costPrice := by
  unfold validateInventory at h
  obtain ⟨batch, -, h⟩ := bind_ok h
  obtain ⟨expiryDate, -, h⟩ := bind_ok h
  obtain ⟨quantity, hq, h⟩ := bind_ok h
  obtain ⟨costPrice, hcost, h⟩ := bind_ok h
  obtain ⟨price, -, h⟩ := bind_ok h
  cases h
  exact ⟨Joi.requiredNumber_ok hq, Joi.requiredNumber_ok hcost⟩

theorem validateSales_ok {body : SalesBody} {data : SalesInput}
    (h : validateSales body = .ok data) : body.quantity = some data.quantity := by
  unfold validateSales at h
  obtain ⟨quantity, hq, h⟩ := bind_ok h
  obtain ⟨packages, -, h⟩ := bind_ok h
  obtain ⟨cost, -, h⟩ := bind_ok h
  obtain ⟨ppu, -, h⟩ := bind_ok h
  obtain ⟨date, -, h⟩ := bind_ok h
  obtain ⟨name, -, h⟩ := bind_ok h
  obtain ⟨id, -, h⟩ := bind_ok h
  cases h
  exact Joi.requiredNumber_ok hq

end InventoryHero.Model
