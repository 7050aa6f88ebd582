import InventoryHero.Model.Session

/-!
# The product controller

The handlers of `controller/product.controller.js` that change batches, sales and purchase records,
statement by statement. Reads carry no session in the source, so they are plain `read`s here;
writes are `inSession` where the source passes the session and `direct` where it does not.

Every handler has the shape `try { session.startTransaction(); … } catch (err) { await
session.abortTransaction(); … } finally { session.endSession() }` (`withTransaction`). Ending a
session discards an open transaction, which has no effect on the committed store, so `endSession`
is not a step of its own.
-/

set_option autoImplicit false

namespace InventoryHero.Model

open Interaction

/-- `req.user`: the claims of the caller's token. -/
structure Caller where
  _id : ObjectId
  role : Role
  deriving DecidableEq, Repr

def withTransaction (body : Js Unit) (onError : JsError → Js Unit) : Js Unit :=
  Prog.tryCatch (startTransaction >>= fun _ => body) fun e =>
    abortTransaction >>= fun _ => onError e

/-- A property of the value is read next: `null` and `undefined` throw. -/
def orTypeError {α : Type} : Option α → Js α
  | some a => .done a
  | none => .fail .typeError

@[simp] theorem orTypeError_some {β : Type} (b : β) : orTypeError (some b) = (.done b : Js β) := rfl

def notAuthorized : Response := .text 404 "You are not authorized to perform this action"

def productNotFound : Response := .text 404 "product not found"

def internalServerError : Response := ⟨500, .json "error" "Internal Server Error"⟩

/-- `{ firstName: user.firstName, lastName: user.lastName }`. -/
def User.createdBy (user : User) : Person := ⟨user.firstName, user.lastName⟩

/-! ## Adding products and batches -/

/-- White space and line terminators, as `String.prototype.trim` removes them. -/
def isTrimmed (c : Char) : Bool :=
  c.toNat ∈ [0x9, 0xa, 0xb, 0xc, 0xd, 0x20, 0xa0, 0x1680, 0x2028, 0x2029, 0x202f, 0x205f, 0x3000,
    0xfeff] || (0x2000 ≤ c.toNat && c.toNat ≤ 0x200a)

/-- `if (!s || s.trim() === '') s = 'N/A'`. -/
def orNotAvailable : Option String → String
  | none => "N/A"
  | some s => if s.toList.all isTrimmed then "N/A" else s

/-- The batch that `addProduct` and `addInventory` store. -/
def newBatch (_id product : ObjectId) (quantity costPrice batch : ℚ) (price : Option Price)
    (expiryDate : Date) (createdBy : Person) (createdAt : Date) : Inventory where
  _id := _id
  product := product
  price := price.getD Price.default
  costPrice := costPrice
  quantity := quantity
  initialQuantity := quantity
  cpq := .div costPrice quantity
  batch := batch
  expiryDate := expiryDate
  createdBy := createdBy
  createdAt := createdAt
  isDeleted := false

/-- `new Product(productData)`. -/
def ProductData.toProduct (data : ProductData) (_id : ObjectId) (status : Status)
    (createdBy : Person) (createdAt : Date) : Product where
  _id := _id
  name := data.name
  description := data.description.getD "N/A"
  category := data.category
  sku := data.sku
  currentPrice := data.price.getD Price.default
  upb := data.upb
  image := data.image
  brand := data.brand.getD "N/A"
  measurement := data.measurement
  status := status
  available := data.available
  createdBy := createdBy
  seller := none
  createdAt := createdAt
  isDeleted := false

/-- Body of `addProduct` after the caller's account was found. -/
def addProductFor (user : User) (body : ProductBody) : Js Unit := do
  let today ← now
  -- an empty brand or description is replaced before validation
  let data ← orThrow (JsError.exception · 400) (validateProduct
    { body with
      brand := orNotAvailable body.brand, description := orNotAvailable body.description })
  let createdAt := data.transactionDate.getD today
  let productId ← newId
  -- the schema, not the validator, restricts `status`: an unknown one fails the save
  let status ← orThrow .mongo ((Status.ofString? data.status).elim (.error .validation) .ok)
  let productInstance := data.toProduct productId status user.createdBy createdAt
  inSession (.saveProduct productInstance)
  let inventoryId ← newId
  let inventoryInstance := newBatch inventoryId productId data.quantity data.costPrice data.batch
    data.price data.expiryDate user.createdBy createdAt
  inSession (.saveInventory inventoryInstance)
  let costId ← newId
  inSession (.saveCost
    { _id := costId, product := productId, quantity := data.quantity, cost := data.costPrice
      inventoryId := inventoryId, createdBy := user.createdBy, createdAt := createdAt })
  commitTransaction
  send (Msg (.added productInstance inventoryInstance) (.str "Product added to the inventory") 201)

def addProduct (body : ProductBody) (caller : Caller) : Js Unit :=
  withTransaction
    (read (.user caller._id) >>= fun user =>
      match user with
      | none => send notAuthorized
      | some user => addProductFor user body)
    (fun error =>
      if error.name = "MongoError" ∧ error.code = some 11000 then
        send (.text 400 "Duplicate key error: The SKU/Name already exists.")
      else send (.next error))

/-- Body of `addInventory` after the caller's account was found. -/
def addInventoryFor (user : User) (id : ObjectId) (body : InventoryBody) : Js Unit := do
  let today ← now
  let createdAt := body.transactionDate.getD today
  let data ← orThrow (JsError.exception · 400) (validateInventory body)
  let product ← read (.product id)
  match product with
  | none => send productNotFound
  | some _ => do
      -- the update ignores `isDeleted`, and returns the document with the new price
      let updatedProduct ← inSession (.updateCurrentPrice id data.price)
      let updatedProduct ← orTypeError updatedProduct
      let inventoryId ← newId
      let inventoryInstance := newBatch inventoryId updatedProduct._id data.quantity data.costPrice
        data.batch data.price data.expiryDate user.createdBy createdAt
      inSession (.saveInventory inventoryInstance)
      let costId ← newId
      inSession (.saveCost
        { _id := costId, product := updatedProduct._id, quantity := data.quantity
          cost := data.costPrice, inventoryId := inventoryId, createdBy := user.createdBy
          createdAt := createdAt })
      commitTransaction
      send ⟨200, .inventory inventoryInstance updatedProduct⟩

def addInventory (id : ObjectId) (body : InventoryBody) (caller : Caller) : Js Unit :=
  withTransaction
    (read (.user caller._id) >>= fun user =>
      match user with
      | none => send notAuthorized
      | some user => addInventoryFor user id body)
    (fun _ => send (.text 500 "internal server error"))

/-! ## Recording a sale -/

/-- The pieces a sale takes: `data.quantity`, or `data.quantity * product.upb` in bulk. -/
def SalesInput.pieces (data : SalesInput) (product : Product) : ℚ :=
  if data.packages = "bulks" then data.quantity * product.upb else data.quantity

/-- `inventory.map((inv) => inv.quantity).reduce((item, acc) => item + acc, 0)`. -/
def quantitySum (inventory : List Inventory) : ℚ :=
  (inventory.map Inventory.quantity).foldl (· + ·) 0

/-- The snapshot taken when a batch is emptied: only if the product has exactly one batch according
to a read without the session, which does not see the deletions of this transaction. Errors of the
two writes are logged and ignored. -/
def snapshotLast (product : ObjectId) : Js Unit := do
  let inventoryInstance ← read (.inventories product)
  -- batches deleted earlier in this loop still count here
  match inventoryInstance with
  | [firstObject] => do
      let foundLast ← read (.last firstObject.product)
      match foundLast with
      | some _ =>
          (inSession (.updateLast firstObject.product firstObject.snapshot)).tryCatch
            fun _ => pure ()
      | none => do
          let lastId ← newId
          (inSession (.saveLast { firstObject.snapshot with _id := lastId })).tryCatch
            fun _ => pure ()
  | _ => pure ()

/-- `Msg(res, 'The inventory is empty', 401)`: the number lands in `message`. -/
def inventoryEmpty : Response := Msg (.text "The inventory is empty") (.num (.fin 401)) 200

/-- The draw loop, with `temporaryQuantity` pieces left to take. It returns the in-memory batches,
whose quantities the loop has updated. -/
def drawLoop (temporaryQuantity : ℚ) : List Inventory → Js (List Inventory)
  | [] => pure []
  | element :: rest =>
      if 0 < element.quantity then
        if element.quantity ≤ temporaryQuantity then do
          -- used up: the batch is deleted and the loop goes on
          snapshotLast element.product
          inSession (.deleteInventory element._id)
          let rest' ← drawLoop (temporaryQuantity - element.quantity) rest
          pure ({ element with quantity := 0 } :: rest')
        else do
          -- the rest comes from this batch, and the loop breaks
          let quantity := element.quantity - temporaryQuantity
          inSession (.updateQuantity element._id quantity)
          pure ({ element with quantity := quantity } :: rest)
      else do
        -- a batch without pieces is answered at once, but the loop goes on
        send inventoryEmpty
        let rest' ← drawLoop temporaryQuantity rest
        pure (element :: rest')

def outOfStock : Response :=
  .text 400 ("The product you're attempting to sell is currently out of stock, " ++
    "kindly check the inventory level and restock.")

def quantityExceeded (itemInBulk : JsNumber) (allInventoryQuantity : ℚ) : Response :=
  ⟨400, .text
    [.str
        ("The quantity you are trying to sell exceeds the available quantity in the inventory. " ++
          "you have "),
      .num itemInBulk, .str " quantities in bulk and  ", .num (.fin allInventoryQuantity),
      .str " quantities in pieces, please check the inventory and try again."]⟩

/-- The part of `recordSales` from the draw loop on. -/
def sellFrom (user : User) (id : ObjectId) (data : SalesInput) (pieces : ℚ)
    (inventory : List Inventory) : Js Unit := do
  let inventory' ← drawLoop pieces inventory
  -- `bQuantity` was computed before the loop, `aQuantity` from the updated documents
  let salesData : SalesData :=
    { bQuantity := quantitySum inventory, aQuantity := quantitySum inventory'
      packages := data.packages, ppu := data.ppu, quantity := pieces, cost := data.cost
      createdBy := user.createdBy }
  let saleId ← newId
  inSession (.saveSale { salesData with _id := saleId, product := id, createdAt := data.date })
  commitTransaction
  send (Msg (.sale salesData) (.str "sales recorded sucessfully") 201)

/-- Body of `recordSales` after the caller's account was found. -/
def recordSalesFor (user : User) (id : ObjectId) (body : SalesBody) : Js Unit := do
  let product ← read (.product id)
  match product with
  | none => send productNotFound
  | some product => do
      let data ← orThrow (JsError.exception · 400) (validateSales body)
      let pieces := data.pieces product
      let populatedProduct ← read (.stock id)
      -- `populatedProduct[0].inventoryData`
      let populatedProduct ← orTypeError populatedProduct.head?
      let inventory := populatedProduct.inventoryData
      if inventory.length = 0 then do
        abortTransaction
        send outOfStock
      else if quantitySum inventory < pieces then do
        abortTransaction
        send (quantityExceeded (.div (quantitySum inventory) product.upb) (quantitySum inventory))
      else sellFrom user id data pieces inventory

/-- The catch block logs the error and sends nothing. -/
def recordSales (id : ObjectId) (body : SalesBody) (caller : Caller) : Js Unit :=
  withTransaction
    (read (.user caller._id) >>= fun user =>
      match user with
      | none => send notAuthorized
      | some user => recordSalesFor user id body)
    (fun _ => pure ())

/-! ## Reversing sales -/

/-- The write that gives the units of a reversed sale back: to the first live batch or, without
one, to a batch rebuilt from the snapshot. An empty `LastInvArrays` is truthy in the source, and its
first element is `undefined`. -/
def restock (prd : ObjectId) (sale : Option Sale) : List Inventory → Js Unit
  | [] => do
      let LastInvArrays ← read (.lasts prd)
      let firstObject ← orTypeError LastInvArrays.head?
      let sale ← orTypeError sale
      let createdId ← newId
      inSession (.saveInventory (firstObject.toInventory createdId sale.quantity))
  | firstInv :: _ => do
      let sale ← orTypeError sale
      inSession (.saveQuantity { firstInv with quantity := firstInv.quantity + sale.quantity })

def recordDeleted : Response := ⟨200, .json "message" "record deleted sucessfully"⟩

/-- Body of the `try` of `deleteSalesRecord`. -/
def reverseSale (id prd : ObjectId) : Js Unit := do
  let sale ← read (.sale id)
  let inventories ← read (.inventories prd)
  restock prd sale inventories
  inSession (.deleteSale id)
  commitTransaction
  send recordDeleted

def deleteSalesRecord (id prd : ObjectId) (caller : Caller) : Js Unit := do
  let user ← read (.user caller._id)
  -- the role comes from the token, not from the stored account
  if caller.role ≠ .admin ∨ user.isNone then send notAuthorized
  else withTransaction (reverseSale id prd) fun _ => send internalServerError

/-- `Inventories.find(inv => inv.product.equals(product))`, then `quantity += amount` on the
document found, which stays in the list. -/
def creditFirst (product : ObjectId) (amount : ℚ) :
    List Inventory → Option (Inventory × List Inventory)
  | [] => none
  | inv :: rest =>
      if inv.product = product then
        some ({ inv with quantity := inv.quantity + amount },
          { inv with quantity := inv.quantity + amount } :: rest)
      else (creditFirst product amount rest).map fun r => (r.1, inv :: r.2)

def noMatchingInventory : Response :=
  ⟨400, .json "message" "No matching inventory. Transaction aborted."⟩

def allSalesDeleted : Response := ⟨200, .json "message" "All sales deleted successfully"⟩

/-- The loop of `deleteAllSales` and what follows it; `Inventories` are the shared in-memory
batches. -/
def reverseLoop : List Sale → List Inventory → Js Unit
  | [], _ => do
      commitTransaction
      send allSalesDeleted
  | sale :: rest, Inventories =>
      match creditFirst sale.product sale.quantity Inventories with
      | some (foundInventory, Inventories') => do
          -- later rounds find the updated document in `Inventories`
          inSession (.saveQuantity foundInventory)
          inSession (.deleteSale sale._id)
          reverseLoop rest Inventories'
      | none => do
          abortTransaction
          send noMatchingInventory

/-- No account is looked up. -/
def deleteAllSales : Js Unit :=
  withTransaction
    (read .allSales >>= fun sales => read .allInventories >>= fun Inventories =>
      reverseLoop sales Inventories)
    (fun _ => send internalServerError)

/-! ## Deleting products and batches -/

/-- The calls to `cloudinary.uploader.destroy`. -/
def destroyAll : List (Option String) → Js Unit
  | [] => pure ()
  | element :: rest => do
      destroy element
      destroyAll rest

/-- `image.map((item) => item.cloudId || undefined)`. -/
def Product.cloudId (product : Product) : List (Option String) :=
  product.image.map fun item => item.cloudId.filter fun s => s ≠ ""

/-- Body of `userDeleteProduct` after the product was found. -/
def deleteProductDocs (id : ObjectId) (item : Product) : Js Unit := do
  inSession (.deleteSales id)
  inSession (.deleteInventories id)
  inSession (.deleteCosts id)
  inSession (.deleteLasts id)
  inSession (.deleteProduct id)
  -- every entry is passed on, the undefined ones too, as soon as one is defined
  if (item.cloudId.filter Option.isSome).length ≠ 0 then destroyAll item.cloudId
  commitTransaction
  send (Msg (.field "product" "product deleted") requestSuccessful 200)

def userDeleteProduct (id : ObjectId) : Js Unit :=
  withTransaction
    (read (.product id) >>= fun item =>
      match item with
      | none => send productNotFound
      | some item => deleteProductDocs id item)
    (fun err => send (.next err))

/-- The stored role must be `admin`. -/
def isAdmin (user : Option User) : Bool :=
  match user with
  | none => false
  | some user => user.role = .admin

def deleteInventory (id : ObjectId) (caller : Caller) : Js Unit := do
  let user ← read (.user caller._id)
  if isAdmin user then
    withTransaction
      (do
        inSession (.deleteInventory id)
        inSession (.deleteCostOf id)
        commitTransaction
        send (Msg (.field "message" "batch deleted") requestSuccessful 200))
      (fun _ => send internalServerError)
  else send notAuthorized

/-! ## Editing a batch -/

/-- Truthiness of an optional number. -/
def truthy (n : Option ℚ) : Bool := n.elim false fun q => q ≠ 0

/-- `data.quantity` and `data.initialQuantity` as `editInventory` rewrites them for the batch
`product`; `none` when the request is refused. -/
def editQuantities (product : Inventory) (data : EditBody) :
    Option (Option JsNumber × Option ℚ) :=
  let quantitySold := product.initialQuantity - product.quantity
  if quantitySold = 0 then
    -- nothing was sold: a quantity that is given is the initial quantity, too
    some (data.quantity.map .fin,
      if truthy data.quantity then data.quantity else data.initialQuantity)
  else if 0 < quantitySold then
    match data.quantity with
    | some n => if n < quantitySold then none else some (some (.fin (n - quantitySold)), some n)
    -- `quantitySold > undefined` is false and `undefined - quantitySold` is `NaN`
    | none => some (some .nan, none)
  -- more is left than came in, as after a reversal: the data is stored as it is
  else some (data.quantity.map .fin, data.initialQuantity)

/-- `data.cpq` after the three conditionals; `quantity` is the rewritten `data.quantity` and
`data.quantity` is still `comingQuantity`. -/
def editCpq (product : Inventory) (data : EditBody) (quantity : Option JsNumber) :
    Option JsNumber :=
  let hasQuantity := quantity.elim false JsNumber.truthy
  if truthy data.costPrice && !hasQuantity then
    data.costPrice.map fun costPrice => .div costPrice product.quantity
  else if !truthy data.costPrice && hasQuantity then
    data.quantity.map fun comingQuantity => .div product.costPrice comingQuantity
  else if truthy data.costPrice && hasQuantity then
    data.costPrice.bind fun costPrice =>
      data.quantity.map fun comingQuantity => .div costPrice comingQuantity
  else data.cpq.map .fin

/-- Second argument of `Inventory.findByIdAndUpdate`. -/
def editUpdate (product : Inventory) (data : EditBody) (quantity : Option JsNumber)
    (initialQuantity : Option ℚ) : InventoryUpdate where
  quantity := quantity
  initialQuantity := initialQuantity
  cpq := editCpq product data quantity
  costPrice := data.costPrice
  price := data.price
  batch := data.batch
  expiryDate := data.expiryDate
  product := data.product
  createdBy := data.createdBy
  createdAt := data.transactionDate.or data.createdAt
  isDeleted := data.isDeleted

/-- The value of a truthy number. -/
def JsNumber.truthyValue? : JsNumber → Option ℚ
  | .fin q => if q ≠ 0 then some q else none
  | _ => none

/-- `costData`: `quantity` is the rewritten `data.quantity`. -/
def editCostData (data : EditBody) (quantity : Option JsNumber) : CostUpdate where
  cost := if truthy data.costPrice then data.costPrice else none
  quantity := quantity.bind JsNumber.truthyValue?
  createdAt := data.transactionDate

/-- `data.transactionDate || data.costPrice || data.quantity`. -/
def editsCost (data : EditBody) (quantity : Option JsNumber) : Bool :=
  data.transactionDate.isSome || truthy data.costPrice || quantity.elim false JsNumber.truthy

/-- The update of the cost record, where the request calls for one. -/
def editCost (id : ObjectId) (data : EditBody) (quantity : Option JsNumber) : Js Unit :=
  if editsCost data quantity then do
    let costInstance ← direct (.updateCostOf id (editCostData data quantity))
    -- a batch without a cost record makes this throw, after the batch was updated
    let costInstance ← orTypeError costInstance
    inSession (.touchCost costInstance)
  else pure ()

def quantityConflict : Response := .text 400 "The quantity entered conflicts with the quantity sold"

/-- Body of the `try` of `editInventory`. -/
def editBatch (id : ObjectId) (data : EditBody) : Js Unit := do
  let product ← read (.inventory id)
  let product ← orTypeError product
  match editQuantities product data with
  | none => do
      abortTransaction
      send quantityConflict
  | some (quantity, initialQuantity) => do
      -- not part of the transaction: an abort later on does not undo it
      let inventoryInstance ← direct (.updateInventory id
        (editUpdate product data quantity initialQuantity))
      let inventoryInstance ← orTypeError inventoryInstance
      inSession (.touchInventory inventoryInstance)
      editCost id data quantity
      commitTransaction
      send (Msg (.field "message" "batch updated") requestSuccessful 200)

def editInventory (id : ObjectId) (data : EditBody) (caller : Caller) : Js Unit := do
  let user ← read (.user caller._id)
  if isAdmin user then withTransaction (editBatch id data) fun _ => send internalServerError
  else send notAuthorized

end InventoryHero.Model
