import InventoryHero.Model.Catalog

/-!
# All requests that write

`updateProduct` and `updateProductStatus` are the other routes to an update of a product. With them,
`WriteRequest` has every request that writes to the store, and `writers` serves any number of them
interleaved, operation by operation.
-/

set_option autoImplicit false

namespace InventoryHero.Model

open Interaction

/-- The `try` of `updateProduct`: its value is answered as `product`, its error is forwarded. Unlike
`editProduct`, it stops at a product that is missing or soft-deleted. -/
def updateProduct (id : ObjectId) (data : ProductUpdate) : Js (Option Product) := do
  let product ← read (.product id)
  match product with
  | none => .fail (.exception "product  not found " 400)
  | some product => direct (.updateProduct product._id data)

/-- `{ ...product }` after `status` and `available` were assigned. The update is cloned before it is
sent, and Mongoose takes the copied internals of a document for the document itself: every field
that was read is set again, and one assigned `undefined` is left as it is. -/
def Product.spread (product : Product) (status : Option Status) (available : Option Bool) :
    ProductUpdate where
  name := product.name
  description := product.description
  category := product.category
  sku := product.sku
  currentPrice := product.currentPrice
  upb := product.upb
  image := product.image
  brand := product.brand
  measurement := product.measurement
  status := status
  available := available
  createdBy := product.createdBy
  seller := product.seller
  createdAt := product.createdAt
  isDeleted := product.isDeleted

/-- The `try` of `updateProductStatus`, answered as that of `updateProduct`. -/
def updateProductStatus (id : ObjectId) (status : Option Status) (available : Option Bool) :
    Js (Option Product) := do
  let product ← read (.product id)
  match product with
  | none => .fail (.exception "product  not found " 400)
  | some product => direct (.updateProduct product._id (product.spread status available))

/-- Requests that write to the store. -/
inductive WriteRequest
  | catalog (request : CatalogRequest)
  | updateProduct (id : ObjectId) (data : ProductUpdate)
  | updateProductStatus (id : ObjectId) (status : Option Status) (available : Option Bool)

/-- A request that runs in a transaction. -/
abbrev WriteRequest.stock (request : Request) : WriteRequest := .catalog (.stock request)

/-- Such a request with its caller and circumstances. -/
structure WriteCall where
  request : WriteRequest
  caller : Caller
  env : Env

/-- `routes/product.routes.js` and `routes/admin.routes.js`. -/
def writeHandler (request : WriteRequest) (caller : Caller) : Js Unit :=
  match request with
  | .catalog request => catalogHandler request caller
  | .updateProduct id data => updateProduct id data >>= fun _ => pure ()
  | .updateProductStatus id status available =>
      updateProductStatus id status available >>= fun _ => pure ()

/-- Requests that arrive at the same time, one for each index. -/
def writers {ι : Type} (db : Db) (calls : ι → WriteCall) :
    Pool mongo ι Db Exchange JsError Unit where
  shared := db
  procs i := ⟨.init (calls i).env, writeHandler (calls i).request (calls i).caller⟩

end InventoryHero.Model
