import InventoryHero.Model.Catalog
import InventoryHero.Storage.Pipeline

/-!
# Reading products

The six handlers that answer with products. They read the store and change nothing, so a reader is a
program whose operations are its queries and whose value is the response it sends.

`find` and `findById` pass through the hooks of the schema, which leave out the products that are
soft-deleted. `aggregate` does not.
-/

set_option autoImplicit false

namespace InventoryHero.Model

open Interaction Storage

/-- What is used of packages outside the repository: whether Mongoose refuses to populate a path
that the schema does not have, and the regular expressions of MongoDB with the option `i`. A text
that is no regular expression has no meaning. -/
structure Driver where
  strictPopulate : Bool
  regex : String → Option (String → Bool)

/-- Errors a reader can throw. -/
inductive ReaderError
  /-- `new Exception(message, status)`. -/
  | exception (message : String) (status : Nat)
  | strictPopulate (path : String)
  | regularExpression
  deriving DecidableEq, Repr

/-- `error.status`, which only an `Exception` has. -/
def ReaderError.status : ReaderError → Option Nat
  | exception _ status => some status
  | _ => none

/-- A product with its seller in the place of the seller's id. -/
structure Listed where
  product : Product
  seller : Option User
  deriving DecidableEq, Repr

inductive ReaderBody
  /-- `res.send(text)`. -/
  | text (text : String)
  /-- `res.json({ field: text })`. -/
  | json (field : String) (text : String)
  /-- `res.send(result)`. -/
  | result (products : List (Product × List Inventory))
  /-- `res.json({ success: true, data: products })`. -/
  | data (products : List Product)
  /-- `Msg(res, { products })`, for products as they come out of three kinds of queries. -/
  | listed (products : List Listed)
  | joined (products : List (Product × List Inventory))
  | unwound (products : List (Product × Option Inventory))
  /-- An error forwarded with `next`. -/
  | error (e : ReaderError)
  deriving DecidableEq, Repr

/-- The products in a response. -/
def ReaderBody.products : ReaderBody → List Product
  | .result l => l.map Prod.fst
  | .data l => l
  | .listed l => l.map Listed.product
  | .joined l => l.map Prod.fst
  | .unwound l => l.map Prod.fst
  | .text _ | .json _ _ | .error _ => []

structure ReaderResponse where
  status : Nat
  body : ReaderBody
  deriving DecidableEq, Repr

/-- `next(new Exception(err.message, err.status))`. -/
def ReaderResponse.next (err : ReaderError) : ReaderResponse :=
  ⟨err.status.getD 500, .error err⟩

/-! ## Queries -/

namespace Store

/-- `Product.find()`. -/
def liveProducts (s : Store) : List Product := s.products.docs.filter fun p => !p.isDeleted

/-- `$lookup` of the batches. -/
def lookupInventories (s : Store) (l : List Product) : List (Product × List Inventory) :=
  lookup s.inventories.docs Product._id Inventory.product l

end Store

/-- The `$match` of `searchProducts`: a product without a category is not found by it. -/
def Product.matched (found : String → Bool) (p : Product) : Bool :=
  found p.name || found p.sku || p.category.any found

/-- Queries of the readers. -/
inductive ReadQuery
  /-- `Product.findById(id)`. -/
  | product (id : ObjectId)
  /-- `Product.find().sort({ createdAt: -1 })`. -/
  | products
  /-- `Product.find({ $or: [{ available: false, seller }, { status: 'pending', seller }] })`. -/
  | unverified (seller : ObjectId)
  /-- The accounts that `populate({ path: 'seller' })` looks for. -/
  | sellers (ids : List ObjectId)
  /-- `Product.aggregate` of `findProduct`. -/
  | result (id : ObjectId)
  /-- `Product.aggregate` of `fetchVerifiedProducts`. -/
  | verified
  /-- `Product.aggregate` of `fetchUnwindVerifiedProducts`. -/
  | unwindVerified
  /-- `Product.aggregate` of `searchProducts`, for a regular expression. -/
  | search (found : String → Bool)

@[reducible] def ReadQuery.Result : ReadQuery → Type
  | .product _ => Option Product
  | .products => List Product
  | .unverified _ => List Product
  | .sellers _ => List User
  | .result _ => List (Product × List Inventory)
  | .verified => List (Product × List Inventory)
  | .unwindVerified => List (Product × Option Inventory)
  | .search _ => List (Product × List Inventory)

def ReadQuery.eval : (q : ReadQuery) → Store → q.Result
  | .product id, s => s.findProduct id
  | .products, s => sortDescending (fun p => (p.createdAt : WithBot Date)) s.liveProducts
  | .unverified seller, s =>
      s.liveProducts.filter fun p =>
        !p.available && p.seller = some seller || p.status = .pending && p.seller = some seller
  | .sellers ids, s => s.users.docs.filter fun user => user._id ∈ ids
  | .result id, s =>
      sortDescending (fun d => (d.1.createdAt : WithBot Date))
        (s.lookupInventories (s.products.docs.filter fun p => p._id = id))
  -- neither pipeline joins sales, so there is no `salesData.createdAt` to sort by
  | .verified, s =>
      sortDescending (fun _ => (⊥ : WithBot Date)) (s.lookupInventories s.products.docs)
  | .unwindVerified, s =>
      sortDescending (fun _ => (⊥ : WithBot Date)) (unwind (s.lookupInventories s.products.docs))
  | .search found, s =>
      (s.lookupInventories (s.products.docs.filter (Product.matched found))).take 10

@[reducible] def reading : Signature := ⟨ReadQuery, ReadQuery.Result⟩

/-- A query sees the store as it is and changes nothing. -/
def readSem : Sem reading Store Unit
  | q, s, x => (s, x, q.eval s)

/-- A reader: a program over the queries that may throw. -/
abbrev Reader (α : Type) : Type := Prog reading ReaderError α

def query (q : ReadQuery) : Reader q.Result := .op (S := reading) q

/-! ## Readers -/

/-- The product is looked for twice: the aggregation would find it if it were deleted in between. -/
def findProduct (id : ObjectId) : Reader ReaderResponse :=
  Prog.tryCatch
    (do
      let product ← query (.product id)
      match product with
      | none => pure ⟨404, .text "product not found"⟩
      | some _ => do
          let result ← query (.result id)
          pure ⟨200, .result result⟩)
    (fun err => pure (.next err))

/-- The product with its seller, if that is among the accounts found. -/
def Product.listed (sellers : List User) (p : Product) : Listed :=
  ⟨p, p.seller.bind fun id => sellers.find? fun user => user._id = id⟩

/-- `populate({ path: 'seller' })`. -/
def populateSeller (products : List Product) : Reader (List Listed) := do
  let sellers ← query (.sellers (products.filterMap Product.seller))
  pure (products.map (Product.listed sellers))

/-- `populate([{ path: 'reviews' }])`: the schema has no such path. With no product, there is
nothing to populate. -/
def populateReviews (driver : Driver) (products : List Listed) : Reader (List Listed) :=
  if driver.strictPopulate ∧ products ≠ [] then .fail (.strictPopulate "reviews")
  else pure products

def fetchProducts (driver : Driver) (role : Role) : Reader ReaderResponse :=
  Prog.tryCatch
    (if role ≠ .admin then
      .fail (.exception "you don't have the privilege to perform the action" 400)
    else do
      let products ← query .products
      let products ← populateSeller products
      let products ← populateReviews driver products
      pure ⟨200, .listed products⟩)
    (fun err => pure (.next err))

/-- The name notwithstanding, there is no condition on the status. -/
def fetchVerifiedProducts : Reader ReaderResponse :=
  Prog.tryCatch
    (do
      let products ← query .verified
      pure ⟨200, .joined products⟩)
    (fun err => pure (.next err))

def fetchUnwindVerifiedProducts : Reader ReaderResponse :=
  Prog.tryCatch
    (do
      let products ← query .unwindVerified
      pure ⟨200, .unwound products⟩)
    (fun err => pure (.next err))

/-- The text of the query is part of the regular expression as it is; a query that is missing reads
`undefined`. -/
def searchPattern (query : Option String) : String := ".*" ++ query.getD "undefined" ++ ".*"

def searchProducts (driver : Driver) (text : Option String) : Reader ReaderResponse :=
  Prog.tryCatch
    (match driver.regex (searchPattern text) with
    | none => .fail .regularExpression
    | some found => do
        -- an empty list is truthy, so its absence is never reported
        let products ← query (.search found)
        pure ⟨200, .joined products⟩)
    (fun err => pure (.next err))

def userFetchUnverifiedProducts (userId : Option ObjectId) : Reader ReaderResponse :=
  Prog.tryCatch
    (match userId with
    | none => pure ⟨400, .json "message" "unauthorized user"⟩
    | some userId => do
        let products ← query (.unverified userId)
        pure ⟨200, .data products⟩)
    (fun _ => pure ⟨500, .json "error" "Internal Server Error"⟩)

/-- Requests that are answered with products. -/
inductive ReaderRequest
  | findProduct (id : ObjectId)
  | fetchProducts (role : Role)
  | fetchVerifiedProducts
  | fetchUnwindVerifiedProducts
  | searchProducts (query : Option String)
  | userFetchUnverifiedProducts (userId : Option ObjectId)

/-- `routes/product.routes.js` and `routes/admin.routes.js`. -/
def reader (driver : Driver) : ReaderRequest → Reader ReaderResponse
  | .findProduct id => findProduct id
  | .fetchProducts role => fetchProducts driver role
  | .fetchVerifiedProducts => fetchVerifiedProducts
  | .fetchUnwindVerifiedProducts => fetchUnwindVerifiedProducts
  | .searchProducts query => searchProducts driver query
  | .userFetchUnverifiedProducts userId => userFetchUnverifiedProducts userId

/-- Serves a reader with no other request in between. -/
def serveReader (driver : Driver) (request : ReaderRequest) (s : Store) :
    Final Store Unit ReaderError ReaderResponse :=
  (reader driver request).run readSem s ()

/-- The products in the answer. -/
def shown (driver : Driver) (request : ReaderRequest) (s : Store) : List Product :=
  match (serveReader driver request s).result with
  | .ok response => response.body.products
  | .error _ => []

end InventoryHero.Model
