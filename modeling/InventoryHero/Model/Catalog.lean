import InventoryHero.Model.Server

/-!
# Requests that change product documents

`editProduct` and `adminDeleteProduct` write products only, and outside any transaction. They join
the requests of `Request` in `CatalogRequest`, the requests that write any of the five collections.
-/

set_option autoImplicit false

namespace InventoryHero.Model

open Interaction

/-- The missing product is answered, but nothing returns: the update is issued all the same. It has
no `isDeleted` filter, unlike the read before it. -/
def editProduct (id : ObjectId) (data : ProductUpdate) : Js Unit :=
  Prog.tryCatch
    (do
      let product ← read (.product id)
      if product.isNone then send productNotFound
      let result ← direct (.updateProduct id data)
      send (Msg (.products result) requestSuccessful 200))
    (fun _ => send (.text 500 "internal server error"))

/-- The product is hidden, not removed; its images are destroyed. -/
def adminDeleteProduct (id : ObjectId) : Js Unit :=
  Prog.tryCatch
    (do
      let item ← read (.product id)
      -- `item.image` of a product that is not found throws
      let item ← orTypeError item
      direct (.softDeleteProduct id)
      if (item.cloudId.filter Option.isSome).length ≠ 0 then destroyAll item.cloudId
      send (Msg (.field "product" "product deleted") requestSuccessful 200))
    (fun err => send (.next err))

/-- Requests that write to one of the collections of the store. -/
inductive CatalogRequest
  | stock (request : Request)
  | editProduct (id : ObjectId) (data : ProductUpdate)
  | adminDeleteProduct (id : ObjectId)

/-- Such a request with its caller and circumstances. -/
structure CatalogCall where
  request : CatalogRequest
  caller : Caller
  env : Env

/-- `routes/product.routes.js` and `routes/admin.routes.js`. -/
def catalogHandler (request : CatalogRequest) (caller : Caller) : Js Unit :=
  match request with
  | .stock request => handler request caller
  | .editProduct id data => editProduct id data
  | .adminDeleteProduct id => adminDeleteProduct id

/-- Serves a request with no other request in between. -/
def serveCatalog (c : CatalogCall) (db : Db) : Final Db Exchange JsError Unit :=
  (catalogHandler c.request c.caller).run sem db (.init c.env)

/-- The database after a request served on its own. -/
def catalogStep (c : CatalogCall) (db : Db) : Db := (serveCatalog c db).shared

end InventoryHero.Model
