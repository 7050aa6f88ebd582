import InventoryHero.Model.ProductController
import InventoryHero.Interaction.Pool

/-!
# The server

Requests as they arrive, the handler each one is routed to, and the two ways they are served: one
at a time (`serve`, `serveStep`), or interleaved operation by operation (`Pool.step sem` on the pool
`arrivals`).
-/

set_option autoImplicit false

namespace InventoryHero.Model

open Interaction Storage

/-- Requests that change batches, sales or purchase records. -/
inductive Request
  | addProduct (body : ProductBody)
  | addInventory (id : ObjectId) (body : InventoryBody)
  | recordSales (id : ObjectId) (body : SalesBody)
  | deleteSalesRecord (id prd : ObjectId)
  | deleteAllSales
  | userDeleteProduct (id : ObjectId)
  | deleteInventory (id : ObjectId)
  | editInventory (id : ObjectId) (data : EditBody)

/-! ## Data of, and conditions on, one kind of request -/

namespace Request

/-- The quantity of the batch that comes in with the request. -/
def bought : Request → Option ℚ
  | .addProduct body => body.quantity
  | .addInventory _ body => body.quantity
  | _ => none

/-- The condition `P` on a sale; other requests meet it. -/
def OnSale (P : ObjectId → SalesBody → Prop) : Request → Prop
  | .recordSales id body => P id body
  | _ => True

/-- The condition `P` on the reversal of a sale. -/
def OnReversal (P : ObjectId → ObjectId → Prop) : Request → Prop
  | .deleteSalesRecord id prd => P id prd
  | _ => True

/-- The condition `P` on the reversal of all sales. -/
def OnBulkReversal (P : Prop) : Request → Prop
  | .deleteAllSales => P
  | _ => True

/-- The condition `P` on the removal of a product. -/
def OnProductRemoval (P : ObjectId → Prop) : Request → Prop
  | .userDeleteProduct id => P id
  | _ => True

/-- The condition `P` on the removal of a batch. -/
def OnBatchRemoval (P : ObjectId → Prop) : Request → Prop
  | .deleteInventory id => P id
  | _ => True

/-- The condition `P` on an edit. -/
def OnEdit (P : ObjectId → EditBody → Prop) : Request → Prop
  | .editInventory id data => P id data
  | _ => True

theorem OnReversal.mono {P Q : ObjectId → ObjectId → Prop} {r : Request} (h : r.OnReversal P)
    (hPQ : ∀ id prd, P id prd → Q id prd) : r.OnReversal Q := by
  cases r with
  | deleteSalesRecord id prd => exact hPQ id prd h
  | _ => trivial

theorem OnBulkReversal.mono {P Q : Prop} {r : Request} (h : r.OnBulkReversal P) (hPQ : P → Q) :
    r.OnBulkReversal Q := by
  cases r with
  | deleteAllSales => exact hPQ h
  | _ => trivial

theorem OnEdit.mono {P Q : ObjectId → EditBody → Prop} {r : Request} (h : r.OnEdit P)
    (hPQ : ∀ id data, P id data → Q id data) : r.OnEdit Q := by
  cases r with
  | editInventory id data => exact hPQ id data h
  | _ => trivial

theorem OnEdit.and {P Q : ObjectId → EditBody → Prop} {r : Request} (h : r.OnEdit P)
    (h' : r.OnEdit Q) : r.OnEdit fun id data => P id data ∧ Q id data := by
  cases r with
  | editInventory id data => exact ⟨h, h'⟩
  | _ => trivial

instance (P : ObjectId → SalesBody → Prop) [∀ id body, Decidable (P id body)] :
    DecidablePred (OnSale P)
  | .recordSales id body => inferInstanceAs (Decidable (P id body))
  | .addProduct _ | .addInventory _ _ | .deleteSalesRecord _ _ | .deleteAllSales
  | .userDeleteProduct _ | .deleteInventory _ | .editInventory _ _ => .isTrue trivial

instance (P : ObjectId → ObjectId → Prop) [∀ id prd, Decidable (P id prd)] :
    DecidablePred (OnReversal P)
  | .deleteSalesRecord id prd => inferInstanceAs (Decidable (P id prd))
  | .addProduct _ | .addInventory _ _ | .recordSales _ _ | .deleteAllSales
  | .userDeleteProduct _ | .deleteInventory _ | .editInventory _ _ => .isTrue trivial

instance (P : Prop) [Decidable P] :
    DecidablePred (OnBulkReversal P)
  | .deleteAllSales => inferInstanceAs (Decidable P)
  | .addProduct _ | .addInventory _ _ | .recordSales _ _ | .deleteSalesRecord _ _
  | .userDeleteProduct _ | .deleteInventory _ | .editInventory _ _ => .isTrue trivial

instance (P : ObjectId → Prop) [∀ id, Decidable (P id)] :
    DecidablePred (OnProductRemoval P)
  | .userDeleteProduct id => inferInstanceAs (Decidable (P id))
  | .addProduct _ | .addInventory _ _ | .recordSales _ _ | .deleteSalesRecord _ _
  | .deleteAllSales | .deleteInventory _ | .editInventory _ _ => .isTrue trivial

instance (P : ObjectId → Prop) [∀ id, Decidable (P id)] :
    DecidablePred (OnBatchRemoval P)
  | .deleteInventory id => inferInstanceAs (Decidable (P id))
  | .addProduct _ | .addInventory _ _ | .recordSales _ _ | .deleteSalesRecord _ _
  | .deleteAllSales | .userDeleteProduct _ | .editInventory _ _ => .isTrue trivial

instance (P : ObjectId → EditBody → Prop) [∀ id data, Decidable (P id data)] :
    DecidablePred (OnEdit P)
  | .editInventory id data => inferInstanceAs (Decidable (P id data))
  | .addProduct _ | .addInventory _ _ | .recordSales _ _ | .deleteSalesRecord _ _
  | .deleteAllSales | .userDeleteProduct _ | .deleteInventory _ => .isTrue trivial

end Request

/-- A request with its caller and circumstances. -/
structure Call where
  request : Request
  caller : Caller
  env : Env

/-- `routes/product.routes.js`. -/
def handler (request : Request) (caller : Caller) : Js Unit :=
  match request with
  | .addProduct body => addProduct body caller
  | .addInventory id body => addInventory id body caller
  | .recordSales id body => recordSales id body caller
  | .deleteSalesRecord id prd => deleteSalesRecord id prd caller
  | .deleteAllSales => deleteAllSales
  | .userDeleteProduct id => userDeleteProduct id
  | .deleteInventory id => deleteInventory id caller
  | .editInventory id data => editInventory id data caller

/-- Serves a request with no other request in between. -/
def serve (c : Call) (db : Db) : Final Db Exchange JsError Unit :=
  (handler c.request c.caller).run sem db (.init c.env)

/-- The database after a request served on its own. -/
def serveStep (c : Call) (db : Db) : Db := (serve c db).shared

/-- The database after a list of requests served one at a time. -/
def serveAll (calls : List Call) (db : Db) : Db := calls.foldl (fun db c => serveStep c db) db

/-- A database with accounts and nothing else. -/
def Db.IsEmpty (db : Db) : Prop :=
  db.store.products.docs = [] ∧ db.store.inventories.docs = [] ∧ db.store.sales.docs = [] ∧
    db.store.costs.docs = [] ∧ db.store.lasts.docs = []

/-- Requests that arrive at the same time, one for each index. -/
def arrivals {ι : Type} (db : Db) (calls : ι → Call) : Pool mongo ι Db Exchange JsError Unit where
  shared := db
  procs i := ⟨.init (calls i).env, handler (calls i).request (calls i).caller⟩

/-! ## A small shop

Data for the concrete runs that stand beside the theorems. The first product gets the id `1`, its
first batch `2` and the cost record of the batch `3`. -/

namespace Sample

/-- One account, an admin's, and nothing else. -/
def db : Db where
  store :=
    { users := ⟨[⟨0, "shop", "keeper", .admin⟩], List.nodup_singleton _⟩
      products := .empty
      inventories := .empty
      sales := .empty
      costs := .empty
      lasts := .empty }
  nextId := 1
  oplog := []

/-- The admin. -/
def admin : Caller := ⟨0, .admin⟩

/-- Nothing fails outside the program. -/
def env : Env := { now := 0, commitFails := false, destroyFails := fun _ => false }

/-- A request of the admin. -/
def call (request : Request) : Call := ⟨request, admin, env⟩

def productBody (quantity costPrice : ℚ) : ProductBody where
  name := "rice"
  description := none
  category := none
  image := none
  sku := "r1"
  expiryDate := some 0
  upb := some 12
  measurement := none
  brand := none
  transactionDate := none
  quantity := some quantity
  available := some true
  status := "verified"
  batch := some 1
  costPrice := some costPrice
  price := none

def inventoryBody (quantity costPrice : ℚ) : InventoryBody where
  batch := some 2
  expiryDate := some 0
  quantity := some quantity
  costPrice := some costPrice
  transactionDate := none
  price := none

def salesBody (quantity : ℚ) : SalesBody where
  quantity := some quantity
  packages := "pieces"
  cost := some 1
  ppu := some 1
  date := some 0
  name := none
  id := none

/-- An edit of the quantity and the cost price. -/
def editBody (quantity costPrice : Option ℚ) : EditBody where
  quantity := quantity
  costPrice := costPrice
  price := none
  batch := none
  expiryDate := none
  transactionDate := none
  initialQuantity := none
  cpq := none
  product := none
  createdBy := none
  createdAt := none
  isDeleted := none

/-- An edit that leaves a batch without the first name of its creator. -/
def blankName : EditBody := { editBody none none with createdBy := some ⟨"", "keeper"⟩ }

/-- Ten pieces of product `1` were bought and four of them sold, in sale `4`. -/
def shop : Db :=
  serveAll [call (.addProduct (productBody 10 100)), call (.recordSales 1 (salesBody 4))] db

/-- All ten pieces were sold, in sale `5`. -/
def soldOut : Db :=
  serveAll [call (.addProduct (productBody 10 100)), call (.recordSales 1 (salesBody 10))] db

theorem isEmpty : db.IsEmpty := ⟨rfl, rfl, rfl, rfl, rfl⟩

end Sample

end InventoryHero.Model
