import InventoryHero.Concurrent.Interleaving
import InventoryHero.Interaction.Ghost
import InventoryHero.Model.Writers

/-!
# What a handler may do

A handler among others does not know the store it will meet, but it knows what it has read, which
ids it has drawn and what it has answered. `Issues` lists the writes that each request can issue in
its transaction with the data that they carry, `IssuesDirect` those without a session, and `May`
adds when it opens and commits the transaction and what it answers. Every handler keeps to it
whatever the others do (`writeHandler_behaves`, in the next module); the invariants of interleavings
are drawn from it and do not look into the handlers.

The ids that a request has drawn and not yet used, and the sales that it has saved, are auxiliary
state (`Notes`).
-/

set_option autoImplicit false

namespace InventoryHero.Concurrent

open Interaction Storage Model

/-! ## Notes -/

/-- The id of a document. -/
def docId : DocKey → ObjectId
  | .product id => id
  | .inventory id => id
  | .sale id => id
  | .cost id => id
  | .last id => id

/-- The documents that a command inserts. -/
def inserts : Command → List DocKey
  | .saveProduct d => [.product d._id]
  | .saveInventory d => [.inventory d._id]
  | .saveCost d => [.cost d._id]
  | .saveSale d => [.sale d._id]
  | .saveLast d => [.last d._id]
  | _ => []

/-- The sale that a command inserts. -/
def saves? : Command → Option Sale
  | .saveSale d => some d
  | _ => none

/-- The ids that a request has drawn and given to no document yet, and the sales it has saved. -/
structure Notes where
  drawn : List ObjectId
  sold : List Sale

/-- A request that has just arrived. -/
def Notes.init : Notes := ⟨[], []⟩

/-- An id is noted when it is drawn, and crossed out when it is used. -/
def Notes.log (notes : Notes) : (o : Op) → o.Reply → Notes
  | .newId, n => { notes with drawn := n :: notes.drawn }
  | .inSession c, _ =>
      { drawn := notes.drawn.filter fun n => n ∉ (inserts c).map docId
        sold := (saves? c).toList ++ notes.sold }
  | _, _ => notes

/-- The operations, with notes. -/
def notedSem : Sem mongo Db (Exchange × Notes) := Sem.ghost sem Notes.log

/-! ## Writes -/

/-- The request has read the store. -/
def Seen (x : Exchange) (s : Store) : Prop := ∃ q, (q, s) ∈ x.reads

/-- The sale that `recordSales` saves: all its fields come from the body, from the account of the
caller and, for a sale in bulk, from the product that was read. -/
structure SaleOf (x : Exchange) (caller : Caller) (id : ObjectId) (body : SalesBody) (d : Sale) :
    Prop where
  product : d.product = id
  fields : ∃ data, validateSales body = .ok data ∧ d.packages = data.packages ∧
    d.ppu = data.ppu ∧ d.cost = data.cost ∧ d.createdAt = data.date ∧
    ∃ s p, Seen x s ∧ s.findProduct id = some p ∧ d.quantity = data.pieces p
  seller : ∃ s user, Seen x s ∧ s.users.get? caller._id = some user ∧ d.createdBy = user.createdBy

/-- The writes that a request issues in its transaction. -/
inductive Issues (x : Exchange) (notes : Notes) (caller : Caller) : Request → Command → Prop
  | product {body : ProductBody} (d : Product) (drawn : d._id ∈ notes.drawn)
      (upb : body.upb = some d.upb) : Issues x notes caller (.addProduct body) (.saveProduct d)
  | firstBatch {body : ProductBody} (b : Inventory) (drawn : b._id ∈ notes.drawn)
      (quantity : body.quantity = some b.quantity) (cpq : b.cpq = .div b.costPrice b.quantity) :
      Issues x notes caller (.addProduct body) (.saveInventory b)
  | firstCost {body : ProductBody} (d : Cost) (drawn : d._id ∈ notes.drawn) :
      Issues x notes caller (.addProduct body) (.saveCost d)
  | price {id : ObjectId} {body : InventoryBody} (price : Option Price) :
      Issues x notes caller (.addInventory id body) (.updateCurrentPrice id price)
  | batch {id : ObjectId} {body : InventoryBody} (b : Inventory) (drawn : b._id ∈ notes.drawn)
      (quantity : body.quantity = some b.quantity) (cpq : b.cpq = .div b.costPrice b.quantity) :
      Issues x notes caller (.addInventory id body) (.saveInventory b)
  | cost {id : ObjectId} {body : InventoryBody} (d : Cost) (drawn : d._id ∈ notes.drawn) :
      Issues x notes caller (.addInventory id body) (.saveCost d)
  /-- A snapshot of a batch that was read. -/
  | renewSnapshot {id : ObjectId} {body : SalesBody} (p : ObjectId) (s : Store) (b : Inventory)
      (seen : Seen x s) (found : b ∈ s.inventories.docs) :
      Issues x notes caller (.recordSales id body) (.updateLast p b.snapshot)
  | snapshot {id : ObjectId} {body : SalesBody} (n : ObjectId) (s : Store) (b : Inventory)
      (drawn : n ∈ notes.drawn) (seen : Seen x s) (found : b ∈ s.inventories.docs) :
      Issues x notes caller (.recordSales id body) (.saveLast { b.snapshot with _id := n })
  | usedUp {id : ObjectId} {body : SalesBody} (k : ObjectId) :
      Issues x notes caller (.recordSales id body) (.deleteInventory k)
  /-- What is left of a batch from which a part was taken. -/
  | remainder {id : ObjectId} {body : SalesBody} (k : ObjectId) (q : ℚ) (positive : 0 < q) :
      Issues x notes caller (.recordSales id body) (.updateQuantity k q)
  /-- The sale, once. -/
  | sale {id : ObjectId} {body : SalesBody} (d : Sale) (drawn : d._id ∈ notes.drawn)
      (first : notes.sold = []) (recorded : SaleOf x caller id body d) :
      Issues x notes caller (.recordSales id body) (.saveSale d)
  /-- The pieces of a sale that was read go to a batch that was read. -/
  | restock {id prd : ObjectId} (s s' : Store) (b : Inventory) (sale : Sale) (seen : Seen x s)
      (seen' : Seen x s') (found : b ∈ s.inventories.docs) (sold : sale ∈ s'.sales.docs) :
      Issues x notes caller (.deleteSalesRecord id prd)
        (.saveQuantity { b with quantity := b.quantity + sale.quantity })
  /-- They make a batch from a snapshot that was read. -/
  | rebuild {id prd : ObjectId} (n : ObjectId) (s s' : Store) (last : Last) (sale : Sale)
      (drawn : n ∈ notes.drawn) (seen : Seen x s) (seen' : Seen x s')
      (found : last ∈ s.lasts.docs) (sold : sale ∈ s'.sales.docs) :
      Issues x notes caller (.deleteSalesRecord id prd)
        (.saveInventory (last.toInventory n sale.quantity))
  | reversed {id prd : ObjectId} :
      Issues x notes caller (.deleteSalesRecord id prd) (.deleteSale id)
  /-- The pieces of some of the sales that were read go to a batch that was read. -/
  | restockAll (s s' : Store) (b : Inventory) (credited : List Sale) (seen : Seen x s)
      (seen' : Seen x s') (found : b ∈ s.inventories.docs)
      (sold : ∀ sale ∈ credited, sale ∈ s'.sales.docs) :
      Issues x notes caller .deleteAllSales
        (.saveQuantity
          { b with quantity := b.quantity + (credited.map fun sale => sale.quantity).sum })
  | reversedAll (k : ObjectId) : Issues x notes caller .deleteAllSales (.deleteSale k)
  | dropSales {id : ObjectId} : Issues x notes caller (.userDeleteProduct id) (.deleteSales id)
  | dropInventories {id : ObjectId} :
      Issues x notes caller (.userDeleteProduct id) (.deleteInventories id)
  | dropCosts {id : ObjectId} : Issues x notes caller (.userDeleteProduct id) (.deleteCosts id)
  | dropLasts {id : ObjectId} : Issues x notes caller (.userDeleteProduct id) (.deleteLasts id)
  | dropProduct {id : ObjectId} : Issues x notes caller (.userDeleteProduct id) (.deleteProduct id)
  | dropBatch {id : ObjectId} :
      Issues x notes caller (.deleteInventory id) (.deleteInventory id)
  | dropCost {id : ObjectId} : Issues x notes caller (.deleteInventory id) (.deleteCostOf id)
  | touchInventory {id : ObjectId} {data : EditBody} (d : Inventory) :
      Issues x notes caller (.editInventory id data) (.touchInventory d)
  | touchCost {id : ObjectId} {data : EditBody} (d : Cost) :
      Issues x notes caller (.editInventory id data) (.touchCost d)

/-- The writes that a request issues without a session. -/
inductive IssuesDirect (x : Exchange) : WriteRequest → Command → Prop
  | editBatch {id : ObjectId} {data : EditBody} (u : InventoryUpdate) :
      IssuesDirect x (.stock (.editInventory id data)) (.updateInventory id u)
  | editCost {id : ObjectId} {data : EditBody} (u : CostUpdate) :
      IssuesDirect x (.stock (.editInventory id data)) (.updateCostOf id u)
  | editProduct {id : ObjectId} {data : ProductUpdate} :
      IssuesDirect x (.catalog (.editProduct id data)) (.updateProduct id data)
  | hide {id : ObjectId} :
      IssuesDirect x (.catalog (.adminDeleteProduct id)) (.softDeleteProduct id)
  | updateProduct {id : ObjectId} {data : ProductUpdate} :
      IssuesDirect x (.updateProduct id data) (.updateProduct id data)
  /-- The product that was read is written back as it was. -/
  | status {id : ObjectId} {status : Option Status} {available : Option Bool} (s : Store)
      (p : Product) (seen : Seen x s) (found : s.findProduct id = some p) :
      IssuesDirect x (.updateProductStatus id status available)
        (.updateProduct id (p.spread status available))

/-! ## Answers -/

/-- The request is a sale. -/
def IsSale : Request → Prop
  | .recordSales _ _ => True
  | _ => False

/-- The answer tells whether the transaction has committed. A sale can also answer that a batch is
empty, and go on. -/
def Honest (request : Request) (x : Exchange) (r : Response) : Prop :=
  IsSale request ∧ r = inventoryEmpty ∨ (r.status < 300 ↔ (committed? x).isSome = true)

/-- What the handler of a request may do with the local state `x`. -/
def May (request : WriteRequest) (caller : Caller) : Op → Exchange × Notes → Prop
  | .startTransaction, x => x.1.session = .idle ∧ x.1.sent = []
  | .inSession c, x => ∃ r, request = .stock r ∧ Issues x.1 x.2 caller r c
  | .direct c, x => IssuesDirect x.1 request c
  -- an answer before the commit can only have been that a batch is empty
  | .commitTransaction, x => ∃ r, request = .stock r ∧
      ∀ a ∈ x.1.sent, IsSale r ∧ a = inventoryEmpty
  | .send a, x => ∀ r, request = .stock r → Honest r x.1 a
  | _, _ => True

/-- The handler keeps to `May` and ends with `Q`, whatever the other requests do. -/
abbrev Behaves {α : Type} (request : WriteRequest) (caller : Caller)
    (Q : Except JsError α → Exchange × Notes → Prop) (prog : Js α) (x : Exchange × Notes) : Prop :=
  prog.Ensures notedSem (fun o _ x _ _ => May request caller o x) Q x

/-! ## Rules for single operations -/

/-- The error is answered with a status that tells of it. -/
def Loud (e : JsError) : Prop := 300 ≤ e.status.getD 500

theorem loud_exception (message : String) : Loud (.exception message 400) := by
  simp [Loud, JsError.status]

theorem loud_mongo (e : MongoError) : Loud (.mongo e) := by simp [Loud, JsError.status]

theorem loud_typeError : Loud .typeError := by simp [Loud, JsError.status]

theorem loud_cloudinary : Loud .cloudinary := by simp [Loud, JsError.status]

theorem loud_headersSent : Loud .headersSent := by simp [Loud, JsError.status]

/-- The end of a `try`. -/
def Ended {α : Type} : Except JsError α → Exchange × Notes → Prop
  | .ok _, _ => True
  | .error e, _ => Loud e

/-- The transaction is open, and the request has made the reads `R`. -/
structure Busy (request : Request) (R : Reads) (x : Exchange × Notes) : Prop where
  session : ∃ t, x.1.session = .inProgress t
  reads : ∀ e ∈ R, e ∈ x.1.reads
  sent : ∀ a ∈ x.1.sent, IsSale request ∧ a = inventoryEmpty

/-- The same, and no sale was saved yet. -/
structure Open (request : Request) (R : Reads) (x : Exchange × Notes) : Prop extends
    Busy request R x where
  sold : x.2.sold = []

theorem Busy.uncommitted {request : Request} {R : Reads} {x : Exchange × Notes}
    (h : Busy request R x) : committed? x.1 = none := by
  obtain ⟨t, ht⟩ := h.session
  simp [committed?, ht]

theorem Busy.seen {request : Request} {R : Reads} {x : Exchange × Notes} (h : Busy request R x)
    {q : Query} {s : Store} (hR : (q, s) ∈ R) : Seen x.1 s := ⟨q, h.reads _ hR⟩

/-- Whether or not a write is planned, the transaction stays open. -/
theorem execInSession_open {x : Exchange} {t : Txn} (h : x.session = .inProgress t) (c : Command)
    (db : Db) :
    (∃ e t', execInSession c db x = (db, { x with session := .inProgress t' }, .error e)) ∨
    ∃ s w r t', c.plan s = .ok (w, r) ∧
      execInSession c db x = (db, { x with session := .inProgress t' }, .ok r) := by
  simp only [execInSession, h]
  cases hp : c.plan (t.view db) with
  | error e => exact .inl ⟨e, _, rfl⟩
  | ok wr =>
      obtain ⟨w, r⟩ := wr
      by_cases ha : (t.view db).accepts w = true
      · exact .inr ⟨_, w, r, _, hp, by simp only [ha, if_true]; rfl⟩
      · exact .inl ⟨.duplicateKey, _, by simp only [ha]; rfl⟩

section Rules

variable {request : Request} {caller : Caller} {α : Type}
  {Q : Except JsError α → Exchange × Notes → Prop} {x : Exchange × Notes} {R : Reads}

theorem behaves_read {w : WriteRequest} {q : Query} {f : q.Result → Js α}
    (k : ∀ (db : Db) (x' : Exchange × Notes), Seen x'.1 db.store →
      Behaves w caller Q (f (q.eval db.store)) x') :
    Behaves w caller Q (read q >>= f) x :=
  fun db => ⟨trivial, k db _ ⟨q, List.mem_append_right _ (List.mem_singleton_self _)⟩⟩

theorem Open.read (h : Open request R x) {q : Query} {f : q.Result → Js α}
    (k : ∀ (db : Db) (x' : Exchange × Notes), Open request ((q, db.store) :: R) x' →
      Behaves (.stock request) caller Q (f (q.eval db.store)) x') :
    Behaves (.stock request) caller Q (Model.read q >>= f) x := by
  intro db
  refine ⟨trivial, k db _ ⟨⟨h.session, ?_, h.sent⟩, h.sold⟩⟩
  intro e he
  rcases List.mem_cons.1 he with rfl | he
  · exact List.mem_append_right _ (List.mem_singleton_self _)
  · exact List.mem_append_left _ (h.reads e he)

theorem Open.now (h : Open request R x) {f : Date → Js α}
    (k : ∀ d x', Open request R x' → Behaves (.stock request) caller Q (f d) x') :
    Behaves (.stock request) caller Q (Model.now >>= f) x :=
  fun _ => ⟨trivial, k _ x h⟩

theorem Open.newId (h : Open request R x) {f : ObjectId → Js α}
    (k : ∀ n x', Open request R x' → n ∈ x'.2.drawn →
      Behaves (.stock request) caller Q (f n) x') :
    Behaves (.stock request) caller Q (Model.newId >>= f) x :=
  fun _ => ⟨trivial, k _ _ ⟨⟨h.session, h.reads, h.sent⟩, h.sold⟩ List.mem_cons_self⟩

/-- A write of the transaction, other than that of the sale. -/
theorem Open.inSession (h : Open request R x) {c : Command} {f : c.Result → Js α}
    (hc : Issues x.1 x.2 caller request c) (hsale : saves? c = none)
    (herr : ∀ e x', Open request R x' → Q (.error (.mongo e)) x')
    (k : ∀ s w r x', c.plan s = .ok (w, r) → Open request R x' →
      Behaves (.stock request) caller Q (f r) x') :
    Behaves (.stock request) caller Q (Model.inSession c >>= f) x := by
  obtain ⟨t, ht⟩ := h.session
  intro db
  refine ⟨⟨request, rfl, hc⟩, ?_⟩
  have hopen (t' : Txn) (res : Except MongoError c.Result) : Open request R
      ({ x.1 with session := .inProgress t' }, x.2.log (.inSession c) res) := by
    refine ⟨⟨⟨t', rfl⟩, h.reads, h.sent⟩, ?_⟩
    simp [Notes.log, hsale, h.sold]
  simp only [notedSem, Sem.ghost, sem]
  rcases execInSession_open ht c db with ⟨e, t', he⟩ | ⟨s, w, r, t', hp, he⟩
  · rw [he]
    exact herr e _ (hopen t' _)
  · rw [he]
    exact k s w r _ hp (hopen t' _)

/-- The write of the sale. -/
theorem Open.saveSale (h : Open request R x) {d : Sale} {f : Unit → Js α}
    (hc : Issues x.1 x.2 caller request (.saveSale d))
    (herr : ∀ e x', Q (.error (.mongo e)) x')
    (k : ∀ x', Busy request R x' → Behaves (.stock request) caller Q (f ()) x') :
    Behaves (.stock request) caller Q (Model.inSession (.saveSale d) >>= f) x := by
  obtain ⟨t, ht⟩ := h.session
  intro db
  refine ⟨⟨request, rfl, hc⟩, ?_⟩
  simp only [notedSem, Sem.ghost, sem]
  rcases execInSession_open ht (.saveSale d) db with ⟨e, t', he⟩ | ⟨s, w, r, t', hp, he⟩
  · rw [he]
    exact herr e _
  · rw [he]
    exact k _ ⟨⟨t', rfl⟩, h.reads, h.sent⟩

/-- The answer with which a handler ends. -/
theorem behaves_send {w : WriteRequest} {a : Response} {Q : Except JsError Unit → _ → Prop}
    (ha : ∀ r, w = .stock r → Honest r x.1 a) (hok : ∀ x', Q (.ok ()) x')
    (herr : ∀ x', Q (.error .headersSent) x') : Behaves w caller Q (send a) x := by
  rw [← Prog.bind_done (send a)]
  intro db
  refine ⟨ha, ?_⟩
  simp only [notedSem, Sem.ghost, sem, execSend]
  split
  · exact hok _
  · exact herr _

/-- A refusal, which ends the `try`. -/
theorem behaves_refuse {a : Response} (hx : committed? x.1 = none) (ha : 300 ≤ a.status) :
    Behaves (.stock request) caller Ended (send a) x := by
  refine behaves_send (fun r _ => .inr ?_) (fun _ => trivial) fun _ => loud_headersSent
  simp only [hx, Option.isSome_none, Bool.false_eq_true, iff_false]
  omega

/-- That a batch is empty is answered in the middle of a sale. -/
theorem Open.sendEmpty (h : Open request R x) (hsale : IsSale request) {f : Unit → Js α}
    (herr : ∀ x', Q (.error .headersSent) x')
    (k : ∀ x', Open request R x' → Behaves (.stock request) caller Q (f ()) x') :
    Behaves (.stock request) caller Q (Model.send inventoryEmpty >>= f) x := by
  intro db
  refine ⟨?_, ?_⟩
  · intro r hr
    cases hr
    exact .inl ⟨hsale, rfl⟩
  · simp only [notedSem, Sem.ghost, sem, execSend]
    split
    · refine k _ ⟨⟨h.session, h.reads, ?_⟩, h.sold⟩
      intro a ha
      exact ⟨hsale, List.mem_singleton.1 ha⟩
    · exact herr _

/-- The commit and the answer after it. -/
theorem Busy.commit (h : Busy request R x) {a : Response} (ha : a.status < 300) :
    Behaves (.stock request) caller Ended (commitTransaction >>= fun _ => Model.send a) x := by
  obtain ⟨t, ht⟩ := h.session
  intro db
  refine ⟨⟨request, rfl, h.sent⟩, ?_⟩
  simp only [notedSem, Sem.ghost, sem, execCommit, ht]
  cases x.1.env.commitFails with
  | true => exact loud_mongo _
  | false =>
      cases t.conflicts db with
      | true => exact loud_mongo _
      | false =>
          by_cases hacc : db.store.accepts t.writes = true
          · simp only [hacc, if_true, Bool.false_eq_true, if_false]
            refine behaves_send (fun r _ => .inr ?_) (fun _ => trivial) fun _ => loud_headersSent
            simpa [committed?] using ha
          · simp only [hacc, Bool.false_eq_true, if_false]
            exact loud_mongo _

/-- An abort and the answer after it. -/
theorem Busy.abort (h : Busy request R x) {a : Response} (ha : 300 ≤ a.status) :
    Behaves (.stock request) caller Ended (abortTransaction >>= fun _ => Model.send a) x := by
  obtain ⟨t, ht⟩ := h.session
  intro db
  refine ⟨trivial, ?_⟩
  simp only [notedSem, Sem.ghost, sem, execAbort, ht]
  exact behaves_refuse (by simp [committed?]) ha

/-- A request that has not done anything but read. -/
structure Arrived (x : Exchange × Notes) : Prop where
  session : x.1.session = .idle
  sent : x.1.sent = []
  sold : x.2.sold = []

theorem Arrived.uncommitted (h : Arrived x) : committed? x.1 = none := by
  simp [committed?, h.session]

theorem Arrived.read {w : WriteRequest} (h : Arrived x) {q : Query} {f : q.Result → Js α}
    (k : ∀ (db : Db) (x' : Exchange × Notes), Arrived x' →
      Behaves w caller Q (f (q.eval db.store)) x') :
    Behaves w caller Q (Model.read q >>= f) x :=
  fun db => ⟨trivial, k db _ ⟨h.session, h.sent, h.sold⟩⟩

/-- Every handler with a session is a transaction with an error path, which is entered with the
transaction open; otherwise the abort fails, and nothing is answered. -/
theorem Arrived.withTransaction {body : Js Unit} {onError : JsError → Js Unit} (h : Arrived x)
    (hbody : ∀ x', Open request [] x' → Behaves (.stock request) caller Ended body x')
    (herr : ∀ e x', Loud e → committed? x'.1 = none →
      Behaves (.stock request) caller Ended (onError e) x') :
    Behaves (.stock request) caller Ended (Model.withTransaction body onError) x := by
  refine Prog.Ensures.tryCatch (Q := Ended) ?_ (fun _ _ _ => trivial) fun e x' he => ?_
  · intro db
    refine ⟨⟨h.session, h.sent⟩, hbody _ ⟨⟨⟨_, rfl⟩, by simp, ?_⟩, h.sold⟩⟩
    intro a ha
    simp [notedSem, Sem.ghost, sem, h.sent] at ha
  · intro db
    refine ⟨trivial, ?_⟩
    simp only [notedSem, Sem.ghost, sem, execAbort]
    split
    · exact herr e _ he (by simp [committed?])
    · exact loud_mongo .illegalTransactionState

end Rules

end InventoryHero.Concurrent
