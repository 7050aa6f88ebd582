import InventoryHero.Concurrent.Conduct
import InventoryHero.Stock.Credit

/-!
# The handlers among others

Every handler that writes keeps to `May`, whatever the requests around it do
(`writeHandler_behaves`). The proofs follow the handlers statement by statement.
-/

set_option autoImplicit false

namespace InventoryHero.Concurrent

open Interaction Storage Model Stock

variable {caller : Caller} {x : Exchange × Notes}

/-! ## Adding products and batches -/

theorem addProductFor_behaves {R : Reads} {user : User} {body : ProductBody}
    (h : Open (.addProduct body) R x) :
    Behaves (.stock (.addProduct body)) caller Ended (addProductFor user body) x := by
  refine h.now fun today x h => ?_
  cases hv : validateProduct _ with
  | error message => exact loud_exception message
  | ok data =>
      obtain ⟨hquantity, hupb, -⟩ := validateProduct_ok hv
      refine h.newId fun n x h hn => ?_
      cases (Status.ofString? data.status).elim (Except.error MongoError.validation) Except.ok with
      | error e => exact loud_mongo e
      | ok status =>
          refine h.inSession (.product _ hn hupb) rfl (fun e _ _ => loud_mongo e)
            fun _ _ _ x _ h => ?_
          refine h.newId fun n x h hn => ?_
          refine h.inSession (.firstBatch _ hn hquantity rfl) rfl (fun e _ _ => loud_mongo e)
            fun _ _ _ x _ h => ?_
          refine h.newId fun n x h hn => ?_
          refine h.inSession (.firstCost _ hn) rfl (fun e _ _ => loud_mongo e)
            fun _ _ _ x _ h => ?_
          exact h.commit (by decide : 201 < 300)

theorem addProduct_behaves (body : ProductBody) (h : Arrived x) :
    Behaves (.stock (.addProduct body)) caller Ended (addProduct body caller) x := by
  refine h.withTransaction (fun x h => h.read fun db x h => ?_) fun e x he hx => ?_
  · cases Query.eval (.user caller._id) db.store with
    | none => exact behaves_refuse h.uncommitted (by decide)
    | some user => exact addProductFor_behaves h
  · split
    · exact behaves_refuse hx (by decide)
    · exact behaves_refuse hx he

theorem addInventoryFor_behaves {R : Reads} {user : User} {id : ObjectId} {body : InventoryBody}
    (h : Open (.addInventory id body) R x) :
    Behaves (.stock (.addInventory id body)) caller Ended (addInventoryFor user id body) x := by
  refine h.now fun today x h => ?_
  cases hv : validateInventory body with
  | error message => exact loud_exception message
  | ok data =>
      obtain ⟨hquantity, -⟩ := validateInventory_ok hv
      refine h.read fun db x h => ?_
      cases Query.eval (.product id) db.store with
      | none => exact behaves_refuse h.uncommitted (by decide)
      | some product =>
          refine h.inSession (.price _) rfl (fun e _ _ => loud_mongo e) fun _ _ r x _ h => ?_
          cases r with
          | none => exact loud_typeError
          | some updatedProduct =>
              refine h.newId fun n x h hn => ?_
              refine h.inSession (.batch _ hn hquantity rfl) rfl (fun e _ _ => loud_mongo e)
                fun _ _ _ x _ h => ?_
              refine h.newId fun n x h hn => ?_
              refine h.inSession (.cost _ hn) rfl (fun e _ _ => loud_mongo e)
                fun _ _ _ x _ h => ?_
              exact h.commit (by decide : 200 < 300)

theorem addInventory_behaves (id : ObjectId) (body : InventoryBody) (h : Arrived x) :
    Behaves (.stock (.addInventory id body)) caller Ended (addInventory id body caller) x := by
  refine h.withTransaction (fun x h => h.read fun db x h => ?_)
    fun _ _ _ hx => behaves_refuse hx (by decide)
  cases Query.eval (.user caller._id) db.store with
  | none => exact behaves_refuse h.uncommitted (by decide)
  | some user => exact addInventoryFor_behaves h

/-! ## Recording a sale -/

section Sale

variable {id : ObjectId} {body : SalesBody} {R : Reads}

/-- The state of a sale between two rounds of the loop, where there is one. -/
def StillOpen {α : Type} (request : Request) (R : Reads) :
    Except JsError α → Exchange × Notes → Prop
  | .ok _, x => Open request R x
  | .error e, _ => Loud e

theorem snapshotLast_behaves (product : ObjectId) (h : Open (.recordSales id body) R x) :
    Behaves (.stock (.recordSales id body)) caller (StillOpen (.recordSales id body) R)
      (snapshotLast product) x := by
  have hweaken {e : Query × Store} {R' : Reads} {x : Exchange × Notes}
      (h : Open (.recordSales id body) (e :: R') x) : Open (.recordSales id body) R' x :=
    ⟨⟨h.session, fun e he => h.reads e (List.mem_cons_of_mem _ he), h.sent⟩, h.sold⟩
  refine h.read fun db x h => ?_
  cases hl : Query.eval (.inventories product) db.store with
  | nil => exact hweaken h
  | cons first rest =>
      cases rest with
      | cons second rest => exact hweaken h
      | nil =>
          have hfirst : first ∈ db.store.inventories.docs := by
            have hmem : first ∈ db.store.liveBatches product := by
              rw [show db.store.liveBatches product = [first] from hl]
              exact List.mem_singleton_self first
            exact (List.mem_filter.1 (List.mem_filter.1 hmem).1).1
          refine h.read fun db' x h => ?_
          have hseen : Seen x.1 db.store := h.seen (List.mem_cons_of_mem _ List.mem_cons_self)
          -- errors of the two writes are dropped
          cases Query.eval (.last first.product) db'.store with
          | some found =>
              refine Prog.Ensures.tryCatch (Q := fun _ x' => Open (.recordSales id body) R x') ?_
                (fun _ _ hx => hx) fun _ _ hx => hx
              rw [← Prog.bind_done (inSession (.updateLast first.product first.snapshot))]
              exact h.inSession (.renewSnapshot _ db.store first hseen hfirst) rfl
                (fun _ _ h => hweaken (hweaken h)) fun _ _ _ _ _ h => hweaken (hweaken h)
          | none =>
              refine h.newId fun n x h hn => ?_
              refine Prog.Ensures.tryCatch (Q := fun _ x' => Open (.recordSales id body) R x') ?_
                (fun _ _ hx => hx) fun _ _ hx => hx
              have hseen : Seen x.1 db.store :=
                h.seen (List.mem_cons_of_mem _ List.mem_cons_self)
              rw [← Prog.bind_done (inSession (.saveLast { first.snapshot with _id := n }))]
              exact h.inSession (.snapshot n db.store first hn hseen hfirst) rfl
                (fun _ _ h => hweaken (hweaken h)) fun _ _ _ _ _ h => hweaken (hweaken h)

theorem drawLoop_behaves {l : List Inventory} {t : ℚ} (h : Open (.recordSales id body) R x) :
    Behaves (.stock (.recordSales id body)) caller (StillOpen (.recordSales id body) R)
      (drawLoop t l) x := by
  induction l generalizing t x with
  | nil => exact h
  | cons e rest ih =>
      by_cases h₀ : 0 < e.quantity
      · by_cases hq : e.quantity ≤ t
        · simp only [drawLoop, h₀, hq, if_true]
          refine Prog.Ensures.bind (snapshotLast_behaves e.product h) (fun _ x h => ?_)
            fun _ _ he => he
          refine h.inSession (.usedUp _) rfl (fun e _ _ => loud_mongo e) fun _ _ _ x _ h => ?_
          exact Prog.Ensures.bind (ih h) (fun _ _ h => h) fun _ _ he => he
        · simp only [drawLoop, h₀, hq, if_true, if_false]
          refine h.inSession (.remainder _ _ (sub_pos.2 (not_le.1 hq))) rfl
            (fun e _ _ => loud_mongo e) fun _ _ _ x _ h => h
      · simp only [drawLoop, h₀, if_false]
        refine h.sendEmpty trivial (fun _ => loud_headersSent) fun x h => ?_
        exact Prog.Ensures.bind (ih h) (fun _ _ h => h) fun _ _ he => he

theorem recordSales_behaves (id : ObjectId) (body : SalesBody) (h : Arrived x) :
    Behaves (.stock (.recordSales id body)) caller Ended (recordSales id body caller) x := by
  refine h.withTransaction (fun x h => h.read fun dbu x h => ?_) fun _ _ _ _ => trivial
  cases huser : Query.eval (.user caller._id) dbu.store with
  | none => exact behaves_refuse h.uncommitted (by decide)
  | some user =>
      refine h.read fun dbp x h => ?_
      cases hproduct : Query.eval (.product id) dbp.store with
      | none => exact behaves_refuse h.uncommitted (by decide)
      | some product =>
          cases hv : validateSales body with
          | error message => exact loud_exception message
          | ok data =>
              refine h.read fun dbs x h => ?_
              cases hpop : List.head? (Query.eval (.stock id) dbs.store) with
              | none => exact loud_typeError
              | some populated =>
                  simp only [Prog.done_bind, orTypeError_some]
                  split
                  · exact h.abort (by decide)
                  split
                  · exact h.abort (by decide : 300 ≤ 400)
                  refine Prog.Ensures.bind (drawLoop_behaves h) (fun _ x h => ?_) fun _ _ he => he
                  refine h.newId fun n x h hn => ?_
                  refine h.saveSale (.sale _ hn h.sold ⟨rfl, ?_, ?_⟩) (fun e _ => loud_mongo e)
                    fun x h => h.commit (by decide : 201 < 300)
                  · refine ⟨data, hv, rfl, rfl, rfl, rfl, dbp.store, product, ?_, hproduct, rfl⟩
                    exact h.seen (List.mem_cons_of_mem _ List.mem_cons_self)
                  · refine ⟨dbu.store, user, ?_, huser, rfl⟩
                    exact h.seen
                      (List.mem_cons_of_mem _ (List.mem_cons_of_mem _ List.mem_cons_self))

end Sale

/-! ## Reversing sales -/

theorem restock_behaves {R : Reads} {id prd : ObjectId} {dbs dbi : Db}
    (h : Open (.deleteSalesRecord id prd) R x) (hsales : (.sale id, dbs.store) ∈ R)
    (hinventories : (.inventories prd, dbi.store) ∈ R) :
    Behaves (.stock (.deleteSalesRecord id prd)) caller (StillOpen (.deleteSalesRecord id prd) [])
      (restock prd (Query.eval (.sale id) dbs.store)
        (Query.eval (.inventories prd) dbi.store)) x := by
  have hweaken {R' : Reads} {x : Exchange × Notes} (h : Open (.deleteSalesRecord id prd) R' x) :
      Open (.deleteSalesRecord id prd) [] x := ⟨⟨h.session, by simp, h.sent⟩, h.sold⟩
  cases hl : Query.eval (.inventories prd) dbi.store with
  | nil =>
      refine h.read fun dbl x h => ?_
      cases hlast : List.head? (Query.eval (.lasts prd) dbl.store) with
      | none => exact loud_typeError
      | some last =>
          cases hsale : Query.eval (.sale id) dbs.store with
          | none => exact loud_typeError
          | some sale =>
              refine h.newId fun n x h hn => ?_
              have hfound : last ∈ dbl.store.lasts.docs := (Store.mem_lastsOf_head hlast).1
              have hsold : sale ∈ dbs.store.sales.docs := (Collection.get?_eq_some_iff.1 hsale).1
              rw [← Prog.bind_done (inSession (.saveInventory (last.toInventory n sale.quantity)))]
              exact h.inSession (.rebuild n dbl.store dbs.store last sale hn
                (h.seen List.mem_cons_self) (h.seen (List.mem_cons_of_mem _ hsales)) hfound hsold)
                rfl (fun e _ _ => loud_mongo e) fun _ _ _ _ _ h => hweaken h
  | cons first rest =>
      cases hsale : Query.eval (.sale id) dbs.store with
      | none => exact loud_typeError
      | some sale =>
          have hfirst : first ∈ dbi.store.inventories.docs := by
            have hmem : first ∈ dbi.store.liveBatches prd := by
              rw [show dbi.store.liveBatches prd = first :: rest from hl]
              exact List.mem_cons_self
            exact (List.mem_filter.1 (List.mem_filter.1 hmem).1).1
          have hsold : sale ∈ dbs.store.sales.docs := (Collection.get?_eq_some_iff.1 hsale).1
          rw [← Prog.bind_done (restock prd (some sale) (first :: rest))]
          exact h.inSession (.restock dbi.store dbs.store first sale (h.seen hinventories)
            (h.seen hsales) hfirst hsold) rfl (fun e _ _ => loud_mongo e)
            fun _ _ _ _ _ h => hweaken h

theorem deleteSalesRecord_behaves (id prd : ObjectId) (h : Arrived x) :
    Behaves (.stock (.deleteSalesRecord id prd)) caller Ended
      (deleteSalesRecord id prd caller) x := by
  refine h.read fun db x h => ?_
  split
  · exact behaves_refuse h.uncommitted (by decide)
  refine h.withTransaction (fun x h => ?_) fun _ _ _ hx => behaves_refuse hx (by decide)
  refine h.read fun dbs x h => h.read fun dbi x h => ?_
  refine Prog.Ensures.bind (restock_behaves h (List.mem_cons_of_mem _ List.mem_cons_self)
    List.mem_cons_self) (fun _ x h => ?_) fun _ _ he => he
  refine h.inSession .reversed rfl (fun e _ _ => loud_mongo e) fun _ _ _ x _ h => ?_
  exact h.commit (by decide)

/-- The batch in memory is one of `s`, credited with the pieces of sales of `s'`. -/
def CreditedFrom (s s' : Store) (inv : Inventory) : Prop :=
  ∃ b ∈ s.inventories.docs, ∃ credited : List Sale, (∀ sale ∈ credited, sale ∈ s'.sales.docs) ∧
    inv = { b with quantity := b.quantity + (credited.map fun sale => sale.quantity).sum }

theorem CreditedFrom.credit {s s' : Store} {inv : Inventory} {sale : Sale}
    (h : CreditedFrom s s' inv) (hsale : sale ∈ s'.sales.docs) :
    CreditedFrom s s' { inv with quantity := inv.quantity + sale.quantity } := by
  obtain ⟨b, hb, credited, hcredited, rfl⟩ := h
  refine ⟨b, hb, credited ++ [sale], ?_, ?_⟩
  · intro d hd
    rcases List.mem_append.1 hd with hd | hd
    · exact hcredited d hd
    · rwa [List.mem_singleton.1 hd]
  · simp [add_assoc]

/-- The batch that is credited stays in the list. -/
theorem creditFirst_creditedFrom {s s' : Store} {sale : Sale} (hsale : sale ∈ s'.sales.docs)
    {l l' : List Inventory} {found : Inventory} (hl : ∀ inv ∈ l, CreditedFrom s s' inv)
    (h : creditFirst sale.product sale.quantity l = some (found, l')) :
    CreditedFrom s s' found ∧ ∀ inv ∈ l', CreditedFrom s s' inv := by
  induction l generalizing l' with
  | nil => cases h
  | cons inv rest ih =>
      obtain ⟨hinv, hrest⟩ := List.forall_mem_cons.1 hl
      simp only [creditFirst] at h
      split at h
      · cases h
        exact ⟨hinv.credit hsale, List.forall_mem_cons.2 ⟨hinv.credit hsale, hrest⟩⟩
      · obtain ⟨⟨found', rest'⟩, hr, he⟩ := Option.map_eq_some_iff.1 h
        cases he
        obtain ⟨hfound, hrest'⟩ := ih hrest hr
        exact ⟨hfound, List.forall_mem_cons.2 ⟨hinv, hrest'⟩⟩

theorem reverseLoop_behaves {R : Reads} {s s' : Store} {sales : List Sale}
    {inventories : List Inventory} (h : Open .deleteAllSales R x)
    (hs : (.allInventories, s) ∈ R) (hs' : (.allSales, s') ∈ R)
    (hsales : ∀ sale ∈ sales, sale ∈ s'.sales.docs)
    (hinventories : ∀ inv ∈ inventories, CreditedFrom s s' inv) :
    Behaves (.stock .deleteAllSales) caller Ended (reverseLoop sales inventories) x := by
  induction sales generalizing inventories x with
  | nil => exact h.commit (by decide)
  | cons sale rest ih =>
      obtain ⟨hsale, hrest⟩ := List.forall_mem_cons.1 hsales
      simp only [reverseLoop]
      cases hc : creditFirst sale.product sale.quantity inventories with
      | none => exact h.abort (by decide)
      | some r =>
          obtain ⟨found, inventories'⟩ := r
          obtain ⟨hfound, hinventories'⟩ := creditFirst_creditedFrom hsale hinventories hc
          obtain ⟨b, hb, credited, hcredited, rfl⟩ := hfound
          refine h.inSession (.restockAll s s' b credited (h.seen hs) (h.seen hs') hb hcredited) rfl
            (fun e _ _ => loud_mongo e) fun _ _ _ x _ h => ?_
          refine h.inSession (.reversedAll _) rfl (fun e _ _ => loud_mongo e)
            fun _ _ _ x _ h => ?_
          exact ih h hrest hinventories'

theorem deleteAllSales_behaves (h : Arrived x) :
    Behaves (.stock .deleteAllSales) caller Ended deleteAllSales x := by
  refine h.withTransaction (fun x h => ?_) fun _ _ _ hx => behaves_refuse hx (by decide)
  refine h.read fun dbs x h => h.read fun dbi x h => ?_
  refine reverseLoop_behaves h List.mem_cons_self (List.mem_cons_of_mem _ List.mem_cons_self)
    (fun _ hsale => hsale) fun inv hinv => ?_
  exact ⟨inv, (List.mem_filter.1 hinv).1, [], by simp, by simp⟩

/-! ## Deleting products and batches -/

/-- The calls to Cloudinary leave the session alone. -/
theorem Open.destroyAll {request : Request} {R : Reads} (h : Open request R x)
    (l : List (Option String)) :
    Behaves (.stock request) caller (StillOpen request R) (Model.destroyAll l) x := by
  induction l generalizing x with
  | nil => exact h
  | cons element rest ih =>
      intro db
      refine ⟨trivial, ?_⟩
      simp only [notedSem, Sem.ghost, sem, execDestroy]
      split
      · exact loud_cloudinary
      · exact ih ⟨⟨h.session, h.reads, h.sent⟩, h.sold⟩

theorem userDeleteProduct_behaves (id : ObjectId) (h : Arrived x) :
    Behaves (.stock (.userDeleteProduct id)) caller Ended (userDeleteProduct id) x := by
  refine h.withTransaction (fun x h => h.read fun db x h => ?_)
    fun e _ he hx => behaves_refuse hx he
  cases Query.eval (.product id) db.store with
  | none => exact behaves_refuse h.uncommitted (by decide)
  | some item =>
      refine h.inSession .dropSales rfl (fun e _ _ => loud_mongo e) fun _ _ _ x _ h => ?_
      refine h.inSession .dropInventories rfl (fun e _ _ => loud_mongo e) fun _ _ _ x _ h => ?_
      refine h.inSession .dropCosts rfl (fun e _ _ => loud_mongo e) fun _ _ _ x _ h => ?_
      refine h.inSession .dropLasts rfl (fun e _ _ => loud_mongo e) fun _ _ _ x _ h => ?_
      refine h.inSession .dropProduct rfl (fun e _ _ => loud_mongo e) fun _ _ _ x _ h => ?_
      split
      · exact Prog.Ensures.bind (h.destroyAll item.cloudId)
          (fun _ x h => h.commit (by decide)) fun _ _ he => he
      · exact h.commit (by decide)

theorem deleteInventory_behaves (id : ObjectId) (h : Arrived x) :
    Behaves (.stock (.deleteInventory id)) caller Ended (deleteInventory id caller) x := by
  refine h.read fun db x h => ?_
  split
  · refine h.withTransaction (fun x h => ?_) fun _ _ _ hx => behaves_refuse hx (by decide)
    refine h.inSession .dropBatch rfl (fun e _ _ => loud_mongo e) fun _ _ _ x _ h => ?_
    refine h.inSession .dropCost rfl (fun e _ _ => loud_mongo e) fun _ _ _ x _ h => ?_
    exact h.commit (by decide)
  · exact behaves_refuse h.uncommitted (by decide)

/-! ## Writes without a session -/

theorem behaves_direct {α : Type} {w : WriteRequest} {Q : Except JsError α → _ → Prop}
    {c : Command} {f : c.Result → Js α} (hc : IssuesDirect x.1 w c)
    (herr : ∀ e, Q (.error (.mongo e)) x) (k : ∀ r, Behaves w caller Q (f r) x) :
    Behaves w caller Q (direct c >>= f) x := by
  intro db
  refine ⟨hc, ?_⟩
  simp only [notedSem, Sem.ghost, sem, execDirect]
  split
  · exact herr _
  · split
    · exact k _
    · exact herr _

theorem editCost_behaves {id : ObjectId} {data : EditBody} {R : Reads}
    (quantity : Option JsNumber) (h : Open (.editInventory id data) R x) :
    Behaves (.stock (.editInventory id data)) caller (StillOpen (.editInventory id data) R)
      (editCost id data quantity) x := by
  unfold editCost
  split
  · refine behaves_direct (.editCost _) (fun e => loud_mongo e) fun cost => ?_
    cases cost with
    | none => exact loud_typeError
    | some cost =>
        change Behaves _ _ _ (inSession (.touchCost cost)) x
        rw [← Prog.bind_done (inSession (.touchCost cost))]
        exact h.inSession (.touchCost _) rfl (fun e _ _ => loud_mongo e) fun _ _ _ _ _ h => h
  · exact h

theorem editInventory_behaves (id : ObjectId) (data : EditBody) (h : Arrived x) :
    Behaves (.stock (.editInventory id data)) caller Ended (editInventory id data caller) x := by
  refine h.read fun db x h => ?_
  split
  · refine h.withTransaction (fun x h => ?_) fun _ _ _ hx => behaves_refuse hx (by decide)
    refine h.read fun dbi x h => ?_
    cases Query.eval (.inventory id) dbi.store with
    | none => exact loud_typeError
    | some batch =>
        simp only [Prog.done_bind, orTypeError_some]
        cases editQuantities batch data with
        | none => exact h.abort (by decide)
        | some quantities =>
            obtain ⟨quantity, initialQuantity⟩ := quantities
            refine behaves_direct (.editBatch _) (fun e => loud_mongo e) fun updated => ?_
            cases updated with
            | none => exact loud_typeError
            | some updated =>
                refine h.inSession (.touchInventory _) rfl (fun e _ _ => loud_mongo e)
                  fun _ _ _ x _ h => ?_
                exact Prog.Ensures.bind (editCost_behaves quantity h)
                  (fun _ x h => h.commit (by decide)) fun _ _ he => he
  · exact behaves_refuse h.uncommitted (by decide)

theorem editProduct_behaves (id : ObjectId) (data : ProductUpdate) :
    Behaves (.catalog (.editProduct id data)) caller Ended (editProduct id data) x := by
  have hsend {x : Exchange × Notes} (a : Response) :
      Behaves (.catalog (.editProduct id data)) caller Ended (send a) x :=
    behaves_send (fun _ hr => by cases hr) (fun _ => trivial) fun _ => loud_headersSent
  have hupdate (x : Exchange × Notes) :
      Behaves (.catalog (.editProduct id data)) caller Ended (direct (.updateProduct id data) >>=
        fun result => send (Msg (.products result) requestSuccessful 200)) x :=
    behaves_direct .editProduct (fun e => loud_mongo e) fun _ => hsend _
  refine Prog.Ensures.tryCatch (Q := Ended) ?_ (fun _ _ _ => trivial) fun _ _ _ => hsend _
  refine behaves_read fun db x _ => ?_
  split
  · exact Prog.Ensures.bind (hsend _) (fun _ x _ => hupdate x) fun _ _ he => he
  · exact hupdate _

theorem destroyAll_behaves {w : WriteRequest} (l : List (Option String)) :
    Behaves w caller Ended (destroyAll l) x := by
  induction l generalizing x with
  | nil => trivial
  | cons element rest ih =>
      intro db
      refine ⟨trivial, ?_⟩
      simp only [notedSem, Sem.ghost, sem, execDestroy]
      split
      · exact loud_cloudinary
      · exact ih

theorem adminDeleteProduct_behaves (id : ObjectId) :
    Behaves (.catalog (.adminDeleteProduct id)) caller Ended (adminDeleteProduct id) x := by
  have hsend {x : Exchange × Notes} (a : Response) :
      Behaves (.catalog (.adminDeleteProduct id)) caller Ended (send a) x :=
    behaves_send (fun _ hr => by cases hr) (fun _ => trivial) fun _ => loud_headersSent
  refine Prog.Ensures.tryCatch (Q := Ended) ?_ (fun _ _ _ => trivial) fun _ _ _ => hsend _
  refine behaves_read fun db x _ => ?_
  cases Query.eval (.product id) db.store with
  | none => exact loud_typeError
  | some item =>
      refine behaves_direct .hide (fun e => loud_mongo e) fun _ => ?_
      split
      · exact Prog.Ensures.bind (destroyAll_behaves item.cloudId) (fun _ _ _ => hsend _)
          fun _ _ he => he
      · exact hsend _

theorem updateProduct_behaves (id : ObjectId) (data : ProductUpdate) :
    Behaves (.updateProduct id data) caller Ended (updateProduct id data >>= fun _ => pure ())
      x := by
  refine behaves_read fun db x _ => ?_
  cases hp : Query.eval (.product id) db.store with
  | none => exact loud_exception _
  | some product =>
      obtain rfl : product._id = id := (Store.mem_of_findProduct hp).2
      exact behaves_direct .updateProduct (fun e => loud_mongo e) fun _ => trivial

theorem updateProductStatus_behaves (id : ObjectId) (status : Option Status)
    (available : Option Bool) :
    Behaves (.updateProductStatus id status available) caller Ended
      (updateProductStatus id status available >>= fun _ => pure ()) x := by
  refine behaves_read fun db x hseen => ?_
  cases hp : Query.eval (.product id) db.store with
  | none => exact loud_exception _
  | some product =>
      obtain rfl : product._id = id := (Store.mem_of_findProduct hp).2
      exact behaves_direct (.status db.store product hseen hp) (fun e => loud_mongo e)
        fun _ => trivial

/-! ## All of them -/

/-- Every handler that writes keeps to `May`. -/
theorem writeHandler_behaves (request : WriteRequest) (caller : Caller) (env : Env) :
    Behaves request caller Ended (writeHandler request caller) (.init env, .init) := by
  have h : Arrived (.init env, .init) := ⟨rfl, rfl, rfl⟩
  match request with
  | .stock (.addProduct body) => exact addProduct_behaves body h
  | .stock (.addInventory id body) => exact addInventory_behaves id body h
  | .stock (.recordSales id body) => exact recordSales_behaves id body h
  | .stock (.deleteSalesRecord id prd) => exact deleteSalesRecord_behaves id prd h
  | .stock .deleteAllSales => exact deleteAllSales_behaves h
  | .stock (.userDeleteProduct id) => exact userDeleteProduct_behaves id h
  | .stock (.deleteInventory id) => exact deleteInventory_behaves id h
  | .stock (.editInventory id data) => exact editInventory_behaves id data h
  | .catalog (.editProduct id data) => exact editProduct_behaves id data
  | .catalog (.adminDeleteProduct id) => exact adminDeleteProduct_behaves id
  | .updateProduct id data => exact updateProduct_behaves id data
  | .updateProductStatus id status available =>
      exact updateProductStatus_behaves id status available

end InventoryHero.Concurrent
