import InventoryHero.Serial.Origin

/-!
# Exact outcomes

`Effect` says what a request can do to the database; here it is said what the request does. An
`Outcome` is a function of the store alone: the writes that take effect, given the first id that is
still free, how many ids are drawn, and what is answered. `Served` ties it to the run of the
handler. Ids in use are taken to be below the counter (`AllFresh`), so that a new document is never
refused.

The catch blocks answer a request that failed before its commit. After a commit that failed, and
after a second answer, the abort in the catch block throws and nothing more is answered
(`Underway.commit`).
-/

set_option autoImplicit false

namespace InventoryHero.Serial

open Interaction Storage Model Stock

/-- What a request served alone comes to: the writes that take effect, given the first new id, the
number of ids drawn, the statuses answered, and whether its transaction is committed. -/
structure Outcome where
  writes : ObjectId → Writes
  fresh : Nat
  statuses : List Nat
  committed : Bool

namespace Outcome

/-- Nothing is written. -/
def idle (fresh : Nat) (statuses : List Nat) : Outcome := ⟨fun _ => {}, fresh, statuses, false⟩

/-- The end of a transaction: the commit, then the answer `status` unless there was one before. -/
def commit (env : Env) (fresh : Nat) (before : List Nat) (status : Nat)
    (writes : ObjectId → Writes) : Outcome :=
  if env.commitFails then idle fresh before
  else ⟨writes, fresh, if before = [] then [status] else before, true⟩

end Outcome

/-- The request that started with the database `db` came to `o`. -/
structure Served (db : Db) (o : Outcome) (F : Final Db Exchange JsError Unit) : Prop where
  store : F.shared.store = db.store.apply (o.writes db.nextId)
  next : F.shared.nextId = db.nextId + o.fresh
  statuses : F.loc.sent.map Response.status = o.statuses
  committed : (∃ w, F.loc.session = .committed w) ↔ o.committed = true

/-- All ids in use are below the counter. -/
structure AllFresh (db : Db) : Prop extends FreshIds db where
  sale : ∀ sale ∈ db.store.sales.docs, sale._id < db.nextId
  costId : ∀ cost ∈ db.store.costs.docs, cost._id < db.nextId

theorem allFresh_of_isEmpty {db : Db} (h : db.IsEmpty) : AllFresh db :=
  ⟨freshIds_of_isEmpty h, by simp [h.2.2.1], by simp [h.2.2.2.1]⟩

theorem AllFresh.effect {db db' : Db} {c : Call} (h : AllFresh db) (e : Effect db c db') :
    AllFresh db' := by
  have hnext := e.next
  refine ⟨h.toFreshIds.effect e, fun sale hs => ?_, fun cost hc => ?_⟩
  · rcases e.mem_sales hs with hold | hlt
    · exact (h.sale sale hold).trans_le hnext
    · exact hlt
  · rcases e.mem_costs hc with ⟨old, hold, -, hid, -⟩ | ⟨-, hlt, -⟩
    · exact hid ▸ (h.costId old hold).trans_le hnext
    · exact hlt

/-- Requests keep the ids in use below the counter. -/
theorem AllFresh.serveAll {db : Db} (h : AllFresh db) (calls : List Call) :
    AllFresh (Model.serveAll calls db) := by
  induction calls generalizing db with
  | nil => exact h
  | cons c calls ih => exact ih (h.effect (serve_effect c db))

/-- The body of a transaction ends so that, after the catch block, the request came to `o`. -/
def Ends (db : Db) (o : Outcome) (onError : JsError → Js Unit)
    (F : Final Db Exchange JsError Unit) : Prop :=
  F.elim (fun a db' x' => Served db o ⟨db', x', .ok a⟩)
    (fun e db' x' => (abortTransaction >>= fun _ => onError e).Wp sem (Served db o) db' x')

/-- An open transaction that has drawn `k` ids and whose writes the store accepts. -/
structure Underway (db₀ : Db) (env : Env) (w : Writes) (sent : List Response) (k : Nat) (db : Db)
    (x : Exchange) : Prop extends Opened db₀ env w sent db x where
  accepted : db₀.store.accepts w = true
  drawn : db.nextId = db₀.nextId + k

variable {db₀ db : Db} {env : Env} {w : Writes} {sent : List Response} {x : Exchange} {k : Nat}
  {α : Type} {Q : Final Db Exchange JsError α → Prop}

theorem served_withTransaction (env : Env) {o : Outcome} {body : Js Unit}
    {onError : JsError → Js Unit} (henv : x.env = env) (hsent : x.sent = [])
    (h : ∀ x', Underway db env {} [] 0 db x' → body.Wp sem (Ends db o onError) db x') :
    (withTransaction body onError).Wp sem (Served db o) db x := by
  subst henv
  refine wp_withTransaction fun x' hx => h x' ?_
  exact ⟨hsent ▸ hx, rfl, rfl⟩

/-- A request that answers before it opens a transaction. -/
theorem served_send {r : Response} (hs : x.session = .idle) (hx : x.sent = []) :
    (Model.send r).Wp sem (Served db (.idle 0 [r.status])) db x := by
  refine wp_send fun x' res hsession hfirst _ => ?_
  rw [hs] at hsession
  exact ⟨rfl, rfl, by simp [hfirst hx, Outcome.idle], by simp [hsession, Outcome.idle]⟩

/-- A body that throws while its transaction is open: the catch block answers. -/
theorem ends_throw {t : Txn} {writes : ObjectId → Writes} {r : Response}
    (hs : x.session = .inProgress t) (hsent : x.sent = [])
    (hst : db.store = db₀.store.apply (writes db₀.nextId)) (hn : db.nextId = db₀.nextId + k)
    (e : JsError) :
    Ends db₀ ⟨writes, k, [r.status], false⟩ (fun _ => Model.send r) ⟨db, x, .error e⟩ := by
  refine wp_issue ?_
  simp only [sem, execAbort, hs]
  refine wp_send fun x' res hsession hfirst _ => ?_
  exact ⟨hst, hn, by simp [hfirst hsent], by simp [hsession]⟩

namespace Underway

theorem read (h : Underway db₀ env w sent k db x) {q : Query} {f : q.Result → Js α}
    (next : ∀ x', Underway db₀ env w sent k db x' → (f (q.eval db₀.store)).Wp sem Q db x') :
    (Model.read q >>= f).Wp sem Q db x :=
  h.toOpened.read fun x' h' => next x' ⟨h', h.accepted, h.drawn⟩

theorem newId (h : Underway db₀ env w sent k db x) {f : ObjectId → Js α}
    (next : ∀ db', Underway db₀ env w sent (k + 1) db' x →
      (f (db₀.nextId + k)).Wp sem Q db' x) :
    (Model.newId >>= f).Wp sem Q db x := by
  refine h.toOpened.nextId fun db' hn h' => ?_
  rw [h.drawn] at hn ⊢
  exact next db' ⟨h', h.accepted, hn⟩

/-- A write whose plan is accepted is added to those of the transaction. -/
theorem write (h : Underway db₀ env w sent k db x) {c : Command} {f : c.Result → Js α}
    {w' : Writes} {r : c.Result} (hplan : c.plan (db₀.store.apply w) = .ok (w', r))
    (hacc : (db₀.store.apply w).accepts w' = true)
    (next : ∀ x', Underway db₀ env (w ++ w') sent k db x' → (f r).Wp sem Q db x') :
    (Model.inSession c >>= f).Wp sem Q db x :=
  h.toOpened.write hplan hacc fun x' h' =>
    next x' ⟨h', (db₀.store.accepts_append w w').2 ⟨h.accepted, hacc⟩, h.drawn⟩

/-- A write whose plan is refused throws. -/
theorem refuse (h : Underway db₀ env w sent k db x) {c : Command} {f : c.Result → Js α}
    {e : MongoError} (hplan : c.plan (db₀.store.apply w) = .error e)
    (herr : ∀ e' x', Underway db₀ env w sent k db x' → Q ⟨db, x', .error e'⟩) :
    (Model.inSession c >>= f).Wp sem Q db x :=
  h.toOpened.refuse hplan fun e' x' h' => herr e' x' ⟨h', h.accepted, h.drawn⟩

/-- The same rules for a write that ends a program. -/
theorem write_last (h : Underway db₀ env w sent k db x) {c : Command}
    {Q : Final Db Exchange JsError c.Result → Prop} {w' : Writes} {r : c.Result}
    (hplan : c.plan (db₀.store.apply w) = .ok (w', r))
    (hacc : (db₀.store.apply w).accepts w' = true)
    (next : ∀ x', Underway db₀ env (w ++ w') sent k db x' → Q ⟨db, x', .ok r⟩) :
    (Model.inSession c).Wp sem Q db x := by
  rw [← Prog.bind_done (Model.inSession c)]
  exact h.write hplan hacc next

theorem refuse_last (h : Underway db₀ env w sent k db x) {c : Command}
    {Q : Final Db Exchange JsError c.Result → Prop} {e : MongoError}
    (hplan : c.plan (db₀.store.apply w) = .error e)
    (herr : ∀ e' x', Underway db₀ env w sent k db x' → Q ⟨db, x', .error e'⟩) :
    (Model.inSession c).Wp sem Q db x := by
  rw [← Prog.bind_done (Model.inSession c)]
  exact h.refuse hplan herr

/-- The last answer of the body, with the transaction open or aborted. -/
theorem ends_send (h : Underway db₀ env w [] k db x) {x' : Exchange} (hsent : x'.sent = [])
    (hsession : ∀ w', x'.session ≠ .committed w') {r : Response} {onError : JsError → Js Unit} :
    (Model.send r).Wp sem (Ends db₀ (.idle k [r.status]) onError) db x' := by
  refine wp_send fun x₁ res hs hfirst _ => ?_
  obtain ⟨hx₁, rfl⟩ := hfirst hsent
  exact ⟨h.store, h.drawn, by simp [hx₁, Outcome.idle], by simp [hs, hsession, Outcome.idle]⟩

/-- An answer in the open transaction. -/
theorem answer (h : Underway db₀ env w [] k db x) {r : Response} {onError : JsError → Js Unit} :
    (Model.send r).Wp sem (Ends db₀ (.idle k [r.status]) onError) db x := by
  obtain ⟨snap, hs, -⟩ := h.session
  exact h.ends_send h.sent_eq (by simp [hs])

/-- An answer after an abort. -/
theorem abortAnswer (h : Underway db₀ env w [] k db x) {r : Response}
    {onError : JsError → Js Unit} :
    (abortTransaction >>= fun _ => Model.send r).Wp sem
      (Ends db₀ (.idle k [r.status]) onError) db x :=
  h.abort fun _ hs hsent => h.ends_send hsent (by simp [hs])

/-- A body that throws before its commit has written nothing. -/
theorem throw (h : Underway db₀ env w [] k db x) (e : JsError) {r : Response} :
    Ends db₀ (.idle k [r.status]) (fun _ => Model.send r) ⟨db, x, .error e⟩ := by
  obtain ⟨snap, hs, -⟩ := h.session
  exact ends_throw hs h.sent_eq h.store h.drawn e

/-- The end of a transaction. The catch block answers nothing: if it is reached at all, the
transaction is over and the abort throws. -/
theorem commit (h : Underway db₀ env w sent k db x) {writes : ObjectId → Writes}
    (hw : db₀.store.apply w = db₀.store.apply (writes db₀.nextId)) {r : Response}
    {onError : JsError → Js Unit} :
    (commitTransaction >>= fun _ => Model.send r).Wp sem
      (Ends db₀ (.commit env k (sent.map Response.status) r.status writes) onError) db x := by
  refine h.commit_cases ?_ (fun hno => absurd hno (by simp [h.accepted])) ?_
  · intro hfails e x' hs hsent
    refine wp_abort_over (by simp [hs]) fun _ => ⟨?_, ?_, ?_, ?_⟩ <;>
      simp [Outcome.commit, Outcome.idle, hfails, h.store, h.drawn, hsent, hs]
  · intro hok _ db' x' hst hn hs hsent
    refine wp_send fun x'' res hsession hfirst hlater => ?_
    rw [hs] at hsession
    -- whatever the handler does next, the answer is the first one
    have hserved : ∀ res', Served db₀ (.commit env k (sent.map Response.status) r.status writes)
        ⟨db', x'', res'⟩ := by
      intro res'
      have hstatuses : x''.sent.map Response.status =
          if sent.map Response.status = [] then [r.status] else sent.map Response.status := by
        by_cases hnil : sent = []
        · simp [(hfirst (hsent.trans hnil)).1, hnil]
        · simp [hlater (hsent ▸ hnil), hsent, hnil]
      exact ⟨by simp [Outcome.commit, hok, hst, hw], by simp [Outcome.commit, hok, hn, h.drawn],
        by simp [Outcome.commit, hok, hstatuses], by simp [Outcome.commit, hok, hsession]⟩
    cases res with
    | ok u => exact hserved _
    | error e => exact wp_abort_over (by simp [hsession]) fun _ => hserved _

end Underway

/-! ## New documents are accepted -/

theorem accepts_new {δ : Type} [Keyed δ ObjectId] {c : Collection δ} {n : ObjectId} {d : δ}
    (h : ∀ a ∈ c.docs, Keyed.key a < n) (hn : n ≤ Keyed.key d) : c.accepts (.insert d) = true :=
  (c.accepts_insert_iff d).2 fun a ha => ((h a ha).trans_le hn).ne

namespace AllFresh

theorem accepts_batch (h : AllFresh db) {w : Writes} (hw : w.inventories = []) {batch : Inventory}
    (hn : db.nextId ≤ batch._id) :
    (db.store.apply w).accepts { inventories := [.insert batch] } = true := by
  have hins : db.store.inventories.accepts (.insert batch) = true := accepts_new h.batch hn
  simp [Store.accepts_iff, hw, hins]

theorem accepts_cost (h : AllFresh db) {w : Writes} (hw : w.costs = []) {cost : Cost}
    (hn : db.nextId ≤ cost._id) :
    (db.store.apply w).accepts { costs := [.insert cost] } = true := by
  have hins : db.store.costs.accepts (.insert cost) = true := accepts_new h.costId hn
  simp [Store.accepts_iff, hw, hins]

theorem accepts_sale (h : AllFresh db) {w : Writes} (hw : w.sales = []) {sale : Sale}
    (hn : db.nextId ≤ sale._id) :
    (db.store.apply w).accepts { sales := [.insert sale] } = true := by
  have hins : db.store.sales.accepts (.insert sale) = true := accepts_new h.sale hn
  simp [Store.accepts_iff, hw, hins]

end AllFresh

/-! ## Buying -/

/-- `addInventory`. -/
def addInventoryOutcome (s : Store) (id : ObjectId) (body : InventoryBody) (caller : Caller)
    (env : Env) : Outcome :=
  match s.users.get? caller._id, validateInventory body, s.findProduct id with
  | none, _, _ => .idle 0 [404]
  | some _, .error _, _ => .idle 0 [500]
  | some _, .ok _, none => .idle 0 [404]
  | some user, .ok data, some _ =>
      -- the schema refuses a buyer without a name, and a unit cost that is not a number
      if user.createdBy.valid = true ∧ JsNumber.div data.costPrice data.quantity ≠ .nan then
        .commit env 2 [] 200 fun n =>
          { products := priceWrites id data.price
            inventories := [.insert (newBatch n id data.quantity data.costPrice data.batch
              data.price data.expiryDate user.createdBy (body.transactionDate.getD env.now))]
            costs := [.insert
              { _id := n + 1, product := id, quantity := data.quantity, cost := data.costPrice
                inventoryId := n, createdBy := user.createdBy
                createdAt := body.transactionDate.getD env.now }] }
      else .idle 1 [500]

theorem addInventory_outcome (hids : AllFresh db) (id : ObjectId) (body : InventoryBody)
    (caller : Caller) (env : Env) :
    Served db (addInventoryOutcome db.store id body caller env)
      (serve ⟨.addInventory id body, caller, env⟩ db) := by
  refine served_withTransaction env rfl rfl fun x hx => ?_
  refine hx.read fun x hx => ?_
  cases huser : Query.eval (.user caller._id) db.store with
  | none =>
      change db.store.users.get? caller._id = none at huser
      simp only [addInventoryOutcome, huser]
      exact hx.answer (r := notAuthorized)
  | some user =>
      change db.store.users.get? caller._id = some user at huser
      refine hx.now ?_
      cases hv : validateInventory body with
      | error e =>
          simp only [addInventoryOutcome, huser, hv]
          exact hx.throw (.exception e 400) (r := .text 500 _)
      | ok data =>
          refine hx.read fun x hx => ?_
          cases hfound : Query.eval (.product id) db.store with
          | none =>
              change db.store.findProduct id = none at hfound
              simp only [addInventoryOutcome, huser, hv, hfound]
              exact hx.answer (r := productNotFound)
          | some product =>
              change db.store.findProduct id = some product at hfound
              simp only [addInventoryOutcome, huser, hv, hfound]
              have hprice : (db.store.apply {}).accepts { products := priceWrites id data.price } =
                  true := by simp [Store.accepts_iff]
              refine hx.write (c := .updateCurrentPrice id data.price) rfl hprice fun x hx => ?_
              -- the product is there, so the update returns it, under the same id
              have hget := Store.get?_of_findProduct hfound
              obtain ⟨-, rfl⟩ := Store.mem_of_findProduct hfound
              simp only [Store.apply_empty, hget, Option.map_some]
              refine hx.newId fun db₁ hx => ?_
              by_cases hvalid : user.createdBy.valid = true ∧
                  JsNumber.div data.costPrice data.quantity ≠ .nan
              · rw [if_pos hvalid]
                refine hx.write (c := .saveInventory _) (if_pos (Inventory.valid_iff.2 hvalid))
                  (hids.accepts_batch rfl le_rfl) fun x hx => ?_
                refine hx.newId fun db₂ hx => ?_
                refine hx.write (c := .saveCost _) (if_pos hvalid.1)
                  (hids.accepts_cost rfl (Nat.le_succ _)) fun x hx => ?_
                refine hx.commit ?_
                simp only [Writes.mk_append, List.nil_append, List.append_nil]
                rfl
              · rw [if_neg hvalid]
                exact hx.refuse (c := .saveInventory _)
                  (if_neg fun hv => hvalid (Inventory.valid_iff.1 hv))
                  fun e _ hx' => hx'.throw e (r := .text 500 _)

/-! ## Deleting a batch -/

/-- `deleteInventory`. -/
def deleteInventoryOutcome (s : Store) (id : ObjectId) (caller : Caller) (env : Env) : Outcome :=
  if isAdmin (s.users.get? caller._id) then
    .commit env 0 [] 200 fun _ =>
      { inventories := [.delete id]
        costs := (s.costOf id).elim [] fun cost => [.delete cost._id] }
  else .idle 0 [404]

theorem deleteInventory_outcome (db : Db) (id : ObjectId) (caller : Caller) (env : Env) :
    Served db (deleteInventoryOutcome db.store id caller env)
      (serve ⟨.deleteInventory id, caller, env⟩ db) := by
  refine wp_read (Q := Served db _) ?_
  cases hadmin : isAdmin (Query.eval (.user caller._id) db.store) with
  | false =>
      change isAdmin (db.store.users.get? caller._id) = false at hadmin
      simp only [deleteInventoryOutcome, hadmin]
      exact served_send (r := notAuthorized) rfl rfl
  | true =>
      change isAdmin (db.store.users.get? caller._id) = true at hadmin
      simp only [deleteInventoryOutcome, hadmin, if_true]
      refine served_withTransaction env rfl rfl fun x hx => ?_
      refine hx.write (c := .deleteInventory id) rfl rfl fun x hx => ?_
      -- the deletion of the batch leaves the cost records as they are
      cases hcost : db.store.costOf id with
      | none =>
          exact hx.write (plan_deleteCostOf_of_none hcost) rfl fun x hx => hx.commit rfl
      | some cost =>
          exact hx.write (plan_deleteCostOf_of_some hcost) rfl fun x hx => hx.commit rfl

/-! ## Reversing a sale -/

/-- `deleteSalesRecord`. -/
def deleteSalesRecordOutcome (s : Store) (id prd : ObjectId) (caller : Caller) (env : Env) :
    Outcome :=
  if caller.role ≠ .admin ∨ (s.users.get? caller._id).isNone then .idle 0 [404]
  else
    match s.liveBatches prd, (s.lastsOf prd).head?, s.sales.get? id with
    | first :: _, _, some sale =>
        if first.valid then
          .commit env 0 [] 200 fun _ =>
            { inventories := [.modify first._id (setQuantity (first.quantity + sale.quantity))]
              sales := [.delete id] }
        else .idle 0 [500]
    | [], some last, some sale =>
        if last.valid then
          .commit env 1 [] 200 fun n =>
            { inventories := [.insert (last.toInventory n sale.quantity)], sales := [.delete id] }
        else .idle 1 [500]
    -- the sale is missing, or there is no batch and no snapshot
    | _, _, _ => .idle 0 [500]

theorem deleteSalesRecord_outcome (hids : AllFresh db) (id prd : ObjectId) (caller : Caller)
    (env : Env) :
    Served db (deleteSalesRecordOutcome db.store id prd caller env)
      (serve ⟨.deleteSalesRecord id prd, caller, env⟩ db) := by
  refine wp_read (Q := Served db _) ?_
  split
  case isTrue hadmin =>
    have hout : deleteSalesRecordOutcome db.store id prd caller env = _ := if_pos hadmin
    rw [hout]
    exact served_send (r := notAuthorized) rfl rfl
  case isFalse hadmin =>
    have hout : deleteSalesRecordOutcome db.store id prd caller env = _ := if_neg hadmin
    rw [hout]
    refine served_withTransaction env rfl rfl fun x hx => ?_
    refine hx.read fun x hx => hx.read fun x hx => ?_
    refine Prog.Wp.bind ?_
    cases hl : Query.eval (.inventories prd) db.store with
    | nil =>
        change db.store.liveBatches prd = [] at hl
        refine hx.read fun x hx => ?_
        change Prog.Wp sem _ (orTypeError (db.store.lastsOf prd).head? >>= _) db x
        cases hlast : (db.store.lastsOf prd).head? with
        | none =>
            simp only [hl]
            exact hx.throw .typeError (r := internalServerError)
        | some last =>
            cases hsale : Query.eval (.sale id) db.store with
            | none =>
                change db.store.sales.get? id = none at hsale
                simp only [hl, hsale]
                exact hx.throw .typeError (r := internalServerError)
            | some sale =>
                change db.store.sales.get? id = some sale at hsale
                simp only [hl, hsale]
                refine hx.newId fun db₁ hx => ?_
                by_cases hvalid : last.valid = true
                · rw [if_pos hvalid]
                  refine hx.write_last (c := .saveInventory _) (if_pos hvalid)
                    (hids.accepts_batch rfl le_rfl) fun x hx => ?_
                  rw [Final.elim_ok]
                  refine hx.write (c := .deleteSale id) rfl rfl fun x hx => ?_
                  exact hx.commit (r := recordDeleted) rfl
                · rw [if_neg hvalid]
                  exact hx.refuse_last (c := .saveInventory _) (if_neg hvalid)
                    fun e _ hx' => hx'.throw e (r := internalServerError)
    | cons first rest =>
        change db.store.liveBatches prd = first :: rest at hl
        cases hsale : Query.eval (.sale id) db.store with
        | none =>
            change db.store.sales.get? id = none at hsale
            simp only [hl, hsale]
            exact hx.throw .typeError (r := internalServerError)
        | some sale =>
            change db.store.sales.get? id = some sale at hsale
            simp only [hl, hsale]
            by_cases hvalid : first.valid = true
            · -- the batch was just read, so it can be saved
              have hget : db.store.inventories.get? first._id = some first := by
                have hfirst : first ∈ db.store.liveBatches prd := by simp [hl]
                exact Collection.get?_of_mem (List.mem_filter.1 (List.mem_filter.1 hfirst).1).1
              rw [if_pos hvalid]
              refine hx.write_last (c := .saveQuantity _) (plan_saveQuantity_of_get hvalid hget) rfl
                fun x hx => ?_
              rw [Final.elim_ok]
              refine hx.write (c := .deleteSale id) rfl rfl fun x hx => ?_
              exact hx.commit (r := recordDeleted) rfl
            · rw [if_neg hvalid]
              exact hx.refuse_last (c := .saveQuantity _) (if_neg hvalid)
                fun e _ hx' => hx'.throw e (r := internalServerError)

/-! ## Editing a batch -/

/-- An edit that has stored `w`, comes to its commit and answers. -/
def editDone (w : Writes) (env : Env) : Outcome :=
  ⟨fun _ => w, 0, if env.commitFails then [] else [200], !env.commitFails⟩

/-- An edit that has stored `w` and throws. -/
def editBroken (w : Writes) : Outcome := ⟨fun _ => w, 0, [500], false⟩

/-- What `editInventory` stores and answers once the new data of the batch `id`, which was `batch`,
are known. With the batch already stored, the handler throws if it does not pass the schema or has
no cost record; and with the record stored, if that does not pass. -/
def editOutcome (s : Store) (id : ObjectId) (batch : Inventory) (data : EditBody)
    (quantity : Option JsNumber) (patch : Patch Inventory) (env : Env) : Outcome :=
  if (patch.apply batch).valid then
    if editsCost data quantity then
      match s.costOf id with
      | none => editBroken { inventories := [.modify id patch] }
      | some cost =>
          if cost.createdBy.valid then
            editDone { inventories := [.modify id patch]
                       costs := [.modify cost._id (editCostData data quantity).patch] } env
          else
            editBroken { inventories := [.modify id patch]
                         costs := [.modify cost._id (editCostData data quantity).patch] }
    else editDone { inventories := [.modify id patch] } env
  else editBroken { inventories := [.modify id patch] }

/-- `editInventory`. -/
def editInventoryOutcome (s : Store) (id : ObjectId) (data : EditBody) (caller : Caller)
    (env : Env) : Outcome :=
  if isAdmin (s.users.get? caller._id) then
    match s.findInventory id with
    | none => .idle 0 [500]
    | some batch =>
        match editQuantities batch data with
        | none => .idle 0 [400]
        | some (quantity, initialQuantity) =>
            match castQuantity quantity, castCpq (editCpq batch data quantity) with
            | .ok q, .ok cpq =>
                editOutcome s id batch data quantity
                  ((editUpdate batch data quantity initialQuantity).patch q cpq) env
            | _, _ => .idle 0 [500]
  else .idle 0 [404]

/-- `save()` of a document that is there and has no changes. -/
theorem wp_touch_ok {c : Command} {f : c.Result → Js α} {snap : Option (Nat × Store)}
    {r : c.Result} (hs : x.session = .inProgress ⟨snap, {}⟩)
    (hplan : c.plan (Txn.view ⟨snap, {}⟩ db) = .ok ({}, r))
    (next : ∀ x', x'.session = .inProgress ⟨some (Txn.begin ⟨snap, {}⟩ db), {}⟩ →
      x'.sent = x.sent → x'.env = x.env → (f r).Wp sem Q db x') :
    (inSession c >>= f).Wp sem Q db x := by
  refine wp_issue ?_
  simp only [sem, execInSession, hs, hplan, Store.accepts_empty, if_true]
  exact next _ rfl rfl rfl

/-- The end of a transaction without writes, after updates outside of it. -/
theorem ends_commit_idle {snap : Option (Nat × Store)} {writes : ObjectId → Writes} {r : Response}
    {onError : JsError → Js Unit} (hs : x.session = .inProgress ⟨snap, {}⟩) (hsent : x.sent = [])
    (henv : x.env = env) (hst : db.store = db₀.store.apply (writes db₀.nextId))
    (hn : db.nextId = db₀.nextId) :
    (commitTransaction >>= fun _ => Model.send r).Wp sem
      (Ends db₀ ⟨writes, 0, if env.commitFails then [] else [r.status], !env.commitFails⟩ onError)
      db x := by
  have hconf : Txn.conflicts ⟨snap, {}⟩ db = false := by simp [Txn.conflicts, Writes.keys]
  refine wp_issue ?_
  simp only [sem, execCommit, hs, hconf, henv]
  cases hf : env.commitFails with
  | true =>
      refine wp_abort_over (by simp) fun _ => ⟨?_, ?_, ?_, ?_⟩ <;> simp [hst, hn, hsent]
  | false =>
      simp only [Store.accepts_empty]
      refine wp_send fun x' res hsession hfirst _ => ?_
      obtain ⟨hx', rfl⟩ := hfirst hsent
      exact ⟨hst, hn, by simp [hx'], by simp [hsession]⟩

/-- A write without the session that is not refused. -/
theorem wp_direct_ok {c : Command} {f : c.Result → Js α} {w : Writes} {r : c.Result}
    (hplan : c.plan db.store = .ok (w, r)) (hacc : db.store.accepts w = true)
    (next : ∀ db', db'.store = db.store.apply w → db'.nextId = db.nextId →
      db'.oplog = db.oplog ++ [w.keys] → (f r).Wp sem Q db' x) :
    (direct c >>= f).Wp sem Q db x := by
  refine wp_direct (fun e href => ?_) fun w₁ r₁ db' hplan₁ hst hn hlog => ?_
  · exact absurd (href _ _ hplan) (by simp [hacc])
  · rw [hplan] at hplan₁
    cases hplan₁
    exact next db' hst hn hlog

section EditRest

variable {id : ObjectId} {data : EditBody} {quantity : Option JsNumber} {patch : Patch Inventory}
  {batch : Inventory} {snap : Option (Nat × Store)}

/-- The snapshot, taken before the update of the batch or after it, has the cost records as they
were. -/
theorem costs_begin (hst : db.store = db₀.store.apply { inventories := [.modify id patch] })
    (hsnap : snap.getD (db₀.oplog.length, db₀.store) = (db₀.oplog.length, db₀.store)) :
    (Txn.begin ⟨snap, {}⟩ db).2.costs = db₀.store.costs := by
  cases snap with
  | none =>
      change db.store.costs = _
      rw [hst]
      rfl
  | some v =>
      rw [Option.getD_some] at hsnap
      rw [hsnap]
      rfl

/-- The cost record is there when it is saved, which succeeds if the record passes the schema. -/
theorem plan_touchCost_of_costOf (db₁ : Db) {cost : Cost} (hcost : db₀.store.costOf id = some cost)
    (hst : db.store = db₀.store.apply { inventories := [.modify id patch] })
    (hsnap : snap.getD (db₀.oplog.length, db₀.store) = (db₀.oplog.length, db₀.store))
    (u : CostUpdate) :
    (Command.touchCost (u.patch.apply cost)).plan
        (Txn.view ⟨some (Txn.begin ⟨snap, {}⟩ db), {}⟩ db₁) =
      if cost.createdBy.valid then .ok ({}, ()) else .error .validation := by
  have hget : (Txn.view ⟨some (Txn.begin ⟨snap, {}⟩ db), {}⟩ db₁).costs.get? cost._id =
      some cost := by
    change (Txn.begin ⟨snap, {}⟩ db).2.costs.get? cost._id = some cost
    rw [costs_begin hst hsnap]
    exact Store.get?_of_costOf hcost
  simp only [Command.plan]
  rw [show (u.patch.apply cost)._id = cost._id from rfl, hget]
  rfl

/-- What follows the update of the batch. -/
theorem wp_editRest (hget : db₀.store.inventories.get? id = some batch) (hid : batch._id = id)
    (hst : db.store = db₀.store.apply { inventories := [.modify id patch] })
    (hn : db.nextId = db₀.nextId) (hs : x.session = .inProgress ⟨snap, {}⟩)
    (hsnap : snap.getD (db₀.oplog.length, db₀.store) = (db₀.oplog.length, db₀.store))
    (hsent : x.sent = []) (henv : x.env = env) :
    (inSession (.touchInventory (patch.apply batch)) >>= fun _ =>
      editCost id data quantity >>= fun _ => commitTransaction >>= fun _ =>
        Model.send (Msg (.field "message" "batch updated") requestSuccessful 200)).Wp sem
      (Ends db₀ (editOutcome db₀.store id batch data quantity patch env)
        fun _ => Model.send internalServerError) db x := by
  -- every exit but the last throws in the open transaction, with `w` stored
  have hbroken {w : Writes} {db₁ : Db} {x₁ : Exchange} (hst₁ : db₁.store = db₀.store.apply w)
      (hn₁ : db₁.nextId = db₀.nextId) (hidle : Idle x₁) (hsent₁ : x₁.sent = []) (e : JsError) :
      Ends db₀ (editBroken w) (fun _ => Model.send internalServerError) ⟨db₁, x₁, .error e⟩ := by
    obtain ⟨snap₁, hs₁⟩ := hidle
    exact ends_throw (k := 0) (r := internalServerError) hs₁ hsent₁ hst₁ hn₁ e
  have hplan := plan_touchInventory_of_get hget ((patch.key_apply batch).trans hid) hst hsnap
  unfold editOutcome
  by_cases hvalid : (patch.apply batch).valid = true
  · rw [if_pos hvalid] at hplan ⊢
    refine wp_touch_ok hs hplan fun x₁ hs₁ hsent₁ henv₁ => ?_
    rw [hsent] at hsent₁
    rw [henv] at henv₁
    unfold editCost
    by_cases he : editsCost data quantity = true
    · rw [if_pos he, if_pos he]
      refine Prog.Wp.bind ?_
      cases hcost : db₀.store.costOf id with
      | none =>
          have hnone : db.store.costOf id = none := by
            rw [hst]
            exact hcost
          refine wp_direct_ok (plan_updateCostOf_of_none _ hnone) rfl fun db₁ hst₁ hn₁ _ => ?_
          rw [hst, Store.apply_empty] at hst₁
          exact hbroken hst₁ (hn₁.trans hn) ⟨_, hs₁⟩ hsent₁ .typeError
      | some cost =>
          have hsome : db.store.costOf id = some cost := by
            rw [hst]
            exact hcost
          refine wp_direct_ok (plan_updateCostOf_of_some _ hsome) rfl fun db₁ hst₁ hn₁ _ => ?_
          rw [orTypeError_some, Prog.done_bind, ← Prog.bind_done (inSession _)]
          rw [hst, ← Store.apply_append] at hst₁
          have htouch := plan_touchCost_of_costOf db₁ hcost hst hsnap (editCostData data quantity)
          by_cases hname : cost.createdBy.valid = true
          · rw [if_pos hname] at htouch
            simp only [hname, if_true]
            refine wp_touch_ok hs₁ htouch fun x₂ hs₂ hsent₂ henv₂ => ?_
            exact ends_commit_idle hs₂ (hsent₂.trans hsent₁) (henv₂.trans henv₁) hst₁
              (hn₁.trans hn)
          · rw [if_neg hname] at htouch
            simp only [hname]
            refine wp_touch_refused hs₁ htouch fun x₂ hidle hsent₂ => ?_
            exact hbroken hst₁ (hn₁.trans hn) hidle (hsent₂.trans hsent₁) (.mongo .validation)
    · rw [if_neg he, if_neg he]
      exact ends_commit_idle hs₁ hsent₁ henv₁ hst hn
  · rw [if_neg hvalid] at hplan ⊢
    exact wp_touch_refused hs hplan fun x₁ hidle hsent₁ =>
      hbroken hst hn hidle (hsent₁.trans hsent) (.mongo .validation)

end EditRest

theorem editInventory_outcome (db : Db) (id : ObjectId) (data : EditBody) (caller : Caller)
    (env : Env) :
    Served db (editInventoryOutcome db.store id data caller env)
      (serve ⟨.editInventory id data, caller, env⟩ db) := by
  refine wp_read (Q := Served db _) ?_
  cases hadmin : isAdmin (Query.eval (.user caller._id) db.store) with
  | false =>
      change isAdmin (db.store.users.get? caller._id) = false at hadmin
      simp only [editInventoryOutcome, hadmin]
      exact served_send (r := notAuthorized) rfl rfl
  | true =>
      change isAdmin (db.store.users.get? caller._id) = true at hadmin
      simp only [editInventoryOutcome, hadmin, if_true]
      refine served_withTransaction env rfl rfl fun x hx => ?_
      refine hx.read fun x hx => ?_
      cases hfound : Query.eval (.inventory id) db.store with
      | none =>
          change db.store.findInventory id = none at hfound
          rw [hfound]
          exact hx.throw .typeError (r := internalServerError)
      | some batch =>
          change db.store.findInventory id = some batch at hfound
          rw [orTypeError_some, Prog.done_bind]
          simp only [hfound]
          cases hed : editQuantities batch data with
          | none => exact hx.abortAnswer (r := quantityConflict)
          | some edited =>
              obtain ⟨quantity, initialQuantity⟩ := edited
              dsimp only
              -- a number that cannot be cast makes the update throw
              have hrefused : (∀ q cpq, ¬(castQuantity quantity = .ok q ∧
                  castCpq (editCpq batch data quantity) = .ok cpq)) → ∀ f,
                  (direct (.updateInventory id
                    (editUpdate batch data quantity initialQuantity)) >>= f).Wp sem
                    (Ends db (.idle 0 [500]) fun _ => Model.send internalServerError) db x := by
                intro hcast f
                refine wp_direct (fun e _ => hx.throw e (r := internalServerError)) ?_
                intro w r db' hplan
                obtain ⟨q, cpq, hq, hc, -⟩ := plan_updateInventory hplan
                exact absurd ⟨hq, hc⟩ (hcast q cpq)
              cases hq : castQuantity quantity with
              | error e =>
                  simp only
                  exact hrefused (by simp [hq]) _
              | ok q =>
                  cases hc : castCpq (editCpq batch data quantity) with
                  | error e =>
                      simp only
                      exact hrefused (by simp [hc]) _
                  | ok cpq =>
                      have hget := Store.get?_of_findInventory hfound
                      have hid := (Store.mem_of_findInventory hfound).2
                      obtain ⟨snap, hs, hsnap⟩ := hx.session
                      refine wp_direct_ok (plan_updateInventory_of_cast hq hc)
                        (by split <;> rfl) fun db₁ hst hn _ => ?_
                      rw [apply_updateInventory hq hc] at hst
                      rw [hget, Option.map_some, orTypeError_some, Prog.done_bind]
                      exact wp_editRest hget hid hst hn hs hsnap hx.sent_eq hx.env_eq

end InventoryHero.Serial
