import InventoryHero.Serial.Commits
import InventoryHero.Model.Catalog

/-!
# One answer, and a true one

A handler should answer each request once, with success exactly if its writes took effect. Most
paths do. The exceptions are collected here, handler by handler: `recordSales` answers nothing when
it throws and answers early at a batch without pieces; a commit that fails is answered by no one,
since the abort of the catch block throws; `editProduct` and `forgotPassWord` go on after an answer
of failure; `verifyPassWordResetMail` stores the password before it checks the account; and an
update without fields, which is sent as a read, is answered with success.
-/

set_option autoImplicit false

namespace InventoryHero.Answers

open Interaction Storage Model Stock Serial

/-- `2xx`. -/
def IsSuccess (status : Nat) : Prop := 200 ≤ status ∧ status < 300

instance (status : Nat) : Decidable (IsSuccess status) := inferInstanceAs (Decidable (_ ∧ _))

/-- There was one answer, and it reports success exactly if the writes took effect. -/
def Truthful (statuses : List Nat) (effect : Prop) : Prop :=
  ∃ status, statuses = [status] ∧ (IsSuccess status ↔ effect)

theorem truthful_singleton {status : Nat} {effect : Prop} :
    Truthful [status] effect ↔ (IsSuccess status ↔ effect) := by
  constructor
  · rintro ⟨st, hst, h⟩
    obtain rfl : status = st := by simpa using hst
    exact h
  · exact fun h => ⟨status, rfl, h⟩

theorem not_truthful_nil {effect : Prop} : ¬Truthful [] effect := by
  rintro ⟨st, hst, -⟩
  cases hst

theorem not_truthful_of_nil {statuses : List Nat} {effect : Prop} (h : statuses = []) :
    ¬Truthful statuses effect := h ▸ not_truthful_nil

theorem not_truthful_of_failure {statuses : List Nat} {effect : Prop} (status : Nat)
    (h : statuses = [status]) (hstatus : ¬IsSuccess status) (heffect : effect) :
    ¬Truthful statuses effect := by
  subst h
  rw [truthful_singleton]
  exact fun hiff => hstatus (hiff.2 heffect)

theorem not_truthful_of_success {statuses : List Nat} {effect : Prop} (status : Nat)
    (h : statuses = [status]) (hstatus : IsSuccess status) (heffect : ¬effect) :
    ¬Truthful statuses effect := by
  subst h
  rw [truthful_singleton]
  exact fun hiff => heffect (hiff.1 hstatus)

/-! ## Transactions -/

/-- The run answers truthfully: success is the commit of its transaction. -/
def TruthfulRun (F : Final Db Exchange JsError Unit) : Prop :=
  Truthful (F.loc.sent.map Response.status) (∃ w, F.loc.session = .committed w)

/-- An outcome with a true answer. -/
def TruthfulOutcome (o : Outcome) : Prop := Truthful o.statuses (o.committed = true)

theorem truthfulRun_iff {db : Db} {o : Outcome} {F : Final Db Exchange JsError Unit}
    (h : Served db o F) : TruthfulRun F ↔ TruthfulOutcome o := by
  unfold TruthfulRun TruthfulOutcome
  rw [h.statuses, h.committed]

theorem truthful_idle {k status : Nat} :
    TruthfulOutcome (.idle k [status]) ↔ ¬IsSuccess status := by
  simp [TruthfulOutcome, truthful_singleton, Outcome.idle]

/-- A commit is answered truthfully unless it fails, also where an answer of success went out
before it. -/
theorem truthful_commit {env : Env} {k status : Nat} {before : List Nat}
    {writes : ObjectId → Writes} (h : IsSuccess status) (hbefore : before = [] ∨ before = [200]) :
    TruthfulOutcome (.commit env k before status writes) ↔ env.commitFails = false := by
  unfold TruthfulOutcome Outcome.commit
  rcases hbefore with rfl | rfl
  · cases env.commitFails with
    | true => simp [Outcome.idle, not_truthful_nil]
    | false => simp [truthful_singleton, h]
  · cases env.commitFails with
    | true => simp [Outcome.idle, truthful_singleton, IsSuccess]
    | false => simp [truthful_singleton, IsSuccess]

/-- A sale of data that pass validation is refused for lack of stock, or it is committed: the draw
comes across one batch without pieces at most, and the seller has a first name. -/
def SaleSettled (s : Store) (user : User) (id : ObjectId) (product : Product) (data : SalesInput)
    (env : Env) : Prop :=
  s.batches id = [] ∨ quantitySum (s.batches id) < data.pieces product ∨
    Lots.passed (data.pieces product) (s.batches id) ≤ 1 ∧ user.firstName ≠ "" ∧
      env.commitFails = false

/-- The caller or the product is unknown, or the data pass validation and the sale is settled. -/
def SaleAnswered (s : Store) (id : ObjectId) (body : SalesBody) (caller : Caller) (env : Env) :
    Prop :=
  s.users.get? caller._id = none ∨ s.findProduct id = none ∨
    ∃ user product data, s.users.get? caller._id = some user ∧ s.findProduct id = some product ∧
      validateSales body = .ok data ∧ SaleSettled s user id product data env

theorem sell_truthful_iff {s : Store} {user : User} {id : ObjectId} {data : SalesInput} {t : ℚ}
    {env : Env} : TruthfulOutcome (sellOutcome s user id data t env) ↔
      Lots.passed t (s.batches id) ≤ 1 ∧ user.firstName ≠ "" ∧ env.commitFails = false := by
  cases hends : drawEnds false t (s.batches id) with
  | none =>
      have hmany := Nat.not_le.2 (drawEnds_eq_none_iff.1 hends)
      simp [sellOutcome, hends, truthful_idle, IsSuccess, hmany]
  | some b =>
      have hfew := passed_le_of_drawEnds hends
      simp only [sellOutcome, hends]
      by_cases hname : user.createdBy.valid = true
      · have hfirst : user.firstName ≠ "" := Person.valid_iff.1 hname
        rw [if_pos hname, truthful_commit (by decide) (by cases b <;> simp)]
        simp [hfew, hfirst]
      · have hfirst : ¬user.firstName ≠ "" := fun h => hname (Person.valid_iff.2 h)
        rw [if_neg hname]
        cases b <;>
          simp [TruthfulOutcome, Outcome.idle, truthful_singleton, not_truthful_nil, IsSuccess,
            hfirst]

theorem recordSales_truthful_iff {db : Db} (hids : AllFresh db) (id : ObjectId) (body : SalesBody)
    (caller : Caller) (env : Env) :
    TruthfulRun (serve ⟨.recordSales id body, caller, env⟩ db) ↔
      SaleAnswered db.store id body caller env := by
  rw [truthfulRun_iff (recordSales_outcome hids id body caller env)]
  unfold SaleAnswered recordSalesOutcome
  cases huser : db.store.users.get? caller._id with
  | none => simp [truthful_idle, IsSuccess]
  | some user =>
      cases hfound : db.store.findProduct id with
      | none => simp [truthful_idle, IsSuccess]
      | some product =>
          cases hv : validateSales body with
          | error e => simp [TruthfulOutcome, Outcome.idle, not_truthful_nil]
          | ok data =>
              simp only [reduceCtorEq, false_or, Option.some.injEq, Except.ok.injEq, SaleSettled]
              by_cases hempty : (db.store.batches id).length = 0
              · have hnil := List.length_eq_zero_iff.1 hempty
                simp [hnil, truthful_idle, IsSuccess]
              · have hne : db.store.batches id ≠ [] := fun h => hempty (by simp [h])
                rw [if_neg hempty]
                by_cases hmore : quantitySum (db.store.batches id) < data.pieces product
                · simp [hmore, truthful_idle, IsSuccess]
                · simp [hmore, hne, sell_truthful_iff]

/-- The purchase comes to its commit. -/
def PurchaseReady (s : Store) (id : ObjectId) (body : InventoryBody) (caller : Caller) : Prop :=
  (∃ user, s.users.get? caller._id = some user ∧ user.firstName ≠ "") ∧ s.findProduct id ≠ none ∧
    ∃ data, validateInventory body = .ok data ∧
      JsNumber.div data.costPrice data.quantity ≠ .nan

theorem addInventory_truthful_iff {db : Db} (hids : AllFresh db) (id : ObjectId)
    (body : InventoryBody) (caller : Caller) (env : Env) :
    TruthfulRun (serve ⟨.addInventory id body, caller, env⟩ db) ↔
      ¬(PurchaseReady db.store id body caller ∧ env.commitFails = true) := by
  rw [truthfulRun_iff (addInventory_outcome hids id body caller env)]
  unfold PurchaseReady addInventoryOutcome
  cases huser : db.store.users.get? caller._id with
  | none => simp [truthful_idle, IsSuccess]
  | some user =>
      cases hv : validateInventory body with
      | error e => simp [truthful_idle, IsSuccess]
      | ok data =>
          cases hfound : db.store.findProduct id with
          | none => simp [truthful_idle, IsSuccess]
          | some product =>
              have hready : (user.createdBy.valid = true ∧
                  JsNumber.div data.costPrice data.quantity ≠ .nan) ↔ user.firstName ≠ "" ∧
                    JsNumber.div data.costPrice data.quantity ≠ .nan :=
                and_congr_left' Person.valid_iff
              simp only [hready]
              split
              · rename_i hyes
                simp [truthful_commit (show IsSuccess 200 by decide), hyes.1, hyes.2]
              · rename_i hno
                simpa [truthful_idle, IsSuccess] using fun hfirst hnan => absurd ⟨hfirst, hnan⟩ hno

/-- A sale can be given back to the first live batch, if that passes the schema. -/
theorem reversible_of_live {db : Db} {id prd : ObjectId} {first : Inventory}
    {rest : List Inventory} (hl : db.store.liveBatches prd = first :: rest) :
    Reversible db id prd ↔ db.store.sales.get? id ≠ none ∧ first.valid = true := by
  have hlive := head?_liveBatches db.store prd
  rw [hl, List.head?_cons] at hlive
  simp [Reversible, ← hlive]

/-- Without a live batch there has to be a snapshot that passes it. -/
theorem reversible_of_none_live {db : Db} (hids : AllFresh db) {id prd : ObjectId}
    (hl : db.store.liveBatches prd = []) :
    Reversible db id prd ↔ db.store.sales.get? id ≠ none ∧
      ∃ last, (db.store.lastsOf prd).head? = some last ∧ last.valid = true := by
  have hlive := head?_liveBatches db.store prd
  rw [hl, List.head?_nil] at hlive
  have hnew : ∀ b ∈ db.store.inventories.docs, b._id < db.nextId := hids.batch
  simp only [Reversible, ← hlive]
  constructor
  · rintro ⟨hsale, last, hlast, hvalid, -⟩
    exact ⟨hsale, last, hlast, hvalid⟩
  · rintro ⟨hsale, last, hlast, hvalid⟩
    exact ⟨hsale, last, hlast, hvalid, hnew⟩

theorem deleteSalesRecord_truthful_iff {db : Db} (hids : AllFresh db) (id prd : ObjectId)
    (caller : Caller) (env : Env) :
    TruthfulRun (serve ⟨.deleteSalesRecord id prd, caller, env⟩ db) ↔
      ¬(MayReverse db caller ∧ Reversible db id prd ∧ env.commitFails = true) := by
  rw [truthfulRun_iff (deleteSalesRecord_outcome hids id prd caller env)]
  unfold deleteSalesRecordOutcome
  by_cases hadmin : caller.role ≠ .admin ∨ (db.store.users.get? caller._id).isNone = true
  · have hmay : ¬MayReverse db caller := by
      rintro ⟨hrole, huser⟩
      rcases hadmin with h | h
      · exact h hrole
      · exact huser (Option.isNone_iff_eq_none.1 h)
    rw [if_pos hadmin]
    simp [truthful_idle, IsSuccess, hmay]
  · rw [if_neg hadmin]
    have hmay : MayReverse db caller := by
      rw [not_or, not_not, Option.isNone_iff_eq_none] at hadmin
      exact hadmin
    have hfails : TruthfulOutcome (.idle 0 [500]) := truthful_idle.2 (by decide)
    cases hl : db.store.liveBatches prd with
    | cons first rest =>
        rw [reversible_of_live hl]
        cases hsale : db.store.sales.get? id with
        | none => simp [hfails]
        | some sale =>
            cases hvalid : first.valid with
            | true => simp [hvalid, truthful_commit (show IsSuccess 200 by decide), hmay]
            | false => simp [hvalid, hfails]
    | nil =>
        rw [reversible_of_none_live hids hl]
        cases hsale : db.store.sales.get? id with
        | none => cases (db.store.lastsOf prd).head? <;> simp [hfails]
        | some sale =>
            cases hlast : (db.store.lastsOf prd).head? with
            | none => simp [hfails]
            | some last =>
                cases hvalid : last.valid with
                | true => simp [hvalid, truthful_commit (show IsSuccess 200 by decide), hmay]
                | false => simp [hvalid, truthful_idle, IsSuccess]

theorem deleteAllSales_truthful_iff (db : Db) (caller : Caller) (env : Env) :
    TruthfulRun (serve ⟨.deleteAllSales, caller, env⟩ db) ↔
      ¬(AllLive db.store ∧ env.commitFails = true) := by
  refine wp_withTransaction (Q := fun F => TruthfulRun F ↔
    ¬(AllLive db.store ∧ env.commitFails = true)) fun x hx => ?_
  -- the loop is left before its commit: by the search, or by a save that throws
  have haborted (hlive : ¬AllLive db.store) {r : Response} (hr : ¬IsSuccess r.status)
      {x : Exchange} (hs : x.session = .aborted) (hsent : x.sent = [r]) :
      TruthfulRun ⟨db, x, .ok ()⟩ ↔ ¬(AllLive db.store ∧ env.commitFails = true) := by
    simp [TruthfulRun, hs, hsent, truthful_singleton, hr, hlive]
  refine hx.read fun x hx => hx.read fun x hx => ?_
  refine hx.reverseLoop ?_ ?_ ?_ rfl rfl rfl (fun _ hs => absurd hs List.not_mem_nil) rfl
  · intro hlive w x h _ hacc
    refine h.commit_cases ?_ (fun hno => absurd hno (by simp [hacc])) ?_
    · intro hfails e x' hs hsent
      change env.commitFails = true at hfails
      change x'.sent = [] at hsent
      show (abortTransaction >>= fun _ => Model.send internalServerError).Wp sem
        (fun F => TruthfulRun F ↔ ¬(AllLive db.store ∧ env.commitFails = true)) db x'
      refine wp_abort_over (by simp [hs]) fun _ => ?_
      simp [TruthfulRun, hsent, not_truthful_nil, hlive, hfails]
    · intro hok _ db' x' _ _ hs hsent
      change env.commitFails = false at hok
      refine Serial.wp_send fun x'' res hsession hfirst _ => ?_
      obtain ⟨hx'', rfl⟩ := hfirst hsent
      rw [hs] at hsession
      have hsuccess : IsSuccess allSalesDeleted.status := by decide
      simp [TruthfulRun, hx'', hsession, truthful_singleton, hsuccess, hok]
  · intro hlive w x h
    refine h.abort fun x' hs hsent => Serial.wp_send fun x'' res hsession hfirst _ => ?_
    obtain ⟨hx'', rfl⟩ := hfirst hsent
    exact haborted hlive (by decide) (hsession.trans hs) hx''
  · intro hlive e w x h
    show (abortTransaction >>= fun _ => Model.send internalServerError).Wp sem
      (fun F => TruthfulRun F ↔ ¬(AllLive db.store ∧ env.commitFails = true)) db x
    refine h.abort fun x' hs hsent => Serial.wp_send fun x'' res hsession hfirst _ => ?_
    obtain ⟨hx'', rfl⟩ := hfirst hsent
    exact haborted hlive (by decide) (hsession.trans hs) hx''

/-! ## Updates outside of a transaction -/

/-- The update of a product was sent and took effect. An update without fields is sent as a read and
leaves no entry of the product in the commit log. -/
def Edited (db : Db) (id : ObjectId) (db' : Db) : Prop := db'.oplog = db.oplog ++ [[.product id]]

/-- Another product has the name or the number that the update would leave. -/
def Clashes (s : Store) (product : Product) (data : ProductUpdate) : Prop :=
  ∃ q ∈ s.products.docs, q._id ≠ product._id ∧
    (q.name = data.name.getD product.name ∨ q.sku = data.sku.getD product.sku)

/-- A product that is found is updated with some fields, or refused by the unique indexes; a hidden
one is not updated. -/
def EditAnswered (s : Store) (id : ObjectId) (data : ProductUpdate) : Prop :=
  match s.products.get? id with
  | none => True
  | some product =>
      if product.isDeleted then data = {} ∨ Clashes s product data else data ≠ {}

theorem editAnswered_of_hidden {s : Store} {id : ObjectId} {data : ProductUpdate}
    {product : Product} (hget : s.products.get? id = some product)
    (hfound : s.findProduct id = none) :
    EditAnswered s id data ↔ data = {} ∨ Clashes s product data := by
  have hdeleted : product.isDeleted = true := by
    simpa [Store.findProduct, hget] using hfound
  simp [EditAnswered, hget, hdeleted]

theorem editAnswered_of_found {s : Store} {id : ObjectId} {data : ProductUpdate}
    {product : Product} (hfound : s.findProduct id = some product) :
    EditAnswered s id data ↔ data ≠ {} := by
  obtain ⟨hget, hshown⟩ : s.products.get? id = some product ∧ product.isDeleted = false := by
    simpa [Store.findProduct, Option.filter_eq_some_iff] using hfound
  simp [EditAnswered, hget, hshown]

theorem plan_updateProduct {s : Store} {id : ObjectId} {data : ProductUpdate} {product : Product}
    (hget : s.products.get? id = some product) (hdata : data ≠ {}) :
    (Clashes s product data → ∃ e, (Command.updateProduct id data).plan s = .error e) ∧
      (¬Clashes s product data → ∃ r, (Command.updateProduct id data).plan s =
        .ok ({ products := [.modify id data.patch] }, r)) := by
  obtain ⟨-, rfl⟩ : product ∈ s.products.docs ∧ product._id = id :=
    Collection.get?_eq_some_iff.1 hget
  have hclash : (s.products.docs.any fun q => q._id ≠ product._id &&
      (q.name = (data.patch.apply product).name || q.sku = (data.patch.apply product).sku)) = true ↔
      Clashes s product data := by
    simp only [Clashes, ProductUpdate.patch, List.any_eq_true, Bool.and_eq_true, Bool.or_eq_true]
    exact exists_congr fun q => and_congr_right fun _ =>
      and_congr decide_eq_true_iff (or_congr decide_eq_true_iff decide_eq_true_iff)
  simp only [Command.plan, hget, if_neg hdata]
  constructor
  · intro h
    rw [if_pos (hclash.2 h)]
    exact ⟨_, rfl⟩
  · intro h
    rw [if_neg fun hc => h (hclash.1 hc)]
    exact ⟨_, rfl⟩

/-- An update is sent as a read, is refused by a unique index, or takes effect. -/
theorem wp_updateProduct {db : Db} {x : Exchange} {id : ObjectId} {data : ProductUpdate}
    {f : Option Product → Js Unit} {Q : Final Db Exchange JsError Unit → Prop}
    (hread : ∀ r db', (∀ product, db.store.products.get? id = some product → data = {}) →
      ¬Edited db id db' → (f r).Wp sem Q db' x)
    (hclash : ∀ e product, db.store.products.get? id = some product → data ≠ {} →
      Clashes db.store product data → Q ⟨db, x, .error e⟩)
    (hedited : ∀ r db' product, db.store.products.get? id = some product → data ≠ {} →
      ¬Clashes db.store product data → Edited db id db' → (f r).Wp sem Q db' x) :
    (direct (.updateProduct id data) >>= f).Wp sem Q db x := by
  cases hget : db.store.products.get? id with
  | none =>
      have hplan : (Command.updateProduct id data).plan db.store = .ok ({}, none) := by
        simp only [Command.plan, hget]
      refine wp_direct_ok hplan rfl fun db' _ _ hlog => hread _ db' (by simp [hget]) ?_
      simp [Edited, hlog, Writes.keys]
  | some product =>
      by_cases hdata : data = {}
      · have hplan : (Command.updateProduct id data).plan db.store = .ok ({}, some product) := by
          simp only [Command.plan, hget, if_pos hdata]
        refine wp_direct_ok hplan rfl fun db' _ _ hlog => hread _ db' (fun _ _ => hdata) ?_
        simp [Edited, hlog, Writes.keys]
      · obtain ⟨hrefused, hplanned⟩ := plan_updateProduct hget hdata
        by_cases hc : Clashes db.store product data
        · obtain ⟨e, hplan⟩ := hrefused hc
          refine wp_direct (fun e _ => hclash e product hget hdata hc) fun w r db' hok => ?_
          rw [hplan] at hok
          cases hok
        · obtain ⟨r, hplan⟩ := hplanned hc
          exact wp_direct_ok hplan (by simp [Store.accepts_iff]) fun db' _ _ hlog =>
            hedited r db' product hget hdata hc hlog

/-- After an answer, neither the next one nor that of the catch block changes anything. -/
theorem wp_send_ignored {db : Db} {x : Exchange} {r r' : Response} {P : Db → List Response → Prop}
    (hsent : x.sent ≠ []) (h : P db x.sent) :
    (Model.send r).Wp sem (fun F => F.elim (fun _ db' x' => P db' x'.sent)
      (fun _ db' x' => (Model.send r').Wp sem (fun F => P F.shared F.loc.sent) db' x')) db x := by
  refine Serial.wp_send fun x₁ res _ _ hlater => ?_
  have hx₁ := hlater hsent
  cases res with
  | ok u =>
      show P db x₁.sent
      rwa [hx₁]
  | error e =>
      refine Serial.wp_send (Q := fun F => P F.shared F.loc.sent) fun x₂ _ _ _ hlater₂ => ?_
      show P db x₂.sent
      rwa [hlater₂ (hx₁ ▸ hsent), hx₁]

/-- The answers `sent` are true to the update of the product `id` exactly if `EditAnswered`. -/
def TrueToEdit (db : Db) (id : ObjectId) (data : ProductUpdate) (db' : Db)
    (sent : List Response) : Prop :=
  Truthful (sent.map Response.status) (Edited db id db') ↔ EditAnswered db.store id data

theorem trueToEdit_of_success {db db' : Db} {id : ObjectId} {data : ProductUpdate}
    {sent : List Response} {n : Nat} (hstatus : sent.map Response.status = [n]) (hn : IsSuccess n)
    (h : Edited db id db' ↔ EditAnswered db.store id data) : TrueToEdit db id data db' sent := by
  rw [TrueToEdit, hstatus, truthful_singleton]
  simpa [hn] using h

theorem trueToEdit_of_failure {db db' : Db} {id : ObjectId} {data : ProductUpdate}
    {sent : List Response} {n : Nat} (hstatus : sent.map Response.status = [n]) (hn : ¬IsSuccess n)
    (h : ¬Edited db id db' ↔ EditAnswered db.store id data) : TrueToEdit db id data db' sent := by
  rw [TrueToEdit, hstatus, truthful_singleton]
  simpa [hn] using h

/-- What `editProduct` sends after an answer is dropped, so it answers once. -/
theorem editProduct_truthful_iff (db : Db) (id : ObjectId) (data : ProductUpdate) (caller : Caller)
    (env : Env) :
    Truthful ((serveCatalog ⟨.editProduct id data, caller, env⟩ db).loc.sent.map Response.status)
        (Edited db id (catalogStep ⟨.editProduct id data, caller, env⟩ db)) ↔
      EditAnswered db.store id data := by
  have hsame : ¬Edited db id db := by simp [Edited]
  refine Prog.Wp.tryCatch (Q := fun F : Final Db Exchange JsError Unit =>
    TrueToEdit db id data F.shared F.loc.sent) (wp_read ?_)
  cases hfound : Query.eval (.product id) db.store with
  | none =>
      -- a product that is there is hidden
      change db.store.findProduct id = none at hfound
      refine Prog.Wp.bind (Serial.wp_send fun x₁ res _ hfirst _ => ?_)
      obtain ⟨hx₁, rfl⟩ := hfirst rfl
      have hsent : x₁.sent ≠ [] := by simp [hx₁]
      have hstatus : x₁.sent.map Response.status = [404] := by rw [hx₁]; rfl
      have hfailure : ¬IsSuccess 404 := by decide
      rw [Final.elim_ok]
      refine wp_updateProduct (fun r db' hread hno => ?_) (fun e product hget _ hclash => ?_)
        fun r db' product hget hdata hclash hedited => ?_
      · refine wp_send_ignored (P := TrueToEdit db id data) hsent ?_
        refine trueToEdit_of_failure hstatus hfailure (iff_of_true hno ?_)
        cases hget : db.store.products.get? id with
        | none => simp [EditAnswered, hget]
        | some product => exact (editAnswered_of_hidden hget hfound).2 (.inl (hread product hget))
      · refine Serial.wp_send (Q := fun F => TrueToEdit db id data F.shared F.loc.sent)
          fun x₂ _ _ _ hlater => ?_
        have hsame₂ : x₂.sent.map Response.status = [404] := by rw [hlater hsent, hstatus]
        exact trueToEdit_of_failure hsame₂ hfailure
          (iff_of_true hsame ((editAnswered_of_hidden hget hfound).2 (.inr hclash)))
      · refine wp_send_ignored (P := TrueToEdit db id data) hsent ?_
        refine trueToEdit_of_failure hstatus hfailure (iff_of_false (not_not.2 hedited) ?_)
        rw [editAnswered_of_hidden hget hfound]
        exact fun h => h.elim hdata hclash
  | some product =>
      change db.store.findProduct id = some product at hfound
      have hvisible : EditAnswered db.store id data ↔ data ≠ {} := editAnswered_of_found hfound
      have hsuccess : IsSuccess 200 := by decide
      refine wp_updateProduct (fun r db' hread hno => ?_) (fun e product _ hdata _ => ?_)
        fun r db' product _ hdata _ hedited => ?_
      · refine Serial.wp_send fun x₁ res _ hfirst _ => ?_
        obtain ⟨hx₁, rfl⟩ := hfirst rfl
        have hstatus : x₁.sent.map Response.status = [200] := by rw [hx₁]; rfl
        refine trueToEdit_of_success hstatus hsuccess (iff_of_false hno fun h => ?_)
        exact hvisible.1 h (hread product (Store.get?_of_findProduct hfound))
      · refine Serial.wp_send (Q := fun F => TrueToEdit db id data F.shared F.loc.sent)
          fun x₁ _ _ hfirst _ => ?_
        have hstatus : x₁.sent.map Response.status = [500] := by rw [(hfirst rfl).1]; rfl
        exact trueToEdit_of_failure hstatus (by decide) (iff_of_true hsame (hvisible.2 hdata))
      · refine Serial.wp_send fun x₁ res _ hfirst _ => ?_
        obtain ⟨hx₁, rfl⟩ := hfirst rfl
        have hstatus : x₁.sent.map Response.status = [200] := by rw [hx₁]; rfl
        exact trueToEdit_of_success hstatus hsuccess (iff_of_true hedited (hvisible.2 hdata))

end InventoryHero.Answers
