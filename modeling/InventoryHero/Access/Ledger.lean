import InventoryHero.Accounts.Effect
import InventoryHero.Interaction.History
import InventoryHero.Serial.Serve

/-!
# Who may change the ledger

The account routes and the product routes work on one database. A `Shop` holds both: a product
request passes `isLoggedIn`, and its handler looks the caller's account up among the accounts as
they are at that moment. `editInventory` and `deleteInventory` check the stored role.
`deleteSalesRecord` checks the role in the token, which may be out of date, and `deleteAllSales`
checks nothing; where these two would go through, it takes the condition to make the caller an
admin.
-/

set_option autoImplicit false

namespace InventoryHero.Access

open Interaction Storage Accounts
open Model (ObjectId Db User Role)

/-! ## The shop -/

/-- The role as the product controller compares it. -/
def roleOf (role : Option String) : Role :=
  if role = some "admin" then .admin
  else if role = some "super admin" then .superAdmin
  else .user

/-- The account as the product controller reads it. -/
def ledgerUser (a : Account) : User where
  _id := a._id
  firstName := a.firstName.getD ""
  lastName := a.lastName.getD ""
  role := roleOf a.role

theorem map_key_ledgerUser (l : List Account) :
    (l.map ledgerUser).map Keyed.key = l.map Keyed.key := by
  rw [List.map_map]
  rfl

def ledgerUsers (users : Users) : Collection User :=
  ⟨users.docs.map ledgerUser, map_key_ledgerUser users.docs ▸ users.nodup⟩

/-- The accounts and the ledger. -/
structure Shop where
  site : Site
  db : Db

/-- `req.user` of a product request. -/
def caller (token : Token) : Model.Caller :=
  ⟨token.claims._id.getD 0, roleOf token.claims.role⟩

/-- The database as a request with this token sees it. `User.findById(undefined)` finds nothing,
whatever the accounts are. -/
def Shop.view (s : Shop) (token : Token) : Db :=
  { s.db with
    store := { s.db.store with
      users := token.claims._id.elim .empty fun _ => ledgerUsers s.site.users } }

inductive ShopCall
  | account (c : Accounts.Call)
  | product (request : Model.Request) (cookies : Cookies) (env : Model.Env)

/-- A request to the shop. -/
def Shop.step (pk : Packages) : ShopCall → Shop → Shop
  | .account c, s => { s with site := Accounts.serveStep pk c s.site }
  | .product request cookies env, s =>
      -- `admitted` is what `isLoggedIn` returns
      match cookies.admitted env.now with
      | none => s
      | some token =>
          { s with db := Model.serveStep ⟨request, caller token, env⟩ (s.view token) }

/-! ## Destructive requests -/

/-- The four requests that take something out of the ledger. -/
def Destructive : Model.Request → Prop
  | .deleteSalesRecord _ _ => True
  | .deleteAllSales => True
  | .editInventory _ _ => True
  | .deleteInventory _ => True
  | _ => False

/-- A sale, a batch or a cost record differs. -/
def Changes (db db' : Db) : Prop :=
  db'.store.sales ≠ db.store.sales ∨ db'.store.inventories ≠ db.store.inventories ∨
    db'.store.costs ≠ db.store.costs

/-- The account of the token exists, and its stored role is `admin`. -/
def StoredAdmin (site : Site) (token : Token) : Prop :=
  (token.claims._id.bind site.users.get?).elim False fun a => a.role = some "admin"

/-- The sale exists, and there is a batch or a snapshot that its pieces could go to. -/
def HasPlace (db : Db) (id prd : ObjectId) : Prop :=
  db.store.sales.get? id ≠ none ∧ (Stock.firstLive prd db.store.inventories ≠ none ∨
    (db.store.lastsOf prd).head? ≠ none)

/-- A reversal that would go through is one of a stored admin. -/
def Authorized (_ : Past ShopCall Shop) (c : ShopCall) (s : Shop) : Prop :=
  match c with
  | .product (.deleteSalesRecord id prd) cookies env =>
      (cookies.admitted env.now).elim True fun token =>
        Serial.MayReverse (s.view token) (caller token) → HasPlace s.db id prd →
          env.commitFails = false → StoredAdmin s.site token
  | .product .deleteAllSales cookies env =>
      (cookies.admitted env.now).elim True fun token =>
        s.db.store.sales.docs ≠ [] → Serial.AllLive s.db.store → env.commitFails = false →
          StoredAdmin s.site token
  | _ => True

instance (site : Site) (token : Token) : Decidable (StoredAdmin site token) :=
  inferInstanceAs (Decidable (Option.elim _ _ _))

instance (db : Db) (id prd : ObjectId) : Decidable (HasPlace db id prd) :=
  inferInstanceAs (Decidable (_ ∧ _))

instance (past : Past ShopCall Shop) (c : ShopCall) (s : Shop) :
    Decidable (Authorized past c s) := by
  unfold Authorized
  split <;> infer_instance

/-! ## A failed commit -/

/-- The operation is not a write outside the session. -/
def NoDirect : Model.Op → Prop
  | .direct _ => False
  | _ => True

theorem reverseSale_noDirect {id prd : ObjectId} : (Model.reverseSale id prd).Only NoDirect := by
  have hcommit : (Model.inSession (.deleteSale id) >>= fun _ => Model.commitTransaction >>= fun _ =>
      Model.send Model.recordDeleted).Only NoDirect :=
    .bind (Serial.only_issue trivial) fun _ => .bind (Serial.only_issue trivial) fun _ =>
      Serial.only_issue trivial
  refine .bind (.op trivial) fun sale => .bind (.op trivial) fun inventories =>
    .bind ?_ fun _ => hcommit
  cases inventories with
  | nil =>
      refine .bind (.op trivial) fun lasts => .bind ?_ fun last => .bind ?_ fun sale =>
        .bind (.op trivial) fun _ => Serial.only_issue trivial
      · cases List.head? lasts <;> trivial
      · cases sale <;> trivial
  | cons first rest =>
      refine .bind ?_ fun sale => Serial.only_issue trivial
      cases sale <;> trivial

theorem deleteSalesRecord_noDirect {id prd : ObjectId} {caller : Model.Caller} :
    (Model.deleteSalesRecord id prd caller).Only NoDirect := by
  refine .bind (.op trivial) fun user => ?_
  split
  · exact Serial.only_issue trivial
  · exact .tryCatch (.bind (.op trivial) fun _ => reverseSale_noDirect) fun _ =>
      .bind (Serial.only_issue trivial) fun _ => Serial.only_issue trivial

/-- Without writes outside the session, a handler whose commit fails leaves the store as it was. -/
theorem store_of_commitFails {h : Model.Js Unit} (hh : h.Only NoDirect) {db : Db} {env : Model.Env}
    (hfails : env.commitFails = true) :
    (h.run Model.sem db (.init env)).shared.store = db.store := by
  refine (hh.run_inv (I := fun (db' : Db) (x : Model.Exchange) =>
    db'.store = db.store ∧ x.env = env) ?_ ⟨rfl, rfl⟩).1
  intro o db' x ho hx
  cases o with
  | direct c => cases ho
  | commitTransaction =>
      simp only [Model.sem, Model.execCommit]
      cases x.session with
      | inProgress t =>
          simp only [hx.2, hfails, if_true]
          exact ⟨hx.1, trivial⟩
      | _ => exact hx
  | _ =>
      simp only [Model.sem, Model.execInSession, Model.execAbort, Model.execSend, Model.execDestroy]
      repeat' split
      all_goals exact hx

/-! ## One request -/

theorem get?_ledgerUsers (users : Users) (id : ObjectId) :
    (ledgerUsers users).get? id = (users.get? id).map ledgerUser := by
  unfold Collection.get? ledgerUsers
  rw [List.find?_map]
  rfl

theorem roleOf_eq_admin {role : Option String} (h : roleOf role = .admin) :
    role = some "admin" := by
  unfold roleOf at h
  split at h
  · assumption
  · split at h <;> cases h

/-- The check of the stored role. -/
theorem storedAdmin_of_isAdmin {s : Shop} {token : Token}
    (h : Model.isAdmin ((s.view token).store.users.get? (caller token)._id) = true) :
    StoredAdmin s.site token := by
  unfold Shop.view caller at h
  unfold StoredAdmin
  cases hid : token.claims._id with
  | none =>
      rw [hid] at h
      cases h
  | some id =>
      simp only [hid, Option.elim_some, Option.getD_some, get?_ledgerUsers] at h
      rw [Option.bind_some]
      cases ha : s.site.users.get? id with
      | none =>
          rw [ha] at h
          cases h
      | some a =>
          rw [ha] at h
          exact roleOf_eq_admin (by simpa [Model.isAdmin, ledgerUser] using h)

theorem hasPlace_of_reversed {db db' : Db} {id prd : ObjectId}
    (h : Serial.Reversed db id prd db') : HasPlace db id prd := by
  cases h with
  | restock sale batch found first valid commit => exact ⟨by simp [found], .inl (by simp [first])⟩
  | rebuild sale last n found none_live snapshot valid batch_id commit =>
      exact ⟨by simp [found], .inr (by simp [snapshot])⟩

theorem reversedAll_of_no_sales {st : Model.Store} (h : st.sales.docs = []) :
    Serial.reversedAll st = st := by
  have hsales : st.sales = .empty := Collection.ext h
  cases st
  subst hsales
  rfl

/-- A request that is authorized and changes the ledger is one of a stored admin. -/
theorem storedAdmin_of_changes {past : Past ShopCall Shop} {s : Shop} {request : Model.Request}
    {cookies : Cookies} {env : Model.Env} {token : Token}
    (htoken : cookies.admitted env.now = some token) (hd : Destructive request)
    (hok : Authorized past (.product request cookies env) s)
    (hch : Changes s.db (Model.serveStep ⟨request, caller token, env⟩ (s.view token))) :
    StoredAdmin s.site token := by
  -- a request that leaves the store as it sees it changes nothing
  have hkept (h : (Model.serveStep ⟨request, caller token, env⟩ (s.view token)).store =
      (s.view token).store) : False := by
    unfold Changes at hch
    rw [h] at hch
    simp [Shop.view] at hch
  cases request with
  | deleteSalesRecord id prd =>
      simp only [Authorized, htoken, Option.elim_some] at hok
      rcases Serial.deleteSalesRecord_served (s.view token) id prd (caller token) env with
        ⟨⟨hmay, hreversed⟩, -⟩ | ⟨hstore, -⟩
      · have hplace : HasPlace (s.view token) id prd := hasPlace_of_reversed hreversed
        refine hok hmay hplace ?_
        by_contra hfails
        exact hkept (store_of_commitFails deleteSalesRecord_noDirect (by simpa using hfails))
      · exact (hkept hstore).elim
  | deleteAllSales =>
      simp only [Authorized, htoken, Option.elim_some] at hok
      rcases Serial.deleteAllSales_served (s.view token) (caller token) env with
        ⟨⟨hlive, hcommits⟩, hstore, -⟩ | ⟨-, hstore, -⟩
      · refine hok ?_ hlive hcommits
        intro hnone
        exact hkept (hstore.trans (reversedAll_of_no_sales hnone))
      · exact (hkept hstore).elim
  | editInventory id data =>
      cases Serial.serve_effect ⟨.editInventory id data, caller token, env⟩ (s.view token) with
      | unchanged store next => exact (hkept store).elim
      | editInventory batch quantity initialQuantity q cpq admin =>
          exact storedAdmin_of_isAdmin admin
  | deleteInventory id =>
      cases Serial.serve_effect ⟨.deleteInventory id, caller token, env⟩ (s.view token) with
      | unchanged store next => exact (hkept store).elim
      | deleteInventory admin => exact storedAdmin_of_isAdmin admin
  | _ => cases hd

/-! ## Every run -/

/-- Along every run in which the reversals are authorized, whenever one of the four requests changes
a sale, a batch or a cost record, the account of the caller's token exists at that moment with the
stored role `admin`. -/
theorem destructive_by_admin {pk : Packages} {past : Past ShopCall Shop} {s : Shop}
    (h : Run (fun _ => True) Authorized (Shop.step pk) past s) :
    ∀ e ∈ past, ∀ request cookies env, e.act = .product request cookies env →
      Destructive request → Changes e.before.db (Shop.step pk e.act e.before).db →
      ∃ token id a, cookies.admitted env.now = some token ∧ token.claims._id = some id ∧
        e.before.site.users.get? id = some a ∧ a.role = some "admin" := by
  intro e he request cookies env hact hd hch
  obtain ⟨_, older, -, -, hok⟩ := h.of_mem he
  rw [hact] at hch hok
  simp only [Shop.step] at hch
  cases htoken : cookies.admitted env.now with
  | none => simp [htoken, Changes] at hch
  | some token =>
      rw [htoken] at hch
      have hadmin := storedAdmin_of_changes htoken hd hok hch
      unfold StoredAdmin at hadmin
      cases hid : token.claims._id with
      | none => simp [hid] at hadmin
      | some id =>
          cases ha : e.before.site.users.get? id with
          | none => simp [hid, ha] at hadmin
          | some a => exact ⟨token, id, a, rfl, hid, ha, by simpa [hid, ha] using hadmin⟩

/-- The cookie with the token of an admin who logs in at time zero. -/
def adminCookies : Cookies :=
  { jwt := some (.signed (sign ⟨some 1, some "a@shop", some "admin", some false⟩ day 0)) }

def adminRequest (request : Model.Request) : ShopCall :=
  .product request adminCookies Model.Sample.env

/-- An admin signs up, logs in, adds ten pieces of a product and sells four of them, in sale `4`. -/
def openedShop : List ShopCall :=
  [.account (Sample.call (Sample.signUp "a@shop" "08012345678" (some "admin")) 0),
    .account (Sample.call (Sample.login "a@shop" "password") 0),
    adminRequest (.addProduct (Model.Sample.productBody 10 100)),
    adminRequest (.recordSales 1 (Model.Sample.salesBody 4))]

/-- The shop after the requests. -/
def shopAfter (calls : List ShopCall) : Shop :=
  (replay (Shop.step Sample.packages) calls [] ⟨Sample.site, Model.Sample.db⟩).2

/-- The admin reverses the sale. -/
theorem destructive_by_admin_reversal :
    ∃ token id a, adminCookies.admitted 0 = some token ∧ token.claims._id = some id ∧
      (shopAfter openedShop).site.users.get? id = some a ∧ a.role = some "admin" := by
  have hstart : Run (fun _ => True) Authorized (Shop.step Sample.packages) []
      ⟨Sample.site, Model.Sample.db⟩ := .start trivial
  have hrun := hstart.replay (openedShop ++ [adminRequest (.deleteSalesRecord 4 1)])
    (by decide +kernel)
  refine destructive_by_admin hrun ⟨adminRequest (.deleteSalesRecord 4 1), shopAfter openedShop⟩
    List.mem_cons_self _ _ _ rfl trivial (.inl ?_)
  intro hsales
  have hlength := congrArg (fun sales => sales.docs.length) hsales
  revert hlength
  decide +kernel

/-- The admin's role is taken away. -/
def demotion : ShopCall :=
  .account ⟨.verifyUser 1 { role := some (some "user") }, adminCookies, Sample.env 0 "link"⟩

/-- With the token of the login, the demoted account still deletes the sale, and so does the request
to delete all sales. -/
theorem demoted_reverses :
    (serve Sample.packages (Sample.call (Sample.login "a@shop" "password") 0)
      (shopAfter (openedShop.take 1)).site).loc.cookies.head? = some (.jwt adminCookies.jwt) ∧
    (shopAfter (openedShop ++ [demotion])).site.users.docs.map Account.role = [some "user"] ∧
    (shopAfter (openedShop ++ [demotion])).db.store.sales.docs.map Model.Sale._id = [4] ∧
    (shopAfter (openedShop ++
      [demotion, adminRequest (.deleteSalesRecord 4 1)])).db.store.sales.docs = [] ∧
    (shopAfter (openedShop ++ [demotion, adminRequest .deleteAllSales])).db.store.sales.docs
      = [] := by
  decide +kernel

end InventoryHero.Access
