import InventoryHero.Accounts.Secrets
import InventoryHero.Web.Replies

/-!
# What answers give away

Statements about two runs of the same requests. If the answers of both are the same whatever some
part of the state is, then the answers say nothing of that part.

Visitors without a token learn nothing of sales, cost records and snapshots
(`visitors_see_only_products`). No client, whatever its token is, learns more of a stored secret
than which passwords open it (`secrets_hidden`).
-/

set_option autoImplicit false

namespace InventoryHero.Web

open Interaction Routing Storage Accounts Access
open Model (ObjectId Db)

variable {β : Type}

/-! ## What visitors see -/

section Visitors

variable {fw : Framework β} {q : Http β}

/-- The readers of products find the same in both stores. -/
structure SameShelves (s s' : Model.Store) : Prop where
  products : s.products = s'.products
  inventories : s.inventories = s'.inventories
  users : s.users = s'.users

theorem SameShelves.eval {s s' : Model.Store} (h : SameShelves s s') (query : Model.ReadQuery) :
    query.eval s = query.eval s' := by
  cases query <;>
    simp only [Model.ReadQuery.eval, Model.Store.findProduct, Model.Store.liveProducts,
      Model.Store.lookupInventories, h.products, h.inventories, h.users]

theorem SameShelves.serveReader {s s' : Model.Store} (h : SameShelves s s')
    (driver : Model.Driver) (request : Model.ReaderRequest) :
    (Model.serveReader driver request s).result =
      (Model.serveReader driver request s').result := by
  have hagrees : (Model.reader driver request).Agrees Model.readSem SameShelves
      (Model.reader driver request) :=
    (Prog.Only.of_forall (P := fun _ => True) (fun _ => trivial) _).agrees
      fun query _ _ _ _ h => ⟨congrArg (Prod.mk _) (h.eval query), h⟩
  exact (hagrees s s' () h).result

/-- Two shops with the same accounts, passwords, links, products and batches. -/
structure SameFront (s s' : Shop) : Prop where
  site : s.site = s'.site
  products : s.db.store.products = s'.db.store.products
  inventories : s.db.store.inventories = s'.db.store.inventories

theorem SameFront.readers {s s' : Shop} (h : SameFront s s') :
    SameShelves (Shop.readers s) (Shop.readers s') where
  products := h.products
  inventories := h.inventories
  users := by simp only [Shop.readers, h.site]

/-- A request without a token that comes past the middleware met no `isLoggedIn`. -/
theorem guards_of_letThrough (hanonymous : q.cookies.admitted q.env.now = none) {s : Site}
    {guards : List Middleware} {user user' : Option Token}
    (h : letThrough q s guards user = some user') : .isLoggedIn ∉ guards := by
  induction guards generalizing user with
  | nil => simp
  | cons guard guards ih =>
      cases guard with
      | isLoggedIn =>
          simp only [letThrough, (isLoggedIn_served q.cookies s q.env).1, hanonymous] at h
          cases h
      | uploadMiddleWare => simpa using ih h

/-- The handlers that are open to visitors answer with accounts, or with products and batches. -/
theorem SameFront.handlerReply {s s' : Shop} (h : SameFront s s') {handler : Handler}
    (hopen : .isLoggedIn ∉ handler.guards) (user : Option Token) (sent : List Answer)
    (params : List String) :
    handlerReply fw q s user sent handler params =
      handlerReply fw q s' user sent handler params := by
  cases handler with
  | findProduct =>
      rcases params with _ | ⟨id, _ | ⟨y, params⟩⟩
      · rfl
      · simp only [Web.handlerReply, h.readers.serveReader]
      · rfl
  | searchProducts => simp only [Web.handlerReply, h.readers.serveReader]
  | HomePage | signUpEmailPassword | completeSignup | signUpMagicLink | Login | verifySignUpEmail
  | forgotPassWord | verifyPassWordResetMail => rfl
  | _ => simp [Handler.guards] at hopen

theorem SameFront.respond (hanonymous : q.cookies.admitted q.env.now = none) {s s' : Shop}
    (h : SameFront s s') : respond fw q s = respond fw q s' := by
  unfold Web.respond
  rw [← h.site]
  cases hthrough : letThrough q s.site (passage fw q).guards none with
  | none => rfl
  | some user =>
      cases hreached : (passage fw q).target with
      | endpoint handler params =>
          have hopen := guards_of_letThrough hanonymous hthrough
          rw [(guards_passage hreached).1] at hopen
          simp only [h.handlerReply hopen]
      | notFound => rfl
      | malformed => rfl

theorem SameFront.step (hanonymous : q.cookies.admitted q.env.now = none) {s s' : Shop}
    (h : SameFront s s') : SameFront (step fw q s) (step fw q s') where
  site := congrArg (fun site => ((accountProgram fw q).run sem site (.init q.env)).shared) h.site
  products := by
    rw [db_of_anonymous hanonymous, db_of_anonymous hanonymous, h.products]
  inventories := by
    rw [db_of_anonymous hanonymous, db_of_anonymous hanonymous, h.inventories]

/-- **Visitors see only products.** The answers to a run of requests without tokens are the same
from any two shops that have the same accounts, passwords, links, products and batches, whatever
their sales, cost records and snapshots are. -/
theorem visitors_see_only_products (fw : Framework β) {requests : List (Http β)}
    (hanonymous : ∀ q ∈ requests, q.cookies.admitted q.env.now = none) {s s' : Shop}
    (h : SameFront s s') : replies fw requests s = replies fw requests s' :=
  replies_eq (fun _ _ _ hq h => h.respond hq) (fun _ _ _ hq h => h.step hq) hanonymous h

/-- A visitor looks at the product and logs in; without the sale and the cost record, the answers
would have been the same. -/
theorem visitors_see_only_products_shop :
    let visit := [Sample.request .get ["products", "x"] {} {}, Sample.login]
    let forgetful : Shop := { Sample.shop with
      db := { Sample.shop.db with
        store := { Sample.shop.db.store with sales := .empty, costs := .empty } } }
    (Sample.shop.db.store.sales.docs.length = 1 ∧ Sample.shop.db.store.costs.docs.length = 1) ∧
      replies Sample.framework visit Sample.shop = replies Sample.framework visit forgetful :=
  ⟨by decide +kernel, visitors_see_only_products Sample.framework
    (by decide +kernel) ⟨rfl, rfl, rfl⟩⟩

end Visitors

/-! ## Secrets -/

section Secrets

variable {fw : Framework β} {q : Http β}

/-- Two shops that differ in nothing but what password records with the same passwords hold. -/
structure SameButSecrets (pk : Packages) (s s' : Shop) : Prop where
  site : Alike pk s.site s'.site
  db : s.db = s'.db

/-- The middleware and the handler treat both sites alike. -/
theorem endpoint_indifferent (h : Handler) (params : List String) :
    Indifferent fw.packages (through q.cookies h.guards none (accountHandler fw q h params))
      (through q.cookies h.guards none (accountHandler fw q h params)) := by
  have hmodel := handler_indifferent fw.packages (accountRequest fw q h params) q.cookies
  cases h with
  | deleteUser | verifyUser =>
      rcases params with _ | ⟨x, _ | ⟨y, params⟩⟩
      · exact hmodel
      · simp only [accountHandler, accountRequest, Handler.guards, through] at hmodel ⊢
        cases hid : fw.objectId x with
        | none => exact guard_indifferent fun _ => indifferent_send _
        | some id =>
            rw [hid] at hmodel
            exact hmodel
      · exact hmodel
  | verifySignUpEmail | verifyPassWordResetMail =>
      rcases params with _ | ⟨x, _ | ⟨y, params⟩⟩ <;> exact hmodel
  | _ => exact hmodel

theorem accountProgram_indifferent (fw : Framework β) (q : Http β) :
    Indifferent fw.packages (accountProgram fw q) (accountProgram fw q) := by
  unfold accountProgram
  cases hreached : (passage fw q).target with
  | endpoint h params =>
      rw [(guards_passage hreached).1]
      exact endpoint_indifferent h params
  | _ =>
      have hlost : ∀ h params, (passage fw q).target ≠ .endpoint h params := by simp [hreached]
      rcases guards_passage_lost hlost with hguards | hguards
      · rw [hguards]
        exact .done ()
      · rw [hguards]
        exact guard_indifferent fun _ => .done ()

/-- `isLoggedIn` does not look at the site. -/
theorem letThrough_site (s s' : Site) (guards : List Middleware) (user : Option Token) :
    letThrough q s guards user = letThrough q s' guards user := by
  induction guards generalizing user with
  | nil => rfl
  | cons guard guards ih =>
      cases guard with
      | isLoggedIn => simp only [letThrough, (isLoggedIn_served q.cookies _ q.env).1, ih]
      | uploadMiddleWare => exact ih user

/-- No handler but those of accounts looks at anything of the site but its accounts. -/
theorem handlerReply_site {s s' : Shop} (husers : s.site.users = s'.site.users)
    (hdb : s.db = s'.db) (user : Option Token) (sent : List Answer) (h : Handler)
    (params : List String) :
    handlerReply fw q s user sent h params = handlerReply fw q s' user sent h params := by
  have hreaders : Shop.readers s = Shop.readers s' := by simp only [Shop.readers, husers, hdb]
  have hview (token : Token) : s.view token = s'.view token := by
    simp only [Shop.view, husers, hdb]
  have hquery (query : UserQuery) : query.eval s.site q.env = query.eval s'.site q.env := by
    cases query <;> simp only [UserQuery.eval, husers]
  unfold handlerReply
  simp only [hreaders, serveReport, fetchSeller, ledgerReply, hview, myAccout, findOne, findAll,
    searchUser, answerById, hquery, husers, hdb]

theorem SameButSecrets.respond {s s' : Shop} (h : SameButSecrets fw.packages s s') :
    respond fw q s = respond fw q s' := by
  unfold Web.respond
  rw [(accountProgram_indifferent fw q s.site s'.site (.init q.env) h.site).loc,
    letThrough_site s.site s'.site]
  simp only [handlerReply_site h.site.users h.db]

theorem SameButSecrets.step {s s' : Shop} (h : SameButSecrets fw.packages s s') :
    SameButSecrets fw.packages (step fw q s) (step fw q s') where
  site := (accountProgram_indifferent fw q s.site s'.site (.init q.env) h.site).shared
  db := by
    have hview (token : Token) : s.view token = s'.view token := by
      simp only [Shop.view, h.site.users, h.db]
    change ledgerAfter fw q s = ledgerAfter fw q s'
    unfold ledgerAfter
    rw [letThrough_site s.site s'.site]
    simp only [serveLedger, hview, h.db]

/-- **Answers say nothing of secrets.** The answers to every run of requests are the same from two
shops that differ in nothing but the stored secrets, if the same passwords open them. -/
theorem secrets_hidden (fw : Framework β) (requests : List (Http β)) {s s' : Shop}
    (h : SameButSecrets fw.packages s s') : replies fw requests s = replies fw requests s' :=
  replies_eq (P := fun _ => True) (fun _ _ _ _ h => h.respond) (fun _ _ _ _ h => h.step)
    (fun _ _ => trivial) h

/-- Hashing with a salt that is the first letter of the hash. -/
def salted : Framework Sample.Form :=
  { Sample.framework with
    packages := { Accounts.Sample.packages with
      hash := fun salt w => (if salt = 0 then "a" else "b") ++ w
      compare := fun w h => w.toList = h.toList.tail } }

/-- An admin has signed up. -/
def saltedShop : Shop := step salted Sample.signUp Sample.closed

/-- The same with another salt. -/
def resaltedShop : Shop :=
  { saltedShop with
    site := { saltedShop.site with
      auths := saltedShop.site.auths.modify 2 (setSecret "bpassword") } }

/-- The password of the admin logs in with either salt. -/
theorem secrets_hidden_salted :
    (saltedShop.site.auths.docs = [⟨2, 1, "apassword"⟩] ∧
      resaltedShop.site.auths.docs = [⟨2, 1, "bpassword"⟩] ∧
      (replies salted [Sample.login] saltedShop).map (fun a => a.cookies.length) = [3]) ∧
      replies salted [Sample.login] saltedShop = replies salted [Sample.login] resaltedShop := by
  have hdocs : saltedShop.site.auths.docs = [⟨2, 1, "apassword"⟩] := by decide +kernel
  have hdocs' : resaltedShop.site.auths.docs = [⟨2, 1, "bpassword"⟩] := by decide +kernel
  have htail : "apassword".toList.tail = "bpassword".toList.tail := by decide +kernel
  refine ⟨⟨hdocs, hdocs', by decide +kernel⟩, secrets_hidden salted _ ⟨⟨rfl, ?_, rfl, rfl⟩, rfl⟩⟩
  rw [Collection.Related, hdocs, hdocs']
  exact .cons ⟨rfl, rfl, fun w => by simp only [salted, htail]⟩ .nil

end Secrets

end InventoryHero.Web
