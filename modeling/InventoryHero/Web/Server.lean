import InventoryHero.Access.Ledger
import InventoryHero.Accounts.Tokens
import InventoryHero.Model.Readers
import InventoryHero.Model.Reports
import InventoryHero.Model.Writers
import InventoryHero.Web.Routes

/-!
# The server

A request as it arrives has a method, a path and a body. The router finds its handler; on the way
there it comes by the middleware that the routers name, which may answer it. `step` composes the
parts in the order in which the server runs them.

The models of the account routes and of the ledger put `isLoggedIn` where the routes were read to
have it. `step_refines` shows that this reading is right: a request does what those models say about
the call that it amounts to, and so does every run of requests (`run_refines`).
-/

set_option autoImplicit false

namespace InventoryHero.Web

open Interaction Routing Accounts Access
open Model (ObjectId Db)

/-! ## Requests -/

/-- What is used of packages outside the repository: how bodies, ids and dates are read, and what
Cloudinary makes of an upload. -/
structure Framework (β : Type) where
  packages : Packages
  driver : Model.Driver
  calendar : Model.Calendar
  decoder : Decoder
  /-- Mongoose's cast of an id; `none` is a `CastError`. -/
  objectId : String → Option ObjectId
  product : β → Model.ProductBody
  inventory : β → Model.InventoryBody
  sales : β → Model.SalesBody
  edit : β → Model.EditBody
  update : β → Model.ProductUpdate
  register : β → RegisterBody
  login : β → LoginBody
  email : β → Option String
  account : β → AccountUpdate
  oldPassWord : β → Option String
  newPassWord : β → Option String
  /-- The date and the type of a report; `none` for those which `Calendar` does not have. -/
  period : String → String → Option (Model.Date × Model.ReportType)
  uploadCloudinary : β → Model.Response

/-- A request as it arrives. Of the cookies, `id` is read by `myAccout` only. -/
structure Http (β : Type) where
  method : Method
  path : List String
  query : String → Option String
  body : β
  cookies : Cookies
  idCookie : Option String
  env : Accounts.Env
  destroyFails : ℕ → Bool

variable {β : Type}

/-- The circumstances as the product controller knows them. -/
def Http.ledgerEnv (q : Http β) : Model.Env := ⟨q.env.now, q.env.commitFails, q.destroyFails⟩

section Server

variable (fw : Framework β) (q : Http β)

/-- The way of the request. `OPTIONS` requests are answered by `cors`. -/
def passage : Passage Middleware Handler String :=
  if q.method = .options then ⟨[], .notFound⟩
  else walk (text fw.decoder) router q.method q.path

/-! ## The account routes -/

/-- The handlers of `controller/authentication.js` that write or set cookies; `user` is `req.user`.
An id that cannot be cast makes the first query throw. -/
def accountHandler : Handler → List String → Option Claims → Accounts.Web Unit
  | .signUpEmailPassword, _, _ => signUpEmailPassword fw.packages (fw.register q.body)
  | .completeSignup, _, _ => completeSignup fw.packages (q.query "token") (fw.register q.body)
  | .signUpMagicLink, _, _ => signUpMagicLink fw.packages (fw.email q.body)
  | .Login, _, _ => Login fw.packages (fw.login q.body)
  | .verifySignUpEmail, [token], _ => verifySignUpEmail token
  | .forgotPassWord, _, _ => forgotPassWord (fw.email q.body)
  | .verifyPassWordResetMail, [token], _ =>
      verifyPassWordResetMail fw.packages token (fw.newPassWord q.body)
  | .userLogOut, _, some user => userLogOut q.cookies user
  | .updateUser, _, some user => updateUser (fw.account q.body) user
  | .changePassWord, _, some user =>
      changePassWord fw.packages (fw.oldPassWord q.body) (fw.newPassWord q.body) user
  | .deleteUser, [id], _ =>
      (fw.objectId id).elim (send ⟨400, .error (.mongo .cast)⟩) deleteUser
  | .verifyUser, [id], _ =>
      (fw.objectId id).elim (send ⟨500, .text "internal server error"⟩) fun id =>
        verifyUser id (fw.account q.body)
  | _, _, _ => pure ()

/-- The middleware in turn, and then the handler. -/
def through (cookies : Cookies) :
    List Middleware → Option Claims → (Option Claims → Accounts.Web Unit) → Accounts.Web Unit
  | [], user, next => next user
  | .isLoggedIn :: guards, _, next =>
      guard cookies fun claims => through cookies guards (some claims) next
  | .uploadMiddleWare :: guards, user, next => through cookies guards user next

/-- What the request does to accounts and cookies. -/
def accountProgram : Accounts.Web Unit :=
  through q.cookies (passage fw q).guards none fun user =>
    match (passage fw q).target with
    | .endpoint h params => accountHandler fw q h params user
    | _ => pure ()

/-! ## The ledger -/

/-- The request that a handler of `controller/product.controller.js` is given, if it writes. An id
that cannot be cast makes a query throw before anything is written. -/
def ledgerRequest : Handler → List String → Option Model.WriteRequest
  | .addProduct, _ => some (.stock (.addProduct (fw.product q.body)))
  | .addInventory, [id] => (fw.objectId id).map fun id =>
      .stock (.addInventory id (fw.inventory q.body))
  | .recordSales, [id] => (fw.objectId id).map fun id =>
      .stock (.recordSales id (fw.sales q.body))
  | .deleteSalesRecord, [id, prd] => (fw.objectId id).bind fun id =>
      (fw.objectId prd).map fun prd => .stock (.deleteSalesRecord id prd)
  | .deleteAllSales, _ => some (.stock .deleteAllSales)
  | .userDeleteProduct, [id] => (fw.objectId id).map fun id => .stock (.userDeleteProduct id)
  | .deleteInventory, [id] => (fw.objectId id).map fun id => .stock (.deleteInventory id)
  | .editInventory, [id] => (fw.objectId id).map fun id =>
      .stock (.editInventory id (fw.edit q.body))
  | .editProduct, [id] => (fw.objectId id).map fun id =>
      .catalog (.editProduct id (fw.update q.body))
  | .adminDeleteProduct, [id] => (fw.objectId id).map fun id => .catalog (.adminDeleteProduct id)
  | .updateProduct, [id] => (fw.objectId id).map fun id => .updateProduct id (fw.update q.body)
  | .updateProductStatus, [id] => (fw.objectId id).map fun id =>
      .updateProductStatus id (fw.update q.body).status (fw.update q.body).available
  | _, _ => none

/-- The ledger after a request with this token. -/
def serveLedger (request : Model.WriteRequest) (token : Token) (env : Model.Env) (s : Shop) : Db :=
  ((Model.writeHandler request (caller token)).run Model.sem (s.view token) (.init env)).shared

/-- `req.user` after the middleware, or `none` when the request was answered there. -/
def letThrough (s : Site) : List Middleware → Option Token → Option (Option Token)
  | [], user => some user
  | .isLoggedIn :: guards, _ =>
      match ((isLoggedIn q.cookies).run sem s (.init q.env)).result with
      | .ok (some token) => letThrough s guards (some token)
      | _ => none
  | .uploadMiddleWare :: guards, user => letThrough s guards user

/-- The ledger after the request. -/
def ledgerAfter (s : Shop) : Db :=
  match letThrough q s.site (passage fw q).guards none, (passage fw q).target with
  | some (some token), .endpoint h params =>
      (ledgerRequest fw q h params).elim s.db fun request =>
        serveLedger request token q.ledgerEnv s
  | _, _ => s.db

/-- The server's answer to a request, as far as its state goes. -/
def step (s : Shop) : Shop where
  site := ((accountProgram fw q).run sem s.site (.init q.env)).shared
  db := ledgerAfter fw q s

/-! ## The calls that requests amount to -/

/-- The request as the model of the account routes has it. -/
def accountRequest : Handler → List String → Accounts.Request
  | .signUpEmailPassword, _ => .signUpEmailPassword (fw.register q.body)
  | .completeSignup, _ => .completeSignup (q.query "token") (fw.register q.body)
  | .signUpMagicLink, _ => .signUpMagicLink (fw.email q.body)
  | .Login, _ => .Login (fw.login q.body)
  | .verifySignUpEmail, [token] => .verifySignUpEmail token
  | .forgotPassWord, _ => .forgotPassWord (fw.email q.body)
  | .verifyPassWordResetMail, [token] => .verifyPassWordResetMail token (fw.newPassWord q.body)
  | .userLogOut, _ => .userLogOut
  | .updateUser, _ => .updateUser (fw.account q.body)
  | .changePassWord, _ => .changePassWord (fw.oldPassWord q.body) (fw.newPassWord q.body)
  | .deleteUser, [id] => (fw.objectId id).elim (.other true) .deleteUser
  | .verifyUser, [id] => (fw.objectId id).elim (.other true) (.verifyUser · (fw.account q.body))
  | h, _ => .other (decide (.isLoggedIn ∈ h.guards))

/-- Calls of the two models. -/
inductive ModelCall
  | account (c : Accounts.Call)
  | ledger (request : Model.WriteRequest) (cookies : Cookies) (env : Model.Env)

/-- The call that the request amounts to. -/
def modelCall : ModelCall :=
  match (passage fw q).target with
  | .endpoint h params =>
      match ledgerRequest fw q h params with
      | some request => .ledger request q.cookies q.ledgerEnv
      | none => .account ⟨accountRequest fw q h params, q.cookies, q.env⟩
  | _ => .account ⟨.other (decide (.isLoggedIn ∈ (passage fw q).guards)), q.cookies, q.env⟩

/-- The shop of the two models; requests that `Shop.step` does not have are served in its manner. -/
def modelStep : ModelCall → Shop → Shop
  | .account c, s => Shop.step fw.packages (.account c) s
  | .ledger (.catalog (.stock request)) cookies env, s =>
      Shop.step fw.packages (.product request cookies env) s
  | .ledger request cookies env, s =>
      match cookies.admitted env.now with
      | none => s
      | some token => { s with db := serveLedger request token env s }

end Server

section Refinement

variable {fw : Framework β} {q : Http β}

theorem guards_passage {h : Handler} {params : List String}
    (hreached : (passage fw q).target = .endpoint h params) :
    (passage fw q).guards = h.guards ∧ q.method.takenBy h.method = true := by
  unfold passage at hreached ⊢
  split at hreached
  · cases hreached
  · rename_i hmethod
    rw [if_neg hmethod]
    exact ⟨(guards_of_reached hreached).1, (guards_of_reached hreached).2.1⟩

theorem guards_passage_lost (hlost : ∀ h params, (passage fw q).target ≠ .endpoint h params) :
    (passage fw q).guards = [] ∨ (passage fw q).guards = [.isLoggedIn] := by
  unfold passage at hlost ⊢
  split
  · exact .inl rfl
  · rename_i hmethod
    rw [if_neg hmethod] at hlost
    exact guards_of_lost hlost

theorem guards_of_ledgerRequest {h : Handler} {params : List String} {request : Model.WriteRequest}
    (hrequest : ledgerRequest fw q h params = some request) : h.guards = [.isLoggedIn] := by
  cases h <;> first | rfl | cases hrequest

/-- A handler behind `isLoggedIn` that leaves the site alone. -/
theorem shared_guard {next : Claims → Accounts.Web Unit} {s : Site}
    (h : ∀ claims x, ((next claims).run sem s x).shared = s) (cookies : Cookies)
    (env : Accounts.Env) : ((guard cookies next).run sem s (.init env)).shared = s :=
  wp_guard (Q := fun F => F.shared = s) (entered_init env) (fun _ _ => rfl)
    fun token x _ _ => h token.claims x

theorem shared_send (a : Answer) (s : Site) (x : Accounts.Exchange) :
    ((send a).run sem s x).shared = s := by
  rw [send, Prog.run_op_bind]
  simp only [sem]
  split <;> rfl

theorem serveStep_other (pk : Packages) (guarded : Bool) (cookies : Cookies) (env : Accounts.Env)
    (s : Site) : Accounts.serveStep pk ⟨.other guarded, cookies, env⟩ s = s := by
  cases guarded with
  | false => rfl
  | true =>
      change ((guard cookies fun _ => pure ()).run sem s (.init env)).shared = s
      exact shared_guard (fun _ _ => rfl) cookies env

/-- The middleware and the handler do to the site what the model of the account routes says. -/
theorem site_endpoint (h : Handler) (params : List String) (s : Site) :
    ((through q.cookies h.guards none (accountHandler fw q h params)).run sem s
        (.init q.env)).shared =
      Accounts.serveStep fw.packages ⟨accountRequest fw q h params, q.cookies, q.env⟩ s := by
  cases h with
  | deleteUser | verifyUser =>
      rcases params with _ | ⟨x, _ | ⟨y, params⟩⟩
      · rfl
      · simp only [accountHandler, accountRequest, Handler.guards, through]
        cases fw.objectId x with
        | none =>
            rw [Option.elim_none, Option.elim_none, serveStep_other]
            exact shared_guard (fun _ x => shared_send _ s x) q.cookies q.env
        | some id => rfl
      · rfl
  | verifySignUpEmail | verifyPassWordResetMail =>
      rcases params with _ | ⟨x, _ | ⟨y, params⟩⟩ <;> rfl
  | _ => rfl

/-- A request that reaches no handler leaves the site alone. -/
theorem site_lost (hlost : ∀ h params, (passage fw q).target ≠ .endpoint h params) (s : Site) :
    ((accountProgram fw q).run sem s (.init q.env)).shared = s := by
  simp only [accountProgram]
  rcases guards_passage_lost hlost with hguards | hguards
  · rw [hguards]
    rfl
  · rw [hguards]
    exact shared_guard (fun _ _ => rfl) q.cookies q.env

theorem accountRequest_of_ledger {h : Handler} {params : List String} {request : Model.WriteRequest}
    (hrequest : ledgerRequest fw q h params = some request) :
    accountRequest fw q h params = .other true := by
  cases h <;> first | rfl | cases hrequest

/-- The ledger after a request to one of its handlers. -/
theorem ledgerAfter_eq {h : Handler} {params : List String} {request : Model.WriteRequest}
    (hreached : (passage fw q).target = .endpoint h params)
    (hrequest : ledgerRequest fw q h params = some request) (s : Shop) :
    ledgerAfter fw q s = (q.cookies.admitted q.env.now).elim s.db fun token =>
      serveLedger request token q.ledgerEnv s := by
  have hguards := (guards_passage hreached).1.trans (guards_of_ledgerRequest hrequest)
  simp only [ledgerAfter, hguards, letThrough, hreached,
    (isLoggedIn_served q.cookies s.site q.env).1]
  cases q.cookies.admitted q.env.now with
  | none => rfl
  | some token => simp [hrequest]

theorem ledgerAfter_of_none (hnone : ∀ h params, (passage fw q).target = .endpoint h params →
    ledgerRequest fw q h params = none) (s : Shop) : ledgerAfter fw q s = s.db := by
  unfold ledgerAfter
  split
  · rename_i h params _ htarget
    rw [hnone h params htarget, Option.elim_none]
  · rfl

theorem modelStep_ledger (request : Model.WriteRequest) (cookies : Cookies) (env : Model.Env)
    (s : Shop) :
    modelStep fw (.ledger request cookies env) s = (cookies.admitted env.now).elim s fun token =>
      { s with db := serveLedger request token env s } := by
  match request with
  | .catalog (.stock request) =>
      simp only [modelStep, Shop.step]
      cases cookies.admitted env.now <;> rfl
  | .catalog (.editProduct _ _) | .catalog (.adminDeleteProduct _) | .updateProduct _ _
  | .updateProductStatus _ _ _ =>
      simp only [modelStep]
      cases cookies.admitted env.now <;> rfl

theorem shop_ext {s s' : Shop} (hsite : s.site = s'.site) (hdb : s.db = s'.db) : s = s' := by
  cases s
  cases s'
  cases hsite
  cases hdb
  rfl

theorem step_lost (hlost : ∀ h params, (passage fw q).target ≠ .endpoint h params) (s : Shop) :
    step fw q s = s := by
  refine shop_ext (site_lost hlost s.site) (ledgerAfter_of_none ?_ s)
  exact fun h params hreached => absurd hreached (hlost h params)

/-- For every method, path and body, routing the request through the layers of the routers and their
middleware comes to the call of the models that the request amounts to. -/
theorem step_refines (fw : Framework β) (q : Http β) (s : Shop) :
    step fw q s = modelStep fw (modelCall fw q) s := by
  unfold modelCall
  cases hreached : (passage fw q).target with
  | endpoint h params =>
      have hguards := (guards_passage hreached).1
      have hsite : (step fw q s).site = Accounts.serveStep fw.packages
          ⟨accountRequest fw q h params, q.cookies, q.env⟩ s.site := by
        rw [← site_endpoint]
        simp only [step, accountProgram, hreached, hguards]
      simp only
      cases hrequest : ledgerRequest fw q h params with
      | some request =>
          rw [accountRequest_of_ledger hrequest, serveStep_other] at hsite
          have hdb : (step fw q s).db = _ := ledgerAfter_eq hreached hrequest s
          simp only [modelStep_ledger]
          change _ = (q.cookies.admitted q.env.now).elim _ _
          cases hadmitted : q.cookies.admitted q.env.now with
          | none =>
              rw [hadmitted] at hdb
              exact shop_ext hsite hdb
          | some token =>
              rw [hadmitted] at hdb
              exact shop_ext hsite hdb
      | none =>
          refine shop_ext hsite (ledgerAfter_of_none ?_ s)
          intro h' params' hreached'
          rw [hreached] at hreached'
          cases hreached'
          exact hrequest
  | _ =>
      have hlost : ∀ h params, (passage fw q).target ≠ .endpoint h params := by simp [hreached]
      rw [step_lost hlost]
      exact shop_ext (serveStep_other _ _ _ _ s.site).symm rfl

/-- Without a token, a request does nothing to the ledger. -/
theorem db_of_anonymous (hanonymous : q.cookies.admitted q.env.now = none) (s : Shop) :
    (step fw q s).db = s.db := by
  rw [step_refines]
  unfold modelCall
  split
  · split
    · rw [modelStep_ledger]
      change ((q.cookies.admitted q.env.now).elim s _).db = s.db
      rw [hanonymous, Option.elim_none]
    · rfl
  · rfl

/-- **The server does what the models say.** A run of requests, whatever their methods, paths,
cookies and bodies are, does what the calls of the models do that these requests amount to. -/
theorem run_refines (fw : Framework β) (requests : List (Http β)) (s : Shop) :
    requests.foldl (fun s q => step fw q s) s =
      (requests.map (modelCall fw)).foldl (fun s call => modelStep fw call s) s := by
  induction requests generalizing s with
  | nil => rfl
  | cons q requests ih =>
      rw [List.foldl_cons, List.map_cons, List.foldl_cons, step_refines]
      exact ih _

end Refinement

/-! ## A small server

Data for the concrete runs that stand beside the theorems. -/

namespace Sample

/-- The fields that the bodies of these runs have. -/
structure Form where
  email : Option String := none
  telephone : Option String := none
  role : Option String := none
  password : Option String := none
  quantity : ℚ := 0

/-- The text of an id has as many characters as the id says. -/
def framework : Framework Form where
  packages := Accounts.Sample.packages
  driver := ⟨true, fun _ => none⟩
  calendar := .utc
  decoder := anyDecoder
  objectId text := some text.toList.length
  product form := Model.Sample.productBody form.quantity 100
  inventory form := Model.Sample.inventoryBody form.quantity 100
  sales form := Model.Sample.salesBody form.quantity
  edit form := Model.Sample.editBody (some form.quantity) none
  update _ := {}
  register form := ⟨some "shop", some "keeper", form.telephone, form.role, form.email,
    form.password⟩
  login form := ⟨form.email, form.telephone, form.password⟩
  email form := form.email
  account form := { role := form.role.map some }
  oldPassWord form := form.password
  newPassWord form := form.password
  period _ _ := none
  uploadCloudinary _ := .text 200 ""

def request (method : Method) (path : List String) (cookies : Cookies) (body : Form) :
    Http Form where
  method := method
  path := path
  query _ := none
  body := body
  cookies := cookies
  idCookie := none
  env := Accounts.Sample.env 0 "link"
  destroyFails _ := false

/-- An admin signs up and logs in. -/
def signUp : Http Form :=
  request .post ["users"] {}
    { email := some "a@shop", telephone := some "08012345678", role := some "admin"
      password := some "password" }

def login : Http Form :=
  request .post ["users", "login"] {} { email := some "a@shop", password := some "password" }

/-- The admin adds ten pieces of a product and sells four. -/
def opening : List (Http Form) :=
  [signUp, login, request .post ["products", ""] adminCookies { quantity := 10 },
    request .post ["products", "record-sales", "x"] adminCookies { quantity := 4 }]

def closed : Shop := ⟨Accounts.Sample.site, Model.Sample.db⟩

/-- The shop after these requests. -/
def shop : Shop := opening.foldl (fun s q => step framework q s) closed

end Sample

end InventoryHero.Web
