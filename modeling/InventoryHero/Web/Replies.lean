import InventoryHero.Accounts.Readers
import InventoryHero.Web.Server

/-!
# What the server answers

`respond` is the answer to a request: that of the middleware which stopped it, or that of its
handler, with the cookies that were set on the way. `replies` are the answers to a run of requests.
-/

set_option autoImplicit false

namespace InventoryHero.Web

open Routing Accounts Access
open Model (ObjectId Db)

/-! ## Answers -/

/-- The account of a seller, with the fields of `userAttributes`. -/
structure Seller where
  _id : ObjectId
  firstName : Option String
  lastName : Option String
  email : Option String
  telephone : Option String
  deriving DecidableEq, Repr

inductive Reply
  /-- No route took the request. -/
  | notFound
  /-- A parameter of the path could not be decoded. -/
  | malformed
  | home
  /-- An answer of the middleware, or of a handler that changes accounts. -/
  | account (sent : List Answer)
  | profile (response : AccountResponse)
  | products (result : Except Model.ReaderError Model.ReaderResponse)
  /-- A query of a reader threw, since the id could not be cast. -/
  | castError
  | sales (report : Model.Report Model.Sale)
  | costs (report : Model.Report Model.Cost)
  | sellers (sellers : List Seller)
  | ledger (sent : List Model.Response)
  /-- What `updateProduct` and `updateProductStatus` answer as `product`, or the error that they
  forward. -/
  | product (result : Except Model.JsError (Option Model.Product))
  /-- Reports of periods that `Calendar` does not have, and ids that could not be cast in a request
  to the ledger. -/
  | leftOut
  deriving DecidableEq

/-- An answer, with the cookies that come with it. -/
structure Answered where
  cookies : List SetCookie
  reply : Reply
  deriving DecidableEq

variable {β : Type}

section Respond

variable (fw : Framework β) (q : Http β)

/-- The store as the readers see it. -/
def Shop.readers (s : Shop) : Model.Store :=
  { s.db.store with users := ledgerUsers s.site.users }

/-- `distinct` is not subject to the hook that hides deleted products. -/
def fetchSeller (s : Shop) : List Seller :=
  (s.site.users.docs.filter fun a =>
    a._id ∈ s.db.store.products.docs.filterMap Model.Product.seller).map fun a =>
      ⟨a._id, a.firstName, a.lastName, a.email, a.telephone⟩

def serveReport {ρ : Type} (wrap : Model.Report ρ → Reply)
    (fetch : Option Model.Date → Model.ReportType → Model.Store → Model.Report ρ) (s : Shop)
    (date reportType : String) : Reply :=
  (fw.period date reportType).elim .leftOut fun (date, reportType) =>
    wrap (fetch (some date) reportType s.db.store)

/-- The answer to a request that writes to the ledger. -/
def ledgerReply (s : Shop) (token : Token) : Model.WriteRequest → Reply
  | .catalog request =>
      .ledger (Model.serveCatalog ⟨request, caller token, q.ledgerEnv⟩ (s.view token)).loc.sent
  | .updateProduct id data =>
      .product ((Model.updateProduct id data).run Model.sem (s.view token)
        (.init q.ledgerEnv)).result
  | .updateProductStatus id status available =>
      .product ((Model.updateProductStatus id status available).run Model.sem (s.view token)
        (.init q.ledgerEnv)).result

/-- The answer of a handler; `sent` is what `accountProgram` has sent. -/
def handlerReply (s : Shop) (user : Option Token) (sent : List Answer) :
    Handler → List String → Reply
  | .HomePage, _ => .home
  | .myAccout, _ => .profile (myAccout fw.objectId s.site q.env q.idCookie)
  | .findOne, [id] => .profile (findOne fw.objectId s.site q.env id)
  | .findAll, _ => .profile (findAll s.site)
  | .searchUser, _ => .profile (searchUser s.site q.env (q.query "email") (q.query "telephone"))
  | .fetchSeller, _ => .sellers (fetchSeller s)
  | .findProduct, [id] => (fw.objectId id).elim .castError fun id =>
      .products (Model.serveReader fw.driver (.findProduct id) (Shop.readers s)).result
  | .searchProducts, _ =>
      .products (Model.serveReader fw.driver (.searchProducts (q.query "query"))
        (Shop.readers s)).result
  | .fetchProducts, _ =>
      .products (Model.serveReader fw.driver
        (.fetchProducts (roleOf (user.bind fun token => token.claims.role)))
        (Shop.readers s)).result
  | .fetchVerifiedProducts, _ =>
      .products (Model.serveReader fw.driver .fetchVerifiedProducts (Shop.readers s)).result
  | .fetchUnwindVerifiedProducts, _ =>
      .products (Model.serveReader fw.driver .fetchUnwindVerifiedProducts (Shop.readers s)).result
  | .userFetchUnverifiedProducts, _ =>
      .products (Model.serveReader fw.driver
        (.userFetchUnverifiedProducts (user.bind fun token => token.claims._id))
        (Shop.readers s)).result
  | .fetchSalesRecord, [date, reportType] =>
      serveReport fw .sales (Model.fetchSalesRecord fw.calendar) s date reportType
  | .fetchCostsRecord, [date, reportType] =>
      serveReport fw .costs (Model.fetchCostsRecord fw.calendar) s date reportType
  | .uploadCloudinary, _ => .ledger [fw.uploadCloudinary q.body]
  | .signUpEmailPassword, _ | .completeSignup, _ | .signUpMagicLink, _ | .Login, _
  | .verifySignUpEmail, _ | .forgotPassWord, _ | .verifyPassWordResetMail, _ | .userLogOut, _
  | .updateUser, _ | .changePassWord, _ | .deleteUser, _ | .verifyUser, _ => .account sent
  | h, params =>
      match ledgerRequest fw q h params, user with
      | some request, some token => ledgerReply q s token request
      | _, _ => .leftOut

/-- The answer to the request. -/
def respond (s : Shop) : Answered :=
  let x := ((accountProgram fw q).run sem s.site (.init q.env)).loc
  ⟨x.cookies, match letThrough q s.site (passage fw q).guards none with
    | none => .account x.sent
    | some user => match (passage fw q).target with
      | .endpoint h params => handlerReply fw q s user x.sent h params
      | .notFound => .notFound
      | .malformed => .malformed⟩

/-- The answers to a run of requests. -/
def replies : List (Http β) → Shop → List Answered
  | [], _ => []
  | q :: requests, s => respond fw q s :: replies requests (step fw q s)

end Respond

/-- Two shops that no single request tells apart are not told apart by a run. -/
theorem replies_eq {fw : Framework β} {P : Http β → Prop} {R : Shop → Shop → Prop}
    (hrespond : ∀ q s s', P q → R s s' → respond fw q s = respond fw q s')
    (hstep : ∀ q s s', P q → R s s' → R (step fw q s) (step fw q s')) {requests : List (Http β)}
    (hP : ∀ q ∈ requests, P q) {s s' : Shop} (h : R s s') :
    replies fw requests s = replies fw requests s' := by
  induction requests generalizing s s' with
  | nil => rfl
  | cons q requests ih =>
      obtain ⟨hq, hrequests⟩ := List.forall_mem_cons.1 hP
      rw [replies, replies, hrespond q s s' hq h, ih hrequests (hstep q s s' hq h)]

end InventoryHero.Web
