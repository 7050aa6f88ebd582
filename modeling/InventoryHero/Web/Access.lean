import InventoryHero.Accounts.Credentials
import InventoryHero.Passwords.Last
import InventoryHero.Serial.Handlers
import InventoryHero.Serial.Reversals
import InventoryHero.Web.Server

/-!
# What requests may do

Statements about every request that can be sent to the server, whatever its method, path, cookies
and body are, and about every run of such requests.

Without a token that passes `isLoggedIn`, a request changes nothing but what a sign-up or a link
allows (`anonymous_harmless`). `GET` and `HEAD` requests change nothing, except that a verification
link is a `GET` (`safe_methods`). Every account has one password record (`credentials_sound`). The
token of a deleted account goes on to pass, but only the handlers that do not look the caller up
still act on it (`deleted_account_out`).
-/

set_option autoImplicit false

namespace InventoryHero.Web

open Interaction Routing Storage Accounts Access
open Model (ObjectId Db)
open Passwords (NoAccounts)

variable {β : Type} {fw : Framework β} {q : Http β}

/-- The site changes as by a call to the account routes with the cookies of the request. -/
theorem site_step (fw : Framework β) (q : Http β) (s : Shop) : ∃ request,
    (step fw q s).site = Accounts.serveStep fw.packages ⟨request, q.cookies, q.env⟩ s.site := by
  have hidle : ∃ request,
      s.site = Accounts.serveStep fw.packages ⟨request, q.cookies, q.env⟩ s.site :=
    ⟨.other true, (serveStep_other _ _ _ _ _).symm⟩
  rw [step_refines]
  unfold modelCall
  split
  · split
    · rw [modelStep_ledger]
      cases q.cookies.admitted q.ledgerEnv.now with
      | none => exact hidle
      | some token => exact hidle
    · exact ⟨_, rfl⟩
  · exact ⟨_, rfl⟩

/-! ## Requests without a token -/

/-- `isLoggedIn` answers the request. -/
theorem serveStep_refused (pk : Packages) {c : Accounts.Call} (hguarded : c.request.guarded = true)
    (hrefused : c.cookies.admitted c.env.now = none) (s : Site) :
    Accounts.serveStep pk c s = s := by
  have hguard (next : Claims → Accounts.Web Unit) :
      ((guard c.cookies next).run sem s (.init c.env)).shared = s := by
    refine wp_guard (Q := fun F => F.shared = s) (entered_init _) (fun _ _ => rfl) ?_
    intro token x htoken
    rw [hrefused] at htoken
    cases htoken
  unfold Accounts.serveStep serve
  cases hc : c.request with
  | userLogOut => exact hguard _
  | updateUser body => exact hguard _
  | changePassWord old new => exact hguard _
  | deleteUser id => exact hguard fun _ => deleteUser id
  | verifyUser id data => exact hguard fun _ => verifyUser id data
  | other guarded =>
      cases guarded with
      | false => rfl
      | true => exact hguard fun _ => pure ()
  | _ => simp [hc, Accounts.Request.guarded] at hguarded

/-- There is a link for the email. -/
def Linked (s : Site) (now : Model.Date) (email : Option String) : Prop :=
  ∃ token ticket, s.getCache token now = some ticket ∧ ticket.email = email

/-- Nothing was taken from the accounts and passwords, and nothing was changed in them but what the
links for their emails are for. -/
structure Harmless (s : Site) (now : Model.Date) (s' : Site) : Prop where
  accounts : ∀ a ∈ s.users.docs, ∃ a' ∈ s'.users.docs,
    a' = a ∨ a' = setVerified.apply a ∧ Linked s now a.email
  passwords : ∀ auth ∈ s.auths.docs, ∃ auth' ∈ s'.auths.docs, auth' = auth ∨
    ∃ secret a, auth' = (setSecret secret).apply auth ∧ a ∈ s.users.docs ∧ a._id = auth.user ∧
      Linked s now a.email

theorem harmless_of_eq {s s' : Site} {now : Model.Date} (husers : s'.users = s.users)
    (hauths : s'.auths = s.auths) : Harmless s now s' :=
  ⟨fun a ha => ⟨a, husers ▸ ha, .inl rfl⟩, fun auth hauth => ⟨auth, hauths ▸ hauth, .inl rfl⟩⟩

/-- A password is reset with a link for the email of its account. -/
theorem linked_of_passwordTarget {pk : Packages} {c : Accounts.Call} {s : Site} {user : Account}
    {auth : Auth} {w : String} (hrefused : c.cookies.admitted c.env.now = none)
    (h : passwordTarget pk s c = some (user, auth, w)) :
    user ∈ s.users.docs ∧ s.authOf user._id = some auth ∧ Linked s c.env.now user.email := by
  obtain ⟨hmem, hauth, ⟨token, old, -, hadmitted, -⟩ | ⟨k, ticket, -, hticket, hfound⟩⟩ :=
    passwordTarget_cases h
  · simp [hrefused] at hadmitted
  · exact ⟨hmem, hauth, k, ticket, hticket, (Users.byEmail_eq_some_iff.1 hfound).2.symm⟩

theorem harmless_of_effect {pk : Packages} {c : Accounts.Call} {s s' : Site} {sent : List Answer}
    {wrote : List Written} (e : Effect pk s c s' sent wrote)
    (hrefused : c.cookies.admitted c.env.now = none) (hopen : c.request.guarded = false) :
    Harmless s c.env.now s' := by
  cases e with
  | unchanged users auths cache next => exact harmless_of_eq users auths
  | registered body data id signsUp valid free commits accepted new_id users auths cache =>
      refine ⟨fun a ha => ⟨a, ?_, .inl rfl⟩, fun auth hauth => ⟨auth, ?_, .inl rfl⟩⟩
      · rw [(Users.create_ok users).2]
        exact List.mem_append_left _ ha
      · rw [auths]
        exact Collection.mem_insert_of_mem hauth
  | cached email asks => exact harmless_of_eq rfl rfl
  | verified token ticket user request found account =>
      obtain ⟨huser, hemail⟩ := Users.byEmail_eq_some_iff.1 account
      refine ⟨fun a ha => ⟨_, Collection.mem_modify.2 ⟨a, ha, rfl⟩, ?_⟩,
        fun auth hauth => ⟨auth, hauth, .inl rfl⟩⟩
      by_cases hid : a._id = user._id
      · obtain rfl : a = user := Collection.eq_of_key_eq ha huser hid
        exact .inr ⟨if_pos rfl, token, ticket, found, hemail.symm⟩
      · exact .inl (if_neg hid)
  | updated id data users user updates stored =>
      cases updates with
      | profile token request admitted account =>
          rw [hrefused] at admitted
          cases admitted
      | admin token request admitted =>
          rw [hrefused] at admitted
          cases admitted
  | deleted id request =>
      rw [request] at hopen
      cases hopen
  | password user auth w target answer =>
      obtain ⟨huser, hauth, hlinked⟩ := linked_of_passwordTarget hrefused target
      refine ⟨fun a ha => ⟨a, ha, .inl rfl⟩,
        fun x hx => ⟨_, Collection.mem_modify.2 ⟨x, hx, rfl⟩, ?_⟩⟩
      by_cases hid : x._id = auth._id
      · obtain rfl : x = auth :=
          Collection.eq_of_key_eq hx (List.mem_of_find?_eq_some hauth) hid
        exact .inr ⟨_, user, if_pos rfl, huser, (authOf_user hauth).symm, hlinked⟩
      · exact .inl (if_neg hid)

theorem harmless_of_refused (pk : Packages) {c : Accounts.Call}
    (hrefused : c.cookies.admitted c.env.now = none) (s : Site) :
    Harmless s c.env.now (Accounts.serveStep pk c s) := by
  cases hguarded : c.request.guarded with
  | true =>
      rw [serveStep_refused pk hguarded hrefused]
      exact harmless_of_eq rfl rfl
  | false => exact harmless_of_effect (serve_effect pk c s) hrefused hguarded

/-- **Without a token nothing is taken.** A request, whatever its method, path and body are, whose
cookies hold no token that passes `isLoggedIn` leaves the ledger as it was, and accounts and
passwords as well, but for what the links for their emails are for. -/
theorem anonymous_harmless (fw : Framework β) (q : Http β)
    (hanonymous : q.cookies.admitted q.env.now = none) (s : Shop) :
    (step fw q s).db = s.db ∧ Harmless s.site q.env.now (step fw q s).site := by
  obtain ⟨request, hsite⟩ := site_step fw q s
  rw [hsite]
  exact ⟨db_of_anonymous hanonymous s,
    harmless_of_refused fw.packages (c := ⟨request, q.cookies, q.env⟩) hanonymous s.site⟩

/-- Without cookies, the sale of the shop is not deleted. -/
theorem anonymous_harmless_shop :
    let q := Sample.request .delete ["products", "delete-all-sales"] {} {}
    (Sample.shop.db.store.sales.docs.map Model.Sale._id = [4] ∧
      (passage Sample.framework q).target = .endpoint .deleteAllSales []) ∧
      (step Sample.framework q Sample.shop).db = Sample.shop.db ∧
      Harmless Sample.shop.site 0 (step Sample.framework q Sample.shop).site :=
  ⟨by decide +kernel, anonymous_harmless Sample.framework _ rfl Sample.shop⟩

/-! ## Safe methods -/

/-- Handlers of `GET` routes only read, with one exception. -/
theorem reads_of_get (fw : Framework β) (q : Http β) {h : Handler} (hget : h.method = .get)
    (hverify : h ≠ .verifySignUpEmail) (params : List String) :
    ledgerRequest fw q h params = none ∧
      accountRequest fw q h params = .other (decide (.isLoggedIn ∈ h.guards)) := by
  cases h <;> first | exact ⟨rfl, rfl⟩ | exact absurd rfl hverify | cases hget

theorem method_of_safe {m m' : Method} (hsafe : m = .get ∨ m = .head)
    (h : m.takenBy m' = true) (hhead : m' ≠ .head) : m' = .get := by
  rcases hsafe with rfl | rfl
  · simpa [Method.takenBy, eq_comm] using h
  · simpa [Method.takenBy, Ne.symm hhead] using h

theorem Handler.method_ne_head (h : Handler) : h.method ≠ .head := by
  cases h <;> nofun

/-- **Safe methods are safe.** A `GET`, `HEAD` or `OPTIONS` request leaves accounts, passwords,
links and ledger as they were, unless its path is that of a verification link. -/
theorem safe_methods (fw : Framework β) (q : Http β)
    (hsafe : q.method = .get ∨ q.method = .head ∨ q.method = .options) (s : Shop) :
    step fw q s = s ∨ ∃ params, (passage fw q).target = .endpoint .verifySignUpEmail params := by
  cases hreached : (passage fw q).target with
  | endpoint h params =>
      by_cases hverify : h = .verifySignUpEmail
      · exact .inr ⟨params, hverify ▸ rfl⟩
      · left
        have htaken := (guards_passage hreached).2
        have hget : h.method = .get := by
          rcases hsafe with hm | hm | hm
          · exact method_of_safe (.inl hm) htaken h.method_ne_head
          · exact method_of_safe (.inr hm) htaken h.method_ne_head
          · simp [passage, hm] at hreached
        obtain ⟨hledger, haccount⟩ := reads_of_get fw q hget hverify params
        rw [step_refines]
        simp only [modelCall, hreached, hledger, haccount]
        exact shop_ext (serveStep_other _ _ _ _ s.site) rfl
  | _ => exact .inl (step_lost (by simp [hreached]) s)

/-- A `HEAD` request is routed as a `GET` request. -/
theorem safe_methods_head :
    let q := Sample.request .head ["products", "verified"] adminCookies {}
    (passage Sample.framework q).target = .endpoint .fetchVerifiedProducts [] ∧
      (step Sample.framework q Sample.shop = Sample.shop ∨
        ∃ params, (passage Sample.framework q).target = .endpoint .verifySignUpEmail params) :=
  ⟨by decide +kernel, safe_methods Sample.framework _ (.inr (.inl rfl)) Sample.shop⟩

/-! ## Password records -/

/-- What the invariant of the accounts gives, along every run of requests. -/
theorem credentials_reach {s : Shop}
    (h : Reach (fun s : Shop => NoAccounts s.site) (fun _ _ => True) (step fw) s) :
    Credentials fw.packages s.site := by
  refine h.invariant (I := fun s : Shop => Credentials fw.packages s.site) ?_ ?_
  · rintro s ⟨husers, hauths⟩
    exact credentials_of_empty husers hauths
  · intro q s hs _
    obtain ⟨request, hsite⟩ := site_step fw q s
    rw [hsite]
    exact hs.effect (serve_effect _ _ _)

/-- **One password record for each account.** In every run of requests from a site without accounts,
each account has exactly one password record, and every secret that is stored is a hash. -/
theorem credentials_sound {s : Shop}
    (h : Reach (fun s : Shop => NoAccounts s.site) (fun _ _ => True) (step fw) s) :
    (∀ a ∈ s.site.users.docs, ∃! auth, auth ∈ s.site.auths.docs ∧ auth.user = a._id) ∧
      ∀ auth ∈ s.site.auths.docs, ∃ salt w, auth.secret = fw.packages.hash salt w := by
  have hs := credentials_reach h
  exact ⟨fun a ha => hs.existsUnique ha, hs.hashed⟩

/-- The admin signs up, deletes the account and signs up again: one account, two records. -/
theorem credentials_sound_again :
    let s := (Sample.opening.take 2 ++
      [Sample.request .delete ["admin", "users", "x"] adminCookies {}, Sample.signUp]).foldl
        (fun s q => step Sample.framework q s) Sample.closed
    (s.site.users.docs.length = 1 ∧ s.site.auths.docs.length = 2) ∧
      (∀ a ∈ s.site.users.docs, ∃! auth, auth ∈ s.site.auths.docs ∧ auth.user = a._id) ∧
      ∀ auth ∈ s.site.auths.docs, ∃ salt w,
        auth.secret = Sample.framework.packages.hash salt w :=
  ⟨by decide +kernel, credentials_sound (Reach.foldl (.start ⟨rfl, rfl⟩) (by decide +kernel))⟩

/-! ## Deleted accounts -/

/-- The collections of the ledger are the same. -/
structure SameLedger (db db' : Db) : Prop where
  products : db'.store.products = db.store.products
  inventories : db'.store.inventories = db.store.inventories
  sales : db'.store.sales = db.store.sales
  costs : db'.store.costs = db.store.costs
  lasts : db'.store.lasts = db.store.lasts

/-- Handlers that act without looking the caller's account up. -/
def Handler.unchecked : Handler → Prop
  | .userDeleteProduct | .deleteAllSales | .editProduct | .adminDeleteProduct | .updateProduct
  | .updateProductStatus => True
  | _ => False

/-- Requests that look the caller's account up. -/
def Checked : Model.Request → Prop
  | .userDeleteProduct _ | .deleteAllSales => False
  | _ => True

theorem checked_of_ledgerRequest {h : Handler} {params : List String} {request : Model.WriteRequest}
    (hrequest : ledgerRequest fw q h params = some request) :
    h.unchecked ∨ ∃ r, request = .stock r ∧ Checked r := by
  cases h with
  | userDeleteProduct | deleteAllSales | editProduct | adminDeleteProduct | updateProduct
  | updateProductStatus => exact .inl trivial
  | addProduct =>
      cases hrequest
      exact .inr ⟨_, rfl, trivial⟩
  | addInventory | recordSales | deleteInventory | editInventory =>
      rcases params with _ | ⟨x, _ | ⟨y, params⟩⟩
      · cases hrequest
      · obtain ⟨id, -, rfl⟩ := Option.map_eq_some_iff.1 hrequest
        exact .inr ⟨_, rfl, trivial⟩
      · cases hrequest
  | deleteSalesRecord =>
      rcases params with _ | ⟨x, _ | ⟨y, _ | ⟨z, params⟩⟩⟩
      · cases hrequest
      · cases hrequest
      · obtain ⟨id, -, hprd⟩ := Option.bind_eq_some_iff.1 hrequest
        obtain ⟨prd, -, rfl⟩ := Option.map_eq_some_iff.1 hprd
        exact .inr ⟨_, rfl, trivial⟩
      · cases hrequest
  | _ => cases hrequest

/-- A handler that begins its transaction with the caller's account ends there. -/
theorem shared_of_unknown {db : Db} {env : Model.Env} {id : ObjectId}
    {body : Option Model.User → Model.Js Unit} {onError : Model.JsError → Model.Js Unit}
    (hbody : body none = Model.send Model.notAuthorized)
    (hunknown : db.store.users.get? id = none) :
    ((Model.withTransaction (Model.read (.user id) >>= body) onError).run Model.sem db
      (.init env)).shared = db := by
  refine Serial.wp_withTransaction (Q := fun F => F.shared = db) fun x hx => ?_
  refine Serial.wp_read ?_
  have heval : Model.Query.eval (.user id) db.store = none := hunknown
  rw [heval, hbody]
  refine Serial.wp_send fun x' result _ hfirst _ => ?_
  rw [(hfirst hx.sent_eq).2]
  rfl

/-- Without an account, a request that looks the caller up changes nothing. -/
theorem store_of_unknown {r : Model.Request} (hchecked : Checked r) {caller : Model.Caller}
    {env : Model.Env} {db : Db} (hunknown : db.store.users.get? caller._id = none) :
    (Model.serveStep ⟨r, caller, env⟩ db).store = db.store := by
  cases r with
  | addProduct body | addInventory id body | recordSales id body =>
      refine congrArg Db.store ?_
      exact shared_of_unknown rfl hunknown
  | deleteSalesRecord id prd =>
      rcases Serial.deleteSalesRecord_served db id prd caller env with
        ⟨⟨hmay, -⟩, -⟩ | ⟨hstore, -⟩
      · exact absurd hunknown hmay.2
      · exact hstore
  | deleteInventory id =>
      cases Serial.serve_effect ⟨.deleteInventory id, caller, env⟩ db with
      | unchanged store next => exact store
      | deleteInventory admin =>
          rw [hunknown] at admin
          cases admin
  | editInventory id data =>
      cases Serial.serve_effect ⟨.editInventory id data, caller, env⟩ db with
      | unchanged store next => exact store
      | editInventory batch quantity initialQuantity q cpq admin =>
          rw [hunknown] at admin
          cases admin
  | userDeleteProduct id => cases hchecked
  | deleteAllSales => cases hchecked

/-- A token of an account that is gone. -/
theorem unknown_of_gone {s : Shop} {token : Token} {id : ObjectId}
    (hid : token.claims._id = some id) (hgone : s.site.users.get? id = none) :
    (s.view token).store.users.get? (caller token)._id = none := by
  simp only [Shop.view, caller, hid, Option.elim_some, Option.getD_some, get?_ledgerUsers, hgone,
    Option.map_none]

theorem sameLedger_of_store {s : Shop} {token : Token} {db : Db}
    (h : db.store = (s.view token).store) : SameLedger s.db db := by
  constructor <;> rw [h] <;> rfl

/-- One request with the token of an account that is gone. -/
theorem sameLedger_of_gone {s : Shop} {token : Token} {id : ObjectId}
    (hadmitted : q.cookies.admitted q.env.now = some token) (hid : token.claims._id = some id)
    (hgone : s.site.users.get? id = none) : SameLedger s.db (step fw q s).db ∨
      ∃ h params, (passage fw q).target = .endpoint h params ∧ h.unchecked := by
  have hsame : SameLedger s.db s.db := ⟨rfl, rfl, rfl, rfl, rfl⟩
  rw [step_refines]
  unfold modelCall
  split
  · rename_i h params hreached
    split
    · rename_i request hrequest
      rcases checked_of_ledgerRequest hrequest with hunchecked | ⟨r, rfl, hchecked⟩
      · exact .inr ⟨h, params, hreached, hunchecked⟩
      · left
        rw [modelStep_ledger]
        change SameLedger s.db ((q.cookies.admitted q.env.now).elim s _).db
        rw [hadmitted, Option.elim_some]
        exact sameLedger_of_store (store_of_unknown hchecked (unknown_of_gone hid hgone))
    · exact .inl hsame
  · exact .inl hsame

/-- **A deleted account is out.** Along every run of requests from a site without accounts, once an
account is gone it stays away; its tokens still pass `isLoggedIn`, but a request with one of them
changes the ledger only by one of the six handlers that do not look the caller up. -/
theorem deleted_account_out {s₀ s : Shop}
    (h : Reach (fun s : Shop => NoAccounts s.site) (fun _ _ => True) (step fw) s₀) {id : ObjectId}
    (hthere : s₀.site.users.get? id ≠ none) {q₀ : Http β}
    (hdeleted : (step fw q₀ s₀).site.users.get? id = none)
    (hlater : Reach (fun s => s = step fw q₀ s₀) (fun _ _ => True) (step fw) s) :
    s.site.users.get? id = none ∧ ∀ (q : Http β) (token : Token),
      q.cookies.admitted q.env.now = some token → token.claims._id = some id →
        ((isLoggedIn q.cookies).run sem s.site (.init q.env)).result = .ok (some token) ∧
          (SameLedger s.db (step fw q s).db ∨
            ∃ h params, (passage fw q).target = .endpoint h params ∧ h.unchecked) := by
  have hgone₀ : Gone id (step fw q₀ s₀).site := by
    refine ⟨?_, hdeleted⟩
    obtain ⟨a, ha⟩ := Option.ne_none_iff_exists'.1 hthere
    obtain ⟨hmem, rfl⟩ := Collection.get?_eq_some_iff.1 ha
    obtain ⟨request, hsite⟩ := site_step fw q₀ s₀
    rw [hsite]
    exact ((credentials_reach h).accounts_lt a hmem).trans_le (serve_effect _ _ _).next
  have hgone : Gone id s.site := by
    refine hlater.invariant (I := fun s : Shop => Gone id s.site) ?_ ?_
    · rintro s rfl
      exact hgone₀
    · intro q s hs _
      obtain ⟨request, hsite⟩ := site_step fw q s
      rw [hsite]
      exact hs.effect (serve_effect _ _ _)
  refine ⟨hgone.2, fun q token hadmitted hid => ⟨?_, sameLedger_of_gone hadmitted hid hgone.2⟩⟩
  rw [(isLoggedIn_served q.cookies s.site q.env).1, hadmitted]

/-- The admin of the shop deletes the account. -/
def leaving : Http Sample.Form := Sample.request .delete ["admin", "users", "x"] adminCookies {}

/-- With the token of the account that is gone, the sale is still deleted, by a handler that looks
nobody up. -/
theorem deleted_account_out_shop :
    (Sample.shop.site.users.get? 1 ≠ none ∧
      Sample.shop.db.store.sales.docs.map Model.Sale._id = [4] ∧
      (step Sample.framework
        (Sample.request .delete ["products", "delete-all-sales"] adminCookies {})
        (step Sample.framework leaving Sample.shop)).db.store.sales.docs = []) ∧
    (step Sample.framework leaving Sample.shop).site.users.get? 1 = none ∧
      ∀ (q : Http Sample.Form) (token : Token),
        q.cookies.admitted q.env.now = some token → token.claims._id = some 1 →
          ((isLoggedIn q.cookies).run sem (step Sample.framework leaving Sample.shop).site
            (.init q.env)).result = .ok (some token) ∧
          (SameLedger (step Sample.framework leaving Sample.shop).db
            (step Sample.framework q (step Sample.framework leaving Sample.shop)).db ∨
          ∃ h params, (passage Sample.framework q).target = .endpoint h params ∧ h.unchecked) := by
  have hthere : Sample.shop.site.users.get? 1 ≠ none := by decide +kernel
  refine ⟨⟨hthere, by decide +kernel, by decide +kernel⟩, ?_⟩
  exact deleted_account_out (Reach.foldl (.start ⟨rfl, rfl⟩) (by decide +kernel)) hthere
    (by decide +kernel) (.start rfl)

end InventoryHero.Web
