import InventoryHero.Accounts.Conduct
import InventoryHero.Accounts.Effect

/-!
# The tokens that leave the server

A token reaches a client in a cookie that a response sets. `Login` sets two for the account it lets
in (`Login_served`), a refresh two for the token it was shown (`isLoggedIn_served`), logging out
sends back what came; the conduct of the other handlers allows no cookie. `serve_issues` puts this
together: every token in the response to a request was signed for a login, signed for a refresh, or
presented.
-/

set_option autoImplicit false

namespace InventoryHero.Accounts

open Interaction Storage
open Model (ObjectId Date)

/-- The token in a cookie. -/
def SetCookie.token? : SetCookie → Option Token
  | .jwt (some (.signed t)) => some t
  | .rjwt (some (.signed t)) => some t
  | _ => none

theorem token?_jwt {v : Option Cookie} {t : Token} :
    (SetCookie.jwt v).token? = some t ↔ v = some (.signed t) := by
  rcases v with _ | _ | _ <;> simp [SetCookie.token?]

theorem token?_rjwt {v : Option Cookie} {t : Token} :
    (SetCookie.rjwt v).token? = some t ↔ v = some (.signed t) := by
  rcases v with _ | _ | _ <;> simp [SetCookie.token?]

/-- The response to the request sets a cookie with the token. -/
def Sends (pk : Packages) (s : Site) (c : Call) (t : Token) : Prop :=
  ∃ k ∈ (serve pk c s).loc.cookies, k.token? = some t

instance (pk : Packages) (s : Site) (c : Call) (t : Token) : Decidable (Sends pk s c t) :=
  inferInstanceAs (Decidable (∃ _ ∈ _, _))

/-- The request carries the token. -/
def Cookies.Carries (cookies : Cookies) (t : Token) : Prop :=
  cookies.jwt = some (.signed t) ∨ cookies.rjwt = some (.signed t)

/-- The token in the value of a cookie. -/
def Cookie.token? : Cookie → Option Token
  | .signed t => some t
  | .other => none

/-- The tokens that a request carries. -/
def Cookies.tokens (cookies : Cookies) : List Token :=
  (cookies.jwt.toList ++ cookies.rjwt.toList).filterMap Cookie.token?

theorem Cookies.Carries.mem_tokens {cookies : Cookies} {t : Token} (h : cookies.Carries t) :
    t ∈ cookies.tokens := by
  refine List.mem_filterMap.2 ⟨.signed t, ?_, rfl⟩
  rcases h with h | h <;> simp [h]

/-! ## Login -/

/-- The account that `Login` lets in. -/
def loginAccount (pk : Packages) (s : Site) (body : LoginBody) : Option Account :=
  match LoginValidation pk.isEmail body with
  | .error _ => none
  | .ok data =>
      (s.users.byEmailOrTelephone data.email data.telephone).bind fun user =>
        (s.authOf user._id).bind fun auth =>
          if pk.compare data.password auth.secret && !unverified user.isVerified user.role then
            some user
          else none

theorem loginAccount_eq_some_iff {pk : Packages} {s : Site} {body : LoginBody} {user : Account} :
    loginAccount pk s body = some user ↔ ∃ data auth, LoginValidation pk.isEmail body = .ok data ∧
      s.users.byEmailOrTelephone data.email data.telephone = some user ∧
      s.authOf user._id = some auth ∧ pk.compare data.password auth.secret = true ∧
      unverified user.isVerified user.role = false := by
  unfold loginAccount
  cases hdata : LoginValidation pk.isEmail body with
  | error message => simp
  | ok data =>
      simp only [Option.bind_eq_some_iff, Option.ite_none_right_eq_some, Bool.and_eq_true,
        Bool.not_eq_eq_eq_not, Bool.not_true, Option.some.injEq, Except.ok.injEq]
      constructor
      · rintro ⟨user, huser, auth, hauth, ⟨hcompare, hpass⟩, rfl⟩
        exact ⟨data, auth, rfl, huser, hauth, hcompare, hpass⟩
      · rintro ⟨data', auth, rfl, huser, hauth, hcompare, hpass⟩
        exact ⟨user, huser, auth, hauth, ⟨hcompare, hpass⟩, rfl⟩

/-- The cookies that `Login` sets. -/
def loginCookies (user : Account) (now : Date) : List SetCookie :=
  [.jwt (some (.signed (sign user.claims day now))), .id user._id,
    .rjwt (some (.signed (sign user.claims fifteenDays now)))]

def loginSuccessful (user : Account) : Answer := Msg (.user user) "login successful" 200

/-- What `Login` answers and which cookies it sets. -/
structure LoginServed (pk : Packages) (s : Site) (body : LoginBody) (env : Env)
    (F : Final Site Exchange Failure Unit) : Prop where
  accepted : ∀ user, loginAccount pk s body = some user →
    F.loc.sent = [loginSuccessful user] ∧ F.loc.cookies = loginCookies user env.now
  refused : loginAccount pk s body = none →
    (∃ a, F.loc.sent = [a] ∧ a.ok = false) ∧ F.loc.cookies = []

/-- A login that is refused answers with a failure. -/
theorem loginServed_refused {pk : Packages} {s : Site} {body : LoginBody} {env : Env}
    {a : Answer} {r : Except Failure Unit} (h : loginAccount pk s body = none)
    (ha : a.ok = false) :
    LoginServed pk s body env ⟨s, { Exchange.init env with sent := [a] }, r⟩ where
  accepted user huser := by simp [h] at huser
  refused _ := ⟨⟨a, rfl, ha⟩, rfl⟩

theorem Login_served (pk : Packages) (s : Site) (body : LoginBody) (env : Env) :
    (Login pk body).Wp sem (LoginServed pk s body env) s (.init env) := by
  refine Prog.Wp.tryCatch ?_
  cases hdata : LoginValidation pk.isEmail body with
  | error message =>
      exact wp_send_last rfl (loginServed_refused (by simp [loginAccount, hdata]) rfl)
  | ok data =>
      refine wp_findUser ?_
      split
      · rename_i huser
        have huser : s.users.byEmailOrTelephone data.email data.telephone = none := huser
        exact wp_send_last rfl (loginServed_refused (by simp [loginAccount, hdata, huser]) rfl)
      · rename_i user huser
        have huser : s.users.byEmailOrTelephone data.email data.telephone = some user := huser
        refine wp_findAuth ?_
        split
        · rename_i hauth
          exact wp_send_last rfl
            (loginServed_refused (by simp [loginAccount, hdata, huser, hauth]) rfl)
        · rename_i auth hauth
          change Prog.Wp sem _ (if (!pk.compare data.password auth.secret) = true then _ else _) _ _
          split
          · rename_i hwrong
            exact wp_send_last rfl
              (loginServed_refused (by simp_all [loginAccount]) rfl)
          · rename_i hcorrect
            split
            · rename_i hunverified
              exact wp_send_last rfl (loginServed_refused
                (by simp [loginAccount, hdata, huser, hauth, hunverified]) rfl)
            · rename_i hthrough
              have haccount : loginAccount pk s body = some user := by
                simp_all [loginAccount]
              refine wp_now (wp_cookies (wp_send_last rfl ?_))
              constructor
              · rintro user' huser'
                obtain rfl : user = user' := Option.some.inj (haccount.symm.trans huser')
                exact ⟨rfl, rfl⟩
              · intro hnone
                simp [haccount] at hnone

/-- The account of a login that answered success. -/
theorem loginAccount_of_success {pk : Packages} {s : Site} {body : LoginBody} {cookies : Cookies}
    {env : Env} {user : Account}
    (h : (serve pk ⟨.Login body, cookies, env⟩ s).loc.sent = [loginSuccessful user]) :
    loginAccount pk s body = some user := by
  have hserved : LoginServed pk s body env (serve pk ⟨.Login body, cookies, env⟩ s) :=
    Login_served pk s body env
  cases haccount : loginAccount pk s body with
  | none =>
      obtain ⟨a, hsent, hfail⟩ := (hserved.refused haccount).1
      obtain rfl : loginSuccessful user = a := by simpa using h.symm.trans hsent
      cases hfail
  | some user' =>
      have hsent := (hserved.accepted user' haccount).1
      have huser : loginSuccessful user = loginSuccessful user' := by simpa using h.symm.trans hsent
      simp only [loginSuccessful, Msg, Answer.mk.injEq, true_and, Content.envelope.injEq,
        Data.user.injEq, Option.some.injEq, and_true] at huser
      rw [huser]

/-! ## Handlers that set no cookie -/

theorem cookies_sem {o : Op} (ho : ∀ k, o ≠ .cookie k) (s : Site) (x : Exchange) :
    (sem o s x).2.1.cookies = x.cookies := by
  cases o with
  | cookie k => exact absurd rfl (ho k)
  | _ =>
      simp only [sem, execCommit]
      repeat' split
      all_goals rfl

/-- A handler that may set no cookie ends with the cookies that were set before it. -/
theorem cookies_run (pk : Packages) (request : Request) (hrequest : request.setsCookies = false)
    {prog : Web Unit} (h : prog.Only (Quiet pk request)) (s : Site) (x : Exchange) :
    (prog.run sem s x).loc.cookies = x.cookies := by
  refine h.run_inv (I := fun _ (x' : Exchange) => x'.cookies = x.cookies) ?_ rfl
  intro o s x' ho hx'
  refine (cookies_sem ?_ s x').trans hx'
  rintro k rfl
  cases hrequest.symm.trans ho

theorem cookies_signUp (pk : Packages) (request : Request) (hrequest : request.signsUp = true)
    {prog : Web Unit} {x : Exchange}
    (h : Behaves pk request (fun _ _ => True) prog (x, .init)) (s : Site) :
    (prog.run sem s x).loc.cookies = x.cookies := by
  rw [← prog.loc_run_ghost s (x, Notes.init)]
  refine h.run_inv (I := fun _ (x' : Exchange × Notes) => x'.1.cookies = x.cookies) ?_ rfl
  intro o s x' ho hx'
  refine (cookies_sem ?_ s x'.1).trans hx'
  rintro k rfl
  cases hrequest.symm.trans ho

/-! ## The cookies of a response -/

/-- `isLoggedIn` comes before the handler. -/
def Request.guarded : Request → Bool
  | .userLogOut => true
  | .updateUser _ => true
  | .changePassWord _ _ => true
  | .deleteUser _ => true
  | .verifyUser _ _ => true
  | .other guarded => guarded
  | _ => false

/-- The cookies that `userLogOut` sends back. -/
def Cookies.returned (cookies : Cookies) (now : Date) : List SetCookie :=
  (cookies.admitted now).elim [] fun t => [.jwt cookies.jwt, .rjwt cookies.rjwt, .id t.claims._id]

/-- The cookies that the response to a request sets. -/
def setCookies (pk : Packages) (s : Site) (c : Call) : List SetCookie :=
  match c.request with
  | .Login body => (loginAccount pk s body).elim [] (loginCookies · c.env.now)
  | .userLogOut => c.cookies.renewed c.env.now ++ c.cookies.returned c.env.now
  | request => if request.guarded then c.cookies.renewed c.env.now else []

theorem renewed_of_refused {cookies : Cookies} {now : Date} (h : cookies.admitted now = none) :
    cookies.renewed now = [] := by
  unfold Cookies.admitted at h
  unfold Cookies.renewed
  cases hj : cookies.jwt with
  | some k => rfl
  | none =>
      simp only [hj] at h
      simp only [h, Option.elim_none]

/-- What `isLoggedIn` returns, and the cookies it sets. -/
theorem isLoggedIn_served (cookies : Cookies) (s : Site) (env : Env) :
    ((isLoggedIn cookies).run sem s (.init env)).result = .ok (cookies.admitted env.now) ∧
      ((isLoggedIn cookies).run sem s (.init env)).loc.cookies = cookies.renewed env.now := by
  rw [← Prog.bind_done (isLoggedIn cookies)]
  refine wp_isLoggedIn (Q := fun F => F.result = .ok (cookies.admitted env.now) ∧
    F.loc.cookies = cookies.renewed env.now) rfl ?_ ?_
  · intro a hnone
    change cookies.admitted env.now = none at hnone
    rw [renewed_of_refused hnone, hnone]
    exact ⟨rfl, rfl⟩
  · intro token htoken
    change cookies.admitted env.now = some token at htoken
    rw [htoken]
    exact ⟨rfl, rfl⟩

/-- The token that passes came with the request. -/
theorem carries_of_admitted {cookies : Cookies} {now : Date} {t : Token}
    (h : cookies.admitted now = some t) : cookies.Carries t := by
  unfold Cookies.admitted at h
  split at h
  · rename_i k hk
    obtain ⟨rfl, -⟩ := accepted_eq_some_iff.1 h
    exact .inl hk
  · obtain ⟨k, hk, h⟩ := Option.bind_eq_some_iff.1 h
    obtain ⟨rfl, -⟩ := accepted_eq_some_iff.1 h
    exact .inr hk

/-- The cookies behind `isLoggedIn`, where the handler sets `more`. -/
theorem guard_cookies (cookies : Cookies) (next : Claims → Web Unit) (s : Site) (env : Env)
    (more : Token → List SetCookie)
    (hnext : ∀ token x, x.sent = [] → ((next token.claims).run sem s x).loc.cookies =
      x.cookies ++ more token) :
    ((guard cookies next).run sem s (.init env)).loc.cookies =
      cookies.renewed env.now ++ (cookies.admitted env.now).elim [] more := by
  refine wp_isLoggedIn (Q := fun F => F.loc.cookies = _) rfl ?_ ?_
  · intro a hnone
    change cookies.admitted env.now = none at hnone
    rw [hnone, Option.elim_none, List.append_nil]
    exact (renewed_of_refused hnone).symm
  · intro token htoken
    change cookies.admitted env.now = some token at htoken
    rw [htoken, Option.elim_some]
    exact hnext token _ rfl

theorem guard_cookies_quiet (pk : Packages) (request : Request)
    (hrequest : request.setsCookies = false) {cookies : Cookies} {next : Claims → Web Unit}
    (hnext : ∀ claims, (next claims).Only (Quiet pk request)) (s : Site) (env : Env) :
    ((guard cookies next).run sem s (.init env)).loc.cookies = cookies.renewed env.now := by
  rw [guard_cookies cookies next s env (fun _ => [])
    fun token x _ => (cookies_run pk request hrequest (hnext _) s x).trans (List.append_nil _).symm]
  cases cookies.admitted env.now <;> simp

theorem userLogOut_cookies (cookies : Cookies) (user : Claims) (s : Site) (x : Exchange)
    (hx : x.sent = []) : ((userLogOut cookies user).run sem s x).loc.cookies =
      x.cookies ++ [.jwt cookies.jwt, .rjwt cookies.rjwt, .id user._id] := by
  have h : (userLogOut cookies user).Wp sem (fun F => F.loc.cookies =
      x.cookies ++ [.jwt cookies.jwt, .rjwt cookies.rjwt, .id user._id]) s x := by
    refine Prog.Wp.tryCatch (wp_cookies ?_)
    exact wp_send_last hx rfl
  exact h

/-- The cookies that a response sets, request by request. -/
theorem serve_cookies (pk : Packages) (s : Site) (c : Call) :
    (serve pk c s).loc.cookies = setCookies pk s c := by
  unfold serve setCookies
  cases hc : c.request with
  | signUpEmailPassword body =>
      exact cookies_signUp pk (.signUpEmailPassword body) rfl
        (signUpEmailPassword_behaves body rfl) s
  | completeSignup token body =>
      exact cookies_signUp pk (.completeSignup token body) rfl
        (completeSignup_behaves token body rfl) s
  | signUpMagicLink email =>
      exact cookies_run pk (.signUpMagicLink email) rfl (signUpMagicLink_quiet email) s _
  | verifySignUpEmail token =>
      exact cookies_run pk (.verifySignUpEmail token) rfl (verifySignUpEmail_quiet token) s _
  | forgotPassWord email =>
      exact cookies_run pk (.forgotPassWord email) rfl (forgotPassWord_quiet email) s _
  | verifyPassWordResetMail token new =>
      exact cookies_run pk (.verifyPassWordResetMail token new) rfl
        (verifyPassWordResetMail_quiet token new rfl) s _
  | Login body =>
      have h : LoginServed pk s body c.env _ := Login_served pk s body c.env
      show _ = (loginAccount pk s body).elim [] _
      cases haccount : loginAccount pk s body with
      | some user => exact (h.accepted user haccount).2
      | none => exact (h.refused haccount).2
  | userLogOut => exact guard_cookies _ _ s _ _ fun _ x hx => userLogOut_cookies _ _ s x hx
  | updateUser body =>
      exact guard_cookies_quiet pk (.updateUser body) rfl (updateUser_quiet body · rfl) s _
  | changePassWord old new =>
      exact guard_cookies_quiet pk (.changePassWord old new) rfl
        (changePassWord_quiet old new · rfl) s _
  | deleteUser id =>
      exact guard_cookies_quiet pk (.deleteUser id) rfl (fun _ => deleteUser_quiet id rfl) s _
  | verifyUser id data =>
      exact guard_cookies_quiet pk (.verifyUser id data) rfl
        (fun _ => verifyUser_quiet id data rfl) s _
  | other guarded =>
      cases guarded with
      | true =>
          have hdone : (pure () : Web Unit).Only (Quiet pk (.other true)) := trivial
          exact guard_cookies_quiet pk (.other true) rfl (fun _ => hdone) s _
      | false => rfl

/-- Where a token in a response comes from. -/
inductive Issues (pk : Packages) (s : Site) (c : Call) (t : Token) : Prop
  /-- It was signed for an account that logs in. -/
  | login (body : LoginBody) (user : Account) (request : c.request = .Login body)
      (account : loginAccount pk s body = some user)
      (signed : t = sign user.claims day c.env.now ∨ t = sign user.claims fifteenDays c.env.now)
  /-- It was signed for a refresh. -/
  | refresh (old : Token) (access : c.cookies.jwt = none)
      (shown : c.cookies.rjwt = some (.signed old))
      (passes : accepted c.env.now (.signed old) = some old)
      (signed : t = sign (refreshedClaims old.claims) day c.env.now ∨
        t = sign (rerefreshedClaims old.claims) fifteenDays c.env.now)
  /-- It came with the request. -/
  | returned (carries : c.cookies.Carries t)

theorem issues_of_mem_renewed {pk : Packages} {s : Site} {c : Call} {k : SetCookie} {t : Token}
    (hk : k ∈ c.cookies.renewed c.env.now) (ht : k.token? = some t) : Issues pk s c t := by
  unfold Cookies.renewed at hk
  cases hj : c.cookies.jwt with
  | some _ => simp [hj] at hk
  | none =>
      simp only [hj] at hk
      cases hr : c.cookies.rjwt with
      | none => simp [hr] at hk
      | some cookie =>
          cases ha : accepted c.env.now cookie with
          | none => simp [hr, ha] at hk
          | some old =>
              obtain ⟨rfl, -, -⟩ := accepted_eq_some_iff.1 ha
              simp only [hr, Option.bind_some, ha, Option.elim_some, refreshCookies,
                List.mem_cons, List.not_mem_nil, or_false] at hk
              rcases hk with rfl | rfl | rfl
              · exact .refresh old hj hr ha (.inl (Option.some.inj ht).symm)
              · cases ht
              · exact .refresh old hj hr ha (.inr (Option.some.inj ht).symm)

theorem carries_of_mem_returned {cookies : Cookies} {now : Date} {k : SetCookie} {t : Token}
    (hk : k ∈ cookies.returned now) (ht : k.token? = some t) : cookies.Carries t := by
  unfold Cookies.returned at hk
  cases ha : cookies.admitted now with
  | none => simp [ha] at hk
  | some token =>
      simp only [ha, Option.elim_some, List.mem_cons, List.not_mem_nil, or_false] at hk
      rcases hk with rfl | rfl | rfl
      · exact .inl (token?_jwt.1 ht)
      · exact .inr (token?_rjwt.1 ht)
      · cases ht

/-- Every token in a response has one of the three origins. -/
theorem serve_issues {pk : Packages} {s : Site} {c : Call} {t : Token} (h : Sends pk s c t) :
    Issues pk s c t := by
  obtain ⟨k, hk, ht⟩ := h
  rw [serve_cookies] at hk
  unfold setCookies at hk
  split at hk
  · rename_i body hc
    cases haccount : loginAccount pk s body with
    | none => simp [haccount] at hk
    | some user =>
        simp only [haccount, Option.elim_some, loginCookies, List.mem_cons, List.not_mem_nil,
          or_false] at hk
        rcases hk with rfl | rfl | rfl
        · exact .login body user hc haccount (.inl (Option.some.inj ht).symm)
        · cases ht
        · exact .login body user hc haccount (.inr (Option.some.inj ht).symm)
  · rcases List.mem_append.1 hk with hk | hk
    · exact issues_of_mem_renewed hk ht
    · exact .returned (carries_of_mem_returned hk ht)
  · split at hk
    · exact issues_of_mem_renewed hk ht
    · cases hk

end InventoryHero.Accounts
