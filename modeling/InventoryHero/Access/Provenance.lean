import InventoryHero.Accounts.Tokens
import InventoryHero.Interaction.History

/-!
# Where a token that passes comes from

`isLoggedIn` lets a token without `isVerified` pass, and refreshed tokens have none. What keeps
unverified accounts out is that the only tokens which leave the server are those of `Login` and
those signed for a token that passed: every token that a client can hold descends from a login that
was let in. The invariant says so of every token that any response of the past has sent.
-/

set_option autoImplicit false

namespace InventoryHero.Access

open Interaction Accounts

variable {pk : Packages}

/-- The request carries tokens only that a response of the past has sent. -/
def Obtained (pk : Packages) (past : Past Call Site) (c : Call) (_ : Site) : Prop :=
  ∀ t ∈ c.cookies.tokens, ∃ e ∈ past, Sends pk e.before e.act t

instance (pk : Packages) (past : Past Call Site) (c : Call) (s : Site) :
    Decidable (Obtained pk past c s) :=
  inferInstanceAs (Decidable (∀ _ ∈ _, ∃ _ ∈ _, _))

/-- A login that answered success for the stored account `user`. -/
structure LogsIn (pk : Packages) (e : Event Call Site) (user : Account) : Prop where
  request : ∃ body, e.act.request = .Login body
  success : (serve pk e.act e.before).loc.sent = [loginSuccessful user]
  stored : user ∈ e.before.users.docs

/-- The request was shown the refresh token `old` alone, and answered with `t`. -/
structure Refreshes (pk : Packages) (r : Event Call Site) (old t : Token) : Prop where
  access : r.act.cookies.jwt = none
  shown : r.act.cookies.rjwt = some (.signed old)
  sent : Sends pk r.before r.act t
  signed : t = sign (refreshedClaims old.claims) day r.act.env.now ∨
    t = sign (rerefreshedClaims old.claims) fifteenDays r.act.env.now

/-- The token was sent by the request `e` or descends from one that was by later refreshes, each
after the one before it. -/
inductive Descends (pk : Packages) : Past Call Site → Event Call Site → Token → Prop
  | sent (newer older : Past Call Site) {e : Event Call Site} {t : Token} :
      Sends pk e.before e.act t → Descends pk (newer ++ e :: older) e t
  | refreshed (newer : Past Call Site) {older : Past Call Site} {e r : Event Call Site}
      {old t : Token} : Descends pk older e old → Refreshes pk r old t →
      Descends pk (newer ++ r :: older) e t

theorem Descends.cons {past : Past Call Site} {e : Event Call Site} {t : Token}
    (h : Descends pk past e t) (e' : Event Call Site) : Descends pk (e' :: past) e t := by
  cases h with
  | sent newer older hsent => exact .sent (e' :: newer) older hsent
  | refreshed newer hold hr => exact .refreshed (e' :: newer) hold hr

/-- The token descends from a login of an account with its email and role that may log in. -/
def Traced (pk : Packages) (past : Past Call Site) (t : Token) : Prop :=
  ∃ e ∈ past, ∃ user, LogsIn pk e user ∧ user.email = t.claims.email ∧
    user.role = t.claims.role ∧ (user.isVerified ≠ some false ∨ user.role = some "admin") ∧
    Descends pk past e t

theorem Traced.cons {past : Past Call Site} {t : Token} (h : Traced pk past t)
    (e' : Event Call Site) : Traced pk (e' :: past) t := by
  obtain ⟨e, he, user, hlogin, hemail, hrole, hthrough, hdesc⟩ := h
  exact ⟨e, List.mem_cons_of_mem _ he, user, hlogin, hemail, hrole, hthrough, hdesc.cons e'⟩

/-! ## One request -/

/-- A login lets in a stored account that is verified or an admin's. -/
theorem loginAccount_some {s : Site} {body : LoginBody} {user : Account}
    (h : loginAccount pk s body = some user) :
    user ∈ s.users.docs ∧ (user.isVerified ≠ some false ∨ user.role = some "admin") := by
  obtain ⟨data, auth, -, huser, -, -, hpass⟩ := loginAccount_eq_some_iff.1 h
  refine ⟨List.mem_of_find?_eq_some huser, ?_⟩
  simpa [unverified, imp_iff_not_or] using hpass

/-- The tokens of a login are traced to it. -/
theorem traced_login {past : Past Call Site} {c : Call} {s : Site} {body : LoginBody}
    {user : Account} {t : Token} (hsends : Sends pk s c t) (hc : c.request = .Login body)
    (haccount : loginAccount pk s body = some user) (hclaims : t.claims = user.claims) :
    Traced pk (⟨c, s⟩ :: past) t := by
  obtain ⟨hstored, hthrough⟩ := loginAccount_some haccount
  have hserved : LoginServed pk s body c.env (serve pk c s) := by
    unfold serve
    rw [hc]
    exact Login_served pk s body c.env
  have hlogin : LogsIn pk ⟨c, s⟩ user := ⟨⟨body, hc⟩, (hserved.accepted user haccount).1, hstored⟩
  refine ⟨⟨c, s⟩, List.mem_cons_self, user, hlogin, ?_, ?_, hthrough, .sent [] past hsends⟩
  · rw [hclaims]
    rfl
  · rw [hclaims]
    rfl

/-- The tokens of a refresh are traced to the login of the token that was shown. -/
theorem Traced.refreshed {past : Past Call Site} {r : Event Call Site} {old t : Token}
    (h : Traced pk past old) (hr : Refreshes pk r old t) : Traced pk (r :: past) t := by
  obtain ⟨e, he, user, hlogin, hemail, hrole, hthrough, hdesc⟩ := h
  have hclaims : t.claims.email = old.claims.email ∧ t.claims.role = old.claims.role := by
    rcases hr.signed with rfl | rfl
    · exact ⟨rfl, rfl⟩
    · exact ⟨rfl, rfl⟩
  exact ⟨e, List.mem_cons_of_mem _ he, user, hlogin, hemail.trans hclaims.1.symm,
    hrole.trans hclaims.2.symm, hthrough, .refreshed [] hdesc hr⟩

/-- If every token that was sent so far is traced, so is every token that a request sends which
carries such tokens only. -/
theorem traced_step {past : Past Call Site} {c : Call} {s : Site} {t : Token}
    (hpast : ∀ t, (∃ e ∈ past, Sends pk e.before e.act t) → Traced pk past t)
    (hc : Obtained pk past c s) (hsends : Sends pk s c t) : Traced pk (⟨c, s⟩ :: past) t := by
  cases serve_issues hsends with
  | login body user request account signed =>
      refine traced_login hsends request account ?_
      rcases signed with rfl | rfl <;> rfl
  | refresh old access shown passes signed =>
      have hold : Traced pk past old :=
        hpast old (hc old (Cookies.Carries.mem_tokens (.inr shown)))
      exact hold.refreshed ⟨access, shown, hsends, signed⟩
  | returned carries => exact (hpast t (hc t carries.mem_tokens)).cons _

/-! ## Every run -/

/-- Along every run, every token that was sent is traced. -/
theorem traced_of_sent {past : Past Call Site} {s : Site}
    (h : Run (fun _ => True) (Obtained pk) (serveStep pk) past s) :
    ∀ t, (∃ e ∈ past, Sends pk e.before e.act t) → Traced pk past t := by
  refine h.invariant (I := fun past _ => ∀ t, (∃ e ∈ past, Sends pk e.before e.act t) →
    Traced pk past t) ?_ ?_
  · rintro s - t ⟨e, he, -⟩
    cases he
  · rintro past c s ih hok t ⟨e, he, hsends⟩
    rcases List.mem_cons.1 he with rfl | he
    · exact traced_step ih hok hsends
    · exact (ih t ⟨e, he, hsends⟩).cons _

/-- Whenever `isLoggedIn` passes a request on, its token descends from an earlier successful login
of an account with the token's email and role, which was not unverified or an admin's. -/
theorem admitted_traced {past : Past Call Site} {s : Site}
    (h : Run (fun _ => True) (Obtained pk) (serveStep pk) past s) {c : Call}
    (hc : Obtained pk past c s) {t : Token}
    (hnext : ((isLoggedIn c.cookies).run sem s (.init c.env)).result = .ok (some t)) :
    ∃ e ∈ past, ∃ user, LogsIn pk e user ∧ user.email = t.claims.email ∧
      user.role = t.claims.role ∧ (user.isVerified ≠ some false ∨ user.role = some "admin") ∧
      Descends pk past e t := by
  have hcarries : c.cookies.Carries t := by
    rw [(isLoggedIn_served c.cookies s c.env).1] at hnext
    exact carries_of_admitted (Except.ok.inj hnext)
  exact traced_of_sent h t (hc t hcarries.mem_tokens)

/-- The claims that the admin of the small site logs in with. -/
def adminClaims : Claims := ⟨some 1, some "a@shop", some "admin", some false⟩

/-- An admin signs up, logs in and comes back with the refresh token alone. -/
def refreshedVisit : List Call :=
  [Sample.call (Sample.signUp "a@shop" "08012345678" (some "admin")) 0,
    Sample.call (Sample.login "a@shop" "password") 0,
    ⟨.other true, { rjwt := some (.signed (sign adminClaims fifteenDays 0)) },
      Sample.env 90000000 "link"⟩]

/-- The access token of the refresh is traced to the login. -/
theorem admitted_traced_refreshed :
    ∃ e ∈ (replay (serveStep Sample.packages) refreshedVisit [] Sample.site).1, ∃ user,
      LogsIn Sample.packages e user ∧ user.email = some "a@shop" ∧ user.role = some "admin" ∧
      (user.isVerified ≠ some false ∨ user.role = some "admin") ∧
      Descends Sample.packages (replay (serveStep Sample.packages) refreshedVisit [] Sample.site).1
        e (sign (refreshedClaims adminClaims) day 90000000) :=
  admitted_traced
    (c := ⟨.other true,
      { jwt := some (.signed (sign (refreshedClaims adminClaims) day 90000000)) },
      Sample.env 90000000 "link"⟩)
    (t := sign (refreshedClaims adminClaims) day 90000000)
    (Run.replay (s := Sample.site) (.start trivial) refreshedVisit (by decide +kernel))
    (by decide +kernel) (by decide +kernel)

end InventoryHero.Access
