import InventoryHero.Accounts.Controller

/-!
# Rules for the operations of the account routes

One rule for each operation that the handlers issue, in the form in which they issue it, and one for
`isLoggedIn`. The handlers are executed symbolically with them.
-/

set_option autoImplicit false

namespace InventoryHero.Accounts

open Interaction Storage
open Model (ObjectId Date)

/-! ## Operations -/

variable {pk : Packages} {s : Site} {x : Exchange} {α : Type}
  {Q : Final Site Exchange Failure α → Prop}

theorem wp_findUser {q : UserQuery} {f : Option Account → Web α}
    (h : (f (q.eval s x.env)).Wp sem Q s x) : (findUser q >>= f).Wp sem Q s x := h

theorem wp_findAuth {user : ObjectId} {f : Option Auth → Web α}
    (h : (f (s.authOf user)).Wp sem Q s x) : (findAuth user >>= f).Wp sem Q s x := h

theorem wp_getCache {key : String} {f : Option Ticket → Web α}
    (h : (f (s.getCache key x.env.now)).Wp sem Q s x) : (getCache key >>= f).Wp sem Q s x := h

theorem wp_now {f : Date → Web α} (h : (f x.env.now).Wp sem Q s x) :
    (now >>= f).Wp sem Q s x := h

theorem wp_newId {f : ObjectId → Web α}
    (h : (f s.nextId).Wp sem Q { s with nextId := s.nextId + 1 } x) :
    (newId >>= f).Wp sem Q s x := h

theorem wp_hash {w : String} {f : String → Web α} (h : (f (pk.hash x.env.salt w)).Wp sem Q s x) :
    (hash pk (some w) >>= f).Wp sem Q s x := h

theorem wp_setCache {email : Option String} {f : Unit → Web α}
    (h : (f ()).Wp sem Q
      { s with cache := ⟨x.env.generated, email, x.env.now + ticketTtl⟩ :: s.cache }
      { x with wrote := x.wrote ++ [.cached x.env.generated] }) :
    (generateString >>= fun token => setCache token email >>= f).Wp sem Q s x := h

theorem wp_verifyUserByEmail {email : Option String} {user : Account} {f : Option Account → Web α}
    (hu : s.users.byEmail email = some user)
    (h : (f (some user)).Wp sem Q { s with users := s.users.verify user._id }
      { x with wrote := x.wrote ++ [.updated user._id] }) :
    (verifyUserByEmail email >>= f).Wp sem Q s x := by
  unfold verifyUserByEmail Prog.Wp
  rw [Prog.run_op_bind]
  simp only [sem, hu]
  exact h

theorem wp_updateSecret {auth : Auth} {secret : String} {f : Unit → Web α}
    (h : (f ()).Wp sem Q { s with auths := s.auths.modify auth._id (setSecret secret) }
      { x with wrote := x.wrote ++ [.secret auth.user] }) :
    (updateSecret auth secret >>= f).Wp sem Q s x := h

theorem wp_createAuth {auth : Auth} {user : Option Account} {old : Option Auth} {f : Unit → Web α}
    (hs : x.session = .inProgress user old)
    (h : (f ()).Wp sem Q s { x with session := .inProgress user (some auth) }) :
    (createAuth auth >>= f).Wp sem Q s x := by
  unfold createAuth Prog.Wp
  rw [Prog.run_op_bind]
  simp only [sem, hs]
  exact h

/-- An operation, with its reply unwrapped by `g`. -/
theorem wp_issue {β : Type} {o : Op} {g : o.Reply → Web β} {f : β → Web α}
    (h : (g (sem o s x).2.2 >>= f).Wp sem Q (sem o s x).1 (sem o s x).2.1) :
    ((Prog.op (S := web) o >>= g) >>= f).Wp sem Q s x := h

theorem wp_saveUser {user : Account} {f : Unit → Web α}
    (hok : user.valid = true → (f ()).Wp sem Q s x)
    (herr : user.valid = false → Q ⟨s, x, .error (.mongo .validation)⟩) :
    (saveUser user >>= f).Wp sem Q s x := by
  refine wp_issue ?_
  simp only [sem]
  split
  · rename_i hvalid
    exact hok hvalid
  · rename_i hvalid
    exact herr (by simpa using hvalid)

theorem wp_postMail {f : Unit → Web α} (hok : x.env.mailFails = false → (f ()).Wp sem Q s x)
    (herr : x.env.mailFails = true → Q ⟨s, x, .error .mail⟩) : (postMail >>= f).Wp sem Q s x := by
  refine wp_issue ?_
  simp only [sem]
  split
  · rename_i hfails
    exact herr hfails
  · rename_i hfails
    exact hok (by simpa using hfails)

/-- An update finds no account, has no fields, is refused by a unique index, or is stored. -/
theorem wp_findByIdAndUpdate {id : ObjectId} {data : AccountUpdate} {f : Option Account → Web α}
    (hnone : s.users.get? id = none → (f none).Wp sem Q s x)
    (hempty : ∀ user, s.users.get? id = some user → data = {} → (f (some user)).Wp sem Q s x)
    (herr : ∀ e, s.users.update id data = .error e → data ≠ {} → Q ⟨s, x, .error (.mongo e)⟩)
    (hsome : ∀ users user, s.users.update id data = .ok (users, some user) → data ≠ {} →
      s.users.get? id ≠ none → (f (some user)).Wp sem Q { s with users := users }
        { x with wrote := x.wrote ++ [.updated id] }) :
    (findByIdAndUpdate id data >>= f).Wp sem Q s x := by
  refine wp_issue ?_
  simp only [sem]
  split
  · rename_i hdata
    cases hget : s.users.get? id with
    | none => exact hnone hget
    | some user => exact hempty user hget hdata
  rename_i hdata
  split
  · rename_i hupdate
    exact herr _ hupdate hdata
  · rename_i users hupdate
    exact hnone (by simpa using (Users.update_ok hupdate).2.symm)
  · rename_i users user hupdate
    refine hsome users user hupdate hdata fun hget => ?_
    have hfound := (Users.update_ok hupdate).2
    simp [hget] at hfound

/-- The three cookies of a login, a refresh or a logout. -/
theorem wp_cookies {k₁ k₂ k₃ : SetCookie} {f : Unit → Web α}
    (h : (f ()).Wp sem Q s { x with cookies := x.cookies ++ [k₁, k₂, k₃] }) :
    (cookie k₁ >>= fun _ => cookie k₂ >>= fun _ => cookie k₃ >>= f).Wp sem Q s x := by
  have hcookies : x.cookies ++ [k₁, k₂, k₃] = x.cookies ++ [k₁] ++ [k₂] ++ [k₃] := by simp
  rw [hcookies] at h
  exact h

/-- The first answer goes out. -/
theorem wp_send {a : Answer} {f : Unit → Web α} (hs : x.sent = [])
    (h : (f ()).Wp sem Q s { x with sent := [a] }) : (send a >>= f).Wp sem Q s x := by
  refine wp_issue ?_
  simp only [sem, hs, if_true]
  exact h

/-- A further answer throws. -/
theorem wp_send_again {a : Answer} {f : Unit → Web α} (hs : x.sent ≠ [])
    (h : Q ⟨s, x, .error .headersSent⟩) : (send a >>= f).Wp sem Q s x := by
  refine wp_issue ?_
  simp only [sem, hs, if_false]
  exact h

/-- An answer that ends a program. -/
theorem wp_send_last {Q : Final Site Exchange Failure Unit → Prop} {a : Answer}
    (hs : x.sent = []) (h : Q ⟨s, { x with sent := [a] }, .ok ()⟩) : (send a).Wp sem Q s x := by
  rw [← Prog.bind_done (send a)]
  exact wp_send hs h

/-! ## The middleware -/

/-- The token with which `isLoggedIn` lets a request pass. -/
def Cookies.admitted (cookies : Cookies) (now : Date) : Option Token :=
  match cookies.jwt with
  | some token => accepted now token
  | none => cookies.rjwt.bind (accepted now)

/-- The cookies that a refresh with this token sets. -/
def refreshCookies (token : Token) (now : Date) : List SetCookie :=
  [.jwt (some (.signed (sign (refreshedClaims token.claims) day now))), .id token.claims._id,
    .rjwt (some (.signed (sign (rerefreshedClaims token.claims) fifteenDays now)))]

/-- The cookies that `isLoggedIn` sets: those of a refresh, if there is no access token and the
refresh token passes. -/
def Cookies.renewed (cookies : Cookies) (now : Date) : List SetCookie :=
  match cookies.jwt with
  | some _ => []
  | none => (cookies.rjwt.bind (accepted now)).elim [] (refreshCookies · now)

/-- A cookie that passes holds the token it passes with, and the token has not expired. -/
theorem accepted_eq_some_iff {now : Date} {k : Cookie} {t : Token} :
    accepted now k = some t ↔ k = .signed t ∧ seconds now < t.exp ∧
      unverified t.claims.isVerified t.claims.role = false := by
  cases k with
  | other => simp [accepted, verify]
  | signed t' =>
      by_cases hexp : seconds now < t'.exp
      · simp only [accepted, verify, if_pos hexp, Option.filter_eq_some_iff, Option.some.injEq,
          Bool.not_eq_eq_eq_not, Bool.not_true, Cookie.signed.injEq]
        constructor
        · rintro ⟨rfl, h⟩
          exact ⟨rfl, hexp, h⟩
        · rintro ⟨rfl, -, h⟩
          exact ⟨rfl, h⟩
      · simp only [accepted, verify, if_neg hexp, Option.filter_none, reduceCtorEq,
          Cookie.signed.injEq, false_iff, not_and]
        rintro rfl h
        exact absurd h hexp

/-- `isLoggedIn` answers the request itself, or passes it on and touches nothing but cookies. -/
theorem wp_isLoggedIn {cookies : Cookies} {f : Option Token → Web α} (hsent : x.sent = [])
    (hnone : ∀ a, cookies.admitted x.env.now = none →
      (f none).Wp sem Q s { x with sent := [a] })
    (hsome : ∀ token, cookies.admitted x.env.now = some token →
      (f (some token)).Wp sem Q s { x with cookies := x.cookies ++ cookies.renewed x.env.now }) :
    (isLoggedIn cookies >>= f).Wp sem Q s x := by
  refine Prog.Wp.bind ?_
  unfold isLoggedIn
  unfold Cookies.admitted at hnone hsome
  unfold Cookies.renewed at hsome
  cases hj : cookies.jwt with
  | some token =>
      simp only [hj, List.append_nil] at hnone hsome
      refine wp_now ?_
      cases ha : accepted x.env.now token with
      | none => exact wp_send hsent (hnone _ ha)
      | some token => exact hsome token ha
  | none =>
      simp only [hj] at hnone hsome
      cases hr : cookies.rjwt with
      | none =>
          rw [hr] at hnone
          exact wp_send hsent (hnone _ rfl)
      | some refreshToken =>
          rw [hr] at hnone hsome
          refine wp_now ?_
          cases ha : accepted x.env.now refreshToken with
          | none => exact wp_send hsent (hnone _ ha)
          -- the two new tokens are set as cookies before the request is passed on
          | some token =>
              have h := hsome token ha
              simp only [Option.bind_some, ha, Option.elim_some] at h
              exact wp_cookies h

/-- A request at the entry of its handler. -/
structure Entered (env : Env) (x : Exchange) : Prop where
  env_eq : x.env = env
  sent : x.sent = []
  wrote : x.wrote = []

theorem entered_init (env : Env) : Entered env (.init env) := ⟨rfl, rfl, rfl⟩

/-- A handler behind `isLoggedIn`. -/
theorem wp_guard {Q : Final Site Exchange Failure Unit → Prop} {env : Env} {cookies : Cookies}
    {next : Claims → Web Unit} (hx : Entered env x)
    (hnone : ∀ x', x'.wrote = [] → Q ⟨s, x', .ok ()⟩)
    (hsome : ∀ token x', cookies.admitted env.now = some token → Entered env x' →
      (next token.claims).Wp sem Q s x') :
    (guard cookies next).Wp sem Q s x := by
  obtain ⟨rfl, hsent, hwrote⟩ := hx
  refine wp_isLoggedIn hsent ?_ ?_
  · intro a _
    exact hnone _ hwrote
  · intro token htoken
    exact hsome token _ htoken ⟨rfl, hsent, hwrote⟩

end InventoryHero.Accounts
