import InventoryHero.Accounts.Tokens

/-!
# Identity along a chain of refreshes

A client that comes back with its refresh token alone is given a new pair of tokens, with claims
copied field by field from the token it showed. The copies leave out `isVerified`, and the id of the
new refresh token is read from `user.id`, which no token has. So one refresh is enough to lose part
of the identity that `Login` issued, and from the second on `req.user._id` is undefined.
-/

set_option autoImplicit false

namespace InventoryHero.Access

open Interaction Accounts

/-- The two tokens a client holds. -/
structure Pair where
  access : Token
  refresh : Token
  deriving DecidableEq, Repr

/-- The tokens that a login or a refresh sets. -/
def pairOf : List SetCookie → Option Pair
  | [.jwt (some (.signed access)), .id _, .rjwt (some (.signed refresh))] => some ⟨access, refresh⟩
  | _ => none

/-- The circumstances of a request. -/
structure Visit where
  site : Site
  env : Env

/-- A request that carries the refresh token of the pair and nothing else: the claims passed on as
`req.user`, and the new pair. -/
def refresh (p : Pair) (v : Visit) : Option (Claims × Pair) :=
  let F := (isLoggedIn { rjwt := some (.signed p.refresh) }).run sem v.site (.init v.env)
  match F.result with
  | .ok (some token) => (pairOf F.loc.cookies).map fun q => (token.claims, q)
  | _ => none

/-- Successive refreshes, each with the pair of the one before: what the last one passed on, `user`
before the first, and the pair in the end. -/
def refreshes (user : Option Claims) (p : Pair) : List Visit → Option (Option Claims × Pair)
  | [] => some (user, p)
  | v :: rest => (refresh p v).bind fun r => refreshes (some r.1) r.2 rest

/-- Every visit comes before the refresh token expires, which was signed to last until `exp` and is
signed anew at each visit. -/
def Timely (exp : Int) : List Visit → Prop
  | [] => True
  | v :: rest => seconds v.env.now < exp ∧ Timely (seconds v.env.now + fifteenDays) rest

/-! ## One refresh -/

/-- A refresh with a token that passes. -/
theorem refresh_eq {p : Pair} {v : Visit} (hexp : seconds v.env.now < p.refresh.exp)
    (hpass : unverified p.refresh.claims.isVerified p.refresh.claims.role = false) :
    refresh p v = some (p.refresh.claims,
      ⟨sign (refreshedClaims p.refresh.claims) day v.env.now,
        sign (rerefreshedClaims p.refresh.claims) fifteenDays v.env.now⟩) := by
  have haccepted : accepted v.env.now (.signed p.refresh) = some p.refresh :=
    accepted_eq_some_iff.2 ⟨rfl, hexp, hpass⟩
  obtain ⟨hresult, hcookies⟩ :=
    isLoggedIn_served { rjwt := some (.signed p.refresh) } v.site v.env
  simp only [refresh, hresult, hcookies]
  simp [Cookies.admitted, Cookies.renewed, haccepted, refreshCookies, pairOf]

/-- The refresh token of a refresh passes whatever it was signed for: it has no `isVerified`. -/
theorem rerefreshed_passes (claims : Claims) :
    unverified (rerefreshedClaims claims).isVerified (rerefreshedClaims claims).role = false := rfl

/-! ## Chains -/

/-- One refresh or more end with a refresh token that has lost its id. -/
theorem refreshes_cons {p : Pair} {v : Visit} {rest : List Visit} (user : Option Claims)
    (hpass : unverified p.refresh.claims.isVerified p.refresh.claims.role = false)
    (htimely : Timely p.refresh.exp (v :: rest)) :
    ∃ u q, refreshes user p (v :: rest) = some (u, q) ∧
      q.refresh.claims = rerefreshedClaims p.refresh.claims := by
  induction rest generalizing user p v with
  | nil =>
      rw [refreshes, refresh_eq htimely.1 hpass]
      exact ⟨_, _, rfl, rfl⟩
  | cons w rest ih =>
      -- the pair after the first visit starts the rest of the chain
      obtain ⟨u, q, hchain, hclaims⟩ := ih
        (p := ⟨sign (refreshedClaims p.refresh.claims) day v.env.now,
          sign (rerefreshedClaims p.refresh.claims) fifteenDays v.env.now⟩)
        (some p.refresh.claims) (rerefreshed_passes _) htimely.2
      refine ⟨u, q, ?_, hclaims⟩
      rw [refreshes, refresh_eq htimely.1 hpass]
      exact hchain

/-- After a login, every chain of timely refreshes goes through, and it keeps the identity that the
login issued exactly if it is empty. -/
theorem identity_survives_iff {pk : Packages} {s : Site} {body : LoginBody} {cookies : Cookies}
    {env : Env} {user : Account}
    (h : (serve pk ⟨.Login body, cookies, env⟩ s).loc.sent = [loginSuccessful user]) :
    ∃ p, pairOf (serve pk ⟨.Login body, cookies, env⟩ s).loc.cookies = some p ∧
      ∀ visits, Timely p.refresh.exp visits →
        ∃ u q, refreshes none p visits = some (u, q) ∧
          ((q.access.claims = user.claims ∧ q.refresh.claims = user.claims ∧
            ∀ v, u = some v → v._id = some user._id) ↔ visits = []) := by
  have haccount := loginAccount_of_success h
  refine ⟨⟨sign user.claims day env.now, sign user.claims fifteenDays env.now⟩, ?_, ?_⟩
  · rw [serve_cookies]
    simp only [setCookies, haccount, Option.elim_some, loginCookies, pairOf]
  intro visits htimely
  cases visits with
  | nil =>
      refine ⟨none, _, rfl, ?_⟩
      simp [sign]
  | cons v rest =>
      have hpass : unverified user.isVerified user.role = false := by
        obtain ⟨_, _, -, -, -, -, hpass⟩ := loginAccount_eq_some_iff.1 haccount
        exact hpass
      obtain ⟨u, q, hchain, hclaims⟩ := refreshes_cons none hpass htimely
      refine ⟨u, q, hchain, ?_⟩
      -- the refresh token has no id
      simp only [reduceCtorEq, iff_false]
      rintro ⟨-, hrefresh, -⟩
      rw [hclaims] at hrefresh
      cases congrArg Claims._id hrefresh

/-- Two visits with the refresh tokens alone, after a login at time zero. -/
def twoVisits : List Visit :=
  [⟨Sample.site, Sample.env 90000000 "link"⟩, ⟨Sample.site, Sample.env 180000000 "link"⟩]

theorem identity_survives_iff_admin :
    ∃ p, pairOf (serve Sample.packages (Sample.call (Sample.login "a@shop" "password") 0)
        Sample.adminSite).loc.cookies = some p ∧
      ∀ visits, Timely p.refresh.exp visits →
        ∃ u q, refreshes none p visits = some (u, q) ∧
          ((q.access.claims = Sample.adminAccount.claims ∧
              q.refresh.claims = Sample.adminAccount.claims ∧
            ∀ v, u = some v → v._id = some Sample.adminAccount._id) ↔ visits = []) :=
  identity_survives_iff (s := Sample.adminSite) (by decide +kernel)

/-- The tokens of the login have the id and `isVerified`. After one refresh the access token has no
`isVerified` and the refresh token no id either; after two, `req.user._id` is undefined. -/
theorem identity_lost :
    pairOf (serve Sample.packages (Sample.call (Sample.login "a@shop" "password") 0)
        Sample.adminSite).loc.cookies =
      some ⟨⟨⟨some 1, some "a@shop", some "admin", some false⟩, 86400⟩,
        ⟨⟨some 1, some "a@shop", some "admin", some false⟩, 1296000⟩⟩ ∧
    (refreshes none ⟨⟨⟨some 1, some "a@shop", some "admin", some false⟩, 86400⟩,
        ⟨⟨some 1, some "a@shop", some "admin", some false⟩, 1296000⟩⟩ (twoVisits.take 1)).map
          (fun r => (r.2.access.claims, r.2.refresh.claims)) =
      some (⟨some 1, some "a@shop", some "admin", none⟩,
        ⟨none, some "a@shop", some "admin", none⟩) ∧
    (refreshes none ⟨⟨⟨some 1, some "a@shop", some "admin", some false⟩, 86400⟩,
        ⟨⟨some 1, some "a@shop", some "admin", some false⟩, 1296000⟩⟩ twoVisits).map Prod.fst =
      some (some ⟨none, some "a@shop", some "admin", none⟩) := by
  decide +kernel

end InventoryHero.Access
