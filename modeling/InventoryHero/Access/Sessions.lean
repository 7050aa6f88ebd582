import InventoryHero.Access.Provenance

/-!
# Sessions end

A token is signed for a day or for fifteen days, and a refresh signs new ones. `userLogOut` sends
the tokens of the request back and signs none. So a client whose requests go on to pass has logged
in or refreshed at least every fifteen days.
-/

set_option autoImplicit false

namespace InventoryHero.Access

open Interaction Accounts

variable {pk : Packages} {past : Past Call Site} {s : Site} {c : Call} {t : Token}

/-- The request is a login or a refresh, and its response is what the token was signed for. -/
inductive Signs (pk : Packages) (t : Token) (e : Event Call Site) : Prop
  | login (body : LoginBody) (user : Account) (request : e.act.request = .Login body)
      (account : loginAccount pk e.before body = some user)
      (signed : t = sign user.claims day e.act.env.now ∨
        t = sign user.claims fifteenDays e.act.env.now)
  /-- The token that was shown had not expired. -/
  | refresh (old : Token) (shown : e.act.cookies.rjwt = some (.signed old))
      (live : seconds e.act.env.now < old.exp)
      (signed : t = sign (refreshedClaims old.claims) day e.act.env.now ∨
        t = sign (rerefreshedClaims old.claims) fifteenDays e.act.env.now)

/-- A token lasts fifteen days at most. -/
theorem Signs.exp_le {e : Event Call Site} (h : Signs pk t e) :
    t.exp ≤ seconds e.act.env.now + fifteenDays := by
  have hday : day ≤ fifteenDays := by decide
  have hshort (claims : Claims) :
      (sign claims day e.act.env.now).exp ≤ seconds e.act.env.now + fifteenDays :=
    Int.add_le_add_left hday _
  cases h with
  | login body user request account signed =>
      rcases signed with rfl | rfl
      · exact hshort _
      · exact le_rfl
  | refresh old shown live signed =>
      rcases signed with rfl | rfl
      · exact hshort _
      · exact le_rfl

/-- Along every run, every token that was sent was signed by a request of the past. -/
theorem signed_of_sent (h : Run (fun _ => True) (Obtained pk) (serveStep pk) past s) :
    ∀ t, (∃ e ∈ past, Sends pk e.before e.act t) → ∃ e ∈ past, Signs pk t e := by
  refine h.invariant (I := fun past _ => ∀ t, (∃ e ∈ past, Sends pk e.before e.act t) →
    ∃ e ∈ past, Signs pk t e) ?_ ?_
  · rintro s - t ⟨e, he, -⟩
    cases he
  · rintro past c s ih hok t ⟨e, he, hsends⟩
    have hlater : (∃ e ∈ past, Signs pk t e) → ∃ e ∈ ⟨c, s⟩ :: past, Signs pk t e :=
      fun ⟨e, he, hsigns⟩ => ⟨e, List.mem_cons_of_mem _ he, hsigns⟩
    rcases List.mem_cons.1 he with rfl | he
    · cases serve_issues hsends with
      | login body user request account signed =>
          exact ⟨_, List.mem_cons_self, .login body user request account signed⟩
      | refresh old access shown passes signed =>
          have hlive := (accepted_eq_some_iff.1 passes).2.1
          exact ⟨_, List.mem_cons_self, .refresh old shown hlive signed⟩
      | returned carries => exact hlater (ih t (hok t carries.mem_tokens))
    · exact hlater (ih t ⟨e, he, hsends⟩)

/-- **Sessions end.** Along every run in which requests carry only tokens that responses have sent,
whenever `isLoggedIn` passes a request on, its token was signed by a login or a refresh less than
fifteen days before. -/
theorem session_recent (h : Run (fun _ => True) (Obtained pk) (serveStep pk) past s)
    (hc : Obtained pk past c s)
    (hnext : ((isLoggedIn c.cookies).run sem s (.init c.env)).result = .ok (some t)) :
    ∃ e ∈ past, Signs pk t e ∧ seconds c.env.now < seconds e.act.env.now + fifteenDays := by
  rw [(isLoggedIn_served c.cookies s c.env).1] at hnext
  have hadmitted : c.cookies.admitted c.env.now = some t := Except.ok.inj hnext
  obtain ⟨e, he, hsigns⟩ :=
    signed_of_sent h t (hc t (carries_of_admitted hadmitted).mem_tokens)
  have hlive : seconds c.env.now < t.exp := by
    unfold Cookies.admitted at hadmitted
    split at hadmitted
    · exact (accepted_eq_some_iff.1 hadmitted).2.1
    · obtain ⟨k, -, hk⟩ := Option.bind_eq_some_iff.1 hadmitted
      exact (accepted_eq_some_iff.1 hk).2.1
  exact ⟨e, he, hsigns, hlive.trans_le hsigns.exp_le⟩

/-- The admin comes back with the access token of a refresh. -/
theorem session_recent_refreshed :
    ∃ e ∈ (replay (serveStep Sample.packages) refreshedVisit [] Sample.site).1,
      Signs Sample.packages (sign (refreshedClaims adminClaims) day 90000000) e ∧
        seconds 90000000 < seconds e.act.env.now + fifteenDays :=
  session_recent
    (c := ⟨.other true,
      { jwt := some (.signed (sign (refreshedClaims adminClaims) day 90000000)) },
      Sample.env 90000000 "link"⟩)
    (Run.replay (s := Sample.site) (.start trivial) refreshedVisit (by decide +kernel))
    (by decide +kernel) (by decide +kernel)

end InventoryHero.Access
