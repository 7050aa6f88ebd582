import InventoryHero.Accounts.Effect
import InventoryHero.Interaction.History

/-!
# Why an account is verified, and who set its password

The links of `signUpMagicLink` and `forgotPassWord` are interchangeable, a link is good for fifteen
minutes, and `updateUser` and `verifyUser` store `isVerified` as it is sent. So an account is
verified because somebody followed a link that was mailed to its address shortly before, or because
a request with a token said so (`verified_caused`). A password that is stored was set by the
sign-up, by a request with a token of the account and the password before it, or by a link that was
mailed to the address of the account shortly before (`password_caused`).
-/

set_option autoImplicit false

namespace InventoryHero.Passwords

open Interaction Storage Accounts
open Model (ObjectId Date)

variable {pk : Packages} {past : Past Call Site} {s s' : Site} {c : Call}

/-! ## Causes -/

/-- The token is that of a link which was asked for to this email at most fifteen minutes ago. -/
def Followed (pk : Packages) (older : Past Call Site) (now : Date) (k : String)
    (email : Option String) : Prop :=
  ∃ m ∈ older, AsksForLink pk m.before email m.act.request ∧ m.act.env.generated = k ∧
    now ≤ m.act.env.now + ticketTtl

/-- The request makes the account verified. -/
inductive Verifies (pk : Packages) (id : ObjectId) (older : Past Call Site)
    (e : Event Call Site) : Prop
  /-- A link to the account's email is followed. -/
  | link (k : String) (user : Account) (request : e.act.request = .verifySignUpEmail k)
      (account : user ∈ e.before.users.docs ∧ user._id = id)
      (followed : Followed pk older e.act.env.now k user.email)
  /-- A request with a token says so. -/
  | update (data : AccountUpdate) (updates : Updates e.act id data)
      (sets : data.isVerified = some (some true))

/-- The request sets the password of the account `u`, which is stored as `secret`. -/
inductive SetsPassword (pk : Packages) (u : ObjectId) (secret : String) (older : Past Call Site)
    (e : Event Call Site) : Prop
  | signUp (body : RegisterBody) (data : RegisterData)
      (signsUp : SignsUp e.before e.act.env.now body data e.act.request)
      (created : (serveStep pk e.act e.before).users.get? u = some (data.toAccount u))
      (stored : secret = pk.hash e.act.env.salt data.password)
  /-- With a token of the account, and its password. -/
  | change (token : Token) (auth : Auth) (old new : String)
      (request : e.act.request = .changePassWord (some old) (some new))
      (admitted : e.act.cookies.admitted e.act.env.now = some token)
      (account : token.claims._id = some u) (record : e.before.authOf u = some auth)
      (knows : pk.compare old auth.secret = true) (stored : secret = pk.hash e.act.env.salt new)
  /-- With a link to the account's email. -/
  | reset (k : String) (user : Account) (new : String)
      (request : e.act.request = .verifyPassWordResetMail k (some new))
      (account : user ∈ e.before.users.docs ∧ user._id = u)
      (followed : Followed pk older e.act.env.now k user.email)
      (stored : secret = pk.hash e.act.env.salt new)

/-! ## The invariant -/

/-- Every record of the cache was asked for; every account that is verified and every secret has a
cause. -/
structure Caused (pk : Packages) (past : Past Call Site) (s : Site) : Prop where
  asked : ∀ t ∈ s.cache, ∃ m ∈ past, AsksForLink pk m.before t.email m.act.request ∧
    m.act.env.generated = t.token ∧ t.expires = m.act.env.now + ticketTtl
  verified : ∀ a ∈ s.users.docs, a.isVerified = some true → Happened (Verifies pk a._id) past
  passwords : ∀ auth ∈ s.auths.docs, Happened (SetsPassword pk auth.user auth.secret) past

theorem Caused.followed (h : Caused pk past s) {k : String} {now : Date} {ticket : Ticket}
    (hget : s.getCache k now = some ticket) : Followed pk past now k ticket.email := by
  obtain ⟨hfind, hnow⟩ := Option.filter_eq_some_iff.1 hget
  obtain ⟨m, hm, hasks, htoken, hexpires⟩ := h.asked ticket (List.mem_of_find?_eq_some hfind)
  have hk : ticket.token = k := by simpa using List.find?_some hfind
  exact ⟨m, hm, hasks, htoken.trans hk, hexpires ▸ of_decide_eq_true hnow⟩

/-- What is asked for, verified or stored already. -/
theorem Caused.keep (h : Caused pk past s) (hcache : ∀ t ∈ s'.cache, t ∈ s.cache ∨
      AsksForLink pk s t.email c.request ∧ c.env.generated = t.token ∧
        t.expires = c.env.now + ticketTtl)
    (husers : ∀ a' ∈ s'.users.docs, a'.isVerified = some true →
      (∃ a ∈ s.users.docs, a._id = a'._id ∧ a.isVerified = some true) ∨
        Verifies pk a'._id past ⟨c, s⟩)
    (hauths : ∀ auth' ∈ s'.auths.docs,
      (∃ auth ∈ s.auths.docs, auth.user = auth'.user ∧ auth.secret = auth'.secret) ∨
        SetsPassword pk auth'.user auth'.secret past ⟨c, s⟩) :
    Caused pk (⟨c, s⟩ :: past) s' where
  asked t ht := by
    rcases hcache t ht with hold | ⟨hasks, htoken, hexpires⟩
    · obtain ⟨m, hm, hmailed⟩ := h.asked t hold
      exact ⟨m, List.mem_cons_of_mem _ hm, hmailed⟩
    · exact ⟨⟨c, s⟩, List.mem_cons_self, hasks, htoken, hexpires⟩
  verified a' ha' hv := by
    rcases husers a' ha' hv with ⟨a, ha, hid, hav⟩ | hnow
    · rw [← hid]
      exact (h.verified a ha hav).later _
    · exact .now hnow
  passwords auth' hauth' := by
    rcases hauths auth' hauth' with ⟨auth, hauth, huser, hsecret⟩ | hnow
    · rw [← huser, ← hsecret]
      exact (h.passwords auth hauth).later _
    · exact .now hnow

/-! ## One request -/

/-- The password that a request sets. -/
theorem setsPassword_of_target (h : Caused pk past s) {user : Account} {auth : Auth} {w : String}
    (target : passwordTarget pk s c = some (user, auth, w)) :
    SetsPassword pk user._id (pk.hash c.env.salt w) past ⟨c, s⟩ := by
  obtain ⟨hmem, hauth, ⟨token, old, hrequest, hadmitted, hid, hcompare⟩ |
    ⟨k, ticket, hrequest, hget, hfound⟩⟩ := passwordTarget_cases target
  · exact .change token auth old w hrequest hadmitted hid hauth hcompare rfl
  · have hemail := (Users.byEmail_eq_some_iff.1 hfound).2
    exact .reset k user w hrequest ⟨hmem, rfl⟩ (hemail ▸ h.followed hget) rfl

/-- An account that an update makes verified. -/
theorem verified_of_update {users : Users} {id : ObjectId} {data : AccountUpdate}
    {r : Option Account} (hstored : s.users.update id data = .ok (users, r)) {a' : Account}
    (ha' : a' ∈ users.docs) (hv : a'.isVerified = some true) :
    (∃ a ∈ s.users.docs, a._id = a'._id ∧ a.isVerified = some true) ∨
      a'._id = id ∧ data.isVerified = some (some true) := by
  rw [(Users.update_ok hstored).1] at ha'
  obtain ⟨a, ha, rfl⟩ := Collection.mem_modify.1 ha'
  by_cases hid : a._id = id
  · rw [key_account, if_pos hid] at hv ⊢
    cases hdata : data.isVerified with
    | none =>
        refine .inl ⟨a, ha, rfl, ?_⟩
        simpa [AccountUpdate.patch, hdata] using hv
    | some v =>
        refine .inr ⟨hid, ?_⟩
        simpa [AccountUpdate.patch, hdata] using hv
  · rw [key_account, if_neg hid] at hv ⊢
    exact .inl ⟨a, ha, rfl, hv⟩

/-- Where a link comes from. -/
theorem asked_of_effect {sent : List Answer} {wrote : List Written}
    (e : Effect pk s c s' sent wrote) : ∀ t ∈ s'.cache, t ∈ s.cache ∨
      AsksForLink pk s t.email c.request ∧ c.env.generated = t.token ∧
        t.expires = c.env.now + ticketTtl := by
  intro t ht
  cases e with
  | unchanged users auths cache next => exact .inl (cache ▸ ht)
  | registered body data id signsUp valid free commits accepted new_id users auths cache =>
      exact .inl (cache ▸ ht)
  | cached email asks =>
      rcases List.mem_cons.1 ht with rfl | ht
      · exact .inr ⟨asks, rfl, rfl⟩
      · exact .inl ht
  | _ => exact .inl ht

/-- How an account comes to be verified. -/
theorem verified_of_effect (h : Caused pk past s) {sent : List Answer} {wrote : List Written}
    (e : Effect pk s c s' sent wrote) : ∀ a' ∈ s'.users.docs, a'.isVerified = some true →
      (∃ a ∈ s.users.docs, a._id = a'._id ∧ a.isVerified = some true) ∨
        Verifies pk a'._id past ⟨c, s⟩ := by
  intro a' ha' hv
  cases e with
  | unchanged users auths cache next => exact .inl ⟨a', users ▸ ha', rfl, hv⟩
  | registered body data id signsUp valid free commits accepted new_id users auths cache =>
      rw [(Users.create_ok users).2] at ha'
      rcases List.mem_append.1 ha' with ha | ha
      · exact .inl ⟨a', ha, rfl, hv⟩
      · -- a new account is not verified
        rw [List.mem_singleton.1 ha] at hv
        cases hv
  | verified token ticket user request found account =>
      obtain ⟨hmem, hemail⟩ := Users.byEmail_eq_some_iff.1 account
      obtain ⟨a, ha, rfl⟩ := Collection.mem_modify.1 ha'
      by_cases hid : a._id = user._id
      · right
        rw [key_account, if_pos hid]
        exact .link token user request ⟨hmem, hid.symm⟩ (hemail ▸ h.followed found)
      · rw [key_account, if_neg hid] at hv ⊢
        exact .inl ⟨a, ha, rfl, hv⟩
  | updated id data users user updates stored =>
      rcases verified_of_update stored ha' hv with hold | ⟨rfl, hsets⟩
      · exact .inl hold
      · exact .inr (.update data updates hsets)
  | deleted id request => exact .inl ⟨a', (Collection.mem_delete.1 ha').1, rfl, hv⟩
  | _ => exact .inl ⟨a', ha', rfl, hv⟩

/-- How a secret comes to be stored. -/
theorem stored_of_effect (h : Caused pk past s) {sent : List Answer} {wrote : List Written}
    (e : Effect pk s c s' sent wrote) (hs' : serveStep pk c s = s') : ∀ x' ∈ s'.auths.docs,
      (∃ x ∈ s.auths.docs, x.user = x'.user ∧ x.secret = x'.secret) ∨
        SetsPassword pk x'.user x'.secret past ⟨c, s⟩ := by
  intro x' hx'
  cases e with
  | unchanged users auths cache next => exact .inl ⟨x', auths ▸ hx', rfl, rfl⟩
  | registered body data id signsUp valid free commits accepted new_id users auths cache =>
      rw [auths] at hx'
      rcases Collection.mem_of_mem_insert hx' with hx | rfl
      · exact .inl ⟨x', hx, rfl, rfl⟩
      · refine .inr (.signUp body data signsUp ?_ rfl)
        change (serveStep pk c s).users.get? id = _
        rw [hs', Collection.get?_eq_some_iff, (Users.create_ok users).2]
        exact ⟨List.mem_append_right _ (List.mem_singleton_self _), rfl⟩
  | password user auth w target answer =>
      have hauth := (passwordTarget_cases target).2.1
      obtain ⟨x, hx, rfl⟩ := Collection.mem_modify.1 hx'
      by_cases hid : x._id = auth._id
      · obtain rfl : x = auth := Collection.eq_of_key_eq hx (List.mem_of_find?_eq_some hauth) hid
        right
        rw [key_auth, if_pos rfl]
        change SetsPassword pk x.user _ past _
        rw [authOf_user hauth]
        exact setsPassword_of_target h target
      · rw [key_auth, if_neg hid]
        exact .inl ⟨x, hx, rfl, rfl⟩
  | _ => exact .inl ⟨x', hx', rfl, rfl⟩

/-- Every request has its causes in the past. -/
theorem caused_step (h : Caused pk past s) (c : Call) :
    Caused pk (⟨c, s⟩ :: past) (serveStep pk c s) :=
  have e := serve_effect pk c s
  h.keep (asked_of_effect e) (verified_of_effect h e) (stored_of_effect h e rfl)

/-! ## Every run -/

/-- No account and no link. -/
def Fresh (s : Site) : Prop := s.users.docs = [] ∧ s.auths.docs = [] ∧ s.cache = []

theorem caused (h : Run Fresh (fun _ _ _ => True) (serveStep pk) past s) : Caused pk past s := by
  refine h.invariant (I := Caused pk) ?_ fun past c s hs _ => caused_step hs c
  rintro s ⟨husers, hauths, hcache⟩
  constructor
  · simp [hcache]
  · simp [husers]
  · simp [hauths]

/-- **Why an account is verified.** Along every run of requests from a fresh site, an account that
is verified was made so by a request of the past: one that followed a link asked for at most fifteen
minutes before to the email which the account then had, or an update with a token that passed. -/
theorem verified_caused (h : Run Fresh (fun _ _ _ => True) (serveStep pk) past s) {a : Account}
    (ha : a ∈ s.users.docs) (hv : a.isVerified = some true) :
    Happened (Verifies pk a._id) past :=
  (caused h).verified a ha hv

/-- **Who set a password.** Along every run of requests from a fresh site, every secret that is
stored was set by a request of the past: the sign-up of its account, a change with a token of the
account and its password, or a link asked for at most fifteen minutes before to the email which the
account then had. -/
theorem password_caused (h : Run Fresh (fun _ _ _ => True) (serveStep pk) past s) {auth : Auth}
    (hauth : auth ∈ s.auths.docs) : Happened (SetsPassword pk auth.user auth.secret) past :=
  (caused h).passwords auth hauth

/-- A user signs up, follows the verification link and resets the password with the same one. -/
def linkedUser : List Call :=
  Sample.verifiedUser ++ [Sample.call (.verifyPassWordResetMail "link" (some "password2")) 0]

theorem run_linkedUser : Run Fresh (fun _ _ _ => True) (serveStep Sample.packages)
    (replay (serveStep Sample.packages) linkedUser [] Sample.site).1
    (replay (serveStep Sample.packages) linkedUser [] Sample.site).2 :=
  Run.replay (.start ⟨rfl, rfl, rfl⟩) linkedUser (by decide +kernel)

theorem verified_caused_linkedUser :
    Sample.userAccount ∈
        (replay (serveStep Sample.packages) linkedUser [] Sample.site).2.users.docs ∧
      Happened (Verifies Sample.packages 1)
        (replay (serveStep Sample.packages) linkedUser [] Sample.site).1 := by
  have hmem : Sample.userAccount ∈
      (replay (serveStep Sample.packages) linkedUser [] Sample.site).2.users.docs := by
    decide +kernel
  exact ⟨hmem, verified_caused run_linkedUser hmem rfl⟩

theorem password_caused_linkedUser :
    ⟨2, 1, "password2"⟩ ∈
        (replay (serveStep Sample.packages) linkedUser [] Sample.site).2.auths.docs ∧
      Happened (SetsPassword Sample.packages 1 "password2")
        (replay (serveStep Sample.packages) linkedUser [] Sample.site).1 := by
  have hmem : ⟨2, 1, "password2"⟩ ∈
      (replay (serveStep Sample.packages) linkedUser [] Sample.site).2.auths.docs := by
    decide +kernel
  exact ⟨hmem, password_caused run_linkedUser hmem⟩

end InventoryHero.Passwords
