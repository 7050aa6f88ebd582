import InventoryHero.Accounts.Tokens
import InventoryHero.Interaction.History

/-!
# The last password that was set

Three requests set a password: `signUpEmailPassword`, whose hook hashes it, and `changePassWord` and
`verifyPassWordResetMail`, which hash it themselves and store it past the hook. The invariant
(`Tracked`) says of every account that the stored secret is the hash of the password given in the
last request that answered success for it. A login accepts that password and no other, provided its
own validation lets it through; the two requests that change a password do not check this.
-/

set_option autoImplicit false

namespace InventoryHero.Passwords

open Interaction Storage Accounts
open Model (ObjectId)

/-- The requests that leave the profile of an account as it is. -/
def keepsProfiles : Request → Bool
  | .completeSignup _ _ => false
  | .updateUser _ => false
  | .deleteUser _ => false
  | .verifyUser _ _ => false
  | _ => true

/-- `Login` lets a password of this length through. -/
def LengthOk (w : String) : Prop := 8 ≤ jsLength w ∧ jsLength w ≤ 1024

instance : DecidablePred LengthOk := fun _ => inferInstanceAs (Decidable (_ ∧ _))

/-- The request is one of those above, and a new password that it stores is one that `Login` lets
through. -/
def StoresUsable (pk : Packages) (_ : Past Call Site) (c : Call) (s : Site) : Prop :=
  keepsProfiles c.request = true ∧
    (passwordTarget pk s c).elim True fun target => LengthOk target.2.2

instance (pk : Packages) (past : Past Call Site) (c : Call) (s : Site) :
    Decidable (StoresUsable pk past c s) :=
  inferInstanceAs (Decidable (_ ∧ _))

/-- The password in the body of a request that sets one. -/
def givenPassword : Request → Option String
  | .signUpEmailPassword body => body.password
  | .changePassWord _ new => new
  | .verifyPassWordResetMail _ new => new
  | _ => none

/-- The account whose password was written. -/
def passwordOf : Written → Option ObjectId
  | .created u => some u
  | .secret u => some u
  | _ => none

/-- The account whose password a request set, and the password, if it answered success. -/
def passwordSet (request : Request) (sent : List Answer) (wrote : List Written) :
    Option (ObjectId × String) :=
  if sent.any Answer.ok then
    (wrote.findSome? passwordOf).bind fun u => (givenPassword request).map fun w => (u, w)
  else none

/-- The same of a step of a run. -/
def setPassword (pk : Packages) (e : Event Call Site) : Option (ObjectId × String) :=
  passwordSet e.act.request (serve pk e.act e.before).loc.sent (serve pk e.act e.before).loc.wrote

/-- The password given in the last request that answered success for the password of `u`. -/
def lastPassword (pk : Packages) (u : ObjectId) (past : Past Call Site) : Option String :=
  past.findSome? fun e => (setPassword pk e).bind fun r => if r.1 = u then some r.2 else none

/-- A login with the email of the account and the password `w` answers success. -/
def Accepts (pk : Packages) (s : Site) (a : Account) (w : String) (cookies : Cookies) (env : Env) :
    Prop :=
  (serve pk ⟨.Login ⟨a.email, none, some w⟩, cookies, env⟩ s).loc.sent.any Answer.ok = true

variable {pk : Packages} {past : Past Call Site} {s : Site} {c : Call}

theorem lastPassword_cons_of_none (h : setPassword pk ⟨c, s⟩ = none) (u : ObjectId) :
    lastPassword pk u (⟨c, s⟩ :: past) = lastPassword pk u past := by
  simp [lastPassword, h]

theorem lastPassword_cons_of_ne {u v : ObjectId} {w : String}
    (h : setPassword pk ⟨c, s⟩ = some (u, w)) (hv : u ≠ v) :
    lastPassword pk v (⟨c, s⟩ :: past) = lastPassword pk v past := by
  simp [lastPassword, h, hv]

theorem lastPassword_cons_self {u : ObjectId} {w : String}
    (h : setPassword pk ⟨c, s⟩ = some (u, w)) :
    lastPassword pk u (⟨c, s⟩ :: past) = some w := by
  simp [lastPassword, h]

/-! ## What every run keeps -/

/-- The account has an email and a telephone number that were validated, and its secret is the hash
of the last password that was set. -/
structure Kept (pk : Packages) (past : Past Call Site) (s : Site) (a : Account) : Prop where
  valid : a.valid = true
  email : ∃ e, a.email = some e ∧ e ≠ "" ∧ pk.isEmail e = true
  secret : ∃ auth salt w, s.authOf a._id = some auth ∧ auth.secret = pk.hash salt w ∧
    lastPassword pk a._id past = some w ∧ LengthOk w

/-- Every account is kept, and ids are below the counter. -/
structure Tracked (pk : Packages) (past : Past Call Site) (s : Site) : Prop where
  kept : ∀ a ∈ s.users.docs, Kept pk past s a
  accounts_lt : ∀ a ∈ s.users.docs, a._id < s.nextId
  auths_lt : ∀ auth ∈ s.auths.docs, auth._id < s.nextId ∧ auth.user < s.nextId

/-- A step that concerns the account in neither of the two respects. -/
theorem Kept.transfer {s' : Site} {past' : Past Call Site} {a : Account} (h : Kept pk past s a)
    (hauth : s'.authOf a._id = s.authOf a._id)
    (hlast : lastPassword pk a._id past' = lastPassword pk a._id past) : Kept pk past' s' a := by
  obtain ⟨auth, salt, w, hauth', hsecret, hlast', hlength⟩ := h.secret
  exact ⟨h.valid, h.email, auth, salt, w, hauth.trans hauth', hsecret, hlast.trans hlast', hlength⟩

/-- A step that sets no password and keeps the parts of the accounts that matter. -/
theorem Tracked.same {s' : Site} (h : Tracked pk past s) (hset : setPassword pk ⟨c, s⟩ = none)
    (husers : ∀ a' ∈ s'.users.docs, ∃ a ∈ s.users.docs, a'._id = a._id ∧ a'.email = a.email ∧
      a'.valid = a.valid)
    (hauths : s'.auths = s.auths) (hnext : s.nextId ≤ s'.nextId) :
    Tracked pk (⟨c, s⟩ :: past) s' where
  kept a' ha' := by
    obtain ⟨a, ha, hid, hemail, hvalid⟩ := husers a' ha'
    have hkept := h.kept a ha
    refine ⟨hvalid.trans hkept.valid, hemail ▸ hkept.email, ?_⟩
    obtain ⟨auth, salt, w, hauth, hsecret, hlast, hlength⟩ := hkept.secret
    refine ⟨auth, salt, w, ?_, hsecret, ?_, hlength⟩
    · rw [hid, Site.authOf, hauths]
      exact hauth
    · rw [hid, lastPassword_cons_of_none hset]
      exact hlast
  accounts_lt a' ha' := by
    obtain ⟨a, ha, hid, -, -⟩ := husers a' ha'
    rw [hid]
    exact (h.accounts_lt a ha).trans_le hnext
  auths_lt auth hauth := by
    rw [hauths] at hauth
    obtain ⟨hid, huser⟩ := h.auths_lt auth hauth
    exact ⟨hid.trans_le hnext, huser.trans_le hnext⟩

/-- A new account, with the only password record of its id. -/
theorem Tracked.registered {s' : Site} {data : RegisterData} {id : ObjectId} {salt : Nat}
    (h : Tracked pk past s) (hset : setPassword pk ⟨c, s⟩ = some (id, data.password))
    (hemail : data.email ≠ "" ∧ pk.isEmail data.email = true)
    (hlength : LengthOk data.password) (hvalid : (data.toAccount id).valid = true)
    (hid : s.nextId ≤ id ∧ id + 1 < s'.nextId)
    (husers : s'.users.docs = s.users.docs ++ [data.toAccount id])
    (hauths : s'.auths = s.auths.insert ⟨id + 1, id, pk.hash salt data.password⟩) :
    Tracked pk (⟨c, s⟩ :: past) s' := by
  -- ids in use lie below the new ones, which lie below the new counter
  have hused {n : ObjectId} (hn : n < s.nextId) : n < id := Nat.lt_of_lt_of_le hn hid.1
  have hnew : id < s'.nextId := Nat.lt_of_succ_lt hid.2
  have hdocs : s'.auths.docs = s.auths.docs ++ [⟨id + 1, id, pk.hash salt data.password⟩] := by
    rw [hauths, Collection.docs_insert]
    rw [Collection.accepts_insert_iff]
    intro auth hauth
    exact (Nat.lt_succ_of_lt (hused (h.auths_lt auth hauth).1)).ne
  have hauthOf v : s'.authOf v = (s.authOf v).or
      (if id = v then some ⟨id + 1, id, pk.hash salt data.password⟩ else none) := by
    unfold Site.authOf
    rw [hdocs, List.find?_append]
    by_cases hv : id = v <;> simp [hv]
  refine ⟨?_, ?_, ?_⟩
  · intro a ha
    rw [husers] at ha
    rcases List.mem_append.1 ha with ha | ha
    · have hne : id ≠ a._id := (hused (h.accounts_lt a ha)).ne'
      refine (h.kept a ha).transfer ?_ (lastPassword_cons_of_ne hset hne)
      rw [hauthOf, if_neg hne, Option.or_none]
    · obtain rfl := List.mem_singleton.1 ha
      have hnone : s.authOf id = none := by
        unfold Site.authOf
        rw [List.find?_eq_none]
        intro auth hauth
        simpa using (hused (h.auths_lt auth hauth).2).ne
      refine ⟨hvalid, ⟨data.email, rfl, hemail⟩, ⟨id + 1, id, pk.hash salt data.password⟩, salt,
        data.password, ?_, rfl, lastPassword_cons_self hset, hlength⟩
      show s'.authOf id = _
      rw [hauthOf, hnone, if_pos rfl, Option.none_or]
  · intro a ha
    rw [husers] at ha
    rcases List.mem_append.1 ha with ha | ha
    · exact (hused (h.accounts_lt a ha)).trans hnew
    · obtain rfl := List.mem_singleton.1 ha
      exact hnew
  · intro auth hauth
    rw [hdocs] at hauth
    rcases List.mem_append.1 hauth with hauth | hauth
    · obtain ⟨hauthId, huser⟩ := h.auths_lt auth hauth
      exact ⟨(hused hauthId).trans hnew, (hused huser).trans hnew⟩
    · obtain rfl := List.mem_singleton.1 hauth
      exact ⟨hid.2, hnew⟩

/-- A new password for the account `user`. -/
theorem Tracked.password {user : Account} {auth : Auth} {w : String} {salt : Nat}
    (h : Tracked pk past s) (hset : setPassword pk ⟨c, s⟩ = some (user._id, w))
    (hauth : s.authOf user._id = some auth) (hlength : LengthOk w) :
    Tracked pk (⟨c, s⟩ :: past)
      { s with auths := s.auths.modify auth._id (setSecret (pk.hash salt w)) } := by
  have hmem : auth ∈ s.auths.docs := List.mem_of_find?_eq_some hauth
  have hauthOf v : Site.authOf
      { s with auths := s.auths.modify auth._id (setSecret (pk.hash salt w)) } v =
      (s.authOf v).map fun x => if x._id = auth._id then (setSecret (pk.hash salt w)).apply x
        else x := by
    unfold Site.authOf
    rw [Collection.docs_modify, List.find?_map]
    congr 2
    funext x
    by_cases hx : x._id = auth._id <;> simp [hx, setSecret]
  refine ⟨?_, h.accounts_lt, ?_⟩
  · intro a ha
    by_cases hid : user._id = a._id
    · refine ⟨(h.kept a ha).valid, (h.kept a ha).email, ?_⟩
      refine ⟨(setSecret (pk.hash salt w)).apply auth, salt, w, ?_, rfl, ?_, hlength⟩
      · rw [hauthOf, ← hid, hauth]
        simp
      · rw [← hid]
        exact lastPassword_cons_self hset
    · refine (h.kept a ha).transfer ?_ (lastPassword_cons_of_ne hset hid)
      rw [hauthOf]
      cases hother : s.authOf a._id with
      | none => rfl
      | some x =>
          -- the record of another account is another record
          have hne : x._id ≠ auth._id := by
            intro heq
            obtain rfl : x = auth :=
              Collection.eq_of_key_eq (List.mem_of_find?_eq_some hother) hmem heq
            exact hid ((authOf_user hauth).symm.trans (authOf_user hother))
          simp [hne]
  · intro auth' hauth'
    obtain ⟨x, hx, rfl⟩ := Collection.mem_modify.1 hauth'
    have := h.auths_lt x hx
    split <;> exact this

/-- The target's new password is the one in the body. -/
theorem givenPassword_of_target {user : Account} {auth : Auth} {w : String}
    (h : passwordTarget pk s c = some (user, auth, w)) : givenPassword c.request = some w := by
  obtain ⟨-, -, ⟨_, _, hc, -⟩ | ⟨_, _, hc, -⟩⟩ := passwordTarget_cases h
  · rw [hc]
    rfl
  · rw [hc]
    rfl

/-- Every request that meets the condition keeps the invariant. -/
theorem tracked_step (h : Tracked pk past s) (hc : StoresUsable pk past c s) :
    Tracked pk (⟨c, s⟩ :: past) (serveStep pk c s) := by
  obtain ⟨hprofiles, hlength⟩ := hc
  have he := serve_effect pk c s
  have hset : setPassword pk ⟨c, s⟩ =
      passwordSet c.request (serve pk c s).loc.sent (serve pk c s).loc.wrote := rfl
  generalize serveStep pk c s = s' at he ⊢
  generalize (serve pk c s).loc.sent = sent at he hset
  generalize (serve pk c s).loc.wrote = wrote at he hset
  cases he with
  | unchanged users auths cache next =>
      refine h.same (by simp [hset, passwordSet]) ?_ auths next
      intro a ha
      exact ⟨a, users ▸ ha, rfl, rfl, rfl⟩
  | registered body data id signsUp valid free commits accepted new_id users auths cache =>
      obtain ⟨hgiven, hemail, hpassword, hlength⟩ := registerValidation_ok valid
      have hrequest : c.request = .signUpEmailPassword body := by
        generalize c.request = request at signsUp hprofiles
        cases signsUp with
        | direct => rfl
        | completed => cases hprofiles
      refine h.registered ?_ ⟨hgiven, hemail⟩ hlength accepted new_id (Users.create_ok users).2
        auths
      rw [hset, hrequest]
      simp [passwordSet, givenPassword, hpassword, passwordOf, Answer.ok, Msg]
  | cached email asks =>
      refine h.same (by simp [hset, passwordSet, passwordOf]) ?_ rfl le_rfl
      intro a ha
      exact ⟨a, ha, rfl, rfl, rfl⟩
  | verified token ticket user request found account =>
      refine h.same (by simp [hset, passwordSet, passwordOf]) ?_ rfl le_rfl
      intro a ha
      obtain ⟨b, hb, rfl⟩ := Collection.mem_modify.1 ha
      refine ⟨b, hb, ?_⟩
      split <;> exact ⟨rfl, rfl, rfl⟩
  | updated id data users user updates stored =>
      -- no such request sends a profile
      cases updates with
      | profile token request => simp [request, keepsProfiles] at hprofiles
      | admin token request => simp [request, keepsProfiles] at hprofiles
  | deleted id request => simp [request, keepsProfiles] at hprofiles
  | password user auth w target answer =>
      obtain ⟨huser, hauth, -⟩ := passwordTarget_cases target
      have hgiven := givenPassword_of_target target
      obtain ⟨a, rfl, ha⟩ := answer
      rw [target] at hlength
      refine h.password ?_ hauth hlength
      rw [hset]
      simp [passwordSet, ha, (h.kept user huser).valid, passwordOf, hgiven]

/-- A site without accounts. -/
def NoAccounts (s : Site) : Prop := s.users.docs = [] ∧ s.auths.docs = []

theorem tracked (h : Run NoAccounts (StoresUsable pk) (serveStep pk) past s) :
    Tracked pk past s := by
  refine h.invariant (I := Tracked pk) ?_ fun past c s => tracked_step
  rintro s ⟨husers, hauths⟩
  constructor
  · simp [husers]
  · simp [husers]
  · simp [hauths]

/-! ## Which password logs in -/

theorem accepts_iff_account {a : Account} {w : String} {cookies : Cookies} {env : Env} :
    Accepts pk s a w cookies env ↔
      (loginAccount pk s ⟨a.email, none, some w⟩).isSome = true := by
  have hserved : LoginServed pk s ⟨a.email, none, some w⟩ env
      (serve pk ⟨.Login ⟨a.email, none, some w⟩, cookies, env⟩ s) :=
    Login_served pk s ⟨a.email, none, some w⟩ env
  unfold Accepts
  cases haccount : loginAccount pk s ⟨a.email, none, some w⟩ with
  | none =>
      obtain ⟨⟨answer, hsent, hfail⟩, -⟩ := hserved.refused haccount
      simp [hsent, hfail]
  | some user =>
      rw [(hserved.accepted user haccount).1]
      simp [loginSuccessful, Msg, Answer.ok]

/-- A search by the email of an account finds it, as no account lacks a telephone number. -/
theorem Tracked.byEmailOrTelephone (h : Tracked pk past s) {a : Account} (ha : a ∈ s.users.docs) :
    s.users.byEmailOrTelephone a.email none = some a := by
  unfold Users.byEmailOrTelephone
  cases hfind : s.users.docs.find? fun b => b.email = a.email || b.telephone = none with
  | none =>
      have := List.find?_eq_none.1 hfind a ha
      simp at this
  | some b =>
      have hb := List.mem_of_find?_eq_some hfind
      have hvalid := (h.kept b hb).valid
      have hmatch := List.find?_some hfind
      simp only [Bool.or_eq_true, decide_eq_true_eq] at hmatch
      rcases hmatch with hemail | htelephone
      · rw [s.users.emails.eq hb ha hemail]
      · simp [Account.valid, given, htelephone] at hvalid

/-- A login with the email of an account succeeds with the last password that was set and no other,
unless the account has to be verified first. -/
theorem accepts_iff
    (hbcrypt : ∀ w salt v, pk.compare w (pk.hash salt v) = true ↔ w = v)
    (h : Tracked pk past s) {a : Account} (ha : a ∈ s.users.docs) {w : String} {cookies : Cookies}
    {env : Env} :
    Accepts pk s a w cookies env ↔
      unverified a.isVerified a.role = false ∧ lastPassword pk a._id past = some w := by
  obtain ⟨auth, salt, v, hauth, hsecret, hlast, hleast, hmost⟩ := (h.kept a ha).secret
  obtain ⟨e, hemail, hgiven, hisEmail⟩ := (h.kept a ha).email
  have hfound := h.byEmailOrTelephone ha
  rw [accepts_iff_account, Option.isSome_iff_exists, hlast]
  simp only [loginAccount_eq_some_iff, hemail, LoginValidation_eq_ok_iff hgiven hisEmail]
  constructor
  · rintro ⟨user, data, auth', ⟨w', hw, -, -, -, rfl⟩, huser, hauth', hcompare, hpass⟩
    rw [hemail] at hfound
    obtain rfl : a = user := Option.some.inj (hfound.symm.trans huser)
    obtain rfl : auth = auth' := Option.some.inj (hauth.symm.trans hauth')
    obtain rfl : w = w' := Option.some.inj hw
    rw [hsecret, hbcrypt] at hcompare
    exact ⟨hpass, congrArg some hcompare.symm⟩
  · rintro ⟨hpass, hw⟩
    obtain rfl : v = w := Option.some.inj hw
    have hnonempty : v ≠ "" := by
      rintro rfl
      simp [jsLength] at hleast
    refine ⟨a, ⟨some e, none, v⟩, auth, ⟨v, rfl, hnonempty, hleast, hmost, rfl⟩, ?_, hauth, ?_,
      hpass⟩
    · rw [← hemail]
      exact hfound
    · rw [hsecret, hbcrypt]

/-- A step that sets the password of one account keeps the other accounts as they are. -/
theorem other_kept {u : ObjectId} {a : Account} (ha : a ∈ s.users.docs) (hne : a._id ≠ u)
    (hset : (serve pk c s).loc.wrote.findSome? passwordOf = some u) :
    a ∈ (serveStep pk c s).users.docs ∧
      lastPassword pk a._id (⟨c, s⟩ :: past) = lastPassword pk a._id past := by
  constructor
  · have he := serve_effect pk c s
    generalize serveStep pk c s = s' at he ⊢
    generalize (serve pk c s).loc.sent = sent at he
    generalize (serve pk c s).loc.wrote = wrote at he hset
    cases he with
    | registered body data id signsUp valid free commits accepted new_id users auths cache =>
        rw [(Users.create_ok users).2]
        exact List.mem_append_left _ ha
    | password user auth w target answer => exact ha
    | _ => simp [passwordOf] at hset
  · cases hpassword : setPassword pk ⟨c, s⟩ with
    | none => exact lastPassword_cons_of_none hpassword _
    | some r =>
        have hr : r.1 = u := by
          unfold setPassword passwordSet at hpassword
          rw [hset] at hpassword
          split at hpassword
          · obtain ⟨w, -, rfl⟩ := Option.map_eq_some_iff.1 hpassword
            rfl
          · cases hpassword
        exact lastPassword_cons_of_ne hpassword (hr ▸ hne.symm)

/-- In every run in which the passwords that are stored are ones that `Login` lets through, a login
with the email of a verified account succeeds exactly with the password given in the last request
that answered success for it, and a request that sets the password of one account does not change
which passwords another one accepts. -/
theorem last_password_logs_in
    (hbcrypt : ∀ w salt v, pk.compare w (pk.hash salt v) = true ↔ w = v)
    (h : Run NoAccounts (StoresUsable pk) (serveStep pk) past s) :
    (∀ a ∈ s.users.docs, a.isVerified = some true → ∀ w cookies env,
      Accepts pk s a w cookies env ↔ lastPassword pk a._id past = some w) ∧
    ∀ c, StoresUsable pk past c s → ∀ u,
      (serve pk c s).loc.wrote.findSome? passwordOf = some u →
      ∀ a ∈ s.users.docs, a._id ≠ u → ∀ w cookies env,
        Accepts pk (serveStep pk c s) a w cookies env ↔ Accepts pk s a w cookies env := by
  have htracked := tracked h
  constructor
  · intro a ha hverified w cookies env
    rw [accepts_iff hbcrypt htracked ha]
    simp [unverified, hverified]
  · intro c hc u hset a ha hne w cookies env
    obtain ⟨ha', hlast⟩ := other_kept ha hne hset
    rw [accepts_iff hbcrypt (tracked_step htracked hc) ha', accepts_iff hbcrypt htracked ha, hlast]

/-- The user of the small site changes the password. -/
def changed (new : String) : List Call :=
  Sample.verifiedUser ++
    [Sample.userCall (.changePassWord (some "password") (some new)) 0]

theorem last_password_logs_in_changed :
    lastPassword Sample.packages 1
        (replay (serveStep Sample.packages) (changed "password1") [] Sample.site).1 =
      some "password1" ∧
    Accepts Sample.packages
      (replay (serveStep Sample.packages) (changed "password1") [] Sample.site).2 Sample.userAccount
      "password1" {} (Sample.env 0 "link") := by
  have hstart : Run NoAccounts (StoresUsable Sample.packages) (serveStep Sample.packages) []
      Sample.site := .start ⟨rfl, rfl⟩
  have hbcrypt : ∀ w salt v,
      Sample.packages.compare w (Sample.packages.hash salt v) = true ↔ w = v := by
    intro w salt v
    exact decide_eq_true_iff
  have hlast : lastPassword Sample.packages 1
      (replay (serveStep Sample.packages) (changed "password1") [] Sample.site).1 =
        some "password1" := by
    decide +kernel
  have hrun := hstart.replay (changed "password1") (by decide +kernel)
  have hlogs := (last_password_logs_in hbcrypt hrun).1 Sample.userAccount (by decide +kernel) rfl
  exact ⟨hlast, (hlogs "password1" {} (Sample.env 0 "link")).2 hlast⟩

/-- A change to a password of five characters answers success, and `Login` then refuses it. -/
theorem short_password_refused :
    (replay (serveStep Sample.packages) (changed "short") [] Sample.site).2.users.docs =
      [Sample.userAccount] ∧
    lastPassword Sample.packages 1
      (replay (serveStep Sample.packages) (changed "short") [] Sample.site).1 = some "short" ∧
    (serve Sample.packages (Sample.call (Sample.login "u@shop" "short") 0)
      (replay (serveStep Sample.packages) (changed "short") [] Sample.site).2).loc.sent =
        [⟨400, .json "error" "\"password\" length must be at least 8 characters long"⟩] := by
  decide +kernel

end InventoryHero.Passwords
