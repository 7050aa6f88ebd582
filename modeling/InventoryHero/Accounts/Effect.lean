import InventoryHero.Accounts.Rules

/-!
# What a request to the account routes can do

`Effect` lists every change of the site that a request can make, with the writes it records and what
it answers; `serve_effect` proves that the list is complete. The run theorems about accounts and
passwords are case analyses on it and do not look into the handlers.
-/

set_option autoImplicit false

namespace InventoryHero.Accounts

open Interaction Storage
open Model (ObjectId Date)

/-- A condition on optional data is decidable. -/
instance decidableElim {α : Type} (o : Option α) (p : Prop) (P : α → Prop) [Decidable p]
    [DecidablePred P] : Decidable (o.elim p P) :=
  match o with
  | none => inferInstanceAs (Decidable p)
  | some a => inferInstanceAs (Decidable (P a))

/-- The request is a sign-up with this body; a completed one needs a link for its email. -/
inductive SignsUp (s : Site) (now : Date) (body : RegisterBody) (data : RegisterData) :
    Request → Prop
  | direct : SignsUp s now body data (.signUpEmailPassword body)
  | completed (token : String) (ticket : Ticket) (found : s.getCache token now = some ticket)
      (email : ticket.email = some data.email) :
      SignsUp s now body data (.completeSignup (some token) body)

/-- The request asks for a link to this email. -/
inductive AsksForLink (pk : Packages) (s : Site) (email : Option String) : Request → Prop
  | verification (body : Option String) (e : String) (user : Account) (address : email = some e)
      (valid : EmailValidation pk.isEmail body = .ok e) (found : s.users.byEmail email = some user)
      (unverified : user.isVerified ≠ some true) : AsksForLink pk s email (.signUpMagicLink body)
  | reset : AsksForLink pk s email (.forgotPassWord email)

/-- The request sends the fields of `data` for the account `id`. -/
inductive Updates (c : Call) (id : ObjectId) (data : AccountUpdate) : Prop
  | profile (token : Token) (request : c.request = .updateUser data)
      (admitted : c.cookies.admitted c.env.now = some token)
      (account : (token.claims._id.or c.env.undefinedId) = some id)
  | admin (token : Token) (request : c.request = .verifyUser id data)
      (admitted : c.cookies.admitted c.env.now = some token)

/-- The account whose password a request sets, the record of the password, and the new password:
everything that `changePassWord` and `verifyPassWordResetMail` check. -/
def passwordTarget (pk : Packages) (s : Site) (c : Call) : Option (Account × Auth × String) :=
  match c.request with
  | .changePassWord (some old) (some new) =>
      ((c.cookies.admitted c.env.now).bind fun token => token.claims._id.bind s.users.get?).bind
        fun user => (s.authOf user._id).bind fun auth =>
          if pk.compare old auth.secret then some (user, auth, new) else none
  | .verifyPassWordResetMail token (some new) =>
      ((s.getCache token c.env.now).bind fun ticket => s.users.byEmail ticket.email).bind
        fun user => (s.authOf user._id).map fun auth => (user, auth, new)
  | _ => none

/-- What a request does to the site, what it answers, and the writes it records. -/
inductive Effect (pk : Packages) (s : Site) (c : Call) : Site → List Answer → List Written → Prop
  | unchanged {s' : Site} {sent : List Answer} (users : s'.users = s.users)
      (auths : s'.auths = s.auths) (cache : s'.cache = s.cache) (next : s.nextId ≤ s'.nextId) :
      Effect pk s c s' sent []
  /-- A new account with its password. -/
  | registered {s' : Site} (body : RegisterBody) (data : RegisterData) (id : ObjectId)
      (signsUp : SignsUp s c.env.now body data c.request)
      (valid : registerValidation pk.isEmail body = .ok data)
      (free : s.users.byEmailOrTelephone data.email data.telephone = none)
      (commits : c.env.commitFails = false) (accepted : (data.toAccount id).valid = true)
      (new_id : s.nextId ≤ id ∧ id + 1 < s'.nextId)
      (users : s.users.create (data.toAccount id) = .ok s'.users)
      (auths : s'.auths = s.auths.insert ⟨id + 1, id, pk.hash c.env.salt data.password⟩)
      (cache : s'.cache = s.cache) :
      Effect pk s c s' [Msg (.user (data.toAccount id)) "registered" 201] [.created id]
  /-- A link. The answer may be one of failure. -/
  | cached {sent : List Answer} (email : Option String) (asks : AsksForLink pk s email c.request) :
      Effect pk s c
        { s with cache := ⟨c.env.generated, email, c.env.now + ticketTtl⟩ :: s.cache } sent
        [.cached c.env.generated]
  /-- The account of a link is marked as verified. -/
  | verified {sent : List Answer} (token : String) (ticket : Ticket) (user : Account)
      (request : c.request = .verifySignUpEmail token)
      (found : s.getCache token c.env.now = some ticket)
      (account : s.users.byEmail ticket.email = some user) :
      Effect pk s c { s with users := s.users.verify user._id } sent [.updated user._id]
  /-- The fields of a body are stored. -/
  | updated {sent : List Answer} (id : ObjectId) (data : AccountUpdate) (users : Users)
      (user : Account) (updates : Updates c id data)
      (stored : s.users.update id data = .ok (users, some user)) :
      Effect pk s c { s with users := users } sent [.updated id]
  /-- An account is deleted; its password stays. -/
  | deleted {sent : List Answer} (id : ObjectId) (request : c.request = .deleteUser id) :
      Effect pk s c { s with users := s.users.remove id } sent [.deleted id]
  /-- A password is stored. The answer is one of success unless saving the account fails. -/
  | password {sent : List Answer} (user : Account) (auth : Auth) (w : String)
      (target : passwordTarget pk s c = some (user, auth, w))
      (answer : ∃ a, sent = [a] ∧ a.ok = user.valid) :
      Effect pk s c
        { s with auths := s.auths.modify auth._id (setSecret (pk.hash c.env.salt w)) } sent
        [.secret user._id]

theorem authOf_user {s : Site} {user : ObjectId} {auth : Auth} (h : s.authOf user = some auth) :
    auth.user = user := by
  simpa using List.find?_some h

/-- How a password comes to be set: by one who knows it, or by a link. -/
theorem passwordTarget_cases {pk : Packages} {s : Site} {c : Call} {user : Account} {auth : Auth}
    {w : String} (h : passwordTarget pk s c = some (user, auth, w)) :
    user ∈ s.users.docs ∧ s.authOf user._id = some auth ∧
      ((∃ token old, c.request = .changePassWord (some old) (some w) ∧
          c.cookies.admitted c.env.now = some token ∧ token.claims._id = some user._id ∧
          pk.compare old auth.secret = true) ∨
        ∃ k ticket, c.request = .verifyPassWordResetMail k (some w) ∧
          s.getCache k c.env.now = some ticket ∧ s.users.byEmail ticket.email = some user) := by
  unfold passwordTarget at h
  split at h
  · rename_i old new hc
    obtain ⟨u, hu, h⟩ := Option.bind_eq_some_iff.1 h
    obtain ⟨x, hx, h⟩ := Option.bind_eq_some_iff.1 h
    obtain ⟨token, htoken, hget⟩ := Option.bind_eq_some_iff.1 hu
    obtain ⟨id, hid, hget⟩ := Option.bind_eq_some_iff.1 hget
    split at h
    · rename_i hcompare
      cases h
      obtain ⟨hmem, rfl⟩ := Collection.get?_eq_some_iff.1 hget
      exact ⟨hmem, hx, .inl ⟨token, old, hc, htoken, hid, hcompare⟩⟩
    · cases h
  · rename_i k new hc
    obtain ⟨u, hu, h⟩ := Option.bind_eq_some_iff.1 h
    obtain ⟨x, hx, h⟩ := Option.map_eq_some_iff.1 h
    obtain ⟨ticket, hticket, hfound⟩ := Option.bind_eq_some_iff.1 hu
    cases h
    exact ⟨(Users.byEmail_eq_some_iff.1 hfound).1, hx, .inr ⟨k, ticket, hc, hticket, hfound⟩⟩
  · cases h

/-! ## The handlers -/

/-- The request has one of the effects of `c` on the site `s`. -/
def Effected (pk : Packages) (s : Site) (c : Call) (F : Final Site Exchange Failure Unit) : Prop :=
  Effect pk s c F.shared F.loc.sent F.loc.wrote

variable {pk : Packages} {s : Site} {x : Exchange} {c : Call}

/-- A handler's last answer goes out or throws; the effect does not depend on it. -/
theorem wp_send_effected {s' : Site} {a : Answer} (h : ∀ sent, Effect pk s c s' sent x.wrote) :
    (send a).Wp sem (Effected pk s c) s' x := by
  rw [← Prog.bind_done (send a)]
  by_cases hs : x.sent = []
  · exact wp_send hs (h _)
  · exact wp_send_again hs (h _)

/-- The site is as it was, but for the counter of ids. -/
theorem effect_unchanged {n : ObjectId} {sent : List Answer} (hn : s.nextId ≤ n)
    (hw : x.wrote = []) : Effect pk s c { s with nextId := n } sent x.wrote := by
  rw [hw]
  exact .unchanged rfl rfl rfl hn

/-- The end of a `try` block whose catch block answers. -/
def Caught (pk : Packages) (s : Site) (c : Call) (r : Failure → Answer)
    (F : Final Site Exchange Failure Unit) : Prop :=
  F.elim (fun u s' x' => Effected pk s c ⟨s', x', .ok u⟩)
    (fun e s' x' => (send (r e)).Wp sem (Effected pk s c) s' x')

variable {r : Failure → Answer}

theorem wp_tryCatch {body : Web Unit} (h : body.Wp sem (Caught pk s c r) s x) :
    (body.tryCatch fun e => send (r e)).Wp sem (Effected pk s c) s x := Prog.Wp.tryCatch h

/-- The last answer of a `try` block. If it cannot go out, neither can that of the catch block. -/
theorem wp_send_caught {s' : Site} {a : Answer} (h : ∀ sent, Effect pk s c s' sent x.wrote) :
    (send a).Wp sem (Caught pk s c r) s' x := by
  rw [← Prog.bind_done (send a)]
  by_cases hs : x.sent = []
  · exact wp_send hs (h _)
  · exact wp_send_again hs (wp_send_effected h)

theorem wp_fail_caught {s' : Site} {e : Failure} (h : ∀ sent, Effect pk s c s' sent x.wrote) :
    (Prog.fail e : Web Unit).Wp sem (Caught pk s c r) s' x := wp_send_effected h

/-- The catch block of a sign-up. -/
theorem wp_abort_unchanged {n : ObjectId} {e : Failure} (hn : s.nextId ≤ n) (hw : x.wrote = []) :
    (abortTransaction >>= fun _ => send (.next e)).Wp sem (Effected pk s c)
      { s with nextId := n } x := by
  refine wp_issue ?_
  simp only [sem]
  cases x.session with
  | inProgress user auth => exact wp_send_effected fun _ => effect_unchanged hn hw
  | idle => exact effect_unchanged hn hw
  | committed => exact effect_unchanged hn hw
  | aborted => exact effect_unchanged hn hw

/-- The part the two sign-ups share. -/
theorem wp_register {body : RegisterBody} {data : RegisterData}
    (hx : x.env = c.env) (hsent : x.sent = []) (hwrote : x.wrote = [])
    (signsUp : SignsUp s c.env.now body data c.request)
    (valid : registerValidation pk.isEmail body = .ok data) :
    (register pk data).Wp sem (fun F => F.elim
      (fun a s' x' => Effected pk s c ⟨s', x', .ok a⟩)
      (fun e s' x' => (abortTransaction >>= fun _ => send (.next e)).Wp sem
        (Effected pk s c) s' x')) s x := by
  unfold register
  refine wp_findUser ?_
  change Prog.Wp sem _ (if (s.users.byEmailOrTelephone data.email data.telephone).isSome = true
    then _ else _) s x
  by_cases hexists : (s.users.byEmailOrTelephone data.email data.telephone).isSome = true
  · rw [if_pos hexists]
    exact wp_abort_unchanged le_rfl hwrote
  rw [if_neg hexists]
  have hfree : s.users.byEmailOrTelephone data.email data.telephone = none := by
    simpa using hexists
  refine wp_newId (wp_issue ?_)
  simp only [sem]
  by_cases hvalid : (data.toAccount s.nextId).valid = true
  · rw [if_pos hvalid]
    cases hcreate : s.users.create (data.toAccount s.nextId) with
    | error e => exact wp_abort_unchanged (Nat.le_succ _) hwrote
    | ok users =>
        refine wp_newId (wp_hash (wp_createAuth rfl (wp_issue ?_)))
        simp only [sem, execCommit, hx]
        cases hcommit : c.env.commitFails with
        | true => exact wp_abort_unchanged (Nat.le_add_right _ 2) hwrote
        | false =>
            simp only [Bool.false_eq_true, if_false, hcreate]
            refine wp_send_last hsent ?_
            show Effect pk s c _ _ _
            rw [hwrote]
            exact .registered body data s.nextId signsUp valid hfree hcommit hvalid
              ⟨le_rfl, Nat.lt_succ_self _⟩ hcreate rfl rfl
  · rw [if_neg hvalid]
    exact wp_abort_unchanged (Nat.le_succ _) hwrote

theorem wp_withTransaction {body : Web Unit}
    (h : body.Wp sem (fun F => F.elim (fun a s' x' => Effected pk s c ⟨s', x', .ok a⟩)
      (fun e s' x' => (abortTransaction >>= fun _ => send (.next e)).Wp sem
        (Effected pk s c) s' x')) s { x with session := .inProgress none none }) :
    (withTransaction body).Wp sem (Effected pk s c) s x := Prog.Wp.tryCatch h

theorem signUpEmailPassword_effected {body : RegisterBody}
    (hc : c.request = .signUpEmailPassword body) :
    (signUpEmailPassword pk body).Wp sem (Effected pk s c) s (.init c.env) := by
  refine wp_withTransaction ?_
  cases hdata : registerValidation pk.isEmail body with
  | error message => exact wp_abort_unchanged le_rfl rfl
  | ok data => exact wp_register rfl rfl rfl (hc ▸ .direct) hdata

theorem completeSignup_effected {token : Option String} {body : RegisterBody}
    (hc : c.request = .completeSignup token body) :
    (completeSignup pk token body).Wp sem (Effected pk s c) s (.init c.env) := by
  refine wp_withTransaction ?_
  cases hdata : registerValidation pk.isEmail body with
  | error message => exact wp_abort_unchanged le_rfl rfl
  | ok data =>
      cases token with
      | none => exact effect_unchanged (x := .init c.env) le_rfl rfl
      | some token =>
          refine wp_getCache ?_
          split
          · exact wp_abort_unchanged le_rfl rfl
          · rename_i hemail
            obtain ⟨ticket, hfound, hticket⟩ := Option.bind_eq_some_iff.1 (not_not.1 hemail)
            exact wp_register rfl rfl rfl (hc ▸ .completed token ticket hfound hticket) hdata

/-- The part `signUpMagicLink` and `forgotPassWord` share: a record is stored, and the mail may
fail. -/
theorem wp_link {email : Option String} {a : Answer} (hx : x.env = c.env) (hwrote : x.wrote = [])
    (asks : AsksForLink pk s email c.request) :
    (generateString >>= fun token => setCache token email >>= fun _ => postMail >>= fun _ =>
      send a).Wp sem (Caught pk s c r) s x := by
  have heffect sent : Effect pk s c
      { s with cache := ⟨x.env.generated, email, x.env.now + ticketTtl⟩ :: s.cache } sent
      (x.wrote ++ [.cached x.env.generated]) := by
    rw [hwrote, hx]
    exact .cached email asks
  refine wp_setCache (wp_postMail (fun _ => ?_) fun _ => ?_)
  · exact wp_send_caught heffect
  · exact wp_fail_caught heffect

theorem signUpMagicLink_effected {email : Option String}
    (hc : c.request = .signUpMagicLink email) :
    (signUpMagicLink pk email).Wp sem (Effected pk s c) s (.init c.env) := by
  refine wp_tryCatch ?_
  cases hvalid : EmailValidation pk.isEmail email with
  | error message => exact wp_fail_caught fun _ => effect_unchanged le_rfl rfl
  | ok e =>
      refine wp_findUser ?_
      split
      · exact wp_fail_caught fun _ => effect_unchanged le_rfl rfl
      · rename_i huser
        refine wp_link rfl rfl ?_
        cases hfound : s.users.byEmail (some e) with
        | none => simp [UserQuery.eval, hfound] at huser
        | some user =>
            rw [hc]
            simp only [UserQuery.eval, hfound, Option.elim_some, decide_eq_true_eq] at huser
            exact .verification email e user rfl hvalid hfound huser

theorem verifySignUpEmail_effected {token : String}
    (hc : c.request = .verifySignUpEmail token) :
    (verifySignUpEmail token).Wp sem (Effected pk s c) s (.init c.env) := by
  refine wp_tryCatch (wp_getCache ?_)
  split
  · exact wp_send_caught fun _ => effect_unchanged le_rfl rfl
  · rename_i ticket hfound
    refine wp_findUser ?_
    split
    · exact wp_send_caught fun _ => effect_unchanged le_rfl rfl
    · rename_i user huser
      refine wp_verifyUserByEmail huser (wp_send_caught ?_)
      exact fun _ => .verified token ticket user hc hfound huser

theorem Login_effected {body : LoginBody} :
    (Login pk body).Wp sem (Effected pk s c) s (.init c.env) := by
  have hunchanged sent : Effect pk s c s sent (Exchange.init c.env).wrote :=
    effect_unchanged le_rfl rfl
  refine wp_tryCatch ?_
  cases LoginValidation pk.isEmail body with
  | error message => exact wp_send_caught hunchanged
  | ok data =>
      refine wp_findUser ?_
      split
      · exact wp_fail_caught hunchanged
      · rename_i user _
        refine wp_findAuth ?_
        split
        · exact wp_fail_caught hunchanged
        · rename_i auth _
          change Prog.Wp sem _ (if (!pk.compare data.password auth.secret) = true then _ else _) _ _
          split
          · exact wp_fail_caught hunchanged
          · split
            · exact wp_fail_caught hunchanged
            · exact wp_send_caught hunchanged

theorem userLogOut_effected {cookies : Cookies} {user : Claims} (hx : Entered c.env x) :
    (userLogOut cookies user).Wp sem (Effected pk s c) s x :=
  wp_tryCatch (wp_send_caught fun _ => effect_unchanged le_rfl hx.wrote)

/-- The part `updateUser` and `verifyUser` share. -/
theorem wp_update {id : ObjectId} {data : AccountUpdate} {a : Option Account → Answer}
    (hwrote : x.wrote = []) (updates : Updates c id data) :
    (findByIdAndUpdate id data >>= fun u => send (a u)).Wp sem (Caught pk s c r) s x := by
  have hunchanged sent : Effect pk s c s sent x.wrote := effect_unchanged le_rfl hwrote
  refine wp_findByIdAndUpdate (fun _ => ?_) (fun _ _ _ => ?_) (fun _ _ _ => ?_)
    fun users user hstored _ _ => ?_
  · exact wp_send_caught hunchanged
  · exact wp_send_caught hunchanged
  · exact wp_fail_caught hunchanged
  · refine wp_send_caught ?_
    intro sent
    rw [hwrote]
    exact .updated id data users user updates hstored

theorem updateUser_effected {body : AccountUpdate} {token : Token} (hx : Entered c.env x)
    (hc : c.request = .updateUser body) (ht : c.cookies.admitted c.env.now = some token) :
    (updateUser body token.claims).Wp sem (Effected pk s c) s x := by
  obtain ⟨henv, hsent, hwrote⟩ := hx
  refine wp_tryCatch (wp_findUser ?_)
  split
  · exact wp_fail_caught fun _ => effect_unchanged le_rfl hwrote
  · rename_i user huser
    refine wp_update hwrote (.profile token hc ht ?_)
    rw [henv] at huser
    cases hid : token.claims._id with
    | some id =>
        rw [hid] at huser
        exact congrArg some (Collection.get?_eq_some_iff.1 huser).2.symm
    | none =>
        rw [hid] at huser
        obtain ⟨id, hundefined, hget⟩ := Option.bind_eq_some_iff.1 huser
        exact hundefined.trans (congrArg some (Collection.get?_eq_some_iff.1 hget).2.symm)

theorem deleteUser_effected {id : ObjectId} (hx : Entered c.env x)
    (hc : c.request = .deleteUser id) :
    (deleteUser id).Wp sem (Effected pk s c) s x := by
  refine wp_tryCatch (wp_send_caught ?_)
  intro sent
  show Effect pk s c _ sent (x.wrote ++ _)
  rw [hx.wrote]
  exact .deleted id hc

theorem verifyUser_effected {id : ObjectId} {data : AccountUpdate} {token : Token}
    (hx : Entered c.env x) (hc : c.request = .verifyUser id data)
    (ht : c.cookies.admitted c.env.now = some token) :
    (verifyUser id data).Wp sem (Effected pk s c) s x := by
  have hupdates : Updates c id data := .admin token hc ht
  refine wp_tryCatch (wp_findUser ?_)
  split
  · exact wp_send hx.sent (wp_update hx.wrote hupdates)
  · exact wp_update hx.wrote hupdates

/-- The part `changePassWord` and `verifyPassWordResetMail` share. The password is stored before the
account is saved. -/
theorem wp_storePassword {user : Account} {auth : Auth} {new : Option String} {message : String}
    (hr : ∀ e, (r e).ok = false) (hx : Entered c.env x)
    (found : s.authOf user._id = some auth)
    (target : ∀ w, new = some w → passwordTarget pk s c = some (user, auth, w)) :
    (storePassword pk user auth new message).Wp sem (Caught pk s c r) s x := by
  obtain ⟨henv, hsent, hwrote⟩ := hx
  cases new with
  | none => exact wp_fail_caught fun _ => effect_unchanged le_rfl hwrote
  | some w =>
      have heffect a (ha : a.ok = user.valid) : Effect pk s c
          { s with auths := s.auths.modify auth._id (setSecret (pk.hash x.env.salt w)) } [a]
          (x.wrote ++ [.secret auth.user]) := by
        rw [hwrote, henv, authOf_user found]
        exact .password user auth w (target w rfl) ⟨a, rfl, ha⟩
      refine wp_hash (wp_updateSecret (wp_saveUser (fun hvalid => ?_) fun hvalid => ?_))
      · exact wp_send_last hsent (heffect _ hvalid.symm)
      · show (send (r _)).Wp sem (Effected pk s c) _ _
        exact wp_send_last hsent (heffect _ ((hr _).trans hvalid.symm))

theorem changePassWord_effected {old new : Option String} {token : Token}
    (hx : Entered c.env x) (hc : c.request = .changePassWord old new)
    (ht : c.cookies.admitted c.env.now = some token) :
    (changePassWord pk old new token.claims).Wp sem (Effected pk s c) s x := by
  have hunchanged sent : Effect pk s c s sent x.wrote := effect_unchanged le_rfl hx.wrote
  refine wp_tryCatch (wp_findUser ?_)
  split
  · exact wp_send_caught hunchanged
  · rename_i user huser
    obtain ⟨id, hid, hget⟩ := Option.bind_eq_some_iff.1 huser
    obtain rfl : user._id = id := (Collection.get?_eq_some_iff.1 hget).2
    refine wp_findAuth ?_
    split
    · exact wp_send_caught hunchanged
    · rename_i auth hauth
      cases old with
      | none => exact wp_fail_caught hunchanged
      | some old =>
          change Prog.Wp sem _ (if (!pk.compare old auth.secret) = true then _ else _) _ _
          split
          · exact wp_send_caught hunchanged
          · rename_i hcorrect
            refine wp_storePassword (fun _ => rfl) hx hauth ?_
            rintro w rfl
            have hcompare : pk.compare old auth.secret = true := by simpa using hcorrect
            simp [passwordTarget, hc, ht, hid, hget, hauth, hcompare]

theorem forgotPassWord_effected {email : Option String}
    (hc : c.request = .forgotPassWord email) :
    (forgotPassWord email).Wp sem (Effected pk s c) s (.init c.env) := by
  have hasks : AsksForLink pk s email c.request := hc ▸ .reset
  refine wp_tryCatch (wp_findUser ?_)
  split
  -- the answer does not end the handler
  · exact wp_send rfl (wp_link rfl rfl hasks)
  · exact wp_link rfl rfl hasks

theorem verifyPassWordResetMail_effected {token : String} {new : Option String}
    (hc : c.request = .verifyPassWordResetMail token new) :
    (verifyPassWordResetMail pk token new).Wp sem (Effected pk s c) s (.init c.env) := by
  refine wp_tryCatch (wp_getCache ?_)
  cases hfound : s.getCache token (Exchange.init c.env).env.now with
  | none =>
      -- the answer does not end the handler, but the next statement throws
      refine wp_send rfl ?_
      exact wp_fail_caught fun _ => effect_unchanged le_rfl rfl
  | some ticket =>
      refine wp_findUser ?_
      split
      · exact wp_send_caught fun _ => effect_unchanged le_rfl rfl
      · rename_i user huser
        refine wp_findAuth ?_
        split
        · exact wp_send_caught fun _ => effect_unchanged le_rfl rfl
        · rename_i auth hauth
          refine wp_storePassword (fun _ => rfl) (entered_init c.env) hauth ?_
          rintro w rfl
          have hfound : s.getCache token c.env.now = some ticket := hfound
          have huser : s.users.byEmail ticket.email = some user := huser
          simp [passwordTarget, hc, hfound, huser, hauth]

/-- The site after a request has one of the effects. -/
theorem serve_effect (pk : Packages) (c : Call) (s : Site) :
    Effect pk s c (serveStep pk c s) (serve pk c s).loc.sent (serve pk c s).loc.wrote := by
  have hserved : (handler pk c.request c.cookies).Wp sem (Effected pk s c) s (.init c.env) := by
    have hguard (next : Claims → Web Unit) (h : ∀ token x',
        c.cookies.admitted c.env.now = some token → Entered c.env x' →
        (next token.claims).Wp sem (Effected pk s c) s x') :
        (guard c.cookies next).Wp sem (Effected pk s c) s (.init c.env) :=
      wp_guard (entered_init c.env) (fun x' hw => effect_unchanged le_rfl hw) h
    cases hc : c.request with
    | signUpEmailPassword body => exact signUpEmailPassword_effected hc
    | completeSignup token body => exact completeSignup_effected hc
    | signUpMagicLink email => exact signUpMagicLink_effected hc
    | Login body => exact Login_effected
    | verifySignUpEmail token => exact verifySignUpEmail_effected hc
    | forgotPassWord email => exact forgotPassWord_effected hc
    | verifyPassWordResetMail token new => exact verifyPassWordResetMail_effected hc
    | userLogOut => exact hguard _ fun _ _ _ hx => userLogOut_effected hx
    | updateUser body => exact hguard _ fun _ _ ht hx => updateUser_effected hx hc ht
    | changePassWord old new => exact hguard _ fun _ _ ht hx => changePassWord_effected hx hc ht
    | deleteUser id =>
        exact hguard (fun _ => deleteUser id) fun _ _ _ hx => deleteUser_effected hx hc
    | verifyUser id data =>
        exact hguard (fun _ => verifyUser id data) fun _ _ ht hx => verifyUser_effected hx hc ht
    | other guarded =>
        cases guarded with
        | true => exact hguard (fun _ => pure ()) fun _ _ _ hx => effect_unchanged le_rfl hx.wrote
        | false => exact effect_unchanged (x := .init c.env) le_rfl rfl
  exact hserved

end InventoryHero.Accounts
