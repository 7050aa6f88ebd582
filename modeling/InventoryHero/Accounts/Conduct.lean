import InventoryHero.Accounts.Controller
import InventoryHero.Interaction.Ghost

/-!
# What an account handler may do among others

A sign-up looks for an account with the same email or telephone number, and only then opens the
writes of its transaction; another sign-up can come in between. `May` says which writes each handler
issues with which data, whatever the others do, and what it has to have done before it answers that
the account is registered (`handler_behaves`).

In MongoDB a transaction that inserts a key which another open transaction has inserted is refused
at that write. Here it is refused at its commit, and the sign-up that commits first is the one that
succeeds.
-/

set_option autoImplicit false

namespace InventoryHero.Accounts

open Interaction Storage
open Model (ObjectId)

/-! ## Notes -/

/-- The ids that a request has drawn, and the account it has created in its transaction. -/
structure Notes where
  drawn : List ObjectId
  account : Option Account

/-- A request that has just arrived. -/
def Notes.init : Notes := ⟨[], none⟩

def Notes.log (notes : Notes) : (o : Op) → o.Reply → Notes
  | .newId, n => { notes with drawn := n :: notes.drawn }
  | .createUser account, _ => { notes with account := some account }
  | _, _ => notes

/-- The operations, with notes. -/
def notedSem : Sem web Site (Exchange × Notes) := Sem.ghost sem Notes.log

/-! ## Conduct -/

/-- The secret comes from bcrypt. -/
def Hashed (pk : Packages) (secret : String) : Prop := ∃ salt w, secret = pk.hash salt w

/-- The answer to a sign-up that succeeded. -/
def registered (account : Account) : Answer := Msg (.user account) "registered" 201

/-- The request changes accounts in other ways than a verification link. -/
def Request.edits : Request → Bool
  | .updateUser _ => true
  | .deleteUser _ => true
  | .verifyUser _ _ => true
  | _ => false

/-- The request reads or replaces the password of an account that is there. -/
def Request.onPassword : Request → Bool
  | .Login _ => true
  | .changePassWord _ _ => true
  | .verifyPassWordResetMail _ _ => true
  | _ => false

/-- The request creates an account. -/
def Request.signsUp : Request → Bool
  | .signUpEmailPassword _ => true
  | .completeSignup _ _ => true
  | _ => false

/-- The handler itself sets cookies. -/
def Request.setsCookies : Request → Bool
  | .Login _ => true
  | .userLogOut => true
  | _ => false

/-- What the handler of a request may do with the local state `x`. -/
def May (pk : Packages) (request : Request) : Op → Exchange × Notes → Prop
  | .startTransaction, x => x.1.session = .idle
  | .createUser account, x => x.1.session = .inProgress none none ∧ account._id ∈ x.2.drawn
  | .createAuth auth, x => ∃ account, x.1.session = .inProgress (some account) none ∧
      auth.user = account._id ∧ auth._id ∈ x.2.drawn ∧ Hashed pk auth.secret
  | .setSecret _ secret, _ => Hashed pk secret
  | .updateUser _ _, _ => request.edits = true
  | .deleteUser _, _ => request.edits = true
  | .cookie _, _ => request.signsUp = false
  | .send a, x => ∀ account, a = registered account →
      x.1.session = .committed ∧ x.2.account = some account
  | _, _ => True

/-- The handler keeps to `May` and ends with `Q`, whatever the other requests do. -/
abbrev Behaves {α : Type} (pk : Packages) (request : Request)
    (Q : Except Failure α → Exchange × Notes → Prop) (prog : Web α) (x : Exchange × Notes) : Prop :=
  prog.Ensures notedSem (fun o _ x _ _ => May pk request o x) Q x

/-- The operations of a handler without a transaction. -/
def Quiet (pk : Packages) (request : Request) : Op → Prop
  | .startTransaction => False
  | .createUser _ => False
  | .createAuth _ => False
  | .findAuth _ => request.onPassword = true
  | .setSecret _ secret => request.onPassword = true ∧ Hashed pk secret
  | .updateUser _ _ => request.edits = true
  | .deleteUser _ => request.edits = true
  | .cookie _ => request.setsCookies = true
  | .send a => ∀ account, a ≠ registered account
  | _ => True

/-- The operations of `isLoggedIn`. -/
def Passing : Op → Prop
  | .now => True
  | .cookie _ => True
  | .send a => ∀ account, a ≠ registered account
  | _ => False

section Handlers

variable {pk : Packages} {request : Request} {x : Exchange × Notes}

theorem Quiet.may {o : Op} (h : Quiet pk request o) (hrequest : request.signsUp = false)
    (x : Exchange × Notes) : May pk request o x := by
  cases o with
  | startTransaction => cases h
  | createUser account => cases h
  | createAuth auth => cases h
  | cookie k => exact hrequest
  | send a => exact fun account ha => absurd ha (h account)
  | setSecret auth secret => exact h.2
  | updateUser id data => exact h
  | deleteUser id => exact h
  | _ => trivial

theorem Passing.may {o : Op} (h : Passing o) (hrequest : request.signsUp = false)
    (x : Exchange × Notes) : May pk request o x := by
  cases o with
  | now => trivial
  | cookie k => exact hrequest
  | send a => exact fun account ha => absurd ha (h account)
  | _ => cases h

/-! ## Handlers without a transaction -/

theorem only_orThrow {ε α : Type} {wrap : ε → Failure} {r : Except ε α} {P : Op → Prop} :
    (orThrow wrap r).Only P := by
  cases r with
  | ok a => trivial
  | error e => trivial

theorem only_issue {ε α : Type} {wrap : ε → Failure} {o : Op} {f : o.Reply → Except ε α}
    {P : Op → Prop} (h : P o) :
    ((.op (S := web) o : Web o.Reply) >>= fun r => orThrow wrap (f r)).Only P :=
  .bind (.op h) fun _ => only_orThrow

theorem quiet_send {a : Answer} (h : ∀ account, a ≠ registered account) :
    (send a).Only (Quiet pk request) := only_issue h

/-- An answer that is no envelope. -/
theorem quiet_sendContent {status : Nat} {content : Content}
    (h : ∀ data message, content ≠ .envelope data message) :
    (send ⟨status, content⟩).Only (Quiet pk request) :=
  quiet_send fun _ ha => h _ _ (congrArg Answer.content ha)

theorem quiet_next (e : Failure) : (send (.next e)).Only (Quiet pk request) :=
  quiet_sendContent (by simp)

/-- An envelope with something else than an account, or with another message. -/
theorem quiet_field {name text message : String} {status : Nat} :
    (send (Msg (.field name text) message status)).Only (Quiet pk request) :=
  quiet_send (by simp [registered, Msg])

theorem quiet_link {email : Option String} {name text message : String} {status : Nat} :
    (generateString >>= fun token => setCache token email >>= fun _ => postMail >>= fun _ =>
      send (Msg (.field name text) message status)).Only (Quiet pk request) :=
  .bind (.op trivial) fun _ => .bind (.op trivial) fun _ =>
    .bind (only_issue trivial) fun _ => quiet_field

theorem signUpMagicLink_quiet (email : Option String) :
    (signUpMagicLink pk email).Only (Quiet pk request) := by
  refine .tryCatch (.bind only_orThrow fun _ => .bind (.op trivial) fun user => ?_) quiet_next
  split
  · trivial
  · exact quiet_link

theorem verifySignUpEmail_quiet (token : String) :
    (verifySignUpEmail token).Only (Quiet pk request) := by
  refine .tryCatch (.bind (.op trivial) fun extractedToken => ?_)
    fun _ => quiet_sendContent (by simp)
  cases extractedToken with
  | none => exact quiet_sendContent (by simp)
  | some extractedToken =>
      refine .bind (.op trivial) fun user => ?_
      cases user with
      | none => exact quiet_sendContent (by simp)
      | some user => exact .bind (.op trivial) fun _ => quiet_sendContent (by simp)

theorem Login_quiet (body : LoginBody) (h : request.onPassword = true)
    (hcookies : request.setsCookies = true) : (Login pk body).Only (Quiet pk request) := by
  refine .tryCatch ?_ quiet_next
  split
  · exact quiet_sendContent (by simp)
  · rename_i data _
    refine .bind (.op trivial) fun user => ?_
    cases user with
    | none => trivial
    | some user =>
        refine .bind (.op h) fun auth => ?_
        cases auth with
        | none => trivial
        | some auth =>
            refine .bind ?_ fun valid => ?_
            · unfold compare
              split <;> trivial
            · repeat' split
              · trivial
              · trivial
              · exact .bind (.op trivial) fun _ => .bind (.op hcookies) fun _ =>
                  .bind (.op hcookies) fun _ => .bind (.op hcookies) fun _ =>
                    quiet_send (by simp [registered, Msg])

theorem userLogOut_quiet (cookies : Cookies) (user : Claims) (h : request.setsCookies = true) :
    (userLogOut cookies user).Only (Quiet pk request) :=
  .tryCatch (.bind (.op h) fun _ => .bind (.op h) fun _ => .bind (.op h) fun _ =>
    quiet_sendContent (by simp)) fun _ => quiet_sendContent (by simp)

theorem isLoggedIn_passing (cookies : Cookies) : (isLoggedIn cookies).Only Passing := by
  have hrefused (a : Answer) (ha : ∀ account, a ≠ registered account) :
      (send a >>= fun _ => (pure none : Web (Option Token))).Only Passing :=
    .bind (only_issue ha) fun _ => trivial
  unfold isLoggedIn
  split
  · refine .bind (.op trivial) fun today => ?_
    split
    · exact hrefused _ (by simp [registered, Msg])
    · trivial
  · split
    · refine .bind (.op trivial) fun today => ?_
      split
      · exact hrefused _ (by simp [registered, Msg])
      · exact .bind (.op trivial) fun _ => .bind (.op trivial) fun _ => .bind (.op trivial) fun _ =>
          trivial
    · exact hrefused _ (by simp [registered, Msg])

/-- A handler behind `isLoggedIn` adds its own operations. -/
theorem guard_quiet {cookies : Cookies} {next : Claims → Web Unit}
    (h : ∀ claims, (next claims).Only (Quiet pk request)) :
    (guard cookies next).Only fun o => Quiet pk request o ∨ Passing o := by
  refine .bind ((isLoggedIn_passing cookies).mono fun _ => .inr) fun passed => ?_
  cases passed with
  | none => trivial
  | some token => exact (h token.claims).mono fun _ => .inl

theorem updateUser_quiet (body : AccountUpdate) (caller : Claims) (h : request.edits = true) :
    (updateUser body caller).Only (Quiet pk request) := by
  refine .tryCatch (.bind (.op trivial) fun user => ?_) quiet_next
  cases user with
  | none => trivial
  | some user => exact .bind (only_issue h) fun _ => quiet_send (by simp [registered, Msg])

theorem deleteUser_quiet (id : ObjectId) (h : request.edits = true) :
    (deleteUser id).Only (Quiet pk request) :=
  .tryCatch (.bind (.op h) fun _ => quiet_field) fun _ => quiet_sendContent (by simp)

theorem verifyUser_quiet (id : ObjectId) (data : AccountUpdate) (h : request.edits = true) :
    (verifyUser id data).Only (Quiet pk request) := by
  have hupdate : (findByIdAndUpdate id data >>= fun _ =>
      send ⟨200, .text "user has been updated"⟩).Only (Quiet pk request) :=
    .bind (only_issue h) fun _ => quiet_sendContent (by simp)
  refine .tryCatch (.bind (.op trivial) fun user => ?_) fun _ => quiet_sendContent (by simp)
  cases user with
  | none => exact .bind (quiet_sendContent (by simp)) fun _ => hupdate
  | some user => exact hupdate

theorem storePassword_quiet (user : Account) (auth : Auth) (new : Option String)
    (message : String) (h : request.onPassword = true) :
    (storePassword pk user auth new message).Only (Quiet pk request) := by
  cases new with
  | none => trivial
  | some w =>
      refine ⟨trivial, fun salt => ?_⟩
      change (updateSecret auth (pk.hash salt w) >>= fun _ => saveUser user >>= fun _ =>
        send ⟨200, .outcome true message⟩).Only _
      exact .bind (.op ⟨h, salt, w, rfl⟩) fun _ => .bind (only_issue trivial) fun _ =>
        quiet_sendContent (by simp)

theorem changePassWord_quiet (old new : Option String) (caller : Claims)
    (h : request.onPassword = true) :
    (changePassWord pk old new caller).Only (Quiet pk request) := by
  refine .tryCatch (.bind (.op trivial) fun user => ?_) fun _ => quiet_sendContent (by simp)
  cases user with
  | none => exact quiet_sendContent (by simp)
  | some user =>
      refine .bind (.op h) fun auth => ?_
      cases auth with
      | none => exact quiet_sendContent (by simp)
      | some auth =>
          refine .bind ?_ fun correct => ?_
          · unfold compare
            split <;> trivial
          · split
            · exact quiet_sendContent (by simp)
            · exact storePassword_quiet user auth new _ h

theorem forgotPassWord_quiet (email : Option String) :
    (forgotPassWord email).Only (Quiet pk request) := by
  refine .tryCatch (.bind (.op trivial) fun EmailExist => ?_) fun _ => quiet_sendContent (by simp)
  cases EmailExist with
  | none => exact .bind (quiet_sendContent (by simp)) fun _ => quiet_link
  | some user => exact quiet_link

theorem verifyPassWordResetMail_quiet (token : String) (new : Option String)
    (h : request.onPassword = true) :
    (verifyPassWordResetMail pk token new).Only (Quiet pk request) := by
  refine .tryCatch (.bind (.op trivial) fun extractedToken => ?_)
    fun _ => quiet_sendContent (by simp)
  cases extractedToken with
  | none => exact .bind (quiet_sendContent (by simp)) fun _ => trivial
  | some extractedToken =>
      refine .bind trivial fun ticket => .bind (.op trivial) fun user => ?_
      cases user with
      | none => exact quiet_sendContent (by simp)
      | some user =>
          refine .bind (.op h) fun auth => ?_
          cases auth with
          | none => exact quiet_sendContent (by simp)
          | some auth => exact storePassword_quiet user auth new _ h

/-- Every handler but those of the sign-ups. -/
theorem handler_quiet (hrequest : request.signsUp = false) (cookies : Cookies) :
    (handler pk request cookies).Only fun o => Quiet pk request o ∨ Passing o := by
  cases request with
  | signUpEmailPassword body => cases hrequest
  | completeSignup token body => cases hrequest
  | signUpMagicLink email => exact (signUpMagicLink_quiet email).mono fun _ => .inl
  | Login body => exact (Login_quiet body rfl rfl).mono fun _ => .inl
  | verifySignUpEmail token => exact (verifySignUpEmail_quiet token).mono fun _ => .inl
  | forgotPassWord email => exact (forgotPassWord_quiet email).mono fun _ => .inl
  | verifyPassWordResetMail token new =>
      exact (verifyPassWordResetMail_quiet token new rfl).mono fun _ => .inl
  | userLogOut => exact guard_quiet fun claims => userLogOut_quiet cookies claims rfl
  | updateUser body => exact guard_quiet fun claims => updateUser_quiet body claims rfl
  | changePassWord old new =>
      exact guard_quiet fun claims => changePassWord_quiet old new claims rfl
  | deleteUser id => exact guard_quiet fun _ => deleteUser_quiet id rfl
  | verifyUser id data => exact guard_quiet fun _ => verifyUser_quiet id data rfl
  | other guarded =>
      cases guarded with
      | false => trivial
      | true =>
          have hdone : (pure () : Web Unit).Only (Quiet pk (.other true)) := trivial
          exact guard_quiet fun _ => hdone

theorem handler_behaves_quiet (hrequest : request.signsUp = false) (cookies : Cookies)
    (x : Exchange × Notes) :
    Behaves pk request (fun _ _ => True) (handler pk request cookies) x :=
  (handler_quiet hrequest cookies).ensures
    (fun _ _ x ho => ho.elim (·.may hrequest x) (·.may hrequest x)) x

/-! ## Sign-ups -/

theorem behaves_op {α : Type} {Q : Except Failure α → Exchange × Notes → Prop} {o : Op}
    {f : o.Reply → Web α} (hmay : May pk request o x)
    (k : ∀ s, Behaves pk request Q (f (sem o s x.1).2.2)
      ((sem o s x.1).2.1, x.2.log o (sem o s x.1).2.2)) :
    Behaves pk request Q (.op (S := web) o >>= f) x :=
  fun s => ⟨hmay, k s⟩

theorem behaves_createUser {account : Account} {f : Unit → Web Unit}
    (hx : x.1.session = .inProgress none none) (hdrawn : account._id ∈ x.2.drawn)
    (k : ∀ x', x'.1.session = .inProgress (some account) none → x'.2.account = some account →
      Behaves pk request (fun _ _ => True) (f ()) x') :
    Behaves pk request (fun _ _ => True) (createUser account >>= f) x := by
  intro s
  refine ⟨⟨hx, hdrawn⟩, ?_⟩
  simp only [notedSem, Sem.ghost, sem]
  by_cases hvalid : account.valid = true
  · simp only [hvalid, if_true]
    cases s.users.create account with
    | error e => trivial
    | ok users => exact k _ rfl rfl
  · simp only [hvalid]
    trivial

theorem behaves_commit {account : Account} {auth : Auth} {f : Unit → Web Unit}
    (hx : x.1.session = .inProgress (some account) (some auth))
    (k : ∀ x', x'.1.session = .committed → x'.2 = x.2 →
      Behaves pk request (fun _ _ => True) (f ()) x') :
    Behaves pk request (fun _ _ => True) (commitTransaction >>= f) x := by
  intro s
  refine ⟨trivial, ?_⟩
  simp only [notedSem, Sem.ghost, sem, execCommit, hx]
  cases x.1.env.commitFails with
  | true => trivial
  | false =>
      cases s.users.create account with
      | error e => trivial
      | ok users => exact k _ rfl rfl

/-- The answer to a sign-up that has committed. -/
theorem behaves_registered {account : Account} (hx : x.1.session = .committed)
    (hnotes : x.2.account = some account) :
    Behaves pk request (fun _ _ => True) (send (registered account)) x := by
  rw [← Prog.bind_done (send _)]
  intro s
  refine ⟨fun account' ha => ?_, ?_⟩
  · have haccount : account = account' := by simpa [registered, Msg] using ha
    exact ⟨hx, haccount ▸ hnotes⟩
  · simp only [notedSem, Sem.ghost, sem]
    split <;> trivial

/-- The account and its password, once the transaction is open. -/
theorem register_behaves (data : RegisterData) (hx : x.1.session = .inProgress none none) :
    Behaves pk request (fun _ _ => True) (register pk data) x := by
  refine behaves_op trivial fun s => ?_
  split
  · trivial
  · refine behaves_op trivial fun s => ?_
    refine behaves_createUser hx List.mem_cons_self fun x' hx' haccount => ?_
    refine behaves_op trivial fun s => ?_
    refine behaves_op trivial fun s => ?_
    refine behaves_op ⟨_, hx', rfl, List.mem_cons_self, _, _, rfl⟩ fun s => ?_
    refine behaves_commit (by simp only [sem, hx']; rfl) fun x'' hx'' hnotes => ?_
    exact behaves_registered hx'' (hnotes ▸ haccount)

theorem withTransaction_behaves {body : Web Unit} (hx : x.1.session = .idle)
    (hbody : ∀ x', x'.1.session = .inProgress none none →
      Behaves pk request (fun _ _ => True) body x') :
    Behaves pk request (fun _ _ => True) (withTransaction body) x := by
  refine Prog.Ensures.tryCatch (Q := fun _ _ => True) ?_ (fun _ _ _ => trivial) fun e x' _ => ?_
  · exact behaves_op hx fun s => hbody _ rfl
  · have habort : (abortTransaction >>= fun _ => send (.next e)).Only
        fun o => ∀ x, May pk request o x :=
      .bind (only_issue fun _ => trivial) fun _ =>
        only_issue fun _ _ ha => by simp [Answer.next, registered, Msg] at ha
    exact habort.ensures (fun _ _ x ho => ho x) x'

theorem signUpEmailPassword_behaves (body : RegisterBody) (hx : x.1.session = .idle) :
    Behaves pk request (fun _ _ => True) (signUpEmailPassword pk body) x := by
  refine withTransaction_behaves hx fun x' hx' => ?_
  cases registerValidation pk.isEmail body with
  | error message => trivial
  | ok data => exact register_behaves data hx'

theorem completeSignup_behaves (token : Option String) (body : RegisterBody)
    (hx : x.1.session = .idle) :
    Behaves pk request (fun _ _ => True) (completeSignup pk token body) x := by
  refine withTransaction_behaves hx fun x' hx' => ?_
  cases registerValidation pk.isEmail body with
  | error message => trivial
  | ok data =>
      cases token with
      | none => trivial
      | some token =>
          refine behaves_op trivial fun s => ?_
          split
          · trivial
          · exact register_behaves data hx'

/-- Every handler keeps to what it may do. -/
theorem handler_behaves (pk : Packages) (c : Call) :
    Behaves pk c.request (fun _ _ => True) (handler pk c.request c.cookies)
      (.init c.env, .init) := by
  cases hc : c.request with
  | signUpEmailPassword body => exact signUpEmailPassword_behaves body rfl
  | completeSignup token body => exact completeSignup_behaves token body rfl
  | _ => exact handler_behaves_quiet rfl c.cookies _

end Handlers

end InventoryHero.Accounts
