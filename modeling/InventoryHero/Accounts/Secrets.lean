import InventoryHero.Accounts.Conduct
import InventoryHero.Interaction.Relational
import InventoryHero.Storage.Related

/-!
# What answers tell of passwords

Handlers use a stored secret in one way: they ask bcrypt whether a password fits it. Two sites whose
password records are opened by the same passwords are therefore the same to every client. A request
is answered alike by both, and leaves two such sites behind (`handler_indifferent`).
-/

set_option autoImplicit false

namespace InventoryHero.Accounts

open Interaction Storage
open Model (ObjectId)

/-- Two password records that the same passwords open. -/
structure SameLock (pk : Packages) (a b : Auth) : Prop where
  _id : a._id = b._id
  user : a.user = b.user
  opens : ∀ w, pk.compare w a.secret = pk.compare w b.secret

theorem SameLock.refl (pk : Packages) (a : Auth) : SameLock pk a a := ⟨rfl, rfl, fun _ => rfl⟩

theorem SameLock.key {pk : Packages} (a b : Auth) (h : SameLock pk a b) :
    Keyed.key a = Keyed.key b := h._id

/-- Two sites that differ in nothing but what such records hold. -/
structure Alike (pk : Packages) (s s' : Site) : Prop where
  users : s.users = s'.users
  auths : s.auths.Related (SameLock pk) s'.auths
  cache : s.cache = s'.cache
  nextId : s.nextId = s'.nextId

variable {pk : Packages} {s s' : Site}

theorem Alike.authOf (h : Alike pk s s') (user : ObjectId) :
    Option.Rel (SameLock pk) (s.authOf user) (s'.authOf user) :=
  h.auths.find? fun _ _ hab => by rw [hab.user]

/-! ## Operations -/

/-- Operations that do not touch the password of an account that is there. -/
def Blind : Op → Prop
  | .findAuth _ => False
  | .setSecret _ _ => False
  | _ => True

theorem Quiet.blind {request : Request} (hrequest : request.onPassword = false) {o : Op}
    (h : Quiet pk request o) : Blind o := by
  cases o with
  | findAuth user => simp [Quiet, hrequest] at h
  | setSecret auth secret => simp [Quiet, hrequest] at h
  | _ => trivial

theorem Passing.blind {o : Op} (h : Passing o) : Blind o := by
  cases o with
  | findAuth user => cases h
  | setSecret auth secret => cases h
  | _ => trivial

theorem Alike.commit (h : Alike pk s s') (x : Exchange) :
    (execCommit s x).2 = (execCommit s' x).2 ∧ Alike pk (execCommit s x).1 (execCommit s' x).1 := by
  unfold execCommit
  rw [← h.users]
  split
  · split
    · exact ⟨rfl, h⟩
    · split
      · exact ⟨rfl, h⟩
      · exact ⟨rfl, rfl, h.auths.insert SameLock.key (.refl pk _), h.cache, h.nextId⟩
  · exact ⟨rfl, h⟩

/-- Such an operation does not tell the two sites apart. -/
theorem Alike.blind (h : Alike pk s s') {o : Op} (ho : Blind o) (x : Exchange) :
    (sem o s x).2 = (sem o s' x).2 ∧ Alike pk (sem o s x).1 (sem o s' x).1 := by
  cases o with
  | findAuth user => cases ho
  | setSecret auth secret => cases ho
  | commitTransaction => exact h.commit x
  | findUser q =>
      refine ⟨congrArg (Prod.mk x) ?_, h⟩
      change q.eval s x.env = q.eval s' x.env
      cases q <;> simp only [UserQuery.eval, h.users]
  | getCache key =>
      refine ⟨congrArg (Prod.mk x) ?_, h⟩
      simp only [Site.getCache, h.cache]
  | setCache key email =>
      exact ⟨rfl, h.users, h.auths, congrArg (List.cons _) h.cache, h.nextId⟩
  | newId =>
      exact ⟨congrArg (Prod.mk x) h.nextId, h.users, h.auths, h.cache,
        congrArg (· + 1) h.nextId⟩
  | createUser account =>
      simp only [sem, ← h.users]
      split
      · split
        · exact ⟨rfl, h⟩
        · exact ⟨rfl, h⟩
      · exact ⟨rfl, h⟩
  | createAuth auth =>
      simp only [sem]
      split
      · exact ⟨rfl, h⟩
      · exact ⟨rfl, h⟩
  | abortTransaction =>
      simp only [sem]
      split
      · exact ⟨rfl, h⟩
      · exact ⟨rfl, h⟩
  | updateUser id data =>
      simp only [sem, ← h.users]
      split
      · exact ⟨rfl, h⟩
      split
      · exact ⟨rfl, h⟩
      · exact ⟨rfl, h⟩
      · exact ⟨rfl, rfl, h.auths, h.cache, h.nextId⟩
  | verifyUserByEmail email =>
      simp only [sem, ← h.users]
      split
      · exact ⟨rfl, h⟩
      · exact ⟨rfl, rfl, h.auths, h.cache, h.nextId⟩
  | deleteUser id => exact ⟨rfl, congrArg (Users.remove · id) h.users, h.auths, h.cache, h.nextId⟩
  | saveUser user =>
      simp only [sem]
      split
      · exact ⟨rfl, h⟩
      · exact ⟨rfl, h⟩
  | send a =>
      simp only [sem]
      split
      · exact ⟨rfl, h⟩
      · exact ⟨rfl, h⟩
  | _ => exact ⟨rfl, h⟩

/-! ## Handlers -/

/-- The handler treats the two sites alike. -/
abbrev Indifferent {α : Type} (pk : Packages) (x y : Web α) : Prop := x.Agrees sem (Alike pk) y

theorem indifferent_of_only {α : Type} {x : Web α} (h : x.Only Blind) : Indifferent pk x x :=
  h.agrees fun _ _ _ t ho hs => hs.blind ho t

theorem indifferent_op {o : Op} (ho : Blind o) :
    Indifferent pk (.op (S := web) o : Web o.Reply) (.op (S := web) o) :=
  indifferent_of_only (.op ho)

theorem indifferent_orThrow {ε α : Type} {wrap : ε → Failure} (r : Except ε α) :
    Indifferent pk (orThrow wrap r) (orThrow wrap r) := by
  cases r with
  | ok a => exact .done a
  | error e => exact .fail (wrap e)

theorem indifferent_issue {ε α : Type} {wrap : ε → Failure} {o : Op} {f : o.Reply → Except ε α}
    (ho : Blind o) :
    Indifferent pk (.op (S := web) o >>= fun r => orThrow wrap (f r))
      (.op (S := web) o >>= fun r => orThrow wrap (f r)) :=
  .bind (indifferent_op ho) fun _ => indifferent_orThrow _

theorem indifferent_send (a : Answer) : Indifferent pk (send a) (send a) :=
  indifferent_issue trivial

theorem indifferent_hash (password : Option String) :
    Indifferent pk (hash pk password) (hash pk password) := by
  cases password with
  | none => exact .fail _
  | some w => exact .bind (indifferent_op trivial) fun _ => .done _

/-- The password record that one program finds corresponds to the one that the other finds. -/
theorem indifferent_findAuth {user : ObjectId} {f : Option Auth → Web Unit}
    (hnone : Indifferent pk (f none) (f none))
    (hsome : ∀ a b, SameLock pk a b → Indifferent pk (f (some a)) (f (some b))) :
    Indifferent pk (findAuth user >>= f) (findAuth user >>= f) := by
  refine .op_bind fun s s' x h => ⟨rfl, h, ?_⟩
  have hfound := h.authOf user
  change Indifferent pk (f (s.authOf user)) (f (s'.authOf user))
  generalize s.authOf user = found, s'.authOf user = found' at hfound ⊢
  cases hfound with
  | none => exact hnone
  | some hab => exact hsome _ _ hab

theorem indifferent_compare {a b : Auth} (h : SameLock pk a b) (password : Option String) :
    Indifferent pk (compare pk password a.secret) (compare pk password b.secret) := by
  cases password with
  | none => exact .fail _
  | some w =>
      simp only [compare, h.opens w]
      exact .done _

/-- The new secret takes the place of both. -/
theorem indifferent_storePassword {a b : Auth} (h : SameLock pk a b) (user : Account)
    (new : Option String) (message : String) :
    Indifferent pk (storePassword pk user a new message) (storePassword pk user b new message) := by
  refine .bind (indifferent_hash new) fun secret => .op_bind fun s s' x hs => ?_
  have hauths : (s.auths.modify a._id (setSecret secret)).Related (SameLock pk)
      (s'.auths.modify b._id (setSecret secret)) := by
    rw [h._id]
    exact hs.auths.modify SameLock.key _ fun c d hcd => ⟨hcd._id, hcd.user, fun _ => rfl⟩
  refine ⟨by simp only [sem, h.user], ⟨hs.users, hauths, hs.cache, hs.nextId⟩, ?_⟩
  exact .bind (indifferent_issue trivial) fun _ => indifferent_send _

theorem Login_indifferent (body : LoginBody) :
    Indifferent pk (Login pk body) (Login pk body) := by
  refine .tryCatch ?_ fun e => indifferent_send _
  split
  · exact indifferent_send _
  · refine .bind (indifferent_op trivial) fun user => ?_
    cases user with
    | none => exact .fail _
    | some user =>
        refine indifferent_findAuth (.fail _) fun a b hab => ?_
        refine .bind (indifferent_compare hab _) fun validPassword => ?_
        split
        · exact .fail _
        · split
          · exact .fail _
          · exact .bind (indifferent_op trivial) fun _ => .bind (indifferent_op trivial) fun _ =>
              .bind (indifferent_op trivial) fun _ => .bind (indifferent_op trivial) fun _ =>
                indifferent_send _

theorem changePassWord_indifferent (old new : Option String) (caller : Claims) :
    Indifferent pk (changePassWord pk old new caller) (changePassWord pk old new caller) := by
  refine .tryCatch (.bind (indifferent_op trivial) fun user => ?_) fun _ => indifferent_send _
  cases user with
  | none => exact indifferent_send _
  | some user =>
      refine indifferent_findAuth (indifferent_send _) fun a b hab => ?_
      refine .bind (indifferent_compare hab _) fun isPassWordCorrect => ?_
      split
      · exact indifferent_send _
      · exact indifferent_storePassword hab user new _

theorem verifyPassWordResetMail_indifferent (token : String) (new : Option String) :
    Indifferent pk (verifyPassWordResetMail pk token new)
      (verifyPassWordResetMail pk token new) := by
  refine .tryCatch (.bind (indifferent_op trivial) fun extractedToken => ?_)
    fun _ => indifferent_send _
  cases extractedToken with
  | none => exact .bind (indifferent_send _) fun _ => .fail _
  | some extractedToken =>
      refine .bind (.done extractedToken) fun ticket => ?_
      refine .bind (indifferent_op trivial) fun user => ?_
      cases user with
      | none => exact indifferent_send _
      | some user =>
          exact indifferent_findAuth (indifferent_send _) fun a b hab =>
            indifferent_storePassword hab user new _

/-- The secret of a sign-up is new, and the same on both sites. -/
theorem register_indifferent (data : RegisterData) :
    Indifferent pk (register pk data) (register pk data) := by
  refine .bind (indifferent_op trivial) fun isEmailExist => ?_
  split
  · exact .fail _
  · refine .bind (indifferent_op trivial) fun userId => ?_
    refine .bind (indifferent_issue trivial) fun _ => ?_
    refine .bind (indifferent_op trivial) fun authId => .bind (indifferent_hash _) fun secret => ?_
    exact .bind (indifferent_op trivial) fun _ => .bind (indifferent_issue trivial) fun _ =>
      indifferent_send _

theorem withTransaction_indifferent {body : Web Unit} (h : Indifferent pk body body) :
    Indifferent pk (withTransaction body) (withTransaction body) :=
  .tryCatch (.bind (indifferent_op trivial) fun _ => h) fun _ =>
    .bind (indifferent_issue trivial) fun _ => indifferent_send _

theorem completeSignup_indifferent (token : Option String) (body : RegisterBody) :
    Indifferent pk (completeSignup pk token body) (completeSignup pk token body) := by
  refine withTransaction_indifferent (.bind (indifferent_orThrow _) fun data => ?_)
  cases token with
  | none => exact .done ()
  | some token =>
      refine .bind (indifferent_op trivial) fun cacheData => ?_
      split
      · exact .fail _
      · exact register_indifferent data

theorem guard_indifferent {cookies : Cookies} {next : Claims → Web Unit}
    (h : ∀ claims, Indifferent pk (next claims) (next claims)) :
    Indifferent pk (guard cookies next) (guard cookies next) := by
  have hpassed := isLoggedIn_passing cookies
  refine .bind (hpassed.agrees fun _ _ _ x ho hs => hs.blind ho.blind x) fun passed => ?_
  cases passed with
  | none => exact .done ()
  | some token => exact h token.claims

/-- Both sites answer every request alike. -/
theorem handler_indifferent (pk : Packages) (request : Request) (cookies : Cookies) :
    Indifferent pk (handler pk request cookies) (handler pk request cookies) := by
  have hquiet (hpassword : request.onPassword = false) (hsignsUp : request.signsUp = false) :
      Indifferent pk (handler pk request cookies) (handler pk request cookies) :=
    (handler_quiet hsignsUp cookies).agrees fun _ _ _ x ho hs =>
      hs.blind (ho.elim (·.blind hpassword) (·.blind)) x
  cases request with
  | signUpEmailPassword body =>
      exact withTransaction_indifferent (.bind (indifferent_orThrow _) register_indifferent)
  | completeSignup token body => exact completeSignup_indifferent token body
  | Login body => exact Login_indifferent body
  | verifyPassWordResetMail token new => exact verifyPassWordResetMail_indifferent token new
  | changePassWord old new => exact guard_indifferent (changePassWord_indifferent old new)
  | _ => exact hquiet rfl rfl

end InventoryHero.Accounts
