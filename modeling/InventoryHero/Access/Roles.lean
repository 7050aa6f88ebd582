import InventoryHero.Access.Provenance

/-!
# Who becomes an admin

Both sign-ups store the role of the body, and `updateUser` and `verifyUser` store the whole body
without looking at the caller's role. These are the only ways to a privileged role: along a run in
which none of them is taken, an account that is privileged was privileged all along.
-/

set_option autoImplicit false

namespace InventoryHero.Access

open Interaction Storage Accounts
open Model (ObjectId)

/-- The roles above `user`. -/
def Privileged (role : Option String) : Prop := role = some "admin" ∨ role = some "super admin"

instance : DecidablePred Privileged := fun _ => inferInstanceAs (Decidable (_ ∨ _))

/-- The accepted body of a sign-up gives a privileged role, and nothing stops the sign-up. -/
def CreatesPrivileged (s : Site) (env : Env) (data : RegisterData) : Prop :=
  Privileged data.role ∧ s.users.byEmailOrTelephone data.email data.telephone = none ∧
    env.commitFails = false

/-- The update gives a privileged role to the account `id`, which has none, and nothing stops it. -/
def RaisesRole (s : Site) (id : ObjectId) (data : AccountUpdate) : Prop :=
  data.role.elim False Privileged ∧ (∃ a ∈ s.users.docs, a._id = id ∧ ¬Privileged a.role) ∧
    (s.users.update id data).isOk

/-- The request gives a privileged role to an account that has none, or creates one that has. -/
def Grants (pk : Packages) (s : Site) (c : Call) : Prop :=
  match c.request with
  | .signUpEmailPassword body =>
      (registerValidation pk.isEmail body).toOption.elim False (CreatesPrivileged s c.env)
  | .completeSignup (some token) body =>
      (registerValidation pk.isEmail body).toOption.elim False fun data =>
        (s.getCache token c.env.now).bind Ticket.email = some data.email ∧
          CreatesPrivileged s c.env data
  | .updateUser data =>
      ((c.cookies.admitted c.env.now).bind fun token =>
        token.claims._id.or c.env.undefinedId).elim False fun id => RaisesRole s id data
  | .verifyUser id data => (c.cookies.admitted c.env.now).isSome ∧ RaisesRole s id data
  | _ => False

instance (s : Site) (env : Env) (data : RegisterData) : Decidable (CreatesPrivileged s env data) :=
  inferInstanceAs (Decidable (_ ∧ _ ∧ _))

instance (s : Site) (id : ObjectId) (data : AccountUpdate) : Decidable (RaisesRole s id data) :=
  inferInstanceAs (Decidable (_ ∧ _ ∧ _))

instance (pk : Packages) (s : Site) (c : Call) : Decidable (Grants pk s c) := by
  unfold Grants
  split <;> infer_instance

variable {pk : Packages}

/-! ## One request -/

/-- The account was privileged before. -/
def WasPrivileged (s : Site) (a : Account) : Prop :=
  ∃ b ∈ s.users.docs, b._id = a._id ∧ Privileged b.role

theorem privileged_given {role : Option String} (h : Privileged (some (role.getD "user"))) :
    Privileged role := by
  cases role with
  | none => simp [Privileged] at h
  | some r => exact h

theorem grants_of_signsUp {s : Site} {c : Call} {body : RegisterBody} {data : RegisterData}
    (signsUp : SignsUp s c.env.now body data c.request)
    (valid : registerValidation pk.isEmail body = .ok data)
    (h : CreatesPrivileged s c.env data) : Grants pk s c := by
  unfold Grants
  generalize hr : c.request = r at signsUp
  cases signsUp with
  | direct =>
      show (registerValidation pk.isEmail body).toOption.elim _ _
      rw [valid]
      exact h
  | completed token ticket found email =>
      show (registerValidation pk.isEmail body).toOption.elim _ _
      rw [valid, found]
      exact ⟨email, h⟩

theorem grants_of_updates {s : Site} {c : Call} {id : ObjectId} {data : AccountUpdate}
    (updates : Updates c id data) (h : RaisesRole s id data) : Grants pk s c := by
  unfold Grants
  cases updates with
  | profile token request admitted account =>
      rw [request, admitted]
      simp only [Option.bind_some, account, Option.elim_some]
      exact h
  | admin token request admitted =>
      rw [request, admitted]
      exact ⟨rfl, h⟩

/-- A request that grants nothing leaves no account with a privileged role that it did not have. -/
theorem wasPrivileged_of_serve {c : Call} {s : Site} (hc : ¬Grants pk s c) {a : Account}
    (ha : a ∈ (serveStep pk c s).users.docs) (hp : Privileged a.role) : WasPrivileged s a := by
  have he := serve_effect pk c s
  generalize serveStep pk c s = s' at ha he
  generalize (serve pk c s).loc.sent = sent at he
  generalize (serve pk c s).loc.wrote = wrote at he
  cases he with
  | unchanged users auths cache next => exact ⟨a, users ▸ ha, rfl, hp⟩
  | registered body data id signsUp valid free commits accepted new_id users auths cache =>
      rw [(Users.create_ok users).2] at ha
      rcases List.mem_append.1 ha with ha | ha
      · exact ⟨a, ha, rfl, hp⟩
      · obtain rfl := List.mem_singleton.1 ha
        exact absurd (grants_of_signsUp signsUp valid ⟨privileged_given hp, free, commits⟩) hc
  | cached email asks => exact ⟨a, ha, rfl, hp⟩
  | verified token ticket user request found account =>
      obtain ⟨b, hb, rfl⟩ := Collection.mem_modify.1 ha
      refine ⟨b, hb, ?_, ?_⟩
      · split <;> rfl
      · split at hp <;> exact hp
  | updated id data users user updates stored =>
      rw [(Users.update_ok stored).1] at ha
      obtain ⟨b, hb, rfl⟩ := Collection.mem_modify.1 ha
      refine ⟨b, hb, by split <;> rfl, ?_⟩
      by_cases hid : b._id = id
      · rw [key_account, if_pos hid] at hp
        by_contra hbp
        have hrole : data.role.elim False Privileged := by
          cases hdata : data.role with
          | none =>
              simp only [AccountUpdate.patch, hdata, Option.getD_none] at hp
              exact hbp hp
          | some r =>
              simp only [AccountUpdate.patch, hdata, Option.getD_some] at hp
              exact hp
        exact hc (grants_of_updates updates ⟨hrole, ⟨b, hb, hid, hbp⟩, by rw [stored]; rfl⟩)
      · rwa [key_account, if_neg hid] at hp
  | deleted id request => exact ⟨a, (Collection.mem_delete.1 ha).1, rfl, hp⟩
  | password user auth w target answer => exact ⟨a, ha, rfl, hp⟩

/-! ## Every run -/

/-- Along a run without such requests, from any site, an account that is privileged now was
privileged in every state before. -/
theorem no_escalation {past : Past Call Site} {s : Site}
    (h : Run (fun _ => True) (fun _ c s => ¬Grants pk s c) (serveStep pk) past s) :
    ∀ e ∈ past, ∀ a ∈ s.users.docs, Privileged a.role →
      ∃ b ∈ e.before.users.docs, b._id = a._id ∧ Privileged b.role := by
  refine h.invariant (I := fun past s => ∀ e ∈ past, ∀ a ∈ s.users.docs, Privileged a.role →
    ∃ b ∈ e.before.users.docs, b._id = a._id ∧ Privileged b.role) ?_ ?_
  · rintro s - e he
    cases he
  · intro past c s ih hok e he a ha hp
    have hbefore := wasPrivileged_of_serve hok ha hp
    rcases List.mem_cons.1 he with rfl | he
    · exact hbefore
    · obtain ⟨b, hb, hid, hbp⟩ := hbefore
      obtain ⟨b', hb', hid', hbp'⟩ := ih e he b hb hbp
      exact ⟨b', hb', hid'.trans hid, hbp'⟩

/-- The admin logs in and changes the first name with the token of that login. -/
def adminProfile : List Call :=
  [Sample.call (Sample.login "a@shop" "password") 0,
    { request := .updateUser { firstName := some (some "new") }
      cookies := { jwt := some (.signed (sign Sample.adminAccount.claims day 0)) }
      env := Sample.env 0 "link" }]

/-- The admin after the change. -/
def changedAdmin : Account := { Sample.adminAccount with firstName := some "new" }

/-- Every token of the run was sent in it. -/
theorem no_escalation_profile :
    Replayable (Obtained Sample.packages) (serveStep Sample.packages) adminProfile []
      Sample.adminSite ∧
    changedAdmin ∈
      (replay (serveStep Sample.packages) adminProfile [] Sample.adminSite).2.users.docs ∧
    ∀ e ∈ (replay (serveStep Sample.packages) adminProfile [] Sample.adminSite).1,
      ∃ b ∈ e.before.users.docs, b._id = changedAdmin._id ∧ Privileged b.role := by
  have hstart : Run (fun _ => True) (fun _ c s => ¬Grants Sample.packages s c)
      (serveStep Sample.packages) [] Sample.adminSite := .start trivial
  have hrun := hstart.replay adminProfile (by decide +kernel)
  have hmem : changedAdmin ∈
      (replay (serveStep Sample.packages) adminProfile [] Sample.adminSite).2.users.docs := by
    decide +kernel
  exact ⟨by decide +kernel, hmem,
    fun e he => no_escalation hrun e he changedAdmin hmem (by decide)⟩

/-- A verified user logs in and sends the profile `data`. -/
def profileVisit (data : AccountUpdate) : List Call :=
  Sample.verifiedUser ++
    [Sample.call (Sample.login "u@shop" "password") 0, Sample.userCall (.updateUser data) 0]

/-- A sign-up that says `role: 'admin'` creates an admin. A profile update that says so makes an
admin of a user, with no token but that of the user's own login. -/
theorem roles_escalate :
    Sample.adminSite.users.docs.map (fun a => (a._id, a.role)) = [(1, some "admin")] ∧
    Replayable (Obtained Sample.packages) (serveStep Sample.packages)
      (profileVisit { role := some (some "super admin") }) [] Sample.site ∧
    (replay (serveStep Sample.packages) (profileVisit { role := some (some "super admin") }) []
        Sample.site).2.users.docs.map (fun a => (a._id, a.role)) = [(1, some "super admin")] := by
  decide +kernel

end InventoryHero.Access
