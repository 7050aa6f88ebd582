import InventoryHero.Accounts.Effect

/-!
# Password records

`signUpEmailPassword` and `completeSignup` store an account together with its password.
`deleteUser` removes the account and leaves its password behind, so there can be more passwords than
accounts; but as ids are not used twice, no later account finds the password of an earlier one.
-/

set_option autoImplicit false

namespace InventoryHero.Accounts

open Interaction Storage
open Model (ObjectId)

variable {pk : Packages} {s s' : Site} {c : Call}

/-- Every account has a password, no id has two, and every secret is a hash. Ids are below the
counter. -/
structure Credentials (pk : Packages) (s : Site) : Prop where
  accounts_lt : ∀ a ∈ s.users.docs, a._id < s.nextId
  auths_lt : ∀ auth ∈ s.auths.docs, auth._id < s.nextId ∧ auth.user < s.nextId
  stored : ∀ a ∈ s.users.docs, ∃ auth ∈ s.auths.docs, auth.user = a._id
  once : s.auths.Unique Auth.user
  hashed : ∀ auth ∈ s.auths.docs, ∃ salt w, auth.secret = pk.hash salt w

theorem credentials_of_empty (husers : s.users.docs = []) (hauths : s.auths.docs = []) :
    Credentials pk s := by
  refine ⟨by simp [husers], by simp [hauths], by simp [husers], ?_, by simp [hauths]⟩
  unfold Collection.Unique
  rw [hauths]
  exact List.nodup_nil

/-- A change of one account keeps the ids. -/
theorem id_of_mem_modify {users : Collection Account} {id : ObjectId} {p : Patch Account}
    {a' : Account} (h : a' ∈ (users.modify id p).docs) : ∃ a ∈ users.docs, a'._id = a._id := by
  obtain ⟨a, ha, rfl⟩ := Collection.mem_modify.1 h
  refine ⟨a, ha, ?_⟩
  split
  · exact p.key_apply a
  · rfl

theorem id_of_mem_update {users users' : Users} {id : ObjectId} {data : AccountUpdate}
    {r : Option Account} (h : users.update id data = .ok (users', r)) {a' : Account}
    (ha' : a' ∈ users'.docs) : ∃ a ∈ users.docs, a'._id = a._id := by
  rw [(Users.update_ok h).1] at ha'
  exact id_of_mem_modify ha'

/-- No new account, and the same passwords. -/
theorem Credentials.same (h : Credentials pk s)
    (husers : ∀ a' ∈ s'.users.docs, ∃ a ∈ s.users.docs, a'._id = a._id)
    (hauths : s'.auths = s.auths) (hnext : s.nextId ≤ s'.nextId) : Credentials pk s' where
  accounts_lt a' ha' := by
    obtain ⟨a, ha, hid⟩ := husers a' ha'
    rw [hid]
    exact (h.accounts_lt a ha).trans_le hnext
  auths_lt auth hauth := by
    rw [hauths] at hauth
    obtain ⟨hid, huser⟩ := h.auths_lt auth hauth
    exact ⟨hid.trans_le hnext, huser.trans_le hnext⟩
  stored a' ha' := by
    obtain ⟨a, ha, hid⟩ := husers a' ha'
    rw [hid, hauths]
    exact h.stored a ha
  once := hauths ▸ h.once
  hashed := hauths ▸ h.hashed

/-- A new account with its password, under ids that no password has. -/
theorem Credentials.registered (h : Credentials pk s) {a : Account} {new : Auth}
    (hnext : s.nextId ≤ s'.nextId) (ha : a._id < s'.nextId) (hid : new._id < s'.nextId)
    (huser : new.user = a._id) (hsecret : ∃ salt w, new.secret = pk.hash salt w)
    (hnew : ∀ auth ∈ s.auths.docs, auth._id ≠ new._id ∧ auth.user ≠ a._id)
    (husers : s'.users.docs = s.users.docs ++ [a]) (hauths : s'.auths = s.auths.insert new) :
    Credentials pk s' := by
  have hdocs : s'.auths.docs = s.auths.docs ++ [new] := by
    rw [hauths, Collection.docs_insert]
    rw [Collection.accepts_insert_iff]
    exact fun auth hauth => (hnew auth hauth).1
  refine ⟨?_, ?_, ?_, ?_, ?_⟩
  · rw [husers]
    intro b hb
    rcases List.mem_append.1 hb with hb | hb
    · exact (h.accounts_lt b hb).trans_le hnext
    · rw [List.mem_singleton.1 hb]
      exact ha
  · rw [hdocs]
    intro auth hauth
    rcases List.mem_append.1 hauth with hauth | hauth
    · obtain ⟨hauthId, huser⟩ := h.auths_lt auth hauth
      exact ⟨hauthId.trans_le hnext, huser.trans_le hnext⟩
    · rw [List.mem_singleton.1 hauth, huser]
      exact ⟨hid, ha⟩
  · rw [husers, hdocs]
    intro b hb
    rcases List.mem_append.1 hb with hb | hb
    · obtain ⟨auth, hauth, huser⟩ := h.stored b hb
      exact ⟨auth, List.mem_append_left _ hauth, huser⟩
    · rw [List.mem_singleton.1 hb]
      exact ⟨new, List.mem_append_right _ (List.mem_singleton_self _), huser⟩
  · rw [hauths]
    exact h.once.insert fun auth hauth => huser ▸ (hnew auth hauth).2
  · rw [hdocs]
    intro auth hauth
    rcases List.mem_append.1 hauth with hauth | hauth
    · exact h.hashed auth hauth
    · rw [List.mem_singleton.1 hauth]
      exact hsecret

/-- A new secret in a record. -/
theorem Credentials.password (h : Credentials pk s) (id : ObjectId) (salt : ℕ) (w : String) :
    Credentials pk { s with auths := s.auths.modify id (setSecret (pk.hash salt w)) } := by
  have hmem : ∀ auth ∈ (s.auths.modify id (setSecret (pk.hash salt w))).docs,
      ∃ x ∈ s.auths.docs, auth._id = x._id ∧ auth.user = x.user ∧
        (auth.secret = x.secret ∨ auth.secret = pk.hash salt w) := by
    intro auth hauth
    obtain ⟨x, hx, rfl⟩ := Collection.mem_modify.1 hauth
    refine ⟨x, hx, ?_⟩
    split
    · exact ⟨rfl, rfl, .inr rfl⟩
    · exact ⟨rfl, rfl, .inl rfl⟩
  refine ⟨h.accounts_lt, ?_, ?_, ?_, ?_⟩
  · intro auth hauth
    obtain ⟨x, hx, hid, huser, -⟩ := hmem auth hauth
    rw [hid, huser]
    exact h.auths_lt x hx
  · intro a ha
    obtain ⟨x, hx, huser⟩ := h.stored a ha
    refine ⟨_, Collection.mem_modify.2 ⟨x, hx, rfl⟩, ?_⟩
    split <;> exact huser
  · refine h.once.modify fun x hx hid y hy hne huser => ?_
    -- the record keeps its account
    exact hne (h.once.eq hy hx huser ▸ hid)
  · intro auth hauth
    obtain ⟨x, hx, -, -, hsecret | hsecret⟩ := hmem auth hauth
    · rw [hsecret]
      exact h.hashed x hx
    · exact ⟨salt, w, hsecret⟩

/-- Every request keeps the password records in order. -/
theorem Credentials.effect (h : Credentials pk s) {sent : List Answer} {wrote : List Written}
    (e : Effect pk s c s' sent wrote) : Credentials pk s' := by
  cases e with
  | unchanged users auths cache next => exact h.same (fun a ha => ⟨a, users ▸ ha, rfl⟩) auths next
  | registered body data id signsUp valid free commits accepted new_id users auths cache =>
      -- ids from the counter on were never used
      have hused {n : ObjectId} (hn : n < s.nextId) : n < id := Nat.lt_of_lt_of_le hn new_id.1
      have hnew : id < s'.nextId := Nat.lt_of_succ_lt new_id.2
      refine h.registered (a := data.toAccount id) (new_id.1.trans hnew.le) hnew new_id.2 rfl
        ⟨_, _, rfl⟩ (fun auth hauth => ?_) (Users.create_ok users).2 auths
      obtain ⟨hauthId, huser⟩ := h.auths_lt auth hauth
      exact ⟨(Nat.lt_succ_of_lt (hused hauthId)).ne, (hused huser).ne⟩
  | cached email asks => exact h.same (fun a ha => ⟨a, ha, rfl⟩) rfl le_rfl
  | verified token ticket user request found account =>
      exact h.same (fun _ => id_of_mem_modify) rfl le_rfl
  | updated id data users user updates stored =>
      exact h.same (fun _ => id_of_mem_update stored) rfl le_rfl
  | deleted id request =>
      exact h.same (fun a ha => ⟨a, (Collection.mem_delete.1 ha).1, rfl⟩) rfl le_rfl
  | password user auth w target answer => exact h.password auth._id c.env.salt w

/-- Each account has exactly one password record. -/
theorem Credentials.existsUnique (h : Credentials pk s) {a : Account} (ha : a ∈ s.users.docs) :
    ∃! auth, auth ∈ s.auths.docs ∧ auth.user = a._id := by
  obtain ⟨auth, hauth, huser⟩ := h.stored a ha
  refine ⟨auth, ⟨hauth, huser⟩, ?_⟩
  rintro auth' ⟨hauth', huser'⟩
  exact h.once.eq hauth' hauth (huser'.trans huser.symm)

/-! ## Accounts that are gone -/

/-- The id was used, and there is no account with it. -/
def Gone (id : ObjectId) (s : Site) : Prop := id < s.nextId ∧ s.users.get? id = none

/-- An account was there before the request or has a new id. -/
theorem Effect.origin {sent : List Answer} {wrote : List Written}
    (e : Effect pk s c s' sent wrote) {a' : Account} (ha' : a' ∈ s'.users.docs) :
    (∃ a ∈ s.users.docs, a'._id = a._id) ∨ s.nextId ≤ a'._id := by
  cases e with
  | unchanged users auths cache next => exact .inl ⟨a', users ▸ ha', rfl⟩
  | registered body data id signsUp valid free commits accepted new_id users auths cache =>
      rw [(Users.create_ok users).2] at ha'
      rcases List.mem_append.1 ha' with ha' | ha'
      · exact .inl ⟨a', ha', rfl⟩
      · rw [List.mem_singleton.1 ha']
        exact .inr new_id.1
  | cached email asks => exact .inl ⟨a', ha', rfl⟩
  | verified token ticket user request found account => exact .inl (id_of_mem_modify ha')
  | updated id data users user updates stored => exact .inl (id_of_mem_update stored ha')
  | deleted id request => exact .inl ⟨a', (Collection.mem_delete.1 ha').1, rfl⟩
  | password user auth w target answer => exact .inl ⟨a', ha', rfl⟩

theorem Effect.next {sent : List Answer} {wrote : List Written}
    (e : Effect pk s c s' sent wrote) : s.nextId ≤ s'.nextId := by
  cases e with
  | unchanged users auths cache next => exact next
  | registered body data id signsUp valid free commits accepted new_id users auths cache =>
      exact new_id.1.trans (Nat.le_of_lt (Nat.lt_of_succ_lt new_id.2))
  | _ => exact le_rfl

/-- No request brings an account back. -/
theorem Gone.effect {id : ObjectId} (h : Gone id s) {sent : List Answer} {wrote : List Written}
    (e : Effect pk s c s' sent wrote) : Gone id s' := by
  refine ⟨h.1.trans_le e.next, Collection.get?_eq_none_iff.2 fun a' ha' hid => ?_⟩
  change a'._id = id at hid
  rcases e.origin ha' with ⟨a, ha, hold⟩ | hnew
  · exact Collection.get?_eq_none_iff.1 h.2 a ha (hold.symm.trans hid)
  · exact absurd (hid ▸ hnew) (Nat.not_le.2 h.1)

end InventoryHero.Accounts
