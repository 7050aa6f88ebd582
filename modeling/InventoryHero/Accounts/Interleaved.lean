import InventoryHero.Accounts.Conduct
import InventoryHero.Accounts.Credentials
import Mathlib.Data.Fin.VecNotation

/-!
# Account requests at the same time

What holds after every interleaving of the operations of any number of account requests. Every
account has one password record (`credentials_of_interleaves`): an account and its password become
visible together, under ids that no other request holds. Sign-ups that race for an email or a
telephone number cannot both succeed (`signUps_exclusive`), although each looks whether the email is
taken before the other has stored its account.
-/

set_option autoImplicit false

namespace InventoryHero.Accounts

open Interaction Storage
open Model (ObjectId)

variable {pk : Packages} {request : Request} {s s' : Site} {x x' : Exchange × Notes} {o : Op}

/-! ## One operation -/

/-- What one operation of a request does to the site and to the local state of the request. -/
inductive Move (pk : Packages) (request : Request) (s : Site) (x : Exchange × Notes) :
    Site → Exchange × Notes → Prop
  /-- Accounts and passwords stay as they are, and the request learns something at most. -/
  | other {s' : Site} {x' : Exchange × Notes} (users : s'.users = s.users)
      (auths : s'.auths = s.auths) (next : s'.nextId = s.nextId)
      (session : x'.1.session = x.1.session) (sent : x'.1.sent = x.1.sent) (notes : x'.2 = x.2) :
      Move pk request s x s' x'
  | draw : Move pk request s x { s with nextId := s.nextId + 1 }
      (x.1, { x.2 with drawn := s.nextId :: x.2.drawn })
  | start (idle : x.1.session = .idle) :
      Move pk request s x s ({ x.1 with session := .inProgress none none }, x.2)
  /-- The account is not accepted. -/
  | refused (account : Account) (opened : x.1.session = .inProgress none none) :
      Move pk request s x s (x.1, { x.2 with account := some account })
  | create (account : Account) (opened : x.1.session = .inProgress none none)
      (drawn : account._id ∈ x.2.drawn) :
      Move pk request s x s ({ x.1 with session := .inProgress (some account) none },
        { x.2 with account := some account })
  | pair (account : Account) (auth : Auth)
      (created : x.1.session = .inProgress (some account) none) (user : auth.user = account._id)
      (drawn : auth._id ∈ x.2.drawn) (hashed : Hashed pk auth.secret) :
      Move pk request s x s
        ({ x.1 with session := .inProgress (some account) (some auth) }, x.2)
  | commit (account : Account) (auth : Auth) (users : Users) (wrote : List Written)
      (created : x.1.session = .inProgress (some account) (some auth))
      (stored : s.users.create account = .ok users) :
      Move pk request s x { s with users := users, auths := s.auths.insert auth }
        ({ x.1 with session := .committed, wrote := wrote }, x.2)
  /-- The transaction ends without a commit. -/
  | close (account : Option Account) (auth : Option Auth)
      (opened : x.1.session = .inProgress account auth) :
      Move pk request s x s ({ x.1 with session := .aborted }, x.2)
  /-- Accounts change or go. -/
  | edit (users : Users) (wrote : List Written) (edits : request.edits = true)
      (ids : ∀ a' ∈ users.docs, ∃ a ∈ s.users.docs, a'._id = a._id) :
      Move pk request s x { s with users := users } ({ x.1 with wrote := wrote }, x.2)
  | verify (id : ObjectId) (wrote : List Written) :
      Move pk request s x { s with users := s.users.verify id } ({ x.1 with wrote := wrote }, x.2)
  | password (id : ObjectId) (salt : Nat) (w : String) (wrote : List Written) :
      Move pk request s x { s with auths := s.auths.modify id (setSecret (pk.hash salt w)) }
        ({ x.1 with wrote := wrote }, x.2)
  | answer (a : Answer) (honest : ∀ account, a = registered account →
      x.1.session = .committed ∧ x.2.account = some account) :
      Move pk request s x s ({ x.1 with sent := [a] }, x.2)

/-- What a request may issue is one of these. -/
theorem move_of_may (hmay : May pk request o x) (s : Site) :
    Move pk request s x (notedSem o s x).1 (notedSem o s x).2.1 := by
  have hidle : Move pk request s x s x := .other rfl rfl rfl rfl rfl rfl
  cases o with
  | newId => exact .draw
  | startTransaction => exact .start hmay
  | createUser account =>
      simp only [notedSem, Sem.ghost, sem]
      split
      · split
        · exact .refused account hmay.1
        · exact .create account hmay.1 hmay.2
      · exact .refused account hmay.1
  | createAuth auth =>
      obtain ⟨account, hsession, huser, hdrawn, hhashed⟩ := hmay
      simp only [notedSem, Sem.ghost, sem, hsession]
      exact .pair account auth hsession huser hdrawn hhashed
  | commitTransaction =>
      simp only [notedSem, Sem.ghost, sem, execCommit]
      split
      · rename_i account auth hsession
        split
        · exact .close _ _ hsession
        · split
          · exact hidle
          · exact .commit account auth _ _ hsession ‹_›
      · exact hidle
  | abortTransaction =>
      simp only [notedSem, Sem.ghost, sem]
      split
      · exact .close _ _ ‹_›
      · exact hidle
  | updateUser id data =>
      simp only [notedSem, Sem.ghost, sem]
      split
      · exact hidle
      split
      · exact hidle
      · exact hidle
      · rename_i hupdate
        exact .edit _ _ hmay fun _ => id_of_mem_update hupdate
  | deleteUser id =>
      exact .edit _ _ hmay fun a ha => ⟨a, (Collection.mem_delete.1 ha).1, rfl⟩
  | verifyUserByEmail email =>
      simp only [notedSem, Sem.ghost, sem]
      split
      · exact hidle
      · exact .verify _ _
  | setSecret auth secret =>
      obtain ⟨salt, w, rfl⟩ := hmay
      exact .password auth._id salt w _
  | send a =>
      simp only [notedSem, Sem.ghost, sem]
      split
      · exact .answer a hmay
      · exact hidle
  | saveUser user =>
      simp only [notedSem, Sem.ghost, sem]
      split <;> exact hidle
  | _ => exact .other rfl rfl rfl rfl rfl rfl

/-! ## Ids -/

/-- The ids that requests have drawn are below the counter, and no two have drawn the same. -/
structure Apart {ι : Type} (s : Site) (loc : ι → Exchange × Notes) : Prop where
  drawn_lt : ∀ i, ∀ n ∈ (loc i).2.drawn, n < s.nextId
  apart : ∀ i j, i ≠ j → ∀ n ∈ (loc i).2.drawn, n ∉ (loc j).2.drawn

/-- An id that is drawn is new. -/
theorem Move.drawn (h : Move pk request s x s' x') :
    s.nextId ≤ s'.nextId ∧ ∀ n ∈ x'.2.drawn, n ∈ x.2.drawn ∨ n = s.nextId ∧ n < s'.nextId := by
  cases h with
  | other users auths next session sent notes => exact ⟨next.ge, fun n hn => .inl (notes ▸ hn)⟩
  | draw =>
      refine ⟨Nat.le_succ _, fun n hn => ?_⟩
      rcases List.mem_cons.1 hn with rfl | hn
      · exact .inr ⟨rfl, Nat.lt_succ_self _⟩
      · exact .inl hn
  | _ => exact ⟨le_rfl, fun n hn => .inl hn⟩

theorem Apart.move {ι : Type} [DecidableEq ι] {loc : ι → Exchange × Notes} (h : Apart s loc)
    {i : ι} (hmove : Move pk request s (loc i) s' x') : Apart s' (Function.update loc i x') := by
  obtain ⟨hnext, hdrawn⟩ := hmove.drawn
  have hmem (j : ι) : ∀ n ∈ (Function.update loc i x' j).2.drawn,
      n ∈ (loc j).2.drawn ∨ j = i ∧ n = s.nextId ∧ n < s'.nextId := by
    intro n hn
    by_cases hj : j = i
    · subst hj
      rw [Function.update_self] at hn
      exact (hdrawn n hn).imp_right fun hnew => ⟨rfl, hnew⟩
    · rw [Function.update_of_ne hj] at hn
      exact .inl hn
  refine ⟨fun j n hn => ?_, fun j k hjk n hn hn' => ?_⟩
  · rcases hmem j n hn with hn | ⟨-, -, hlt⟩
    · exact (h.drawn_lt j n hn).trans_le hnext
    · exact hlt
  · rcases hmem j n hn with hj | ⟨rfl, hj, -⟩
    · rcases hmem k n hn' with hk | ⟨rfl, hk, -⟩
      · exact h.apart j k hjk n hj hk
      · exact (h.drawn_lt j n hj).ne hk
    · rcases hmem k n hn' with hk | ⟨rfl, -⟩
      · exact (h.drawn_lt k n hk).ne hj
      · exact hjk rfl

/-! ## Passwords -/

/-- What a request holds: no password has the ids that it has drawn and not committed, and the
account and the password of its transaction belong together. -/
structure Holds (pk : Packages) (s : Site) (x : Exchange × Notes) : Prop where
  unused : x.1.session ≠ .committed → ∀ n ∈ x.2.drawn, ∀ auth ∈ s.auths.docs,
    auth._id ≠ n ∧ auth.user ≠ n
  pending : ∀ account password, x.1.session = .inProgress (some account) password →
    account._id ∈ x.2.drawn ∧ ∀ auth ∈ password, auth.user = account._id ∧
      auth._id ∈ x.2.drawn ∧ Hashed pk auth.secret

/-- Passwords that come in have the ids of others. -/
theorem Holds.site (h : Holds pk s x) (hauths : ∀ auth' ∈ s'.auths.docs,
      (∃ auth ∈ s.auths.docs, auth._id = auth'._id ∧ auth.user = auth'.user) ∨
        auth'._id ∉ x.2.drawn ∧ auth'.user ∉ x.2.drawn) : Holds pk s' x where
  unused hx n hn auth' hauth' := by
    rcases hauths auth' hauth' with ⟨auth, hauth, hid, huser⟩ | ⟨hid, huser⟩
    · rw [← hid, ← huser]
      exact h.unused hx n hn auth hauth
    · exact ⟨fun he => hid (he ▸ hn), fun he => huser (he ▸ hn)⟩
  pending := h.pending

/-- The passwords that a request stores have ids that it has drawn. -/
theorem Move.auths (hmove : Move pk request s x s' x') (h : Holds pk s x) :
    ∀ auth' ∈ s'.auths.docs,
      (∃ auth ∈ s.auths.docs, auth._id = auth'._id ∧ auth.user = auth'.user) ∨
        auth'._id ∈ x.2.drawn ∧ auth'.user ∈ x.2.drawn := by
  intro auth' hauth'
  cases hmove with
  | other users auths next session sent notes => exact .inl ⟨auth', auths ▸ hauth', rfl, rfl⟩
  | commit account auth users wrote created stored =>
      rcases Collection.mem_of_mem_insert hauth' with hold | rfl
      · exact .inl ⟨auth', hold, rfl, rfl⟩
      · obtain ⟨haccount, hpassword⟩ := h.pending account _ created
        obtain ⟨huser, hid, -⟩ := hpassword auth' rfl
        exact .inr ⟨hid, huser ▸ haccount⟩
  | password id salt w wrote =>
      obtain ⟨auth, hauth, rfl⟩ := Collection.mem_modify.1 hauth'
      refine .inl ⟨auth, hauth, ?_⟩
      split <;> exact ⟨rfl, rfl⟩
  | _ => exact .inl ⟨auth', hauth', rfl, rfl⟩

/-- The passwords stay in order. -/
theorem Move.credentials (hmove : Move pk request s x s' x') (hcred : Credentials pk s)
    (hlt : ∀ n ∈ x.2.drawn, n < s.nextId) (h : Holds pk s x) : Credentials pk s' := by
  cases hmove with
  | other users auths next session sent notes =>
      exact hcred.same (fun a ha => ⟨a, users ▸ ha, rfl⟩) auths next.ge
  | draw => exact hcred.same (fun a ha => ⟨a, ha, rfl⟩) rfl (Nat.le_succ _)
  | commit account auth users wrote created stored =>
      obtain ⟨haccount, hpassword⟩ := h.pending account _ created
      obtain ⟨huser, hid, hhashed⟩ := hpassword auth rfl
      have hopen : x.1.session ≠ .committed := by simp [created]
      refine hcred.registered le_rfl (hlt _ haccount) (hlt _ hid) huser hhashed (fun a ha => ?_)
        (Users.create_ok stored).2 rfl
      exact ⟨(h.unused hopen _ hid a ha).1, (h.unused hopen _ haccount a ha).2⟩
  | edit users wrote edits ids => exact hcred.same ids rfl le_rfl
  | verify id wrote => exact hcred.same (fun _ => id_of_mem_modify) rfl le_rfl
  | password id salt w wrote => exact hcred.password id salt w
  | _ => exact hcred

/-- The request holds what it has drawn and created. -/
theorem Move.holds (hmove : Move pk request s x s' x') (hcred : Credentials pk s)
    (h : Holds pk s x) : Holds pk s' x' := by
  cases hmove with
  | other users auths next session sent notes =>
      refine ⟨?_, ?_⟩
      · rw [auths, session, notes]
        exact h.unused
      · rw [session, notes]
        exact h.pending
  | draw =>
      refine ⟨fun hx n hn auth hauth => ?_, fun account password hx => ?_⟩
      · rcases List.mem_cons.1 hn with rfl | hn
        · exact ⟨(hcred.auths_lt auth hauth).1.ne, (hcred.auths_lt auth hauth).2.ne⟩
        · exact h.unused hx n hn auth hauth
      · obtain ⟨haccount, hpassword⟩ := h.pending account password hx
        refine ⟨List.mem_cons_of_mem _ haccount, fun auth hauth => ?_⟩
        obtain ⟨huser, hid, hhashed⟩ := hpassword auth hauth
        exact ⟨huser, List.mem_cons_of_mem _ hid, hhashed⟩
  | start idle => exact ⟨fun _ => h.unused (by simp [idle]), by simp⟩
  | refused account opened => exact ⟨h.unused, h.pending⟩
  | create account opened drawn =>
      refine ⟨fun _ => h.unused (by simp [opened]), ?_⟩
      rintro _ _ ⟨⟩
      exact ⟨drawn, nofun⟩
  | pair account auth created user drawn hashed =>
      refine ⟨fun _ => h.unused (by simp [created]), ?_⟩
      rintro _ _ ⟨⟩
      refine ⟨(h.pending account none created).1, ?_⟩
      rintro _ ⟨⟩
      exact ⟨user, drawn, hashed⟩
  | commit account auth users wrote created stored => exact ⟨fun hx => absurd rfl hx, by simp⟩
  | close account auth opened => exact ⟨fun _ => h.unused (by simp [opened]), by simp⟩
  | edit users wrote edits ids => exact ⟨h.unused, h.pending⟩
  | verify id wrote => exact ⟨h.unused, h.pending⟩
  | password id salt w wrote =>
      refine ⟨fun hx n hn auth' hauth' => ?_, h.pending⟩
      obtain ⟨auth, hauth, rfl⟩ := Collection.mem_modify.1 hauth'
      split <;> exact h.unused hx n hn auth hauth
  | answer a honest => exact ⟨h.unused, h.pending⟩

/-- The passwords are in order, and so is what each request holds. -/
structure Kept {ι : Type} (pk : Packages) (s : Site) (loc : ι → Exchange × Notes) : Prop extends
    Apart s loc where
  credentials : Credentials pk s
  holds : ∀ i, Holds pk s (loc i)

theorem Kept.move {ι : Type} [DecidableEq ι] {loc : ι → Exchange × Notes} (h : Kept pk s loc)
    {i : ι} (hmove : Move pk request s (loc i) s' x') : Kept pk s' (Function.update loc i x') := by
  refine ⟨h.toApart.move hmove, hmove.credentials h.credentials (h.drawn_lt i) (h.holds i),
    forall_locals (P := fun _ x => Holds pk s' x) (hmove.holds h.credentials (h.holds i))
      fun j hj => ?_⟩
  refine (h.holds j).site fun auth' hauth' => (hmove.auths (h.holds i) auth' hauth').imp_right ?_
  rintro ⟨hid, huser⟩
  exact ⟨h.apart i j hj.symm _ hid, h.apart i j hj.symm _ huser⟩

/-! ## Sign-ups -/

/-- The same account with the same email and telephone number. -/
def SameContact (a b : Account) : Prop :=
  a._id = b._id ∧ a.email = b.email ∧ a.telephone = b.telephone

/-- What a sign-up has done: the account of its transaction is noted, what it has committed is
stored, and if it has answered that the account is registered, it has committed. -/
structure Enrols (s : Site) (x : Exchange × Notes) : Prop where
  created : ∀ account password, x.1.session = .inProgress (some account) password →
    account._id ∈ x.2.drawn ∧ x.2.account = some account
  committed : x.1.session = .committed → ∃ account, x.2.account = some account ∧
    account._id ∈ x.2.drawn ∧ ∃ a ∈ s.users.docs, SameContact a account
  answered : ∀ account, registered account ∈ x.1.sent →
    x.1.session = .committed ∧ x.2.account = some account

theorem Enrols.site (h : Enrols s x)
    (hkeep : ∀ a ∈ s.users.docs, ∃ a' ∈ s'.users.docs, SameContact a' a) : Enrols s' x where
  created := h.created
  committed hx := by
    obtain ⟨account, hnoted, hdrawn, a, ha, hid, hemail, htelephone⟩ := h.committed hx
    obtain ⟨a', ha', hid', hemail', htelephone'⟩ := hkeep a ha
    exact ⟨account, hnoted, hdrawn, a', ha', hid'.trans hid, hemail'.trans hemail,
      htelephone'.trans htelephone⟩
  answered := h.answered

/-- A request that has not committed has not answered that an account is registered. -/
theorem Enrols.unanswered (h : Enrols s x) (hx : x.1.session ≠ .committed) (account : Account) :
    registered account ∉ x.1.sent := fun ha => hx (h.answered account ha).1

/-- Without edits, accounts stay and keep email and telephone number. -/
theorem Move.contacts (hmove : Move pk request s x s' x') (hedits : request.edits = false) :
    ∀ a ∈ s.users.docs, ∃ a' ∈ s'.users.docs, SameContact a' a := by
  intro a ha
  cases hmove with
  | other users auths next session sent notes => exact ⟨a, users ▸ ha, rfl, rfl, rfl⟩
  | commit account auth users wrote created stored =>
      refine ⟨a, ?_, rfl, rfl, rfl⟩
      rw [(Users.create_ok stored).2]
      exact List.mem_append_left _ ha
  | edit users wrote edits ids =>
      rw [hedits] at edits
      cases edits
  | verify id wrote =>
      refine ⟨_, Collection.mem_modify.2 ⟨a, ha, rfl⟩, ?_⟩
      split <;> exact ⟨rfl, rfl, rfl⟩
  | _ => exact ⟨a, ha, rfl, rfl, rfl⟩

theorem Move.enrols (hmove : Move pk request s x s' x') (hedits : request.edits = false)
    (h : Enrols s x) : Enrols s' x' := by
  have hsite := h.site (hmove.contacts hedits)
  cases hmove with
  | other users auths next session sent notes =>
      refine ⟨?_, ?_, ?_⟩
      · rw [session, notes]
        exact h.created
      · rw [session, notes]
        exact hsite.committed
      · rw [session, sent, notes]
        exact h.answered
  | draw =>
      refine ⟨fun account password hx => ?_, fun hx => ?_, h.answered⟩
      · obtain ⟨hdrawn, hnoted⟩ := h.created account password hx
        exact ⟨List.mem_cons_of_mem _ hdrawn, hnoted⟩
      · obtain ⟨account, hnoted, hdrawn, hstored⟩ := h.committed hx
        exact ⟨account, hnoted, List.mem_cons_of_mem _ hdrawn, hstored⟩
  | start idle =>
      have hnone := h.unanswered (by simp [idle])
      exact ⟨by simp, by simp, fun account ha => absurd ha (hnone account)⟩
  | refused account opened =>
      have hnone := h.unanswered (by simp [opened])
      exact ⟨by simp [opened], by simp [opened], fun account ha => absurd ha (hnone account)⟩
  | create account opened drawn =>
      have hnone := h.unanswered (by simp [opened])
      refine ⟨?_, by simp, fun account ha => absurd ha (hnone account)⟩
      rintro _ _ ⟨⟩
      exact ⟨drawn, rfl⟩
  | pair account auth created user drawn hashed =>
      have hnone := h.unanswered (by simp [created])
      refine ⟨?_, by simp, fun account ha => absurd ha (hnone account)⟩
      rintro _ _ ⟨⟩
      exact h.created account none created
  | commit account auth users wrote created stored =>
      have hnone := h.unanswered (by simp [created])
      refine ⟨by simp, fun _ => ?_, fun account ha => absurd ha (hnone account)⟩
      obtain ⟨hdrawn, hnoted⟩ := h.created account _ created
      refine ⟨account, hnoted, hdrawn, account, ?_, rfl, rfl, rfl⟩
      rw [(Users.create_ok stored).2]
      exact List.mem_append_right _ (List.mem_singleton_self _)
  | close account auth opened =>
      have hnone := h.unanswered (by simp [opened])
      exact ⟨by simp, by simp, fun account ha => absurd ha (hnone account)⟩
  | edit users wrote edits ids =>
      rw [hedits] at edits
      cases edits
  | verify id wrote => exact ⟨h.created, hsite.committed, h.answered⟩
  | password id salt w wrote => exact ⟨h.created, h.committed, h.answered⟩
  | answer a honest =>
      refine ⟨h.created, h.committed, fun account ha => honest account ?_⟩
      exact (List.mem_singleton.1 ha).symm

/-- Ids are apart, and every request is in order. -/
structure Enrolled {ι : Type} (s : Site) (loc : ι → Exchange × Notes) : Prop extends
    Apart s loc where
  enrols : ∀ i, Enrols s (loc i)

theorem Enrolled.move {ι : Type} [DecidableEq ι] {loc : ι → Exchange × Notes} (h : Enrolled s loc)
    {i : ι} (hmove : Move pk request s (loc i) s' x') (hedits : request.edits = false) :
    Enrolled s' (Function.update loc i x') :=
  ⟨h.toApart.move hmove, forall_locals (P := fun _ x => Enrols s' x)
    (hmove.enrols hedits (h.enrols i)) fun j _ => (h.enrols j).site (hmove.contacts hedits)⟩

/-! ## Every interleaving -/

section Interleavings

variable {ι : Type}

/-- Requests that arrive at the same time, one for each index. -/
def arrivals (pk : Packages) (s : Site) (calls : ι → Call) :
    Pool web ι Site Exchange Failure Unit where
  shared := s
  procs i := ⟨.init (calls i).env, handler pk (calls i).request (calls i).cookies⟩

theorem conducted_arrivals (pk : Packages) (s : Site) (calls : ι → Call) :
    ((arrivals pk s calls).withGhost .init).Ensures notedSem
      (fun i o _ x _ _ => May pk (calls i).request o x) fun _ _ _ => True :=
  fun i => handler_behaves pk (calls i)

theorem apart_arrivals (pk : Packages) (s : Site) (calls : ι → Call) :
    Apart s ((arrivals pk s calls).withGhost .init).locals :=
  ⟨fun _ => List.forall_mem_nil _, fun _ _ _ => List.forall_mem_nil _⟩

variable [DecidableEq ι] {calls : ι → Call} {p : Pool web ι Site Exchange Failure Unit}

/-- The requests lead to `p` in some order of their operations. -/
abbrev Interleaves (pk : Packages) (s : Site) (calls : ι → Call)
    (p : Pool web ι Site Exchange Failure Unit) : Prop :=
  Reach (· = arrivals pk s calls) (fun _ _ => True) (Pool.step sem) p

/-- **One password record for each account.** After every interleaving of account requests, each
account has exactly one password record, and every secret that is stored is a hash. -/
theorem credentials_of_interleaves (hs : Credentials pk s) (h : Interleaves pk s calls p) :
    (∀ a ∈ p.shared.users.docs, ∃! auth, auth ∈ p.shared.auths.docs ∧ auth.user = a._id) ∧
      ∀ auth ∈ p.shared.auths.docs, Hashed pk auth.secret := by
  obtain ⟨q, rfl, -, hq⟩ := Reach.conducted (conducted_arrivals pk s calls) (I := Kept pk)
    ⟨apart_arrivals pk s calls, hs, fun i => ⟨fun _ => List.forall_mem_nil _, by
      simp [Pool.locals, Pool.withGhost, arrivals, Exchange.init]⟩⟩
    (fun s loc i o hmay hI => hI.move (move_of_may hmay s)) h
  have hcred : Credentials pk q.shared := hq.credentials
  exact ⟨fun a ha => hcred.existsUnique ha, hcred.hashed⟩

/-- Three sign-ups, two of them for one email. -/
def racingCalls : Fin 3 → Call :=
  ![Sample.call (Sample.signUp "u@shop" "08012345678" none) 0,
    Sample.call (Sample.signUp "u@shop" "08012345679" none) 0,
    Sample.call (Sample.signUp "v@shop" "08012345670" none) 0]

/-- They take turns, so that all look for the email before one of them commits. -/
def race : Pool web (Fin 3) Site Exchange Failure Unit :=
  (arrivals Sample.packages Sample.site racingCalls).follow sem
    (List.replicate 10 (List.finRange 3)).flatten

theorem interleaves_race : Interleaves Sample.packages Sample.site racingCalls race :=
  Pool.reach_follow _ _

theorem credentials_race :
    (race.shared.users.docs.length = 2 ∧ race.shared.auths.docs.length = 2) ∧
      (∀ a ∈ race.shared.users.docs, ∃! auth, auth ∈ race.shared.auths.docs ∧ auth.user = a._id) ∧
      ∀ auth ∈ race.shared.auths.docs, Hashed Sample.packages auth.secret :=
  ⟨by decide +kernel, credentials_of_interleaves (credentials_of_empty rfl rfl) interleaves_race⟩

/-- **Sign-ups exclude each other.** After every interleaving of requests that do not edit
accounts, two sign-ups that were answered with success have different emails and telephone numbers,
and the account of each is stored. -/
theorem signUps_exclusive (hcalls : ∀ i, (calls i).request.edits = false)
    (h : Interleaves pk s calls p) {i j : ι} (hij : i ≠ j) {a b : Account}
    (ha : registered a ∈ (p.procs i).loc.sent) (hb : registered b ∈ (p.procs j).loc.sent) :
    (a.email ≠ b.email ∧ a.telephone ≠ b.telephone) ∧
      (∃ a' ∈ p.shared.users.docs, SameContact a' a) ∧
      ∃ b' ∈ p.shared.users.docs, SameContact b' b := by
  obtain ⟨q, rfl, -, hq⟩ := Reach.conducted (conducted_arrivals pk s calls) (I := Enrolled)
    ⟨apart_arrivals pk s calls, fun i => ⟨by
      simp [Pool.locals, Pool.withGhost, arrivals, Exchange.init], by
      simp [Pool.locals, Pool.withGhost, arrivals, Exchange.init],
      fun _ => (absurd · List.not_mem_nil)⟩⟩
    (fun s loc i o hmay hI => hI.move (move_of_may hmay s) (hcalls i)) h
  -- both have committed the account that they answered with
  have hstored {k : ι} {c : Account} (hc : registered c ∈ (q.locals k).1.sent) :
      c._id ∈ (q.locals k).2.drawn ∧ ∃ c' ∈ q.shared.users.docs, SameContact c' c := by
    obtain ⟨hcommitted, hnoted⟩ := (hq.enrols k).answered c hc
    obtain ⟨c₀, hnoted', hdrawn, hmem⟩ := (hq.enrols k).committed hcommitted
    obtain rfl : c = c₀ := Option.some.inj (hnoted.symm.trans hnoted')
    exact ⟨hdrawn, hmem⟩
  obtain ⟨hdrawn, a', ha', hid, hemail, htelephone⟩ := hstored ha
  obtain ⟨hdrawn', b', hb', hid', hemail', htelephone'⟩ := hstored hb
  have hne : a' ≠ b' := by
    rintro rfl
    exact hq.apart i j hij _ hdrawn (hid.symm.trans hid' ▸ hdrawn')
  refine ⟨⟨fun he => hne ?_, fun ht => hne ?_⟩, ⟨a', ha', hid, hemail, htelephone⟩,
    b', hb', hid', hemail', htelephone'⟩
  · exact q.shared.users.emails.eq ha' hb' (hemail.trans (he.trans hemail'.symm))
  · exact q.shared.users.telephones.eq ha' hb' (htelephone.trans (ht.trans htelephone'.symm))

/-- The accounts of the first and the third. -/
def racers : Account × Account :=
  ({ Sample.adminAccount with email := some "u@shop", role := some "user" },
    { Sample.adminAccount with
      _id := 3, email := some "v@shop", telephone := some "08012345670", role := some "user" })

/-- The first and the third succeed, the second is refused at its commit. -/
theorem signUps_exclusive_race :
    (race.procs 1).loc.sent.map Answer.status = [500] ∧
      (racers.1.email ≠ racers.2.email ∧ racers.1.telephone ≠ racers.2.telephone) ∧
      (∃ a' ∈ race.shared.users.docs, SameContact a' racers.1) ∧
      ∃ b' ∈ race.shared.users.docs, SameContact b' racers.2 :=
  ⟨by decide +kernel, signUps_exclusive (by decide) interleaves_race (i := 0) (j := 2) (by decide)
    (by decide +kernel) (by decide +kernel)⟩

end Interleavings

end InventoryHero.Accounts
