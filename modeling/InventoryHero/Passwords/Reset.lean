import InventoryHero.Accounts.Effect
import InventoryHero.Interaction.History

/-!
# Password reset links

A link is a record in the cache under a random token. `verifyPassWordResetMail` looks the record up,
then the account by the email in the record, and stores the new password; it neither deletes the
record nor looks at which request stored it. Two properties fail for that reason. A token changes a
password as often as it is presented before it expires, and it changes the password of whoever holds
the email when it is presented, also if `signUpMagicLink` issued it. Each holds in the runs that
keep clear of this.
-/

set_option autoImplicit false

namespace InventoryHero.Passwords

open Interaction Storage Accounts
open Model (ObjectId)

variable {pk : Packages} {past : Past Call Site} {s : Site} {c : Call}

/-- The write of a password. -/
def isSecret : Written → Bool
  | .secret _ => true
  | _ => false

/-- The token of a reset. -/
def resetToken? : Request → Option String
  | .verifyPassWordResetMail token _ => some token
  | _ => none

/-- The request is a reset with the token `k` that changed a password. -/
def redeems (pk : Packages) (k : String) (e : Event Call Site) : Bool :=
  resetToken? e.act.request = some k && (serve pk e.act e.before).loc.wrote.any isSecret

/-- The request stored a record under the token `k`. -/
def stores (pk : Packages) (k : String) (e : Event Call Site) : Bool :=
  .cached k ∈ (serve pk e.act e.before).loc.wrote

/-! ## One request -/

/-- A request that writes a password has a target. -/
theorem target_of_secret {u : ObjectId} (h : .secret u ∈ (serve pk c s).loc.wrote) :
    ∃ user auth w, passwordTarget pk s c = some (user, auth, w) ∧ user._id = u := by
  have he := serve_effect pk c s
  generalize serveStep pk c s = s' at he
  generalize (serve pk c s).loc.sent = sent at he
  generalize (serve pk c s).loc.wrote = wrote at h he
  cases he with
  | password user auth w target answer =>
      obtain rfl : u = user._id := by simpa using h
      exact ⟨user, auth, w, target, rfl⟩
  | _ => simp at h

/-- The target of a reset is the account with the email of the record. -/
theorem passwordTarget_reset {k w : String} {user : Account} {auth : Auth}
    (hc : resetToken? c.request = some k) (h : passwordTarget pk s c = some (user, auth, w)) :
    ∃ ticket, s.getCache k c.env.now = some ticket ∧ s.users.byEmail ticket.email = some user := by
  obtain ⟨-, -, ⟨_, _, hrequest, -⟩ | ⟨k', ticket, hrequest, hget, huser⟩⟩ := passwordTarget_cases h
  · simp [hrequest, resetToken?] at hc
  · obtain rfl : k' = k := by simpa [hrequest, resetToken?] using hc
    exact ⟨ticket, hget, huser⟩

/-- A request stores a record and leaves the accounts as they are, or it leaves the cache. -/
theorem cache_step (pk : Packages) (c : Call) (s : Site) :
    (∃ email, AsksForLink pk s email c.request ∧ (serveStep pk c s).users = s.users ∧
      (serveStep pk c s).cache = ⟨c.env.generated, email, c.env.now + ticketTtl⟩ :: s.cache ∧
      ∀ k, stores pk k ⟨c, s⟩ = decide (k = c.env.generated)) ∨
    ((serveStep pk c s).cache = s.cache ∧ ∀ k, stores pk k ⟨c, s⟩ = false) := by
  have he := serve_effect pk c s
  unfold stores
  generalize serveStep pk c s = s' at he ⊢
  generalize (serve pk c s).loc.sent = sent at he
  generalize (serve pk c s).loc.wrote = wrote at he ⊢
  cases he with
  | cached email asks => exact .inl ⟨email, asks, rfl, rfl, by simp⟩
  | unchanged users auths cache next => exact .inr ⟨cache, by simp⟩
  | registered body data id signsUp valid free commits accepted new_id users auths cache =>
      exact .inr ⟨cache, by simp⟩
  | _ => exact .inr ⟨rfl, by simp⟩

/-! ## Records and the requests that stored them -/

/-- The last request that stored a record under the token `k`. -/
def lastIssue (pk : Packages) (k : String) (past : Past Call Site) : Option (Event Call Site) :=
  past.find? (stores pk k)

/-- Every record in the cache was asked for by the last request that stored one under its token, and
expires fifteen minutes after it. -/
theorem issued_of_cached {ok : Past Call Site → Call → Site → Prop}
    (h : Run (fun s => s.cache = []) ok (serveStep pk) past s) {k : String} {ticket : Ticket}
    (hk : (s.cache.find? fun t => t.token = k) = some ticket) :
    ∃ e, lastIssue pk k past = some e ∧ AsksForLink pk e.before ticket.email e.act.request ∧
      ticket.expires = e.act.env.now + ticketTtl := by
  revert hk
  refine h.invariant (I := fun past s => (s.cache.find? fun t => t.token = k) = some ticket →
    ∃ e, lastIssue pk k past = some e ∧ AsksForLink pk e.before ticket.email e.act.request ∧
      ticket.expires = e.act.env.now + ticketTtl) ?_ ?_
  · intro s hempty hk
    simp [hempty] at hk
  · intro past c s ih _ hk
    unfold lastIssue at ih ⊢
    rcases cache_step pk c s with ⟨email, hasks, -, hcache, hstores⟩ | ⟨hcache, hstores⟩
    · rw [hcache, List.find?_cons] at hk
      rw [List.find?_cons, hstores k]
      by_cases hnew : k = c.env.generated
      · subst hnew
        simp only [decide_true, Option.some.injEq] at hk ⊢
        subst hk
        exact ⟨_, rfl, hasks, rfl⟩
      · have hold : decide (c.env.generated = k) = false := decide_eq_false (Ne.symm hnew)
        simp only [hold] at hk
        simpa only [decide_eq_false hnew] using ih hk
    · rw [hcache] at hk
      rw [List.find?_cons, hstores k]
      exact ih hk

/-! ## Single use -/

/-- A reset that presents a token with which a password was changed before comes more than fifteen
minutes after the token was last issued. -/
def SpentTokensLate (pk : Packages) (past : Past Call Site) (c : Call) (_ : Site) : Prop :=
  (resetToken? c.request).elim True fun k =>
    past.any (redeems pk k) = true →
      (lastIssue pk k past).elim True fun e => e.act.env.now + ticketTtl < c.env.now

instance (pk : Packages) (past : Past Call Site) (c : Call) (s : Site) :
    Decidable (SpentTokensLate pk past c s) :=
  inferInstanceAs (Decidable ((resetToken? c.request).elim _ _))

/-- A reset that changes a password finds a record, so it comes in time. -/
theorem issued_in_time {ok : Past Call Site → Call → Site → Prop}
    (h : Run (fun s => s.cache = []) ok (serveStep pk) past s) {k : String}
    (hredeems : redeems pk k ⟨c, s⟩ = true) :
    ∃ e, lastIssue pk k past = some e ∧ c.env.now ≤ e.act.env.now + ticketTtl := by
  simp only [redeems, Bool.and_eq_true, decide_eq_true_eq, List.any_eq_true] at hredeems
  obtain ⟨htoken, written, hmem, hsecret⟩ := hredeems
  cases written with
  | secret u =>
      obtain ⟨user, auth, w, htarget, -⟩ := target_of_secret hmem
      obtain ⟨ticket, hget, -⟩ := passwordTarget_reset htoken htarget
      obtain ⟨hfind, hnow⟩ := Option.filter_eq_some_iff.1 hget
      obtain ⟨e, he, -, hexpires⟩ := issued_of_cached h hfind
      exact ⟨e, he, hexpires ▸ of_decide_eq_true hnow⟩
  | _ => cases hsecret

/-- A reset that changes a password comes first with its token. -/
theorem SpentTokensLate.unspent {ok : Past Call Site → Call → Site → Prop}
    (h : Run (fun s => s.cache = []) ok (serveStep pk) past s) (hc : SpentTokensLate pk past c s)
    {k : String} (hredeems : redeems pk k ⟨c, s⟩ = true) : past.countP (redeems pk k) = 0 := by
  obtain ⟨e, he, hintime⟩ := issued_in_time h hredeems
  have htoken : resetToken? c.request = some k := by
    simp only [redeems, Bool.and_eq_true, decide_eq_true_eq] at hredeems
    exact hredeems.1
  unfold SpentTokensLate at hc
  rw [htoken, Option.elim_some, he, Option.elim_some] at hc
  rw [List.countP_eq_zero]
  intro e' he' hspent
  exact absurd (hc (List.any_eq_true.2 ⟨e', he', hspent⟩)) (not_lt.2 hintime)

/-- Along a run in which no token that has changed a password is presented again within fifteen
minutes of its last issue, every token changes a password at most once. -/
theorem single_use
    (h : Run (fun s => s.cache = []) (SpentTokensLate pk) (serveStep pk) past s) (k : String) :
    past.countP (redeems pk k) ≤ 1 := by
  induction h with
  | start _ => exact Nat.zero_le 1
  | @next past s c hrun hok ih =>
      by_cases hredeems : redeems pk k ⟨c, s⟩ = true
      · rw [List.countP_cons_of_pos hredeems, hok.unspent hrun hredeems]
      · rw [List.countP_cons_of_neg hredeems]
        exact ih

/-- The user of the small site asks for a link and sets two new passwords with it. -/
def twoResets : List Call :=
  Sample.verifiedUser ++
    [⟨.forgotPassWord (some "u@shop"), {}, Sample.env 0 "reset"⟩,
      Sample.call (.verifyPassWordResetMail "reset" (some "password1")) 1000,
      Sample.call (.verifyPassWordResetMail "reset" (some "password2")) 899000]

/-- The second reset comes too late. -/
def lateReset : List Call :=
  Sample.verifiedUser ++
    [⟨.forgotPassWord (some "u@shop"), {}, Sample.env 0 "reset"⟩,
      Sample.call (.verifyPassWordResetMail "reset" (some "password1")) 1000,
      Sample.call (.verifyPassWordResetMail "reset" (some "password2")) 900001]

theorem single_use_late :
    (replay (serveStep Sample.packages) lateReset [] Sample.site).1.countP
      (redeems Sample.packages "reset") ≤ 1 := by
  have hstart : Run (fun s => s.cache = []) (SpentTokensLate Sample.packages)
      (serveStep Sample.packages) [] Sample.site := .start rfl
  exact single_use (hstart.replay lateReset (by decide +kernel)) "reset"

/-- Both resets of the user are accepted, and both change the password. -/
theorem token_used_twice :
    (replay (serveStep Sample.packages) twoResets [] Sample.site).1.countP
        (redeems Sample.packages "reset") = 2 ∧
    (replay (serveStep Sample.packages) twoResets [] Sample.site).2.auths.docs.map Auth.secret =
      ["password2"] := by
  decide +kernel

/-! ## Purpose and account -/

/-- The account `v` holds the email. -/
def Holds (s : Site) (email : Option String) (v : ObjectId) : Prop :=
  ∃ a ∈ s.users.docs, a._id = v ∧ a.email = email

/-- The account `v` came to hold the email by the request. -/
def Takes (pk : Packages) (email : Option String) (v : ObjectId) (e : Event Call Site) : Prop :=
  Holds (serveStep pk e.act e.before) email v ∧ ¬Holds e.before email v

/-- The requests since a record was last stored under the token `k`. -/
def sinceIssue (pk : Packages) (k : String) (past : Past Call Site) : Past Call Site :=
  past.takeWhile fun e => !stores pk k e

def isForgotPassWord : Request → Bool
  | .forgotPassWord _ => true
  | _ => false

/-- A reset that would change a password presents a token of `forgotPassWord`, and the account has
not come to hold the email since then, unless it held it at the time. -/
def InOrder (pk : Packages) (past : Past Call Site) (c : Call) (s : Site) : Prop :=
  (resetToken? c.request).elim True fun k =>
    (passwordTarget pk s c).elim True fun target =>
      (lastIssue pk k past).elim True fun e =>
        isForgotPassWord e.act.request = true ∧
          ∀ e' ∈ sinceIssue pk k past, Takes pk target.1.email target.1._id e' →
            Holds e.before target.1.email target.1._id

instance (s : Site) (email : Option String) (v : ObjectId) : Decidable (Holds s email v) :=
  inferInstanceAs (Decidable (∃ _ ∈ _, _))

instance (pk : Packages) (email : Option String) (v : ObjectId) :
    DecidablePred (Takes pk email v) := fun _ => inferInstanceAs (Decidable (_ ∧ _))

instance (pk : Packages) (past : Past Call Site) (c : Call) (s : Site) :
    Decidable (InOrder pk past c s) :=
  inferInstanceAs (Decidable ((resetToken? c.request).elim _ _))

/-- An account that holds an email held it when a record was stored, or took it since. -/
theorem held_or_taken {init : Site → Prop} {ok : Past Call Site → Call → Site → Prop}
    (h : Run init ok (serveStep pk) past s) {k : String} {e : Event Call Site}
    {email : Option String} {v : ObjectId} (he : lastIssue pk k past = some e)
    (hv : Holds s email v) :
    Holds e.before email v ∨ ∃ e' ∈ sinceIssue pk k past, Takes pk email v e' := by
  revert he hv
  refine h.invariant (I := fun past s => lastIssue pk k past = some e → Holds s email v →
    Holds e.before email v ∨ ∃ e' ∈ sinceIssue pk k past, Takes pk email v e') ?_ ?_
  · intro s _ he
    cases he
  · intro past c s ih _ he hv
    unfold lastIssue at he ih
    unfold sinceIssue at ih ⊢
    rw [List.find?_cons] at he
    cases hstores : stores pk k ⟨c, s⟩ with
    | true =>
        -- the request that stores the record does not touch the accounts
        rw [hstores] at he
        obtain rfl := Option.some.inj he
        rcases cache_step pk c s with ⟨-, -, husers, -, -⟩ | ⟨-, hnone⟩
        · left
          unfold Holds at hv ⊢
          rwa [husers] at hv
        · rw [hnone k] at hstores
          cases hstores
    | false =>
        rw [hstores] at he
        rw [List.takeWhile_cons_of_pos (by simpa using hstores)]
        by_cases hbefore : Holds s email v
        · rcases ih he hbefore with hheld | ⟨e', he', htakes⟩
          · exact .inl hheld
          · exact .inr ⟨e', List.mem_cons_of_mem _ he', htakes⟩
        · exact .inr ⟨⟨c, s⟩, List.mem_cons_self, hv, hbefore⟩

/-- Along a run of requests in order, whenever a reset changes the password of the account `u`, its
token was issued by a `forgotPassWord` made while `u` held the email it was issued for. -/
theorem reset_serves_its_account
    (h : Run (fun s => s.cache = []) (InOrder pk) (serveStep pk) past s)
    (hc : InOrder pk past c s) {k : String} {new : Option String}
    (hreset : c.request = .verifyPassWordResetMail k new) {u : ObjectId}
    (hu : .secret u ∈ (serve pk c s).loc.wrote) :
    ∃ e ∈ past, ∃ email, e.act.request = .forgotPassWord email ∧
      .cached k ∈ (serve pk e.act e.before).loc.wrote ∧ Holds e.before email u := by
  obtain ⟨user, auth, w, htarget, rfl⟩ := target_of_secret hu
  -- the record and the account that the reset finds
  obtain ⟨ticket, hticket, huser⟩ : ∃ ticket,
      (s.cache.find? fun t => t.token = k) = some ticket ∧
        s.users.byEmail ticket.email = some user := by
    obtain ⟨ticket, hfound, huser⟩ := passwordTarget_reset (by rw [hreset]; rfl) htarget
    exact ⟨ticket, (Option.filter_eq_some_iff.1 hfound).1, huser⟩
  obtain ⟨hmem, hemail⟩ := Users.byEmail_eq_some_iff.1 huser
  obtain ⟨e, he, hasks, -⟩ := issued_of_cached h hticket
  obtain ⟨hforgot, hintruder⟩ : isForgotPassWord e.act.request = true ∧
      ∀ e' ∈ sinceIssue pk k past, Takes pk user.email user._id e' →
        Holds e.before user.email user._id := by
    unfold InOrder at hc
    rw [hreset] at hc
    simpa only [resetToken?, Option.elim_some, htarget, he] using hc
  refine ⟨e, List.mem_of_find?_eq_some he, ticket.email, ?_, ?_, ?_⟩
  · generalize e.act.request = request at hasks hforgot ⊢
    cases hasks with
    | reset => rfl
    | verification => cases hforgot
  · simpa [stores] using List.find?_some he
  · rw [← hemail]
    rcases held_or_taken h he ⟨user, hmem, rfl, rfl⟩ with hheld | ⟨e', he', htakes⟩
    · exact hheld
    · exact hintruder e' he' htakes

/-- The user changes a password with a link that was asked for, after changing the email away and
back again. -/
def emailKept : List Call :=
  Sample.verifiedUser ++
    [⟨.forgotPassWord (some "u@shop"), {}, Sample.env 0 "reset"⟩,
      Sample.userCall (.updateUser { email := some (some "w@shop") }) 0,
      Sample.userCall (.updateUser { email := some (some "u@shop") }) 0]

theorem reset_serves_its_account_kept :
    ∃ e ∈ (replay (serveStep Sample.packages) emailKept [] Sample.site).1, ∃ email,
      e.act.request = .forgotPassWord email ∧
      .cached "reset" ∈ (serve Sample.packages e.act e.before).loc.wrote ∧
      Holds e.before email 1 := by
  have hstart : Run (fun s => s.cache = []) (InOrder Sample.packages) (serveStep Sample.packages) []
      Sample.site := .start rfl
  exact reset_serves_its_account
    (c := Sample.call (.verifyPassWordResetMail "reset" (some "password1")) 0)
    (hstart.replay emailKept (by decide +kernel)) (by decide +kernel) rfl (by decide +kernel)

/-- A second user signs up, and the first one gives up the email for which a link was asked; the
second one takes it. -/
def emailTaken : List Call :=
  Sample.verifiedUser ++
    [⟨.forgotPassWord (some "u@shop"), {}, Sample.env 0 "reset"⟩,
      Sample.userCall (.updateUser { email := some (some "w@shop") }) 0,
      Sample.call (Sample.signUp "u@shop" "08087654321" none) 0]

/-- The verification link of a user who never asked for a reset changes the user's password. The
link that the first user asked for changes the password of the second one, account `3`, which did
not exist when it was issued. -/
theorem link_serves_others :
    (Sample.verifiedUser.all fun c => !isForgotPassWord c.request) = true ∧
    (serve Sample.packages (Sample.call (.verifyPassWordResetMail "link" (some "password1")) 0)
        (replay (serveStep Sample.packages) Sample.verifiedUser [] Sample.site).2).loc.wrote =
      [.secret 1] ∧
    (serve Sample.packages (Sample.call (.verifyPassWordResetMail "reset" (some "password1")) 0)
        (replay (serveStep Sample.packages) emailTaken [] Sample.site).2).loc.wrote =
      [.secret 3] ∧
    ∀ e ∈ (replay (serveStep Sample.packages) emailTaken [] Sample.site).1,
      .cached "reset" ∈ (serve Sample.packages e.act e.before).loc.wrote →
        ¬∃ a ∈ e.before.users.docs, a._id = 3 := by
  decide +kernel

end InventoryHero.Passwords
