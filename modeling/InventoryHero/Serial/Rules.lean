import InventoryHero.Model.Server

/-!
# Rules for requests served one at a time

A request that runs with no other request in between sees one and the same committed store until
its own commit. `Opened` describes such a request in the middle of its transaction: which writes it
has issued so far and what it has sent. One rule per operation says how this description changes;
no rule mentions snapshots or the commit log, which play no role here.

A handler that opens a transaction leaves the database as its body does (`wp_withTransaction`),
since its catch block touches only the response.
-/

set_option autoImplicit false

namespace InventoryHero.Serial

open Interaction Storage Model

/-- A request in its transaction, served alone since the database was `db₀`: it has issued the
writes `w` and sent `sent`; the database is now `db` and its local state `x`. -/
structure Opened (db₀ : Db) (env : Env) (w : Writes) (sent : List Response) (db : Db)
    (x : Exchange) : Prop where
  store : db.store = db₀.store
  oplog : db.oplog = db₀.oplog
  next : db₀.nextId ≤ db.nextId
  session : ∃ snap, x.session = .inProgress ⟨snap, w⟩ ∧
    snap.getD (db₀.oplog.length, db₀.store) = (db₀.oplog.length, db₀.store)
  sent_eq : x.sent = sent
  env_eq : x.env = env

variable {db₀ db : Db} {env : Env} {w : Writes} {sent : List Response} {x : Exchange}
  {α : Type} {Q : Final Db Exchange JsError α → Prop}

/-- The state right after `startTransaction`. -/
theorem opened_start (db : Db) (x : Exchange) :
    Opened db x.env {} x.sent db { x with session := .inProgress ⟨none, {}⟩ } :=
  ⟨rfl, rfl, le_rfl, ⟨none, rfl, rfl⟩, rfl, rfl⟩

/-- The rule behind those for single operations: an operation, with its reply unwrapped by `g`. -/
theorem wp_issue {β : Type} {o : Op} {g : o.Reply → Js β} {f : β → Js α}
    (h : (g (sem o db x).2.2 >>= f).Wp sem Q (sem o db x).1 (sem o db x).2.1) :
    ((Prog.op (S := mongo) o >>= g) >>= f).Wp sem Q db x := h

/-- An operation with its reply unwrapped issues nothing else. -/
theorem only_issue {ε β : Type} {P : Op → Prop} {wrap : ε → JsError} {o : Op}
    {g : o.Reply → Except ε β} (h : P o) :
    ((Prog.op (S := mongo) o : Js o.Reply) >>= fun r => orThrow wrap (g r)).Only P := by
  refine .bind (.op h) fun r => ?_
  cases g r with
  | ok b => trivial
  | error e => trivial

namespace Opened

/-- Reads see the store the request started with. -/
theorem read (h : Opened db₀ env w sent db x) {q : Query} {f : q.Result → Js α}
    (k : ∀ x', Opened db₀ env w sent db x' → (f (q.eval db₀.store)).Wp sem Q db x') :
    (Model.read q >>= f).Wp sem Q db x := by
  have hx : Opened db₀ env w sent db { x with reads := x.reads ++ [(q, db.store)] } :=
    ⟨h.store, h.oplog, h.next, h.session, h.sent_eq, h.env_eq⟩
  have := k _ hx
  rw [← h.store] at this
  exact this

/-- A new id is the counter, which goes up by one. -/
theorem nextId (h : Opened db₀ env w sent db x) {f : ObjectId → Js α}
    (k : ∀ db', db'.nextId = db.nextId + 1 → Opened db₀ env w sent db' x →
      (f db.nextId).Wp sem Q db' x) :
    (Model.newId >>= f).Wp sem Q db x :=
  k { db with nextId := db.nextId + 1 } rfl
    ⟨h.store, h.oplog, h.next.trans (Nat.le_succ _), h.session, h.sent_eq, h.env_eq⟩

/-- A new id is none of those handed out before. -/
theorem newId (h : Opened db₀ env w sent db x) {f : ObjectId → Js α}
    (k : ∀ n db', db.nextId ≤ n → n < db'.nextId → Opened db₀ env w sent db' x →
      (f n).Wp sem Q db' x) :
    (Model.newId >>= f).Wp sem Q db x :=
  h.nextId fun db' hn h' => k db.nextId db' le_rfl (hn ▸ Nat.lt_succ_self _) h'

theorem now (h : Opened db₀ env w sent db x) {f : Date → Js α}
    (k : (f env.now).Wp sem Q db x) : (Model.now >>= f).Wp sem Q db x := by
  rw [← h.env_eq] at k
  exact k

/-- A write in the session is planned on the store with the writes issued before it. It fails only
if the plan is refused. -/
theorem inSession (h : Opened db₀ env w sent db x) {c : Command} {f : c.Result → Js α}
    (herr : ∀ e x', (∀ w' r, c.plan (db₀.store.apply w) = .ok (w', r) →
        (db₀.store.apply w).accepts w' = false) →
      Opened db₀ env w sent db x' → Q ⟨db, x', .error e⟩)
    (k : ∀ w' r x', c.plan (db₀.store.apply w) = .ok (w', r) →
      (db₀.store.apply w).accepts w' = true → Opened db₀ env (w ++ w') sent db x' →
      (f r).Wp sem Q db x') :
    (Model.inSession c >>= f).Wp sem Q db x := by
  obtain ⟨snap, hs, hsnap⟩ := h.session
  -- no commit since the start: the snapshot, taken now or before, is the initial store
  have hbegin : Txn.begin ⟨snap, w⟩ db = (db₀.oplog.length, db₀.store) := by
    simp only [Txn.begin, h.oplog, h.store, hsnap]
  have hview : Txn.view ⟨snap, w⟩ db = db₀.store.apply w := by
    simp only [Txn.view, hbegin]
  have hopen : ∀ w', Opened db₀ env w' sent db
      { x with session := .inProgress ⟨some (db₀.oplog.length, db₀.store), w'⟩ } := fun w' =>
    ⟨h.store, h.oplog, h.next, ⟨_, rfl, rfl⟩, h.sent_eq, h.env_eq⟩
  refine wp_issue ?_
  simp only [sem, execInSession, hs, hbegin, hview]
  -- the plan is refused, its insertions clash with documents in the store, or it is collected
  cases hp : c.plan (db₀.store.apply w) with
  | error e =>
      refine herr _ _ (fun w' r hok => by simp [hp] at hok) ?_
      rcases Txn.refuse_cases ⟨snap, w⟩ e db with href | href
      · exact ⟨h.store, h.oplog, h.next, ⟨snap, congrArg Session.inProgress href, hsnap⟩, h.sent_eq,
          h.env_eq⟩
      · exact ⟨h.store, h.oplog, h.next, ⟨_, congrArg Session.inProgress href, hbegin⟩, h.sent_eq,
          h.env_eq⟩
  | ok wr =>
      obtain ⟨w', r⟩ := wr
      by_cases ha : (db₀.store.apply w).accepts w' = true
      · simp only [ha, if_true]
        exact k w' r _ hp ha (hopen _)
      · simp only [ha]
        refine herr _ _ (fun w'' r'' hok => ?_) (hopen w)
        rw [hp] at hok
        cases hok
        simpa using ha

/-- The same rule for a write that ends a program. -/
theorem inSession_last (h : Opened db₀ env w sent db x) {c : Command}
    {Q : Final Db Exchange JsError c.Result → Prop}
    (herr : ∀ e x', (∀ w' r, c.plan (db₀.store.apply w) = .ok (w', r) →
        (db₀.store.apply w).accepts w' = false) →
      Opened db₀ env w sent db x' → Q ⟨db, x', .error e⟩)
    (k : ∀ w' r x', c.plan (db₀.store.apply w) = .ok (w', r) →
      (db₀.store.apply w).accepts w' = true → Opened db₀ env (w ++ w') sent db x' →
      Q ⟨db, x', .ok r⟩) :
    (Model.inSession c).Wp sem Q db x := by
  rw [← Prog.bind_done (Model.inSession c)]
  exact h.inSession herr k

/-- A write whose plan is accepted is added to those of the transaction. -/
theorem write (h : Opened db₀ env w sent db x) {c : Command} {f : c.Result → Js α} {w' : Writes}
    {r : c.Result} (hplan : c.plan (db₀.store.apply w) = .ok (w', r))
    (hacc : (db₀.store.apply w).accepts w' = true)
    (k : ∀ x', Opened db₀ env (w ++ w') sent db x' → (f r).Wp sem Q db x') :
    (Model.inSession c >>= f).Wp sem Q db x := by
  refine h.inSession (fun e x' href _ => ?_) fun w₁ r₁ x' hplan₁ _ h₁ => ?_
  · exact absurd (href _ _ hplan) (by simp [hacc])
  · rw [hplan] at hplan₁
    cases hplan₁
    exact k x' h₁

/-- A write whose plan is refused throws. -/
theorem refuse (h : Opened db₀ env w sent db x) {c : Command} {f : c.Result → Js α} {e : MongoError}
    (hplan : c.plan (db₀.store.apply w) = .error e)
    (k : ∀ e' x', Opened db₀ env w sent db x' → Q ⟨db, x', .error e'⟩) :
    (Model.inSession c >>= f).Wp sem Q db x := by
  refine h.inSession (fun e' x' _ h' => k e' x' h') fun w₁ r₁ x' hplan₁ _ _ => ?_
  rw [hplan] at hplan₁
  cases hplan₁

/-- A commit fails from outside, after which the transaction is over; or the store does not accept
the writes; or all writes of the transaction become visible. -/
theorem commit_cases (h : Opened db₀ env w sent db x) {f : Unit → Js α}
    (hfails : env.commitFails = true → ∀ e x', x'.session = .aborted → x'.sent = sent →
      Q ⟨db, x', .error e⟩)
    (hrefused : db₀.store.accepts w = false → ∀ e x', x'.sent = sent → Q ⟨db, x', .error e⟩)
    (k : env.commitFails = false → db₀.store.accepts w = true → ∀ db' x',
      db'.store = db₀.store.apply w → db'.nextId = db.nextId → x'.session = .committed w →
      x'.sent = sent → (f ()).Wp sem Q db' x') :
    (commitTransaction >>= f).Wp sem Q db x := by
  obtain ⟨snap, hs, hsnap⟩ := h.session
  have hbegin : Txn.begin ⟨snap, w⟩ db = (db₀.oplog.length, db₀.store) := by
    simp only [Txn.begin, h.oplog, h.store, hsnap]
  -- nothing was logged since the snapshot, so there is no conflict
  have hconf : Txn.conflicts ⟨snap, w⟩ db = false := by
    simp [Txn.conflicts, hbegin, h.oplog]
  refine wp_issue ?_
  simp only [sem, execCommit, hs, hconf, h.env_eq, h.store]
  cases hf : env.commitFails with
  | true => exact hfails hf _ _ rfl h.sent_eq
  | false =>
      by_cases ha : db₀.store.accepts w = true
      · simp only [ha, if_true]
        exact k hf ha _ _ rfl rfl rfl h.sent_eq
      · simp only [ha]
        exact hrefused (by simpa using ha) _ _ h.sent_eq

/-- A commit fails, or makes all writes of the transaction visible. -/
theorem commit (h : Opened db₀ env w sent db x) {f : Unit → Js α}
    (herr : ∀ e x', env.commitFails = true ∨ db₀.store.accepts w = false → x'.sent = sent →
      Q ⟨db, x', .error e⟩)
    (k : ∀ db' x', env.commitFails = false → db₀.store.accepts w = true →
      db'.store = db₀.store.apply w → db'.nextId = db.nextId → x'.session = .committed w →
      x'.sent = sent → (f ()).Wp sem Q db' x') :
    (commitTransaction >>= f).Wp sem Q db x :=
  h.commit_cases (fun hf e x' _ hsent => herr e x' (.inl hf) hsent)
    (fun ha e x' hsent => herr e x' (.inr ha) hsent) fun hf ha db' x' => k db' x' hf ha

/-- An abort discards the writes. -/
theorem abort (h : Opened db₀ env w sent db x) {f : Unit → Js α}
    (k : ∀ x', x'.session = .aborted → x'.sent = sent → (f ()).Wp sem Q db x') :
    (abortTransaction >>= f).Wp sem Q db x := by
  obtain ⟨snap, hs, -⟩ := h.session
  refine wp_issue ?_
  simp only [sem, execAbort, hs]
  exact k _ rfl h.sent_eq

/-- A response in the middle of the handler: the first one is sent, a second one throws. -/
theorem send (h : Opened db₀ env w sent db x) {r : Response} {f : Unit → Js α}
    (herr : sent ≠ [] → ∀ e, Q ⟨db, x, .error e⟩)
    (k : ∀ x', sent = [] → Opened db₀ env w [r] db x' → (f ()).Wp sem Q db x') :
    (Model.send r >>= f).Wp sem Q db x := by
  refine wp_issue ?_
  simp only [sem, execSend, h.sent_eq]
  by_cases hs : sent = []
  · simp only [hs, if_true]
    exact k _ hs ⟨h.store, h.oplog, h.next, h.session, rfl, h.env_eq⟩
  · simp only [hs]
    exact herr hs _

end Opened

/-- A read before the transaction. -/
theorem wp_read {q : Query} {f : q.Result → Js α}
    (h : (f (q.eval db.store)).Wp sem Q db { x with reads := x.reads ++ [(q, db.store)] }) :
    (Model.read q >>= f).Wp sem Q db x := h

/-- The last statement of a handler sends the response, unless one was sent before. -/
theorem wp_send {Q : Final Db Exchange JsError Unit → Prop} {r : Response}
    (h : ∀ x' res, x'.session = x.session → (x.sent = [] → x'.sent = [r] ∧ res = .ok ()) →
      (x.sent ≠ [] → x'.sent = x.sent) → Q ⟨db, x', res⟩) :
    (Model.send r).Wp sem Q db x := by
  unfold Prog.Wp Model.send
  rw [Prog.run_op_bind]
  simp only [sem, execSend]
  -- express refuses the second response of a request
  by_cases hs : x.sent = []
  · simp only [hs, if_true]
    exact h _ _ rfl (fun _ => ⟨rfl, rfl⟩) (fun hne => absurd hs hne)
  · simp only [hs]
    exact h _ _ rfl (fun he => absurd he hs) (fun _ => rfl)

/-! ## Handlers that open a transaction -/

/-- Rule for a handler with a transaction: its body starts in a fresh transaction, and an error of
the body is followed by an abort and the catch block. -/
theorem wp_withTransaction {Q : Final Db Exchange JsError Unit → Prop} {body : Js Unit}
    {onError : JsError → Js Unit}
    (h : ∀ x', Opened db x.env {} x.sent db x' → body.Wp sem (fun F => F.elim
      (fun a db' x' => Q ⟨db', x', .ok a⟩)
      (fun e db' x' => (abortTransaction >>= fun _ => onError e).Wp sem Q db' x')) db x') :
    (withTransaction body onError).Wp sem Q db x :=
  Prog.Wp.tryCatch (h _ (opened_start db x))

/-- The abort of a catch block. It is refused, and throws, when no transaction is open. -/
theorem wp_abort {f : Unit → Js α} (herr : ∀ e, Q ⟨db, x, .error e⟩)
    (k : ∀ x', x'.sent = x.sent → (f ()).Wp sem Q db x') :
    (abortTransaction >>= f).Wp sem Q db x := by
  refine wp_issue ?_
  simp only [sem, execAbort]
  -- after a commit that failed in the server the transaction is over as well
  cases x.session with
  | inProgress t => exact k _ rfl
  | idle => exact herr _
  | committed w => exact herr _
  | aborted => exact herr _

/-- The abort throws once the transaction is over. -/
theorem wp_abort_over {f : Unit → Js α} (hover : ∀ t, x.session ≠ .inProgress t)
    (h : ∀ e, Q ⟨db, x, .error e⟩) : (abortTransaction >>= f).Wp sem Q db x := by
  refine wp_issue ?_
  simp only [sem, execAbort]
  cases hs : x.session with
  | inProgress t => exact absurd hs (hover t)
  | idle => exact h _
  | committed w => exact h _
  | aborted => exact h _

/-- A program that leaves the database alone. -/
def Quiet (p : Js α) : Prop := ∀ db x, (p.run sem db x).shared = db

theorem quiet_send (r : Response) : Quiet (Model.send r) := by
  intro db x
  unfold Model.send
  rw [Prog.run_op_bind]
  simp only [sem, execSend]
  split <;> rfl

theorem quiet_abort {f : Unit → Js α} (hf : Quiet (f ())) : Quiet (abortTransaction >>= f) := by
  intro db x
  exact wp_abort (Q := fun F => F.shared = db) (fun _ => rfl) fun x' _ => hf db x'

/-- A handler with a transaction leaves the database as its body does. -/
theorem wp_withTransaction_shared {body : Js Unit} {onError : JsError → Js Unit} {P : Db → Prop}
    (hq : ∀ e, Quiet (onError e))
    (h : ∀ x', Opened db x.env {} x.sent db x' → body.Wp sem (fun F => P F.shared) db x') :
    (withTransaction body onError).Wp sem (fun F => P F.shared) db x := by
  refine wp_withTransaction fun x' hx => (h x' hx).mono ?_
  rintro ⟨db', x', r⟩ hP
  cases r with
  | ok a => exact hP
  | error e =>
      show P _
      -- the catch block runs on the database that the body left, and does not change it
      rw [quiet_abort (hq e)]
      exact hP

/-- A handler whose catch block sends nothing leaves the responses, too, as its body does. -/
theorem wp_withTransaction_silent {body : Js Unit} {P : Db → List Response → Prop}
    (h : ∀ x', Opened db x.env {} x.sent db x' →
      body.Wp sem (fun F => P F.shared F.loc.sent) db x') :
    (withTransaction body fun _ => pure ()).Wp sem (fun F => P F.shared F.loc.sent) db x := by
  refine wp_withTransaction fun x' hx => (h x' hx).mono ?_
  rintro ⟨db', x', r⟩ hP
  cases r with
  | ok a => exact hP
  | error e =>
      refine wp_abort (Q := fun F => P F.shared F.loc.sent) (fun _ => hP) fun x'' hsent => ?_
      show P db' x''.sent
      rw [hsent]
      exact hP

/-- The body of a transaction ends so that `P` holds of the database and the responses, whether or
not a catch block that sends `r e` after the error `e` comes to its answer. -/
def EndsSent (P : Db → List Response → Prop) (r : JsError → Response)
    (F : Final Db Exchange JsError Unit) : Prop :=
  F.elim (fun _ db' x' => P db' x'.sent)
    (fun e db' x' => P db' x'.sent ∧ (x'.sent = [] → P db' [r e]))

/-- A handler whose catch block sends `r e` after the error `e`: the response is then the one sent
before or, if there was none, `r e` or nothing. -/
theorem wp_withTransaction_send {body : Js Unit} {r : JsError → Response}
    {P : Db → List Response → Prop}
    (h : ∀ x', Opened db x.env {} x.sent db x' → body.Wp sem (EndsSent P r) db x') :
    (withTransaction body fun e => Model.send (r e)).Wp sem
      (fun F => P F.shared F.loc.sent) db x := by
  refine wp_withTransaction fun x' hx => (h x' hx).mono ?_
  rintro ⟨db', x', res⟩ hP
  cases res with
  | ok a => exact hP
  | error e =>
      obtain ⟨hkeep, hsend⟩ := hP
      refine wp_abort (Q := fun F => P F.shared F.loc.sent) (fun _ => hkeep) fun x₁ hsent => ?_
      refine wp_send (Q := fun F => P F.shared F.loc.sent) fun x₂ _ _ hfirst hlater => ?_
      rw [hsent] at hfirst hlater
      -- the catch block's response only goes out if the body has sent none
      by_cases hs : x'.sent = []
      · exact (hfirst hs).1 ▸ hsend hs
      · exact hlater hs ▸ hkeep

end InventoryHero.Serial
