import InventoryHero.Model.Server

/-!
# Requests under interference

When requests are interleaved, a handler meets a database that others may have changed before each
of its operations. What it still controls is its own session: which writes it has collected, and
from which reads it computed them (`Working`). The guarantee `Acts P` says that an operation of a
handler leaves the committed store alone, except for a commit, whose writes satisfy `P` for the
reads made so far. The rules here prove this guarantee for a handler operation by operation
(`Prog.Ensures sem (Acts P)`).
-/

set_option autoImplicit false

namespace InventoryHero.Concurrent

open Interaction Storage Model

/-- The reads of a request, each with the store it saw. -/
abbrev Reads := List (Query × Store)

theorem lookup_cons_of_ne {q q' : Query} {s : Store} {reads : Reads} (h : q ≠ q') :
    List.lookup q ((q', s) :: reads) = reads.lookup q := by
  rw [List.lookup_cons, beq_false_of_ne h]

theorem mem_of_lookup {q : Query} {s : Store} {reads : Reads} (h : reads.lookup q = some s) :
    (q, s) ∈ reads := by
  obtain ⟨l₁, l₂, rfl, -⟩ := List.lookup_eq_some_iff.1 h
  simp

/-- The writes of a request that has committed. -/
def committed? (x : Exchange) : Option Writes :=
  match x.session with
  | .committed w => some w
  | _ => none

/-- What an operation of a request can do, if its commits write what `P` allows. -/
inductive Acts (P : Reads → Writes → Prop) (o : Op) (db : Db) (x : Exchange) (db' : Db)
    (x' : Exchange) : Prop
  /-- The committed store is not changed; before its commit, the request may read it. -/
  | quiet (store : db'.store = db.store) (session : committed? x' = committed? x)
      (reads : x'.reads = x.reads ∨
        committed? x = none ∧ ∃ q, x'.reads = x.reads ++ [(q, db.store)])
  /-- The writes of the transaction take effect. -/
  | commits (t : Txn) (commit : o = .commitTransaction) (open_ : x.session = .inProgress t)
      (planned : P x.reads t.writes) (conflicts : t.conflicts db = false)
      (accepted : db.store.accepts t.writes = true) (store : db'.store = db.store.apply t.writes)
      (session : committed? x' = some t.writes) (reads : x'.reads = x.reads)

/-- The transaction is open and has collected the writes `w`; the reads made so far are `R`. -/
structure Working (w : Writes) (R : Reads) (x : Exchange) : Prop where
  session : ∃ snap, x.session = .inProgress ⟨snap, w⟩
  reads : x.reads = R

theorem Working.committed {w : Writes} {R : Reads} {x : Exchange} (h : Working w R x) :
    committed? x = none := by
  obtain ⟨snap, hs⟩ := h.session
  simp [committed?, hs]

section Rules

variable {P : Reads → Writes → Prop} {α : Type} {Q : Except JsError α → Exchange → Prop}
  {x : Exchange} {w : Writes} {R : Reads}

/-! ## Operations without effect on the store -/

theorem ensures_read (hx : committed? x = none) {q : Query} {f : q.Result → Js α}
    (k : ∀ db : Db, (f (q.eval db.store)).Ensures sem (Acts P) Q
      { x with reads := x.reads ++ [(q, db.store)] }) :
    (read q >>= f).Ensures sem (Acts P) Q x :=
  fun db => ⟨.quiet rfl rfl (.inr ⟨hx, q, rfl⟩), k db⟩

theorem ensures_newId {f : ObjectId → Js α} (k : ∀ n, (f n).Ensures sem (Acts P) Q x) :
    (newId >>= f).Ensures sem (Acts P) Q x :=
  fun db => ⟨.quiet rfl rfl (.inl rfl), k db.nextId⟩

theorem ensures_now {f : Date → Js α} (k : ∀ d, (f d).Ensures sem (Acts P) Q x) :
    (now >>= f).Ensures sem (Acts P) Q x :=
  fun _ => ⟨.quiet rfl rfl (.inl rfl), k _⟩

/-- Responses do not touch the session, and it does not matter whether they are the first. -/
theorem acts_send (P : Reads → Writes → Prop) (r : Response) (db : Db) (x : Exchange) :
    Acts P (.send r) db x (execSend r db x).1 (execSend r db x).2.1 := by
  unfold execSend
  split <;> exact .quiet rfl rfl (.inl rfl)

theorem ensures_send {r : Response} (hQ : ∀ res x', Q res x')
    {f : Unit → Js α} (k : ∀ x', (f ()).Ensures sem (Acts P) Q x') :
    (send r >>= f).Ensures sem (Acts P) Q x := by
  intro db
  refine ⟨acts_send P r db x, ?_⟩
  simp only [sem, execSend]
  split
  · exact k _
  · exact hQ _ _

theorem ensures_abort (hQ : ∀ res x', Q res x') {f : Unit → Js α}
    (k : ∀ x', (f ()).Ensures sem (Acts P) Q x') :
    (abortTransaction >>= f).Ensures sem (Acts P) Q x := by
  intro db
  cases hs : x.session with
  | inProgress t =>
      simp only [sem, execAbort, hs]
      exact ⟨.quiet rfl (by simp [committed?, hs]) (.inl rfl), k _⟩
  | _ =>
      -- refused: there is no transaction to abort
      simp only [sem, execAbort, hs]
      exact ⟨.quiet rfl rfl (.inl rfl), hQ _ _⟩

/-! ## Operations of the transaction -/

theorem Working.read (h : Working w R x) {q : Query} {f : q.Result → Js α}
    (k : ∀ (db : Db) (x' : Exchange), Working w (R ++ [(q, db.store)]) x' →
      (f (q.eval db.store)).Ensures sem (Acts P) Q x') :
    (Model.read q >>= f).Ensures sem (Acts P) Q x :=
  ensures_read h.committed fun db => k db _ ⟨h.session, by rw [h.reads]⟩

/-- A response in the middle of the transaction. -/
theorem Working.send (h : Working w R x) {r : Response} {f : Unit → Js α}
    (herr : ∀ e x', Q (.error e) x') (k : ∀ x', Working w R x' → (f ()).Ensures sem (Acts P) Q x') :
    (Model.send r >>= f).Ensures sem (Acts P) Q x := by
  intro db
  refine ⟨acts_send P r db x, ?_⟩
  simp only [sem, execSend]
  split
  · exact k _ ⟨h.session, h.reads⟩
  · exact herr _ _

/-- A write of the transaction: refused, or collected as planned on some view of the store. -/
theorem Working.inSession (h : Working w R x) {c : Command} {f : c.Result → Js α}
    (herr : ∀ e x', Working w R x' → Q (.error e) x')
    (k : ∀ s w' r x', c.plan s = .ok (w', r) → Working (w ++ w') R x' →
      (f r).Ensures sem (Acts P) Q x') :
    (Model.inSession c >>= f).Ensures sem (Acts P) Q x := by
  obtain ⟨snap, hs⟩ := h.session
  intro db
  simp only [sem, execInSession, hs]
  -- the view may be any store: others can have committed before the snapshot was taken
  cases hp : c.plan (Txn.view ⟨snap, w⟩ db) with
  | error e =>
      obtain ⟨snap', href⟩ : ∃ snap', Txn.refuse ⟨snap, w⟩ e db = ⟨snap', w⟩ :=
        (Txn.refuse_cases _ _ _).elim (fun h => ⟨_, h⟩) fun h => ⟨_, h⟩
      exact ⟨.quiet rfl (by simp [committed?, hs]) (.inl rfl),
        herr _ _ ⟨⟨snap', congrArg Session.inProgress href⟩, h.reads⟩⟩
  | ok wr =>
      obtain ⟨w', r⟩ := wr
      by_cases ha : (Txn.view ⟨snap, w⟩ db).accepts w' = true
      · simp only [ha, if_true]
        exact ⟨.quiet rfl (by simp [committed?, hs]) (.inl rfl), k _ _ _ _ hp ⟨⟨_, rfl⟩, h.reads⟩⟩
      · simp only [ha]
        exact ⟨.quiet rfl (by simp [committed?, hs]) (.inl rfl), herr _ _ ⟨⟨_, rfl⟩, h.reads⟩⟩

theorem Working.inSession_last (h : Working w R x) {c : Command}
    {Q : Except JsError c.Result → Exchange → Prop}
    (herr : ∀ e x', Working w R x' → Q (.error e) x')
    (k : ∀ s w' r x', c.plan s = .ok (w', r) → Working (w ++ w') R x' → Q (.ok r) x') :
    (Model.inSession c).Ensures sem (Acts P) Q x := by
  rw [← Prog.bind_done (Model.inSession c)]
  exact h.inSession herr k

/-- The commit: it fails and changes nothing, or the collected writes take effect. -/
theorem Working.commit (h : Working w R x) {f : Unit → Js α}
    (hP : P R w) (hQ : ∀ res x', Q res x')
    (k : ∀ x', (f ()).Ensures sem (Acts P) Q x') :
    (commitTransaction >>= f).Ensures sem (Acts P) Q x := by
  obtain ⟨snap, hs⟩ := h.session
  intro db
  simp only [sem, execCommit, hs]
  cases x.env.commitFails with
  | true =>
      exact ⟨.quiet rfl (by simp [committed?, hs]) (.inl rfl), hQ _ _⟩
  | false =>
      -- only a commit without conflict changes the store
      cases hc : Txn.conflicts ⟨snap, w⟩ db with
      | true => exact ⟨.quiet rfl rfl (.inl rfl), hQ _ _⟩
      | false =>
          by_cases ha : db.store.accepts w = true
          · simp only [ha, if_true, Bool.false_eq_true, if_false]
            exact ⟨.commits ⟨snap, w⟩ rfl hs (h.reads ▸ hP) hc ha rfl rfl rfl, k _⟩
          · simp only [ha, Bool.false_eq_true, if_false]
            exact ⟨.quiet rfl rfl (.inl rfl), hQ _ _⟩

end Rules

/-! ## Whole handlers -/

section Handlers

variable {P : Reads → Writes → Prop} {x : Exchange}

/-- The handler acts as `P` allows, whatever the other requests do. -/
abbrev Follows (P : Reads → Writes → Prop) (prog : Js Unit) (x : Exchange) : Prop :=
  prog.Ensures sem (Acts P) (fun _ _ => True) x

theorem follows_send (r : Response) (x : Exchange) : Follows P (send r) x := by
  rw [← Prog.bind_done (send r)]
  exact ensures_send (fun _ _ => trivial) fun _ => trivial

theorem follows_pure (x : Exchange) : Follows P (pure ()) x := trivial

theorem follows_abort_send (r : Response) (x : Exchange) :
    Follows P (abortTransaction >>= fun _ => send r) x :=
  ensures_abort (fun _ _ => trivial) fun x' => follows_send r x'

/-- Every handler is a transaction with an error path that only sends a response. -/
theorem follows_withTransaction {body : Js Unit} {onError : JsError → Js Unit}
    (hx : committed? x = none) (hbody : ∀ x', Working {} x.reads x' → Follows P body x')
    (herr : ∀ e x', Follows P (onError e) x') : Follows P (withTransaction body onError) x := by
  refine Prog.Ensures.tryCatch (Q := fun _ _ => True) ?_ (fun _ _ h => h) fun e x' _ => ?_
  · refine fun db => ⟨.quiet rfl ?_ (.inl rfl), hbody _ ⟨⟨none, rfl⟩, rfl⟩⟩
    rw [hx]
    rfl
  · exact ensures_abort (fun _ _ => trivial) (herr e)

end Handlers

end InventoryHero.Concurrent
