import InventoryHero.Concurrent.Ids

/-!
# Records under concurrency

Sales and cost records are what reports are made of. However the requests are interleaved, a sale
that is in the store is never changed, a cost record keeps its product, its batch and its author,
and neither comes back once it is deleted (`records_write_once`). Every sale belongs to one request,
which has committed, and its fields are those that this request was given; no request records two
(`sales_attributed`).
-/

set_option autoImplicit false

namespace InventoryHero.Concurrent

open Interaction Storage Model

/-! ## Writes that respect records -/

/-- What a cost record refers to. -/
def links (cost : Cost) : ObjectId × ObjectId × Person :=
  (cost.product, cost.inventoryId, cost.createdBy)

/-- No sale is changed, and no cost record in what it refers to. -/
structure Respectful (w : Writes) : Prop where
  sales : ∀ k p, .modify k p ∉ w.sales
  costs : ∀ k p, .modify k p ∈ w.costs → ∀ cost, links (p.apply cost) = links cost

theorem respectful_empty : Respectful {} := ⟨by simp, by simp⟩

theorem Respectful.append {w w' : Writes} (h : Respectful w) (h' : Respectful w') :
    Respectful (w ++ w') := by
  constructor
  · intro k p hmem
    rcases List.mem_append.1 hmem with hmem | hmem
    · exact h.sales k p hmem
    · exact h'.sales k p hmem
  · intro k p hmem
    rcases List.mem_append.1 hmem with hmem | hmem
    · exact h.costs k p hmem
    · exact h'.costs k p hmem

/-- No command changes a sale; the update of a cost record sets its amounts and its date. -/
theorem respectful_plan {c : Command} {s : Store} {w : Writes} {r : c.Result}
    (h : c.plan s = .ok (w, r)) : Respectful w := by
  cases plan_writes h with
  | cost id data k =>
      refine ⟨nofun, fun k p hmem cost => ?_⟩
      obtain ⟨-, rfl⟩ : _ ∧ p = data.patch := by simpa using hmem
      rfl
  | deletes _ hc ps is ss cs ls => exact ⟨by simp, by simp⟩
  | _ => exact ⟨nofun, nofun⟩

/-- A document that the writes do not insert keeps what they respect. -/
theorem Respectful.keeps_sales {w : Writes} (h : Respectful w) {n : ObjectId}
    (hn : .sale n ∉ insertedKeys w) (R : Sale → Prop) :
    ∀ v ∈ w.sales, v.Keeps fun e => e._id = n → R e := by
  intro v hv
  cases v with
  | insert d =>
      rintro rfl
      exact absurd (by simpa [insertedKeys] using ⟨d, mem_inserted.2 hv, rfl⟩) hn
  | modify k p => exact absurd hv (h.sales k p)
  | delete k => trivial

theorem Respectful.keeps_costs {w : Writes} (h : Respectful w) {n : ObjectId}
    (hn : .cost n ∉ insertedKeys w) {R : Cost → Prop}
    (hR : ∀ cost cost', links cost' = links cost → R cost → R cost') :
    ∀ v ∈ w.costs, v.Keeps fun e => e._id = n → R e := by
  intro v hv
  cases v with
  | insert d =>
      rintro rfl
      exact absurd (by simpa [insertedKeys] using ⟨d, mem_inserted.2 hv, rfl⟩) hn
  | modify k p =>
      intro cost _ hcost hid
      exact hR cost _ (h.costs k p hv cost) (hcost ((p.key_apply cost).symm.trans hid))
  | delete k => trivial

/-! ## Records stay as they were stored -/

section Kept

variable {ι : Type} [DecidableEq ι] {calls : ι → WriteCall} {own : ObjectId → Option (Place ι)}

/-- The ids are in order, and what the transactions have collected respects the records. -/
structure Orderly (own : ObjectId → Option (Place ι)) (db : Db) (loc : ι → Exchange × Notes) :
    Prop extends Placed own db loc where
  respectful : ∀ i t, (loc i).1.session = .inProgress t → Respectful t.writes

/-- One step: the writes that take effect, if any, respect the records and insert no document that
the store has or had. -/
theorem Orderly.step {db : Db} {loc : ι → Exchange × Notes} {i : ι} {o : Op}
    (h : Orderly own db loc) (hmay : May (calls i).request (calls i).caller o (loc i)) :
    (∃ own', Moves i own own' ∧ Orderly own' (notedSem o db (loc i)).1
      (Function.update loc i (notedSem o db (loc i)).2.1)) ∧
    ((notedSem o db (loc i)).1.store = db.store ∨ ∃ w, Respectful w ∧
      (∀ k, own (docId k) = some (.stored k) → k ∉ insertedKeys w) ∧
      (notedSem o db (loc i)).1.store = db.store.apply w) := by
  constructor
  · obtain ⟨own', hmoves, hplaced⟩ := h.toPlaced.step hmay
    refine ⟨own', hmoves, hplaced, forall_locals
      (P := fun _ (x : Exchange × Notes) => ∀ t, x.1.session = .inProgress t →
        Respectful t.writes) ?_
      fun j _ => h.respectful j⟩
    exact pending_step db respectful_empty (fun _ _ => .append)
      (fun c s w r _ hp => respectful_plan hp) (h.respectful i)
  · cases store_step o db (loc i) with
    | same store => exact .inl store
    | commit t issued session store after =>
        refine .inr ⟨t.writes, h.respectful i t session, fun k hk hmem => ?_, store⟩
        have hpending := (h.claims i).pending t session k hmem
        simp [hk] at hpending
    | direct c w r issued plan store =>
        subst issued
        refine .inr ⟨w, respectful_plan plan, fun k _ hmem => ?_, store⟩
        rw [insertedKeys_plan plan, hmay.inserts_eq] at hmem
        cases hmem

/-- What respectful writes keep that do not insert the document `k` stays true from the moment that
`k` is stored. -/
theorem Conducted.kept {q : NotedRequests ι} (hq : Conducted calls q)
    (hown : Orderly own q.shared q.locals) {k : DocKey} (hk : own (docId k) = some (.stored k))
    {P : Store → Prop} (h₀ : P q.shared.store)
    (hP : ∀ s w, Respectful w → k ∉ insertedKeys w → P s → P (s.apply w)) {p : Requests ι}
    (h : Interleaves q.erase p) :
    ∃ q' own', q'.erase = p ∧ Conducted calls q' ∧ Orderly own' q'.shared q'.locals ∧
      own' (docId k) = some (.stored k) ∧ P q'.shared.store := by
  obtain ⟨q', hq', hconducted, own', hown', hk', hP'⟩ := hq.invariant
    (I := fun db loc => ∃ own', Orderly own' db loc ∧ own' (docId k) = some (.stored k) ∧
      P db.store) ⟨own, hown, hk, h₀⟩ (by
      rintro db loc i o hmay ⟨own', hown', hk', hdb⟩
      obtain ⟨⟨own'', hmoves, hown''⟩, hstore⟩ := hown'.step hmay
      refine ⟨own'', hown'', hmoves.stored hk', ?_⟩
      rcases hstore with hstore | ⟨w, hw, hnew, hstore⟩
      · rwa [hstore]
      · rw [hstore]
        exact hP _ w hw (hnew k hk') hdb) h
  exact ⟨q', own', hq', hconducted, hown', hk', hP'⟩

theorem orderly_of_interleaves {db₀ : Db} (h₀ : Distinct db₀) {p : Requests ι}
    (h : Interleaves (writers db₀ calls) p) :
    ∃ q own, q.erase = p ∧ Conducted calls q ∧ Orderly (ι := ι) own q.shared q.locals := by
  obtain ⟨own₀, hown₀⟩ := h₀.placed calls
  obtain ⟨q, hq, hconducted, own, hown⟩ := (conducted_writers db₀ calls).invariant
    (I := fun db loc => ∃ own, Orderly own db loc) ⟨own₀, hown₀, fun i t ht => by cases ht⟩ (by
      rintro db loc i o hmay ⟨own, hown⟩
      obtain ⟨⟨own', -, hown'⟩, -⟩ := hown.step hmay
      exact ⟨own', hown'⟩) h
  exact ⟨q, own, hq, hconducted, hown⟩

/-- A property of the sale `n`, and one of the links of the cost record `n`, that holds at one
moment holds from then on. -/
theorem Orderly.sale_kept {q : NotedRequests ι} (hq : Conducted calls q)
    (hown : Orderly own q.shared q.locals) {n : ObjectId}
    (hn : own n = some (.stored (.sale n))) {R : Sale → Prop}
    (hR : ∀ e ∈ q.shared.store.sales.docs, e._id = n → R e) {p : Requests ι}
    (h : Interleaves q.erase p) :
    ∃ q' own', q'.erase = p ∧ Conducted calls q' ∧ Orderly own' q'.shared q'.locals ∧
      own' n = some (.stored (.sale n)) ∧
      ∀ e ∈ q'.shared.store.sales.docs, e._id = n → R e :=
  hq.kept (k := .sale n) (P := fun s => ∀ e ∈ s.sales.docs, e._id = n → R e) hown hn hR
    (fun _ _ hw hnew hs => Collection.forall_writeAll hs (hw.keeps_sales hnew R)) h

theorem Orderly.cost_kept {q : NotedRequests ι} (hq : Conducted calls q)
    (hown : Orderly own q.shared q.locals) {n : ObjectId}
    (hn : own n = some (.stored (.cost n))) {R : Cost → Prop}
    (hlinks : ∀ cost cost', links cost' = links cost → R cost → R cost')
    (hR : ∀ e ∈ q.shared.store.costs.docs, e._id = n → R e) {p : Requests ι}
    (h : Interleaves q.erase p) :
    ∃ q' own', q'.erase = p ∧ Conducted calls q' ∧ Orderly own' q'.shared q'.locals ∧
      own' n = some (.stored (.cost n)) ∧
      ∀ e ∈ q'.shared.store.costs.docs, e._id = n → R e :=
  hq.kept (k := .cost n) (P := fun s => ∀ e ∈ s.costs.docs, e._id = n → R e) hown hn hR
    (fun _ _ hw hnew hs => Collection.forall_writeAll hs (hw.keeps_costs hnew hlinks)) h

/-- **Records are written once.** Let a run of interleaved requests pass through `p`, then `p'`,
then `p''`. A sale of `p` that is in the store at `p''` is still the same document, and was in the
store at `p'`; a cost record of `p` that is in the store at `p''` still has its product, its batch
and its author, and was in the store at `p'`. -/
theorem records_write_once {db₀ : Db} (h₀ : Distinct db₀) {p p' p'' : Requests ι}
    (h : Interleaves (writers db₀ calls) p) (h' : Interleaves p p') (h'' : Interleaves p' p'') :
    (∀ d ∈ p.shared.store.sales.docs, ∀ e ∈ p''.shared.store.sales.docs, e._id = d._id →
      e = d ∧ d ∈ p'.shared.store.sales.docs) ∧
    ∀ d ∈ p.shared.store.costs.docs, ∀ e ∈ p''.shared.store.costs.docs, e._id = d._id →
      links e = links d ∧ ∃ d' ∈ p'.shared.store.costs.docs, d'._id = d._id := by
  obtain ⟨q, own, rfl, hq, hown⟩ := orderly_of_interleaves h₀ h
  constructor
  · intro d hd e he hid
    have hn : own d._id = some (.stored (.sale d._id)) :=
      hown.stored (.sale d._id) (List.mem_map_of_mem hd)
    obtain ⟨q', own', rfl, hq', hown', hn', hsame⟩ := Orderly.sale_kept hq hown hn (R := (· = d))
      (fun e he hid => Collection.eq_of_key_eq he hd hid) h'
    constructor
    · obtain ⟨q'', -, rfl, -, -, -, hsame''⟩ := Orderly.sale_kept hq' hown' hn' hsame h''
      exact hsame'' e he hid
    · by_contra hgone
      -- then no sale has the id at `p'`, and none gets it
      obtain ⟨q'', -, rfl, -, -, -, hnone⟩ :=
        Orderly.sale_kept hq' hown' hn' (R := fun _ => False)
          (fun e he hid => hgone (hsame e he hid ▸ he)) h''
      exact hnone e he hid
  · intro d hd e he hid
    have hn : own d._id = some (.stored (.cost d._id)) :=
      hown.stored (.cost d._id) (List.mem_map_of_mem hd)
    obtain ⟨q', own', rfl, hq', hown', hn', hsame⟩ := Orderly.cost_kept hq hown hn
      (R := fun e => links e = links d) (fun _ _ hl h => hl.trans h)
      (fun e he hid => congrArg links (Collection.eq_of_key_eq he hd hid)) h'
    constructor
    · obtain ⟨q'', -, rfl, -, -, -, hsame''⟩ :=
        Orderly.cost_kept hq' hown' hn' (fun _ _ hl h => hl.trans h) hsame h''
      exact hsame'' e he hid
    · by_contra hgone
      obtain ⟨q'', -, rfl, -, -, -, hnone⟩ :=
        Orderly.cost_kept hq' hown' hn' (R := fun _ => False) (fun _ _ _ h => h)
          (fun e he hid => hgone ⟨e, he, hid⟩) h''
      exact hnone e he hid

end Kept

/-- The first sale is in the store when the other is carried out, and when the purchase is. -/
theorem records_write_once_busyRun :
    ((∀ d ∈ busyRun.shared.store.sales.docs,
        ∀ e ∈ (follow [3, 3] (follow [2, 2, 2, 2, 2] busyRun)).shared.store.sales.docs,
        e._id = d._id → e = d ∧ d ∈ (follow [2, 2, 2, 2, 2] busyRun).shared.store.sales.docs) ∧
      ∀ d ∈ busyRun.shared.store.costs.docs,
        ∀ e ∈ (follow [3, 3] (follow [2, 2, 2, 2, 2] busyRun)).shared.store.costs.docs,
        e._id = d._id → links e = links d ∧
          ∃ d' ∈ (follow [2, 2, 2, 2, 2] busyRun).shared.store.costs.docs, d'._id = d._id) ∧
    busyRun.shared.store.sales.docs.map (·.quantity) = [3] ∧
    (follow [3, 3] (follow [2, 2, 2, 2, 2] busyRun)).shared.store.sales.docs.map (·.quantity) =
      [3, 5] :=
  ⟨records_write_once (distinct_of_isEmpty Sample.isEmpty) interleaves_busyRun
    (interleaves_follow _ _) (interleaves_follow _ _), by decide +kernel, by decide +kernel⟩

/-! ## Every sale belongs to a request -/

/-- A command that does not save a sale plans no insertion of one. -/
theorem inserted_sales_plan {c : Command} {s : Store} {w : Writes} {r : c.Result}
    (h : c.plan s = .ok (w, r)) : inserted w.sales = (saves? c).toList := by
  by_cases hc : ∃ d, c = .saveSale d
  · obtain ⟨d, rfl⟩ := hc
    obtain ⟨-, rfl⟩ := plan_saveSale h
    rfl
  · have hsaves : saves? c = none := by
      cases c with
      | saveSale d => exact absurd ⟨d, rfl⟩ hc
      | _ => rfl
    rw [hsaves, Option.toList_none, List.eq_nil_iff_forall_not_mem]
    intro d hd
    have hkey : .sale d._id ∈ insertedKeys w := by
      simpa [insertedKeys] using ⟨d, hd, rfl⟩
    rw [insertedKeys_plan h] at hkey
    cases c with
    | saveSale d => exact hc ⟨d, rfl⟩
    | _ => simp [inserts] at hkey

/-- The request is the sale `d`. -/
def Records (call : WriteCall) (x : Exchange) (d : Sale) : Prop :=
  ∃ id body, call.request = .stock (.recordSales id body) ∧ SaleOf x call.caller id body d

section Attribution

variable {ι : Type} [DecidableEq ι] {calls : ι → WriteCall}

theorem reads_step (o : Op) (db : Db) (x : Exchange × Notes) :
    ∀ e ∈ x.1.reads, e ∈ (notedSem o db x).2.1.1.reads := by
  intro e he
  cases o with
  | read q => exact List.mem_append_left _ he
  | _ =>
      simp only [notedSem, Sem.ghost, sem, execInSession, execDirect, execCommit, execAbort,
        execSend, execDestroy]
      repeat' split
      all_goals exact he

theorem Records.step {call : WriteCall} {x : Exchange × Notes} {d : Sale}
    (h : Records call x.1 d) (o : Op) (db : Db) : Records call (notedSem o db x).2.1.1 d := by
  have hseen {s : Store} : Seen x.1 s → Seen (notedSem o db x).2.1.1 s := fun ⟨q, hq⟩ =>
    ⟨q, reads_step o db x _ hq⟩
  obtain ⟨id, body, hcall, hd⟩ := h
  refine ⟨id, body, hcall, hd.product, ?_, ?_⟩
  · obtain ⟨data, hv, hpack, hppu, hcost, hdate, s, p, hs, hp, hq⟩ := hd.fields
    exact ⟨data, hv, hpack, hppu, hcost, hdate, s, p, hseen hs, hp, hq⟩
  · obtain ⟨s, user, hs, huser, hby⟩ := hd.seller
    exact ⟨s, user, hseen hs, huser, hby⟩

/-- What is known of the sales of one request: it has saved one at most, and inserts no other. -/
structure Sells (call : WriteCall) (x : Exchange × Notes) : Prop where
  sold : ∀ d ∈ x.2.sold, Records call x.1 d
  once : ∀ d ∈ x.2.sold, ∀ d' ∈ x.2.sold, d = d'
  pending : ∀ t, x.1.session = .inProgress t → ∀ d ∈ inserted t.writes.sales, d ∈ x.2.sold
  committed : ∀ w, committed? x.1 = some w → ∀ d ∈ inserted w.sales, d ∈ x.2.sold

theorem Issues.sold {x : Exchange} {notes : Notes} {caller : Caller} {request : Request}
    {c : Command} (h : Issues x notes caller request c) {d : Sale} (hd : saves? c = some d) :
    notes.sold = [] ∧ ∃ id body, request = .recordSales id body ∧ SaleOf x caller id body d := by
  cases h with
  | sale d' drawn first recorded =>
      cases hd
      exact ⟨first, _, _, rfl, recorded⟩
  | _ => cases hd

theorem Sells.step {call : WriteCall} {x : Exchange × Notes} (h : Sells call x) {o : Op}
    (hmay : May call.request call.caller o x) (db : Db) :
    Sells call (notedSem o db x).2.1 := by
  -- the sales in the notes: those before, and the one that is saved now
  have hsold : (notedSem o db x).2.1.2.sold = x.2.sold ∨
      ∃ c d, o = .inSession c ∧ saves? c = some d ∧ x.2.sold = [] ∧ Records call x.1 d ∧
        (notedSem o db x).2.1.2.sold = [d] := by
    cases o with
    | inSession c =>
        obtain ⟨r, hr, hc⟩ := hmay
        cases hd : saves? c with
        | none => exact .inl (by simp [notedSem, Sem.ghost, Notes.log, hd])
        | some d =>
            obtain ⟨hnil, id, body, rfl, hof⟩ := hc.sold hd
            exact .inr ⟨c, d, rfl, hd, hnil, ⟨id, body, hr, hof⟩,
              by simp [notedSem, Sem.ghost, Notes.log, hd, hnil]⟩
    | _ => exact .inl rfl
  have hsub : ∀ d ∈ x.2.sold, d ∈ (notedSem o db x).2.1.2.sold := by
    rcases hsold with hsold | ⟨c, d, -, -, hnil, -, -⟩
    · simp [hsold]
    · simp [hnil]
  refine ⟨fun d hd => ?_, ?_, ?_, fun w hw d hd => ?_⟩
  · rcases hsold with hsold | ⟨c, d', -, -, -, hrec, hsold⟩
    · exact (h.sold d (hsold ▸ hd)).step o db
    · rw [hsold, List.mem_singleton] at hd
      exact hd ▸ hrec.step o db
  · rcases hsold with hsold | ⟨c, d', -, -, -, -, hsold⟩
    · exact hsold ▸ h.once
    · intro d hd e he
      rw [hsold, List.mem_singleton] at hd he
      rw [hd, he]
  · refine pending_step db (P := fun w => ∀ d ∈ inserted w.sales, d ∈ (notedSem o db x).2.1.2.sold)
      (List.forall_mem_nil _) ?_ ?_ fun t ht d hd => hsub d (h.pending t ht d hd)
    · intro w w' hw hw' d hd
      rw [Writes.sales_append, inserted_append] at hd
      exact (List.mem_append.1 hd).elim (hw d) (hw' d)
    · rintro c s w r rfl hp d hd
      rw [inserted_sales_plan hp] at hd
      rcases hsold with hsold | ⟨c', d', hc, hd', -, -, hsold⟩
      · -- a sale that is saved is noted
        simp only [notedSem, Sem.ghost, Notes.log]
        exact List.mem_append_left _ hd
      · cases hc
        simpa [hsold, hd'] using hd
  · rcases committed_step db hmay with hsame | ⟨-, t, ht, hc⟩
    · exact hsub d (h.committed w (hsame ▸ hw) d hd)
    · obtain rfl : t.writes = w := Option.some.inj (hc.symm.trans hw)
      exact hsub d (h.pending t ht d hd)

/-- The sale was there at the start, or was inserted by a request that has committed. -/
def Accounted (db₀ : Db) (loc : ι → Exchange × Notes) (d : Sale) : Prop :=
  d ∈ db₀.store.sales.docs ∨ ∃ i w, committed? (loc i).1 = some w ∧ d ∈ inserted w.sales

/-- Every sale of the store is accounted for. -/
structure Attributed (db₀ : Db) (calls : ι → WriteCall) (db : Db) (loc : ι → Exchange × Notes) :
    Prop where
  sells : ∀ i, Sells (calls i) (loc i)
  respectful : ∀ i t, (loc i).1.session = .inProgress t → Respectful t.writes
  stored : ∀ d ∈ db.store.sales.docs, Accounted db₀ loc d

theorem Attributed.step {db₀ db : Db} {loc : ι → Exchange × Notes}
    (h : Attributed db₀ calls db loc) {i : ι} {o : Op}
    (hmay : May (calls i).request (calls i).caller o (loc i)) :
    Attributed db₀ calls (notedSem o db (loc i)).1
      (Function.update loc i (notedSem o db (loc i)).2.1) := by
  refine ⟨forall_locals (P := fun i x => Sells (calls i) x) ((h.sells i).step hmay db)
      fun j _ => h.sells j, forall_locals
      (P := fun _ (x : Exchange × Notes) => ∀ t, x.1.session = .inProgress t →
        Respectful t.writes)
      (pending_step db respectful_empty (fun _ _ => .append)
        (fun c s w r _ hp => respectful_plan hp) (h.respectful i)) fun j _ => h.respectful j, ?_⟩
  -- a request that has committed remains so
  have hstays {d : Sale} (h : Accounted db₀ loc d) :
      Accounted db₀ (Function.update loc i (notedSem o db (loc i)).2.1) d := by
    refine h.imp_right ?_
    rintro ⟨j, w, hw, hd⟩
    refine ⟨j, w, ?_, hd⟩
    by_cases hj : j = i
    · subst hj
      rw [Function.update_self]
      rcases committed_step db hmay with hsame | ⟨-, t, ht, -⟩
      · exact hsame.trans hw
      · simp [committed?, ht] at hw
    · rwa [Function.update_of_ne hj]
  cases store_step o db (loc i) with
  | same store =>
      rw [store]
      exact fun d hd => hstays (h.stored d hd)
  | commit t issued session store after =>
      rw [store]
      refine Collection.forall_writeAll (Q := Accounted db₀ _) (fun d hd => hstays (h.stored d hd))
        fun v hv => ?_
      cases v with
      | insert d =>
          exact .inr ⟨i, t.writes, by rw [Function.update_self]; exact after, mem_inserted.2 hv⟩
      | modify k p => exact absurd hv ((h.respectful i t session).sales k p)
      | delete k => trivial
  | direct c w r issued plan store =>
      subst issued
      rw [store]
      refine Collection.forall_writeAll (Q := Accounted db₀ _) (fun d hd => hstays (h.stored d hd))
        fun v hv => ?_
      cases v with
      | insert d =>
          have hd : .sale d._id ∈ insertedKeys w := by
            simpa [insertedKeys] using ⟨d, mem_inserted.2 hv, rfl⟩
          rw [insertedKeys_plan plan, hmay.inserts_eq] at hd
          cases hd
      | modify k p => exact absurd hv ((respectful_plan plan).sales k p)
      | delete k => trivial

/-- **Every sale belongs to one request.** After every interleaving, a sale in the store was there
at the start, or there is a request that recorded it: a `recordSales` that has committed, for the
product and with the amounts, the date and the seller that the sale has. No request has recorded
two. -/
theorem sales_attributed {db₀ : Db} {p : Requests ι} (h : Interleaves (writers db₀ calls) p) :
    (∀ d ∈ p.shared.store.sales.docs, d ∈ db₀.store.sales.docs ∨
      ∃ i w id body, committed? (p.procs i).loc = some w ∧ .insert d ∈ w.sales ∧
        (calls i).request = .stock (.recordSales id body) ∧
        SaleOf (p.procs i).loc (calls i).caller id body d) ∧
    ∀ i w d d', committed? (p.procs i).loc = some w → .insert d ∈ w.sales →
      .insert d' ∈ w.sales → d = d' := by
  have hinit : Attributed db₀ calls db₀ ((writers db₀ calls).withGhost .init).locals :=
    ⟨fun i => ⟨List.forall_mem_nil _, List.forall_mem_nil _, fun t ht => (by cases ht),
        fun w hw => (by cases hw)⟩,
      fun i t ht => (by cases ht), fun d hd => .inl hd⟩
  obtain ⟨q, rfl, -, hq⟩ := (conducted_writers db₀ calls).invariant
    (I := Attributed db₀ calls) hinit (fun _ _ _ _ hmay h => h.step hmay) h
  constructor
  · intro d hd
    refine (hq.stored d hd).imp_right ?_
    rintro ⟨i, w, hw, hins⟩
    obtain ⟨id, body, hcall, hof⟩ := (hq.sells i).sold d ((hq.sells i).committed w hw d hins)
    exact ⟨i, w, id, body, hw, mem_inserted.1 hins, hcall, hof⟩
  · intro i w d d' hw hd hd'
    have hmem := (hq.sells i).committed w hw d (mem_inserted.2 hd)
    have hmem' := (hq.sells i).committed w hw d' (mem_inserted.2 hd')
    exact (hq.sells i).once d hmem d' hmem'

end Attribution

theorem sales_attributed_busyEnd :
    ((∀ d ∈ busyEnd.shared.store.sales.docs, d ∈ Sample.db.store.sales.docs ∨
        ∃ i w id body, committed? (busyEnd.procs i).loc = some w ∧ .insert d ∈ w.sales ∧
          (busyCalls i).request = .stock (.recordSales id body) ∧
          SaleOf (busyEnd.procs i).loc (busyCalls i).caller id body d) ∧
      ∀ i w d d', committed? (busyEnd.procs i).loc = some w → .insert d ∈ w.sales →
        .insert d' ∈ w.sales → d = d') ∧
    busyEnd.shared.store.sales.docs.map (·.quantity) = [3, 5] :=
  ⟨sales_attributed interleaves_busyEnd, by decide +kernel⟩

end InventoryHero.Concurrent
