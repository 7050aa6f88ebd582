import InventoryHero.Concurrent.Runs
import InventoryHero.Storage.Inserts

/-!
# Ids under concurrency

A request draws an id from the counter, gives it to a document in its transaction, and the document
is stored when the transaction commits. Who has an id at a moment (`Place`) is a function of the id,
which no step of any request breaks (`Placed.step`): so an id is in one place only. No two documents
of the database get the same id, whatever their collections are, and no commit is refused because an
id is in use. Since an id that was stored never leaves that place, a deleted document does not come
back, and what no request changes in a document stays as it was stored.
-/

set_option autoImplicit false

namespace InventoryHero.Concurrent

open Interaction Storage Model

/-! ## Documents in the store and in a transaction -/

/-- The document is in the store. -/
def Holds (s : Store) : DocKey → Prop
  | .product id => id ∈ s.products.docs.map Keyed.key
  | .inventory id => id ∈ s.inventories.docs.map Keyed.key
  | .sale id => id ∈ s.sales.docs.map Keyed.key
  | .cost id => id ∈ s.costs.docs.map Keyed.key
  | .last id => id ∈ s.lasts.docs.map Keyed.key

/-- The documents that the writes insert. -/
def insertedKeys (w : Writes) : List DocKey :=
  ((inserted w.products).map Keyed.key).map .product ++
    ((inserted w.inventories).map Keyed.key).map .inventory ++
    ((inserted w.sales).map Keyed.key).map .sale ++
    ((inserted w.costs).map Keyed.key).map .cost ++
    ((inserted w.lasts).map Keyed.key).map .last

@[simp] theorem insertedKeys_empty : insertedKeys {} = [] := rfl

theorem insertedKeys_append (w w' : Writes) :
    (insertedKeys (w ++ w')).Perm (insertedKeys w ++ insertedKeys w') := by
  refine List.perm_iff_count.2 fun k => ?_
  simp only [insertedKeys, Writes.products_append, Writes.inventories_append, Writes.sales_append,
    Writes.costs_append, Writes.lasts_append, inserted_append, List.map_append, List.count_append]
  omega

theorem holds_apply {s : Store} {w : Writes} {k : DocKey} (h : Holds (s.apply w) k) :
    Holds s k ∨ k ∈ insertedKeys w := by
  cases k with
  | _ id =>
      obtain ⟨d, hd, rfl⟩ := List.mem_map.1 h
      refine (Collection.key_mem_writeAll hd).imp id fun hk => ?_
      simpa [insertedKeys] using hk

/-- Writes that insert distinct documents under new ids are accepted. -/
theorem accepts_of_insertedKeys {s : Store} {w : Writes} (hnew : ∀ k ∈ insertedKeys w, ¬Holds s k)
    (hnodup : (insertedKeys w).Nodup) : s.accepts w = true := by
  simp only [insertedKeys, List.nodup_append] at hnodup
  obtain ⟨⟨⟨⟨hp, hi, -⟩, hs, -⟩, hc, -⟩, hl, -⟩ := hnodup
  rw [Store.accepts_iff]
  refine ⟨Collection.acceptsAll_of_inserted (fun n hn => ?_) (hp.of_map _),
    Collection.acceptsAll_of_inserted (fun n hn => ?_) (hi.of_map _),
    Collection.acceptsAll_of_inserted (fun n hn => ?_) (hs.of_map _),
    Collection.acceptsAll_of_inserted (fun n hn => ?_) (hc.of_map _),
    Collection.acceptsAll_of_inserted (fun n hn => ?_) (hl.of_map _)⟩
  · exact hnew (.product n) (by simpa [insertedKeys] using hn)
  · exact hnew (.inventory n) (by simpa [insertedKeys] using hn)
  · exact hnew (.sale n) (by simpa [insertedKeys] using hn)
  · exact hnew (.cost n) (by simpa [insertedKeys] using hn)
  · exact hnew (.last n) (by simpa [insertedKeys] using hn)

theorem inserted_delete {α κ : Type} [Keyed α κ] (l : List κ) :
    inserted (l.map (DocWrite.delete (α := α))) = [] := by
  induction l with
  | nil => rfl
  | cons k rest ih => exact ih

/-- The plan of a command inserts the documents that the command saves. -/
theorem insertedKeys_plan {c : Command} {s : Store} {w : Writes} {r : c.Result}
    (h : c.plan s = .ok (w, r)) : insertedKeys w = inserts c := by
  cases plan_writes h with
  | deletes _ hc ps is ss cs ls => simp [insertedKeys, inserted_delete, hc]
  | _ => rfl

/-! ## Where an id is -/

/-- The places an id can be in: with a document of the store, with a document that the transaction
of a request inserts, or with a request that has drawn it. -/
inductive Place (ι : Type)
  | stored (k : DocKey)
  | pending (i : ι) (k : DocKey)
  | drawn (i : ι)

section Places

variable {ι : Type} {own own' : ObjectId → Option (Place ι)} {i j : ι}

/-- The ids that request `i` has are in its places. -/
structure Claims (own : ObjectId → Option (Place ι)) (i : ι) (x : Exchange × Notes) : Prop where
  pending : ∀ t, x.1.session = .inProgress t →
    ∀ k ∈ insertedKeys t.writes, own (docId k) = some (.pending i k)
  nodup : ∀ t, x.1.session = .inProgress t → (insertedKeys t.writes).Nodup
  drawn : ∀ n ∈ x.2.drawn, own n = some (.drawn i)

/-- The ids of the store are with their documents, and those to come in no place. -/
structure Filed (own : ObjectId → Option (Place ι)) (db : Db) : Prop where
  stored : ∀ k, Holds db.store k → own (docId k) = some (.stored k)
  beyond : ∀ n, db.nextId ≤ n → own n = none

/-- Every id is where `own` says. -/
structure Placed (own : ObjectId → Option (Place ι)) (db : Db) (loc : ι → Exchange × Notes) :
    Prop extends Filed own db where
  claims : ∀ i, Claims own i (loc i)

/-- Request `i` moves no id but its own. -/
def Moves (i : ι) (own own' : ObjectId → Option (Place ι)) : Prop :=
  ∀ n, own' n = own n ∨ own n = none ∨ own n = some (.drawn i) ∨ ∃ k, own n = some (.pending i k)

theorem Moves.refl (i : ι) (own : ObjectId → Option (Place ι)) : Moves i own own :=
  fun _ => .inl rfl

theorem Moves.stored (h : Moves i own own') {n : ObjectId} {k : DocKey}
    (hn : own n = some (.stored k)) : own' n = some (.stored k) := by
  rcases h n with h | h | h | ⟨k', h⟩
  · exact h.trans hn
  · simp [h] at hn
  · simp [h] at hn
  · simp [h] at hn

/-- The other requests keep their claims. -/
theorem Claims.moved {x : Exchange × Notes} (hj : Claims own j x) (h : Moves i own own')
    (hne : j ≠ i) : Claims own' j x := by
  refine ⟨fun t ht k hk => ?_, hj.nodup, fun n hn => ?_⟩
  · have hown := hj.pending t ht k hk
    rcases h (docId k) with h | h | h | ⟨k', h⟩
    · exact h.trans hown
    · simp [h] at hown
    · simp [h] at hown
    · rw [h] at hown
      simp only [Option.some.injEq, Place.pending.injEq] at hown
      exact absurd hown.1.symm hne
  · have hown := hj.drawn n hn
    rcases h n with h | h | h | ⟨k', h⟩
    · exact h.trans hown
    · simp [h] at hown
    · rw [h] at hown
      simp only [Option.some.injEq, Place.drawn.injEq] at hown
      exact absurd hown.symm hne
    · simp [h] at hown

/-- What a transaction inserts is not in the store. -/
theorem Claims.not_holds {db : Db} {x : Exchange × Notes} (hx : Claims own i x)
    (hdb : Filed own db) {t : Txn} (ht : x.1.session = .inProgress t) {k : DocKey}
    (hk : k ∈ insertedKeys t.writes) : ¬Holds db.store k := by
  intro hin
  have hstored := hdb.stored k hin
  rw [hx.pending t ht k hk] at hstored
  simp at hstored

/-! ## One step -/

variable {db db' : Db} {x x' : Exchange × Notes}

/-- A step that inserts nothing leaves the claims of its request as they are. -/
theorem Claims.quiet (hx : Claims own i x)
    (hsession : ∀ t, x'.1.session = .inProgress t →
      (∃ t', x.1.session = .inProgress t' ∧ t'.writes = t.writes) ∨ t.writes = {})
    (hdrawn : ∀ n ∈ x'.2.drawn, n ∈ x.2.drawn) : Claims own i x' := by
  refine ⟨fun t ht k hk => ?_, fun t ht => ?_, fun n hn => hx.drawn n (hdrawn n hn)⟩
  · rcases hsession t ht with ⟨t', ht', hw⟩ | hw
    · exact hx.pending t' ht' k (hw ▸ hk)
    · simp [hw] at hk
  · rcases hsession t ht with ⟨t', ht', hw⟩ | hw
    · exact hw ▸ hx.nodup t' ht'
    · simp [hw]

/-- The outcome of a step: ids were moved, and are where they should be. -/
def StepsTo (own : ObjectId → Option (Place ι)) (i : ι) (db : Db) (x : Exchange × Notes) : Prop :=
  ∃ own', Moves i own own' ∧ Filed own' db ∧ Claims own' i x

/-- The next id is drawn. -/
theorem stepsTo_newId (hdb : Filed own db) (hx : Claims own i x) :
    StepsTo own i { db with nextId := db.nextId + 1 }
      (x.1, { x.2 with drawn := db.nextId :: x.2.drawn }) := by
  have hnone : own db.nextId = none := hdb.beyond _ le_rfl
  -- an id that has a place is not the next one
  have hne {n : ObjectId} {p : Place ι} (h : own n = some p) : n ≠ db.nextId := by
    rintro rfl
    simp [hnone] at h
  refine ⟨Function.update own db.nextId (some (.drawn i)), fun n => ?_,
    ⟨fun k hk => ?_, fun n hn => ?_⟩, ⟨fun t ht k hk => ?_, hx.nodup, fun n hn => ?_⟩⟩
  · by_cases hn : n = db.nextId
    · exact .inr (.inl (hn ▸ hnone))
    · exact .inl (Function.update_of_ne hn _ _)
  · have hown := hdb.stored k hk
    rwa [Function.update_of_ne (hne hown)]
  · have hlt : db.nextId < n := hn
    rw [Function.update_of_ne hlt.ne']
    exact hdb.beyond n hlt.le
  · have hown := hx.pending t ht k hk
    rwa [Function.update_of_ne (hne hown)]
  · rcases List.mem_cons.1 hn with rfl | hn
    · exact Function.update_self ..
    · have hown := hx.drawn n hn
      rwa [Function.update_of_ne (hne hown)]

/-- A command inserts at most one document. -/
theorem inserts_cases (c : Command) : inserts c = [] ∨ ∃ k, inserts c = [k] := by
  cases c with
  | saveProduct d | saveInventory d | saveCost d | saveSale d | saveLast d => exact .inr ⟨_, rfl⟩
  | _ => exact .inl rfl

/-- A write is collected: the ids it uses had been drawn. -/
theorem stepsTo_collect (hdb : Filed own db) (hx : Claims own i x) {t t' : Txn}
    (ht : x.1.session = .inProgress t) {c : Command} {s : Store} {w : Writes} {r : c.Result}
    (hp : c.plan s = .ok (w, r)) (hw : t'.writes = t.writes ++ w)
    (hdrawn : ∀ k ∈ inserts c, docId k ∈ x.2.drawn) (res : Except MongoError c.Result) :
    StepsTo own i db ({ x.1 with session := .inProgress t' }, x.2.log (.inSession c) res) := by
  have hkeys : (insertedKeys t'.writes).Perm (insertedKeys t.writes ++ inserts c) := by
    rw [hw, ← insertedKeys_plan hp]
    exact insertedKeys_append t.writes w
  rcases inserts_cases c with hnil | ⟨k₀, hk₀⟩
  · rw [hnil, List.append_nil] at hkeys
    refine ⟨own, .refl i own, hdb, ⟨fun t₁ ht₁ k hk => ?_, fun t₁ ht₁ => ?_, fun n hn => ?_⟩⟩
    · cases ht₁
      exact hx.pending t ht k (hkeys.mem_iff.1 hk)
    · cases ht₁
      exact hkeys.nodup_iff.2 (hx.nodup t ht)
    · exact hx.drawn n (List.mem_filter.1 hn).1
  · have hown₀ : own (docId k₀) = some (.drawn i) :=
      hx.drawn _ (hdrawn k₀ (hk₀ ▸ List.mem_singleton_self k₀))
    have hne {n : ObjectId} {p : Place ι} (h : own n = some p) (hp : p ≠ .drawn i) :
        n ≠ docId k₀ := by
      rintro rfl
      exact hp (Option.some.inj (h.symm.trans hown₀))
    rw [hk₀] at hkeys
    refine ⟨Function.update own (docId k₀) (some (.pending i k₀)), fun n => ?_,
      ⟨fun k hk => ?_, fun n hn => ?_⟩, ⟨fun t₁ ht₁ k hk => ?_, fun t₁ ht₁ => ?_, fun n hn => ?_⟩⟩
    · by_cases hn : n = docId k₀
      · exact .inr (.inr (.inl (hn ▸ hown₀)))
      · exact .inl (Function.update_of_ne hn _ _)
    · have hown := hdb.stored k hk
      rwa [Function.update_of_ne (hne hown (by simp))]
    · have hown := hdb.beyond n hn
      have hn₀ : n ≠ docId k₀ := by
        rintro rfl
        simp [hown₀] at hown
      rwa [Function.update_of_ne hn₀]
    · cases ht₁
      rcases List.mem_append.1 (hkeys.mem_iff.1 hk) with hk | hk
      · have hown := hx.pending t ht k hk
        rwa [Function.update_of_ne (hne hown (by simp))]
      · rw [List.mem_singleton.1 hk]
        exact Function.update_self ..
    · cases ht₁
      refine hkeys.nodup_iff.2 (List.nodup_append.2 ⟨hx.nodup t ht, List.nodup_singleton k₀, ?_⟩)
      rintro k hk _ hk' rfl
      rw [List.mem_singleton.1 hk'] at hk
      exact hne (hx.pending t ht k₀ hk) (by simp) rfl
    · obtain ⟨hn, hused⟩ := List.mem_filter.1 hn
      have hn₀ : n ≠ docId k₀ := by simpa [hk₀] using hused
      rw [Function.update_of_ne hn₀]
      exact hx.drawn n hn

theorem Issues.drawn {x : Exchange} {notes : Notes} {caller : Caller} {request : Request}
    {c : Command} (h : Issues x notes caller request c) :
    ∀ k ∈ inserts c, docId k ∈ notes.drawn := by
  cases h with
  | product d drawn | firstCost d drawn | cost d drawn | sale d drawn | snapshot n s b drawn
  | rebuild n s s' last sale drawn =>
      intro k hk
      rw [List.mem_singleton.1 hk]
      exact drawn
  | firstBatch b drawn | batch b drawn =>
      intro k hk
      rw [List.mem_singleton.1 hk]
      exact drawn
  | _ => simp [inserts]

theorem IssuesDirect.inserts_eq {x : Exchange} {request : WriteRequest} {c : Command}
    (h : IssuesDirect x request c) : inserts c = [] := by
  cases h <;> rfl

/-- A write without a session inserts nothing. -/
theorem stepsTo_direct (hdb : Filed own db) (hx : Claims own i x) {request : WriteRequest}
    {c : Command} (hc : IssuesDirect x.1 request c) :
    StepsTo own i (execDirect c db x.1).1 ((execDirect c db x.1).2.1, x.2) := by
  unfold execDirect
  cases hp : c.plan db.store with
  | error e => exact ⟨own, .refl i own, hdb, hx⟩
  | ok wr =>
      obtain ⟨w, r⟩ := wr
      dsimp only
      split
      · refine ⟨own, .refl i own, ⟨fun k hk => ?_, hdb.beyond⟩, hx⟩
        have hkeys : insertedKeys w = [] := (insertedKeys_plan hp).trans hc.inserts_eq
        rcases holds_apply hk with hk | hk
        · exact hdb.stored k hk
        · simp [hkeys] at hk
      · exact ⟨own, .refl i own, hdb, hx⟩

theorem stepsTo_inSession (hdb : Filed own db) (hx : Claims own i x) {caller : Caller}
    {request : Request} {c : Command} (hc : Issues x.1 x.2 caller request c) :
    StepsTo own i (execInSession c db x.1).1 ((execInSession c db x.1).2.1,
      x.2.log (.inSession c) (execInSession c db x.1).2.2) := by
  have hdrawn (res : Except MongoError c.Result) :
      ∀ n ∈ (x.2.log (.inSession c) res).drawn, n ∈ x.2.drawn :=
    fun n hn => (List.mem_filter.1 hn).1
  unfold execInSession
  cases ht : x.1.session with
  | inProgress t =>
      dsimp only
      cases hp : c.plan (t.view db) with
      | error e =>
          refine ⟨own, .refl i own, hdb, hx.quiet (fun t' ht' => .inl ⟨t, ht, ?_⟩)
            (hdrawn (.error e))⟩
          cases ht'
          exact (t.writes_refuse e db).symm
      | ok wr =>
          obtain ⟨w, r⟩ := wr
          dsimp only
          split
          · exact stepsTo_collect hdb hx ht hp rfl hc.drawn (.ok r)
          · refine ⟨own, .refl i own, hdb, hx.quiet (fun t' ht' => .inl ⟨t, ht, ?_⟩)
              (hdrawn (.error .duplicateKey))⟩
            cases ht'
            rfl
  | _ =>
      refine ⟨own, .refl i own, hdb, hx.quiet (fun t' ht' => ?_)
        (hdrawn (.error .illegalTransactionState))⟩
      simp [ht] at ht'

variable [DecidableEq ι]

/-- What request `i` has pending is stored. -/
def settle (own : ObjectId → Option (Place ι)) (i : ι) (n : ObjectId) : Option (Place ι) :=
  match own n with
  | some (.pending j k) => if j = i then some (.stored k) else own n
  | p => p

theorem settle_of_ne {n : ObjectId} (h : ∀ k, own n ≠ some (.pending i k)) :
    settle own i n = own n := by
  unfold settle
  split
  · rename_i j k hj
    have hne : j ≠ i := by
      rintro rfl
      exact h k hj
    rw [if_neg hne]
  · rfl

theorem settle_pending {n : ObjectId} {k : DocKey} (h : own n = some (.pending i k)) :
    settle own i n = some (.stored k) := by
  simp [settle, h]

/-- A transaction commits. -/
theorem stepsTo_commit (hdb : Filed own db) (hx : Claims own i x) {t : Txn}
    (ht : x.1.session = .inProgress t) (hstore : db'.store = db.store.apply t.writes)
    (hnext : db'.nextId = db.nextId) (hsession : ∀ t, x'.1.session ≠ .inProgress t)
    (hnotes : x'.2 = x.2) : StepsTo own i db' x' := by
  refine ⟨settle own i, fun n => ?_, ⟨fun k hk => ?_, fun n hn => ?_⟩,
    ⟨fun t ht => absurd ht (hsession t), fun t ht => absurd ht (hsession t), fun n hn => ?_⟩⟩
  · by_cases hn : ∃ k, own n = some (.pending i k)
    · exact .inr (.inr (.inr hn))
    · exact .inl (settle_of_ne fun k hk => hn ⟨k, hk⟩)
  · rw [hstore] at hk
    rcases holds_apply hk with hk | hk
    · have hown := hdb.stored k hk
      rwa [settle_of_ne (by simp [hown])]
    · exact settle_pending (hx.pending t ht k hk)
  · have hown := hdb.beyond n (hnext ▸ hn)
    rwa [settle_of_ne (by simp [hown])]
  · have hown := hx.drawn n (hnotes ▸ hn)
    rwa [settle_of_ne (by simp [hown])]

theorem stepsTo_commitTransaction (hdb : Filed own db) (hx : Claims own i x) :
    StepsTo own i (execCommit db x.1).1 ((execCommit db x.1).2.1, x.2) := by
  unfold execCommit
  cases ht : x.1.session with
  | inProgress t =>
      dsimp only
      split
      · exact ⟨own, .refl i own, hdb, hx.quiet (fun t' ht' => by cases ht') fun _ hn => hn⟩
      split
      · exact ⟨own, .refl i own, hdb, hx⟩
      split
      · exact stepsTo_commit hdb hx ht rfl rfl (fun t' ht' => by cases ht') rfl
      · exact ⟨own, .refl i own, hdb, hx⟩
  | _ => exact ⟨own, .refl i own, hdb, hx⟩

/-- Whatever a request may do, the ids stay in order. -/
theorem stepsTo (hdb : Filed own db) (hx : Claims own i x) {request : WriteRequest}
    {caller : Caller} {o : Op} (hmay : May request caller o x) :
    StepsTo own i (notedSem o db x).1 (notedSem o db x).2.1 := by
  have hsame : StepsTo own i db x := ⟨own, .refl i own, hdb, hx⟩
  cases o with
  | read q => exact ⟨own, .refl i own, hdb, ⟨hx.pending, hx.nodup, hx.drawn⟩⟩
  | newId => exact stepsTo_newId hdb hx
  | now => exact hsame
  | startTransaction =>
      refine ⟨own, .refl i own, hdb, hx.quiet (fun t ht => .inr ?_) fun _ hn => hn⟩
      cases ht
      rfl
  | inSession c =>
      obtain ⟨r, -, hc⟩ := hmay
      exact stepsTo_inSession hdb hx hc
  | direct c => exact stepsTo_direct hdb hx hmay
  | commitTransaction => exact stepsTo_commitTransaction hdb hx
  | abortTransaction =>
      simp only [notedSem, Sem.ghost, sem, execAbort]
      split
      · exact ⟨own, .refl i own, hdb, hx.quiet (fun t' ht' => by cases ht') fun _ hn => hn⟩
      · exact hsame
  | send a =>
      simp only [notedSem, Sem.ghost, sem, execSend]
      split
      · exact ⟨own, .refl i own, hdb, ⟨hx.pending, hx.nodup, hx.drawn⟩⟩
      · exact hsame
  | destroy cloudId =>
      simp only [notedSem, Sem.ghost, sem, execDestroy]
      split
      · exact ⟨own, .refl i own, hdb, ⟨hx.pending, hx.nodup, hx.drawn⟩⟩
      · exact ⟨own, .refl i own, hdb, ⟨hx.pending, hx.nodup, hx.drawn⟩⟩

/-- One step of one request among the others. -/
theorem Placed.step {loc : ι → Exchange × Notes} (h : Placed own db loc) {request : WriteRequest}
    {caller : Caller} {o : Op} (hmay : May request caller o (loc i)) :
    ∃ own', Moves i own own' ∧ Placed own' (notedSem o db (loc i)).1
      (Function.update loc i (notedSem o db (loc i)).2.1) := by
  obtain ⟨own', hmoves, hfiled, hclaims⟩ := stepsTo h.toFiled (h.claims i) hmay
  exact ⟨own', hmoves, hfiled,
    forall_locals hclaims fun j hj => (h.claims j).moved hmoves hj⟩

/-! ## Every interleaving -/

/-- Every id in use was drawn from the counter, and is the id of one document. -/
structure Distinct (db : Db) : Prop where
  drawn : ∀ k, Holds db.store k → docId k < db.nextId
  one : ∀ k k', Holds db.store k → Holds db.store k' → docId k = docId k' → k = k'

omit [DecidableEq ι] in
theorem Filed.distinct (h : Filed own db) : Distinct db := by
  constructor
  · intro k hk
    by_contra hge
    have hnone := h.beyond (docId k) (not_lt.1 hge)
    simp [h.stored k hk] at hnone
  · intro k k' hk hk' hid
    have hown := h.stored k hk
    rw [hid, h.stored k' hk'] at hown
    simpa using hown.symm

omit [DecidableEq ι] in
open Classical in
/-- Before the requests begin, all ids are with the documents of the store. -/
theorem Distinct.placed (h : Distinct db) (calls : ι → WriteCall) :
    ∃ own, Placed own db ((writers db calls).withGhost .init).locals := by
  refine ⟨fun n => if hn : ∃ k, Holds db.store k ∧ docId k = n then some (.stored hn.choose)
    else none, ⟨fun k hk => ?_, fun n hn => ?_⟩, fun i => ⟨?_, ?_, ?_⟩⟩
  · have hex : ∃ k', Holds db.store k' ∧ docId k' = docId k := ⟨k, hk, rfl⟩
    rw [dif_pos hex, h.one _ k hex.choose_spec.1 hk hex.choose_spec.2]
  · refine dif_neg ?_
    rintro ⟨k, hk, rfl⟩
    exact absurd (h.drawn k hk) (not_lt.2 hn)
  · intro t ht
    cases ht
  · intro t ht
    cases ht
  · intro n hn
    cases hn

/-- A commit of accepted writes fails for other reasons, if at all. -/
theorem execCommit_ne_duplicateKey {db : Db} {x : Exchange}
    (h : ∀ t, x.session = .inProgress t → db.store.accepts t.writes = true) :
    (execCommit db x).2.2 ≠ .error .duplicateKey := by
  cases hs : x.session with
  | inProgress t =>
      cases hfails : x.env.commitFails <;> cases hconf : t.conflicts db <;>
        simp [execCommit, hs, h t hs, hfails, hconf]
  | _ => simp [execCommit, hs]

/-- **Ids are unique.** After every interleaving of any requests that write, every id in use was
drawn from the counter and is the id of one document of the database, and no transaction that is
open can fail at the commit because an id is in use. -/
theorem ids_distinct {db₀ : Db} {calls : ι → WriteCall} {p : Requests ι} (h₀ : Distinct db₀)
    (h : Interleaves (writers db₀ calls) p) :
    Distinct p.shared ∧
      ∀ i, (execCommit p.shared (p.procs i).loc).2.2 ≠ .error .duplicateKey := by
  obtain ⟨own₀, hown₀⟩ := h₀.placed calls
  obtain ⟨q, rfl, -, own, hown⟩ := (conducted_writers db₀ calls).invariant
    (I := fun db loc => ∃ own, Placed own db loc) ⟨own₀, hown₀⟩ (by
      rintro db loc i o hmay ⟨own, hown⟩
      obtain ⟨own', -, hown'⟩ := hown.step hmay
      exact ⟨own', hown'⟩) h
  refine ⟨hown.toFiled.distinct, fun i => ?_⟩
  refine execCommit_ne_duplicateKey fun t ht => ?_
  exact accepts_of_insertedKeys (fun k hk => (hown.claims i).not_holds hown.toFiled ht hk)
    ((hown.claims i).nodup t ht)

end Places

theorem distinct_of_isEmpty {db : Db} (h : db.IsEmpty) : Distinct db := by
  obtain ⟨hp, hi, hs, hc, hl⟩ := h
  have hnone : ∀ k, ¬Holds db.store k := by
    intro k
    cases k <;> simp [Holds, hp, hi, hs, hc, hl]
  exact ⟨fun k hk => absurd hk (hnone k), fun k _ hk => absurd hk (hnone k)⟩

theorem ids_distinct_busyRun :
    (Distinct busyRun.shared ∧
      ∀ i, (execCommit busyRun.shared (busyRun.procs i).loc).2.2 ≠ .error .duplicateKey) ∧
    busyRun.shared.nextId = 7 :=
  ⟨ids_distinct (distinct_of_isEmpty Sample.isEmpty) interleaves_busyRun, by decide +kernel⟩

end InventoryHero.Concurrent
