import InventoryHero.Sales.Drawing

/-!
# The snapshot of the last batch

Before the draw loop deletes a batch it counts the product's batches, without the session: those
that this sale has deleted so far are still counted. So the snapshot is taken if the product had one
batch before the sale, and not if the sale uses up several. A snapshot that cannot be written is
passed over without an answer: an update is refused for a unit cost that is not a number, a new
document also for a creator without a name (`sellOut_snapshot_iff`).
-/

set_option autoImplicit false

namespace InventoryHero.Sales

open Interaction Storage Model Stock Serial Lots

/-- The snapshot of the batch can be written: in the place of another, or as a new document. -/
def CanSnapshot (s : Store) (id : ObjectId) (batch : Inventory) : Prop :=
  batch.cpq ≠ .nan ∧ ((s.lastsOf id).head? ≠ none ∨ batch.createdBy.firstName ≠ "")

instance (s : Store) (id : ObjectId) (batch : Inventory) : Decidable (CanSnapshot s id batch) :=
  inferInstanceAs (Decidable (_ ∧ _))

/-- The product's snapshot after a sale that used up a batch. -/
def snapshotLeft (s : Store) (id : ObjectId) : Option Snapshot :=
  match s.liveBatches id with
  | [only] =>
      if CanSnapshot s id only then some only.snapshot
      else (s.lastsOf id).head?.map Last.toSnapshot
  | _ => (s.lastsOf id).head?.map Last.toSnapshot

theorem canSnapshot_of_last {s : Store} {id : ObjectId} {last : Last}
    (h : (s.lastsOf id).head? = some last) (batch : Inventory) :
    CanSnapshot s id batch ↔ batch.cpq ≠ .nan := by
  simp [CanSnapshot, h]

theorem canSnapshot_of_none {s : Store} {id : ObjectId} (h : (s.lastsOf id).head? = none)
    (batch : Inventory) : CanSnapshot s id batch ↔ batch.valid = true := by
  rw [Inventory.valid_iff]
  simp [CanSnapshot, h, Person.valid_iff, and_comm]

/-- Snapshots that are added come after those that were there. -/
theorem lastsOf_head_insert {ι : Type} {s s' : Store} {id : ObjectId} {last : Last}
    {f : ι → Last} {l : List ι} (h : (s.lastsOf id).head? = some last)
    (hs : s'.lasts = s.lasts.writeAll (l.map fun i => .insert (f i))) :
    (s'.lastsOf id).head? = some last := by
  obtain ⟨added, hdocs⟩ := s.lasts.prefix_writeAll_insert f l
  rw [Store.lastsOf] at h ⊢
  rw [hs, ← hdocs, List.filter_append, List.head?_append, h]
  rfl

/-- A batch that cannot be kept leaves the snapshots as they are. -/
theorem snapshotWrites_of_not_canSnapshot {s : Store} {id : ObjectId} {only : Inventory}
    (hl : s.liveBatches id = [only]) (h : ¬CanSnapshot s id only) (j : Nat) (n : ObjectId) :
    snapshotWrites s id j n = [] := by
  cases hfound : (s.lastsOf id).head? with
  | some last =>
      rw [canSnapshot_of_last hfound, not_not] at h
      simp [snapshotWrites, hl, hfound, h]
  | none =>
      rw [canSnapshot_of_none hfound] at h
      simp [snapshotWrites, hl, hfound, h]

/-- The first snapshot of a product is the one that is found. -/
theorem lastsOf_head_first {s : Store} {id n : ObjectId} {batch : Inventory}
    (hfresh : ∀ last ∈ s.lasts.docs, last._id < n) (hfound : (s.lastsOf id).head? = none)
    (hproduct : batch.product = id) :
    (({ s with lasts := s.lasts.insert { batch.snapshot with _id := n } } : Store).lastsOf
      id).head? = some { batch.snapshot with _id := n } := by
  have hnone : (s.lasts.docs.filter fun last => last.product = id) = [] :=
    List.head?_eq_none_iff.1 hfound
  have hacc : s.lasts.accepts (.insert { batch.snapshot with _id := n }) = true :=
    accepts_new hfresh le_rfl
  rw [Store.lastsOf, Collection.docs_insert hacc, List.filter_append, hnone]
  simp [Inventory.snapshot, hproduct]

theorem lastsOf_snapshotWrites {s s' : Store} {id n : ObjectId} {j : Nat}
    (hfresh : ∀ last ∈ s.lasts.docs, last._id < n) (hj : j ≠ 0)
    (h : s'.lasts = s.lasts.writeAll (snapshotWrites s id j n)) :
    (s'.lastsOf id).head?.map Last.toSnapshot = snapshotLeft s id := by
  have hkeep (hw : snapshotWrites s id j n = []) : s'.lastsOf id = s.lastsOf id := by
    rw [Store.lastsOf, h, hw]
    rfl
  rcases hl : s.liveBatches id with _ | ⟨only, _ | ⟨second, rest⟩⟩
  · rw [hkeep (by simp [snapshotWrites, hl]), snapshotLeft, hl]
  · have honly : only.product = id := (mem_liveBatches (hl ▸ List.mem_cons_self)).2
    by_cases hcan : CanSnapshot s id only
    swap
    · rw [hkeep (snapshotWrites_of_not_canSnapshot hl hcan j n), snapshotLeft, hl]
      simp [hcan]
    have hleft : snapshotLeft s id = some only.snapshot := by
      simp [snapshotLeft, hl, hcan]
    rw [hleft]
    cases hfound : (s.lastsOf id).head? with
    | some last =>
        have hnan := (canSnapshot_of_last hfound only).1 hcan
        simp only [snapshotWrites, hl, hfound, hnan, hj, or_self, if_false] at h
        rw [lastsOf_head_modify hfound honly h]
        rfl
    | none =>
        have hvalid := (canSnapshot_of_none hfound only).1 hcan
        -- the first of the new documents is found
        obtain ⟨k, rfl⟩ := Nat.exists_eq_succ_of_ne_zero hj
        simp only [snapshotWrites, hl, hfound, hvalid, if_true, List.range_succ_eq_map,
          List.map_cons, Collection.writeAll_cons, Collection.write_insert, Nat.add_zero] at h
        rw [lastsOf_head_insert (lastsOf_head_first hfresh hfound honly) h]
        rfl
  · rw [hkeep (by simp [snapshotWrites, hl]), snapshotLeft, hl]

/-- A draw that leaves nothing used up a batch. -/
theorem usedUp_ne_zero {t : ℚ} {l : List Inventory} (hl : l ≠ []) (h : draw t l = []) :
    usedUp false t l ≠ 0 := by
  cases l with
  | nil => exact absurd rfl hl
  | cons e rest =>
      by_cases h₀ : 0 < e.quantity
      · by_cases hq : e.quantity ≤ t
        · rw [(Serial.draw_used_up rest h₀ hq).2.1]
          exact Nat.succ_ne_zero _
        · rw [Lots.draw_remainder rest h₀ hq] at h
          cases h
      · rw [Lots.draw_skip rest h₀] at h
        cases h

/-- The product's snapshot will be `taken`: its only live batch has these data, or, where there is
no such batch or its snapshot cannot be written, the snapshot it has. -/
def Keeps (s : Store) (id : ObjectId) (taken : Snapshot) : Prop :=
  (∃ only ∈ s.liveBatches id,
      s.liveBatches id = [only] ∧ CanSnapshot s id only ∧ only.snapshot = taken) ∨
    ((∀ only ∈ s.liveBatches id, s.liveBatches id = [only] → ¬CanSnapshot s id only) ∧
      ∃ last ∈ (s.lastsOf id).head?, last.toSnapshot = taken)

instance (s : Store) (id : ObjectId) (taken : Snapshot) : Decidable (Keeps s id taken) :=
  inferInstanceAs (Decidable (_ ∨ _))

theorem snapshotLeft_eq_some_iff {s : Store} {id : ObjectId} {taken : Snapshot} :
    snapshotLeft s id = some taken ↔ Keeps s id taken := by
  rw [snapshotLeft, Keeps]
  rcases hl : s.liveBatches id with _ | ⟨only, _ | ⟨second, rest⟩⟩
  · simp
  · by_cases hcan : CanSnapshot s id only
    · simp [hcan]
    · simp [hcan]
  · simp

/-- The snapshot after a sale that uses up a batch. -/
theorem snapshot_of_sells {db : Db} {id : ObjectId} {body : SalesBody} {caller : Caller}
    {env : Env} {user : User} {product : Product} {data : SalesInput} (hids : AllFresh db)
    (h : Sells db id body caller env user product data)
    (hused : usedUp false (data.pieces product) (db.store.batches id) ≠ 0) :
    ((serveStep ⟨.recordSales id body, caller, env⟩ db).store.lastsOf id).head?.map
      Last.toSnapshot = snapshotLeft db.store id := by
  refine lastsOf_snapshotWrites hids.last hused ?_
  rw [h.store hids]
  rfl

/-- The product has a snapshot after the sale, with the data of the last of its batches before. -/
def SnapshotTaken (s s' : Store) (id : ObjectId) : Prop :=
  ∃ batch ∈ (s.batches id).getLast?, ∃ last ∈ (s'.lastsOf id).head?,
    last.toSnapshot = batch.snapshot

instance (s s' : Store) (id : ObjectId) : Decidable (SnapshotTaken s s' id) :=
  inferInstanceAs (Decidable (∃ _ ∈ _, _))

/-- A sale that leaves a product without batches leaves the data of the last one as its snapshot
exactly if this was the only batch and its snapshot can be written, or the product had a snapshot
with these data before. -/
theorem sellOut_snapshot_iff {db : Db} {id : ObjectId} {body : SalesBody} {caller : Caller}
    {env : Env} (hids : AllFresh db) (hcommits : Commits ⟨.recordSales id body, caller, env⟩ db)
    (hout : (serveStep ⟨.recordSales id body, caller, env⟩ db).store.batches id = []) :
    SnapshotTaken db.store (serveStep ⟨.recordSales id body, caller, env⟩ db).store id ↔
      ∃ batch ∈ (db.store.batches id).getLast?, Keeps db.store id batch.snapshot := by
  obtain ⟨user, product, data, h⟩ := (commits_recordSales_iff hids).1 hcommits
  rw [h.batches hids] at hout
  have hleft := snapshot_of_sells hids h (usedUp_ne_zero h.stocked hout)
  rw [SnapshotTaken]
  refine exists_congr fun batch => and_congr_right fun _ => ?_
  rw [← snapshotLeft_eq_some_iff, ← hleft, Option.map_eq_some_iff]
  simp

/-- One batch of ten pieces. -/
def oneBatch : Db := serveAll [Sample.call (.addProduct (Sample.productBody 10 100))] Sample.db

/-- The only batch is sold out. -/
theorem sellOut_snapshot_ten :
    SnapshotTaken oneBatch.store
      (serveStep (Sample.call (.recordSales 1 (Sample.salesBody 10))) oneBatch).store 1 :=
  (sellOut_snapshot_iff ((allFresh_of_isEmpty Sample.isEmpty).serveAll _) (by decide +kernel)
    (by decide +kernel)).2 (by decide +kernel)

/-- Two batches sold out at once leave no snapshot; nor does the only batch, if an edit has taken
the name from it. -/
theorem sellOut_of_two_batches :
    let c := Sample.call (.recordSales 1 (Sample.salesBody 15))
    let c' := Sample.call (.recordSales 1 (Sample.salesBody 10))
    let unnamed := serveStep (Sample.call (.editInventory 2 Sample.blankName)) oneBatch
    (Commits c twoBatches ∧ (serveStep c twoBatches).store.batches 1 = [] ∧
      (serveStep c twoBatches).store.lastsOf 1 = [] ∧
      ¬SnapshotTaken twoBatches.store (serveStep c twoBatches).store 1) ∧
    Commits c' unnamed ∧ (serveStep c' unnamed).store.batches 1 = [] ∧
      (serveStep c' unnamed).store.lastsOf 1 = [] := by
  decide +kernel

end InventoryHero.Sales
