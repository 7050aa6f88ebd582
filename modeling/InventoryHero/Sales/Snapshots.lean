import InventoryHero.Reversal.Undo
import InventoryHero.Serial.Commits
import InventoryHero.Storage.Index

/-!
# One snapshot for each product

`recordSales` takes a snapshot each time it uses up a batch, if a read outside its transaction finds
one batch of the product. That read does not see the snapshot which the loop has just stored, so two
batches used up by one sale would leave two. It takes a second batch that the read does not find,
one that was marked as deleted; only an edit can do that. Without edits a product has one snapshot
at most, and `deleteSalesRecord`, which takes the first it finds, has no choice.
-/

set_option autoImplicit false

namespace InventoryHero.Sales

open Interaction Storage Model Stock Serial Reversal

theorem usedUp_singleton (t : ℚ) (b : Inventory) :
    usedUp false t [b] = 0 ∨ usedUp false t [b] = 1 := by
  simp only [usedUp]
  split
  · split
    · exact .inr rfl
    · exact .inl rfl
  · simp

/-- No product has two snapshots. -/
def OneSnapshot (lasts : Collection Last) : Prop := lasts.Unique fun last => last.product

/-- A sale leaves one snapshot of its product at most. -/
theorem OneSnapshot.sale {s : Store} (h : OneSnapshot s.lasts) (hs : Sound s) (p : ObjectId)
    (t : ℚ) (n : ObjectId) :
    OneSnapshot (s.lasts.writeAll (snapshotWrites s p (usedUp false t (s.batches p)) n)) := by
  unfold snapshotWrites
  split
  · rename_i first last hlive hlast
    obtain ⟨hmem, hproduct⟩ := Store.mem_lastsOf_head hlast
    have hfirst : first.product = p := by
      have hb : first ∈ s.batches p := by simp [← hs.liveBatches_eq, hlive]
      exact (mem_batches.1 hb).2
    split
    · exact h
    · -- the new one is of the product that the old one was of
      refine Collection.Unique.modify h fun a _ _ b hb hne hab => hne ?_
      have hb' : b.product = last.product := hab.trans (hfirst.trans hproduct.symm)
      rw [Collection.Unique.eq h hb hmem hb', key_last]
  · rename_i first hlive hnone
    have hbatches : s.batches p = [first] := hs.liveBatches_eq p ▸ hlive
    have hfirst : first.product = p :=
      (mem_batches.1 (by simp [hbatches] : first ∈ s.batches p)).2
    split
    · rw [hbatches]
      rcases usedUp_singleton t first with hj | hj
      · rw [hj]
        exact h
      · rw [hj]
        refine Collection.Unique.insert h fun b hb hab => ?_
        have hnil : s.lastsOf p = [] := List.head?_eq_none_iff.1 hnone
        have hb' : b ∈ s.lastsOf p :=
          List.mem_filter.2 ⟨hb, by simpa using hab.trans hfirst⟩
        rw [hnil] at hb'
        cases hb'
    · exact h
  · exact h

/-- Requests other than sales take no snapshot. -/
theorem OneSnapshot.other {db db' : Db} {c : Call} (h : OneSnapshot db.store.lasts)
    (e : Effect db c db') (hsale : ∀ id body, c.request ≠ .recordSales id body) :
    OneSnapshot db'.store.lasts := by
  cases e with
  | unchanged store next => exact store ▸ h
  | addProduct product batch cost purchase batch_product product_id quantity upb costPrice commit =>
      rw [commit.store]
      exact h
  | addInventory product price batch cost found purchase batch_product quantity costPrice commit =>
      rw [commit.store]
      exact h
  | @recordSales id body => exact absurd rfl (hsale id body)
  | deleteSalesRecord may reversed => exact reversed.frame.2 ▸ h
  | deleteAllSales live store next => exact store ▸ h
  | userDeleteProduct store next =>
      rw [store]
      exact List.Nodup.sublist (List.filter_sublist.map _) h
  | deleteInventory admin store next => exact store ▸ h
  | editInventory batch quantity initialQuantity q cpq admin found edited castQuantity castCpq
      store next => exact store ▸ h

/-- Batches are live, ids are fresh, and no product has two snapshots. -/
structure Snapshots (db : Db) : Prop where
  ids : AllFresh db
  sound : Sound db.store
  once : OneSnapshot db.store.lasts

theorem Snapshots.step {db : Db} (h : Snapshots db) {c : Call}
    (hc : c.request.OnEdit fun _ _ => False) : Snapshots (serveStep c db) := by
  have e := serve_effect c db
  refine ⟨h.ids.effect e, h.sound.effect e hc, ?_⟩
  obtain ⟨request, caller, env⟩ := c
  cases request with
  | recordSales id body =>
      by_cases hcommits : Commits ⟨.recordSales id body, caller, env⟩ db
      · obtain ⟨user, product, data, hsells⟩ := (commits_recordSales_iff h.ids).1 hcommits
        rw [hsells.store h.ids]
        exact h.once.sale h.sound id (data.pieces product) db.nextId
      · rw [store_of_not_commits h.ids hcommits]
        exact h.once
  | _ => exact h.once.other e (by simp)

/-- **One snapshot for each product.** In every run of requests without edits, a product has at most
one snapshot. -/
theorem snapshot_once {db : Db}
    (h : Reach Db.IsEmpty (fun c _ => c.request.OnEdit fun _ _ => False) serveStep db)
    (p : ObjectId) : (db.store.lastsOf p).length ≤ 1 := by
  have hs : Snapshots db := by
    refine h.invariant (I := Snapshots) ?_ fun c db hs hc => hs.step hc
    intro db hempty
    have ⟨_, hi, _, _, hl⟩ := hempty
    exact ⟨allFresh_of_isEmpty hempty, ⟨allValid_of_isEmpty hempty, by simp [hi]⟩,
      by simp [OneSnapshot, Collection.Unique, hl]⟩
  exact Collection.Unique.length_filter_le_one hs.once p

/-- The product is sold out twice; the second snapshot takes the place of the first. -/
theorem snapshot_once_restocked :
    let db := serveAll [Sample.call (.addInventory 1 (Sample.inventoryBody 5 50)),
      Sample.call (.recordSales 1 (Sample.salesBody 5))] Sample.soldOut
    (Sample.soldOut.store.lastsOf 1).length = 1 ∧ (db.store.lastsOf 1).length = 1 ∧
      (db.store.lastsOf 1).length ≤ 1 :=
  ⟨by decide +kernel, by decide +kernel,
    snapshot_once (Reach.foldl (Reach.foldl (.start Sample.isEmpty) (by decide +kernel))
      (by decide +kernel)) 1⟩

/-- With an edit that marks one of two batches as deleted, the sale of both takes two snapshots. -/
theorem snapshots_of_marked_batch :
    let db := serveAll [Sample.call (.addProduct (Sample.productBody 5 50)),
      Sample.call (.addInventory 1 (Sample.inventoryBody 5 50)),
      Sample.call (.editInventory 2 { Sample.editBody none none with isDeleted := some true }),
      Sample.call (.recordSales 1 (Sample.salesBody 10))] Sample.db
    (db.store.lastsOf 1).length = 2 := by
  decide +kernel

end InventoryHero.Sales
