import InventoryHero.Books.Books
import InventoryHero.Batches.Positive

/-!
# Which sales can be undone

A sale can be reversed as long as its product has a live batch or a snapshot (`Restorable`). Stock
of a product ends in two ways. A sale that uses up the only batch takes a snapshot; a sale that uses
up several batches at once does not, because it counts the batches by a read outside its own
transaction. `deleteInventory` never takes one. In runs that avoid the last two, every sale can be
undone (`sales_undoable`).
-/

set_option autoImplicit false

namespace InventoryHero.Reversal

open Interaction Storage Model Stock Serial Books Batches

/-- The product has a batch or a snapshot. -/
def Restorable (s : Store) (p : ObjectId) : Prop :=
  (∃ b ∈ s.inventories.docs, b.product = p) ∨ ∃ last ∈ s.lasts.docs, last.product = p

/-- A sale of a known caller that takes all that is left of a product takes it from one batch, or
there is a snapshot from before. -/
def SellsOutWithSnapshot (c : Call) (db : Db) : Prop :=
  c.request.OnSale fun id body => db.store.users.get? c.caller._id ≠ none →
    ∀ product ∈ db.store.findProduct id, ∀ data ∈ (validateSales body).toOption,
      data.pieces product = quantitySum (db.store.batches id) →
        (db.store.batches id).length = 1 ∨ db.store.lastsOf id ≠ []

/-- An admin does not delete the only batch of a product that has sales and no snapshot. -/
def DeletesWithSnapshot (c : Call) (db : Db) : Prop :=
  c.request.OnBatchRemoval fun id => isAdmin (db.store.users.get? c.caller._id) = true →
    ∀ b ∈ db.store.inventories.get? id,
      (∃ other ∈ db.store.inventories.docs, other._id ≠ id ∧ other.product = b.product) ∨
        db.store.lastsOf b.product ≠ [] ∨ ∀ sale ∈ db.store.sales.docs, sale.product ≠ b.product

/-- Purchases, sales, reversals and removals of batches, with positive quantities, that leave a way
to undo the sales. -/
def LeavesUndo (c : Call) (db : Db) : Prop :=
  SuppliesPositive c.request ∧ SellsOutWithSnapshot c db ∧ DeletesWithSnapshot c db ∧
    c.request.OnBulkReversal False ∧ (c.request.OnProductRemoval fun _ => False) ∧
    c.request.OnEdit fun _ _ => False

instance (c : Call) (db : Db) : Decidable (SellsOutWithSnapshot c db) :=
  inferInstanceAs (Decidable (c.request.OnSale _))

instance (c : Call) (db : Db) : Decidable (DeletesWithSnapshot c db) :=
  inferInstanceAs (Decidable (c.request.OnBatchRemoval _))

instance (c : Call) (db : Db) : Decidable (LeavesUndo c db) :=
  inferInstanceAs (Decidable (_ ∧ _ ∧ _ ∧ _ ∧ _ ∧ _))

theorem LeavesUndo.keepsPieces {c : Call} {db : Db} (h : LeavesUndo c db) : KeepsPieces c db :=
  ⟨h.1, h.2.2.2.2.2.mono fun _ _ => False.elim⟩

/-! ## Stock and batches -/

theorem stock_pos_of_mem {s : Store} (h : AllPositive s) {b : Inventory}
    (hb : b ∈ s.inventories.docs) : 0 < stockQuantity s b.product := by
  refine List.sum_pos _ ?_ ?_
  · intro q hq
    obtain ⟨a, ha, rfl⟩ := List.mem_map.1 hq
    exact h a (List.mem_filter.1 ha).1
  · have hmem : b ∈ s.inventories.docs.filter fun d => d.product = b.product :=
      List.mem_filter.2 ⟨hb, by simp⟩
    simpa using List.ne_nil_of_mem hmem

theorem mem_of_stock_pos {s : Store} {p : ObjectId} (h : 0 < stockQuantity s p) :
    ∃ b ∈ s.inventories.docs, b.product = p := by
  by_contra hnone
  push Not at hnone
  have hnil : (s.inventories.docs.filter fun d => d.product = p) = [] :=
    List.filter_eq_nil_iff.2 fun b hb => by simpa using hnone b hb
  simp [stockQuantity, hnil] at h

theorem quantitySum_batches (s : Store) (p : ObjectId) :
    quantitySum (s.batches p) = stockQuantity s p := quantitySum_eq _

/-! ## Batches and snapshots of a run without edits -/

/-- Batches are live, and what is stored passes the schema. -/
structure Sound (s : Store) : Prop extends AllValid s where
  live : ∀ b ∈ s.inventories.docs, b.isDeleted = false

theorem Sound.live_of_origin {db : Db} {n' : ObjectId} {c : Call} {b : Inventory}
    (h : Sound db.store) (o : Origin db n' c b) (hedit : c.request.OnEdit fun _ _ => False) :
    b.isDeleted = false := by
  cases o with
  | kept mem => exact h.live b mem
  | bought cost purchase quantity => exact purchase.live
  | drawn a product data mem found valid same positive less =>
      rw [same]
      exact h.live a mem
  | credited a sale may found first => exact h.live a (firstLive_spec first).1
  | rebuilt last sale n may found none_live snapshot valid batch_id => rfl
  | creditedAll a mem live => exact h.live a mem
  | edited a quantity initialQuantity q cpq mem admin found edited castQuantity castCpq =>
      exact hedit.elim

theorem Sound.effect {db db' : Db} {c : Call} (h : Sound db.store) (e : Effect db c db')
    (hedit : c.request.OnEdit fun _ _ => False) : Sound db'.store :=
  ⟨h.toAllValid.effect (hedit.mono fun _ _ => False.elim) e,
    fun _ hb => h.live_of_origin (e.origin hb) hedit⟩

theorem Sound.liveBatches_eq {s : Store} (h : Sound s) (p : ObjectId) :
    s.liveBatches p = s.batches p := by
  rw [Stock.liveBatches_eq, List.filter_eq_self]
  intro b hb
  simp [h.live b (mem_batches.1 hb).1]

/-! ## Runs -/

/-- Every sale's product is restorable. -/
def AllRestorable (s : Store) : Prop := ∀ sale ∈ s.sales.docs, Restorable s sale.product

/-- A product stays restorable while it keeps a batch and a snapshot. -/
theorem Restorable.mono {s s' : Store} {p : ObjectId} (h : Restorable s p)
    (hbatches : ∀ b ∈ s.inventories.docs, b.product = p →
      ∃ b' ∈ s'.inventories.docs, b'.product = b.product)
    (hlasts : ∀ d ∈ s.lasts.docs, ∃ d' ∈ s'.lasts.docs, d'.product = d.product) :
    Restorable s' p := by
  rcases h with ⟨b, hb, rfl⟩ | ⟨last, hlast, rfl⟩
  · exact .inl (hbatches b hb rfl)
  · exact .inr (hlasts last hlast)

/-- In particular while nothing is taken from the batches and the snapshots. -/
theorem Restorable.of_subset {s s' : Store} {p : ObjectId} (h : Restorable s p)
    (hbatches : ∀ b ∈ s.inventories.docs, b ∈ s'.inventories.docs)
    (hlasts : ∀ d ∈ s.lasts.docs, d ∈ s'.lasts.docs) : Restorable s' p :=
  h.mono (fun b hb _ => ⟨b, hbatches b hb, rfl⟩) fun d hd => ⟨d, hlasts d hd, rfl⟩

theorem exists_last_of_lastsOf {s : Store} {p : ObjectId} (h : s.lastsOf p ≠ []) :
    ∃ last ∈ s.lasts.docs, last.product = p := by
  obtain ⟨last, hlast⟩ := List.exists_mem_of_ne_nil _ h
  exact ⟨last, by simpa [Store.lastsOf] using List.mem_filter.1 hlast⟩

/-- A sale that takes all the stock from the only batch deletes it. -/
theorem exists_delete_of_sold_out {s : Store} {id : ObjectId} {t : ℚ} {only : Inventory}
    (hpos : AllPositive s) (hone : s.batches id = [only]) (hall : t = quantitySum (s.batches id)) :
    ∃ k, .delete k ∈ drawWrites t (s.batches id) := by
  have hmem : only ∈ s.batches id := by simp [hone]
  have hq := hpos only (mem_batches.1 hmem).1
  refine ⟨only._id, ?_⟩
  rw [hall, hone, drawWrites_used_up [] hq (by simp [quantitySum])]
  exact List.mem_cons_self

/-- A sale that takes all the stock leaves a snapshot: one from before, or the one it takes of the
only batch. -/
theorem exists_last_of_sold_out {db : Db} {id : ObjectId} {t : ℚ} {lasts' : Collection Last}
    (hs : Sound db.store) (hids : FreshIds db) (hpos : AllPositive db.store)
    (hall : t = quantitySum (db.store.batches id))
    (hcond : (db.store.batches id).length = 1 ∨ db.store.lastsOf id ≠ [])
    (keep : ∀ d ∈ db.store.lasts.docs, ∃ d' ∈ lasts'.docs, d'.product = d.product)
    (usedUp : ∀ only, db.store.liveBatches id = [only] → only.valid = true →
      (∀ d ∈ db.store.lasts.docs, d._id < db.nextId) →
      (∃ k, .delete k ∈ drawWrites t (db.store.batches id)) → ∃ d ∈ lasts'.docs, d.product = id) :
    ∃ last ∈ lasts'.docs, last.product = id := by
  -- taken by this sale, or there before it
  rcases hcond with hone | hlasts
  · obtain ⟨only, hone⟩ := List.length_eq_one_iff.1 hone
    have hmem : only ∈ db.store.batches id := by simp [hone]
    exact usedUp only (hs.liveBatches_eq id ▸ hone) (hs.batch only (mem_batches.1 hmem).1)
      hids.last (exists_delete_of_sold_out hpos hone hall)
  · obtain ⟨last, hlast, hlp⟩ := exists_last_of_lastsOf hlasts
    obtain ⟨last', hlast', hlp'⟩ := keep last hlast
    exact ⟨last', hlast', hlp'.trans hlp⟩

theorem AllRestorable.effect {db db' : Db} {c : Call} (h : AllRestorable db.store)
    (hs : Sound db.store) (hids : FreshIds db) (ht : Trading db.store)
    (hpos : AllPositive db.store) (e : Effect db c db') (hc : LeavesUndo c db) :
    AllRestorable db'.store := by
  obtain ⟨hsupplied, hsells, hdeletes, hbulk, hdrop, hedit⟩ := hc
  cases e with
  | unchanged store next => rwa [store]
  | addProduct product batch cost purchase batch_product product_id quantity upb costPrice commit =>
      rw [commit.store]
      intro sale hsale
      exact (h sale hsale).of_subset (fun b hb => Collection.mem_insert_of_mem hb) fun d hd => hd
  | addInventory product price batch cost found purchase batch_product quantity costPrice commit =>
      rw [commit.store]
      intro sale hsale
      exact (h sale hsale).of_subset (fun b hb => Collection.mem_insert_of_mem hb) fun d hd => hd
  | @recordSales id body caller env _ product data sale lasts known found valid enough sale_product
      sale_quantity sale_id snapshot usedUp commit =>
      have hpieces := ht.pieces_pos found valid hsupplied
      -- the stock after the sale tells which products still have a batch
      have hstock : ∀ p, stockQuantity db'.store p =
          stockQuantity db.store p - if id = p then data.pieces product else 0 := fun p => by
        rw [commit.store, stockQuantity_eq, stockQuantity_eq]
        exact total_draw hpieces.le enough p
      rw [commit.store] at hstock ⊢
      intro sold hsold
      by_cases hp : id = sold.product
      · by_cases hall : data.pieces product = quantitySum (db.store.batches id)
        · -- sold out: the snapshot is there already, or taken now
          right
          have hcond := hsells known product found data (by rw [valid]; rfl) hall
          rw [← hp]
          exact exists_last_of_sold_out hs hids hpos hall hcond snapshot.keep usedUp
        · -- some pieces are left
          left
          refine mem_of_stock_pos ?_
          rw [hstock, if_pos hp, ← hp, ← quantitySum_batches]
          exact sub_pos.2 (lt_of_le_of_ne enough hall)
      · -- another product: its stock, and so a batch of it, is still there
        have hold : sold ∈ db.store.sales.docs := by
          rcases Collection.mem_of_mem_insert hsold with hold | rfl
          · exact hold
          · exact absurd sale_product.symm hp
        refine (h sold hold).mono (fun b hb hbp => ?_) snapshot.keep
        have hbstock := stock_pos_of_mem hpos hb
        rw [hbp] at hbstock ⊢
        refine mem_of_stock_pos ?_
        rw [hstock, if_neg hp, sub_zero]
        exact hbstock
  | deleteSalesRecord may reversed =>
      cases reversed with
      | restock sale batch found first valid commit =>
          rw [commit.store]
          intro sold hsold
          -- a credited batch stays with its product
          refine (h sold (Collection.mem_delete.1 hsold).1).mono (fun b hb _ => ?_)
            fun d hd => ⟨d, hd, rfl⟩
          refine ⟨_, Collection.mem_modify.2 ⟨b, hb, rfl⟩, ?_⟩
          split <;> rfl
      | rebuild sale last n found none_live snapshot valid batch_id commit =>
          rw [commit.store]
          intro sold hsold
          exact (h sold (Collection.mem_delete.1 hsold).1).of_subset
            (fun b hb => Collection.mem_insert_of_mem hb) fun d hd => hd
  | @deleteInventory id caller env _ admin store next =>
      rw [store]
      intro sold hsold
      rcases h sold hsold with ⟨b, hb, hbp⟩ | hlast
      · -- the batch that made the product restorable may be the one that goes
        by_cases hid : b._id = id
        · have hget : db.store.inventories.get? id = some b := hid ▸ Collection.get?_of_mem hb
          rcases hdeletes admin b hget with ⟨other, ho, hne, hop⟩ | hlasts | hnone
          · exact .inl ⟨other, Collection.mem_delete.2 ⟨ho, hne⟩, hop.trans hbp⟩
          · exact .inr (exists_last_of_lastsOf (hbp ▸ hlasts))
          · exact absurd hbp.symm (hnone sold hsold)
        · exact .inl ⟨b, Collection.mem_delete.2 ⟨hb, hid⟩, hbp⟩
      · exact .inr hlast
  | deleteAllSales live store next => exact hbulk.elim
  | userDeleteProduct store next => exact hdrop.elim
  | editInventory batch quantity initialQuantity q cpq admin found edited castQuantity castCpq
      store next => exact hedit.elim

/-- What holds in every run that leaves a way to undo. -/
theorem restorable_of_reach {db : Db} (h : Reach Db.IsEmpty LeavesUndo serveStep db) :
    (FreshIds db ∧ Sound db.store) ∧ AllRestorable db.store := by
  refine h.invariant_with
    (I := fun db => (FreshIds db ∧ Sound db.store) ∧ AllRestorable db.store)
    (J := fun db => Trading db.store ∧ AllPositive db.store) ?_ ?_ ?_
  · exact fun db h => trading_and_positive (h.mono fun _ _ => LeavesUndo.keepsPieces)
  · intro db hempty
    have ⟨_, hi, hs, _⟩ := hempty
    exact ⟨⟨freshIds_of_isEmpty hempty, allValid_of_isEmpty hempty, by simp [hi]⟩,
      by simp [AllRestorable, hs]⟩
  · rintro c db ⟨ht, hpos⟩ ⟨⟨hids, hs⟩, hrest⟩ hc
    have e := serve_effect c db
    exact ⟨⟨hids.effect e, hs.effect e hc.2.2.2.2.2⟩, hrest.effect hs hids ht hpos e hc⟩

/-- A restorable sale can be reversed. -/
theorem reversible_of_restorable {db : Db} {sale : Sale} (hsale : sale ∈ db.store.sales.docs)
    (hids : FreshIds db) (hs : Sound db.store) (h : Restorable db.store sale.product) :
    Reversible db sale._id sale.product := by
  have hget : db.store.sales.get? sale._id = some sale := Collection.get?_of_mem hsale
  refine ⟨by simp [hget], ?_⟩
  cases hfirst : firstLive sale.product db.store.inventories with
  | some batch => exact hs.batch batch (firstLive_spec hfirst).1
  | none =>
      rcases h with ⟨b, hb, hbp⟩ | ⟨last, hlast, hlp⟩
      · exact absurd hbp (firstLive_eq_none_iff.1 hfirst b hb (hs.live b hb))
      · have hmem : last ∈ db.store.lastsOf sale.product := by
          simpa [Store.lastsOf] using ⟨hlast, hlp⟩
        -- the first snapshot of the product need not be this one, but there is a first
        obtain ⟨first, hhead⟩ := Option.ne_none_iff_exists'.1
          (fun hnone => List.ne_nil_of_mem hmem (List.head?_eq_none_iff.1 hnone))
        have hfirst' := List.mem_of_head? hhead
        exact ⟨first, hhead, hs.last first (List.mem_filter.1 hfirst').1, hids.batch⟩

/-- **Every sale can be undone.** In every state reached by requests that leave a way to undo, an
admin's reversal of any sale succeeds, deletes the sale and adds its pieces to the stock. -/
theorem sales_undoable {db : Db} (h : Reach Db.IsEmpty LeavesUndo serveStep db) {sale : Sale}
    (hsale : sale ∈ db.store.sales.docs) {admin : Caller} (hadmin : MayReverse db admin) {env : Env}
    (henv : env.commitFails = false) :
    (serve ⟨.deleteSalesRecord sale._id sale.product, admin, env⟩ db).loc.sent =
        [recordDeleted] ∧
      (serveStep ⟨.deleteSalesRecord sale._id sale.product, admin, env⟩ db).store.sales =
        db.store.sales.delete sale._id ∧
      stockQuantity (serveStep ⟨.deleteSalesRecord sale._id sale.product, admin, env⟩ db).store
        sale.product = stockQuantity db.store sale.product + sale.quantity := by
  obtain ⟨⟨hids, hs⟩, hrest⟩ := restorable_of_reach h
  have hrev := reversible_of_restorable hsale hids hs (hrest sale hsale)
  rcases deleteSalesRecord_served db sale._id sale.product admin env with
    ⟨⟨-, reversed⟩, hsent⟩ | ⟨-, -, -, hnot⟩
  · obtain ⟨sale', hfound, hsales, -, hstock⟩ := stock_reversed reversed
    obtain rfl : sale = sale' := Option.some.inj ((Collection.get?_of_mem hsale).symm.trans hfound)
    exact ⟨hsent, hsales, by rw [hstock, if_pos rfl]⟩
  · exact absurd ⟨hadmin, hrev, henv⟩ hnot

/-- The only batch is sold out in one sale, which is then undone. -/
theorem sales_undoable_sold_out :
    let db := serveAll [Sample.call (.addProduct (Sample.productBody 10 100)),
      Sample.call (.recordSales 1 (Sample.salesBody 10))] Sample.db
    ∃ sale ∈ db.store.sales.docs, (sale.quantity = 10 ∧ stockQuantity db.store sale.product = 0) ∧
      (serve (Sample.call (.deleteSalesRecord sale._id sale.product)) db).loc.sent =
        [recordDeleted] ∧
      (serveStep (Sample.call (.deleteSalesRecord sale._id sale.product)) db).store.sales =
        db.store.sales.delete sale._id ∧
      stockQuantity (serveStep (Sample.call (.deleteSalesRecord sale._id sale.product)) db).store
        sale.product = stockQuantity db.store sale.product + sale.quantity := by
  intro db
  have hsale : ∃ sale ∈ db.store.sales.docs,
      sale.quantity = 10 ∧ stockQuantity db.store sale.product = 0 := by decide +kernel
  obtain ⟨sale, hsale, hq⟩ := hsale
  exact ⟨sale, hsale, hq, sales_undoable (Reach.foldl (.start Sample.isEmpty) (by decide +kernel))
    hsale (by decide +kernel) rfl⟩

/-- Two batches of five are sold out in one sale. -/
def soldOutAtOnce : List Call :=
  [Sample.call (.addProduct (Sample.productBody 5 50)),
    Sample.call (.addInventory 1 (Sample.inventoryBody 5 50)),
    Sample.call (.recordSales 1 (Sample.salesBody 10))]

/-- Four of ten pieces are sold, and the batch is deleted. -/
def soldThenDeleted : List Call :=
  [Sample.call (.addProduct (Sample.productBody 10 100)),
    Sample.call (.recordSales 1 (Sample.salesBody 4)),
    Sample.call (.deleteInventory 2)]

/-- In both cases the sale is there, and its reversal by an admin fails and changes nothing. -/
theorem sales_not_undoable :
    Reach Db.IsEmpty (fun c _ => SuppliesPositive c.request) serveStep
        (serveAll soldOutAtOnce Sample.db) ∧
      (serveAll soldOutAtOnce Sample.db).store.sales.docs.map
        (fun sale => (sale._id, sale.product, sale.quantity)) = [(6, 1, 10)] ∧
      (serve (Sample.call (.deleteSalesRecord 6 1))
        (serveAll soldOutAtOnce Sample.db)).loc.sent = [internalServerError] ∧
      Reach Db.IsEmpty (fun c _ => SuppliesPositive c.request) serveStep
        (serveAll soldThenDeleted Sample.db) ∧
      (serveAll soldThenDeleted Sample.db).store.sales.docs.map
        (fun sale => (sale._id, sale.product, sale.quantity)) = [(4, 1, 4)] ∧
      (serve (Sample.call (.deleteSalesRecord 4 1))
        (serveAll soldThenDeleted Sample.db)).loc.sent = [internalServerError] :=
  ⟨Reach.foldl (.start Sample.isEmpty) (by decide +kernel), by decide +kernel, by decide +kernel,
    Reach.foldl (.start Sample.isEmpty) (by decide +kernel), by decide +kernel, by decide +kernel⟩

end InventoryHero.Reversal
