import InventoryHero.Books.Books
import InventoryHero.Batches.Positive

/-!
# What a batch can hold

A batch should hold no more than came in with it, `quantity ≤ initialQuantity`; `editInventory` has
no branch for the other case. Purchases, sales and edits of the quantity keep the bound. A reversal
does not look at it: it credits the first live batch of the product, from which the pieces need not
have come, and a batch rebuilt from a snapshot starts with `initialQuantity = 0`.
-/

set_option autoImplicit false

namespace InventoryHero.Batches

open Interaction Storage Model Stock Serial Books

/-- No batch holds more than came in. -/
def Bounded (s : Store) : Prop :=
  ∀ b ∈ s.inventories.docs, 0 ≤ b.quantity ∧ b.quantity ≤ b.initialQuantity

/-- A reversal by an admin that credits a batch finds room in it for the pieces of the sale. -/
def ReversalFits (c : Call) (db : Db) : Prop :=
  c.request.OnReversal fun id prd => MayReverse db c.caller → ∀ sale ∈ db.store.sales.get? id,
    ∀ b ∈ firstLive prd db.store.inventories, b.quantity + sale.quantity ≤ b.initialQuantity

/-- The reversal of all sales, if no sale makes it fail, finds room for the pieces of each product
in its first live batch. -/
def BulkReversalFits (c : Call) (db : Db) : Prop :=
  c.request.OnBulkReversal (AllLive db.store → ∀ sale ∈ db.store.sales.docs,
    ∀ b ∈ firstLive sale.product db.store.inventories,
      b.quantity + salesQuantity db.store sale.product ≤ b.initialQuantity)

/-- An edit by an admin that gives an initial quantity, but no quantity, to a batch of which nothing
was sold does not lower it below the pieces held. -/
def EditFits (c : Call) (db : Db) : Prop :=
  OnAcceptedEdit (fun b data => quantitySold b = 0 → data.quantity = none →
    ∀ n ∈ data.initialQuantity, b.quantity ≤ n) c db

/-- Requests with positive quantities that do not overfill a batch. -/
def Fits (c : Call) (db : Db) : Prop :=
  SuppliesPositive c.request ∧ NoRebuild c db ∧ ReversalFits c db ∧ BulkReversalFits c db ∧
    EditFits c db

instance (c : Call) (db : Db) : Decidable (ReversalFits c db) :=
  inferInstanceAs (Decidable (c.request.OnReversal _))

instance (c : Call) (db : Db) : Decidable (BulkReversalFits c db) :=
  inferInstanceAs (Decidable (c.request.OnBulkReversal _))

instance (c : Call) (db : Db) : Decidable (EditFits c db) :=
  inferInstanceAs (Decidable (OnAcceptedEdit _ c db))

instance (c : Call) (db : Db) : Decidable (Fits c db) :=
  inferInstanceAs (Decidable (_ ∧ _ ∧ _ ∧ _ ∧ _))

/-- The bounds of an edited batch. -/
theorem edited_bounds {batch : Inventory} {data : EditBody} {quantity : Option JsNumber}
    {initialQuantity q : Option ℚ} (h : 0 ≤ batch.quantity ∧ batch.quantity ≤ batch.initialQuantity)
    (edited : editQuantities batch data = some (quantity, initialQuantity))
    (cast : castQuantity quantity = .ok q) (hpos : Positive data.quantity)
    (hfits : quantitySold batch = 0 → data.quantity = none →
      ∀ n ∈ data.initialQuantity, batch.quantity ≤ n) :
    0 ≤ q.getD batch.quantity ∧
      q.getD batch.quantity ≤ initialQuantity.getD batch.initialQuantity := by
  rcases edited_cases edited cast with
    ⟨hsold, -, rfl, rfl⟩ | ⟨n, hsold, -, hle, -, rfl, rfl⟩ | ⟨hsold, -, -, -⟩
  · -- nothing sold: the quantity given is also the initial quantity
    cases hn : data.quantity with
    | some n =>
        have hn0 := hpos n hn
        have ht : truthy (some n) = true := by simp [truthy, hn0.ne']
        rw [if_pos ht]
        exact ⟨hn0.le, le_rfl⟩
    | none =>
        refine ⟨h.1, ?_⟩
        cases hi : data.initialQuantity with
        | none => exact h.2
        | some k => exact hfits hsold hn k hi
  · -- the pieces sold come off the quantity, not off the initial quantity
    exact ⟨sub_nonneg.2 hle, sub_le_self n hsold.le⟩
  -- more left than came in: excluded by the bounds before the edit
  · exact absurd (sub_nonneg.2 h.2) (not_le.2 hsold)

/-- A batch credited with all the sales of its product. -/
theorem creditedAll_bounds {s : Store} {a : Inventory} (hle : a.quantity ≤ a.initialQuantity)
    (hfits : ∀ sale ∈ s.sales.docs, ∀ b ∈ firstLive sale.product s.inventories,
      b.quantity + salesQuantity s sale.product ≤ b.initialQuantity) :
    a.quantity + credited s.sales.docs s.inventories a ≤ a.initialQuantity := by
  unfold credited
  split
  case isTrue hfirst =>
    -- a product without sales gets no credit, whatever room it has
    by_cases hsold : ∃ sale ∈ s.sales.docs, sale.product = a.product
    · obtain ⟨sale, hsale, hp⟩ := hsold
      exact hp ▸ hfits sale hsale a (hp.symm ▸ hfirst)
    · push Not at hsold
      rwa [soldOf_eq_zero hsold, add_zero]
  case isFalse hfirst => rwa [add_zero]

/-- A batch stored by a request that fits is within its bounds. -/
theorem Bounded.origin {db : Db} {n' : ObjectId} {c : Call} {b : Inventory}
    (h : Bounded db.store) (ht : Trading db.store) (o : Origin db n' c b) (hc : Fits c db) :
    0 ≤ b.quantity ∧ b.quantity ≤ b.initialQuantity := by
  obtain ⟨hpos, hrebuild, hreversal, hbulk, hedit⟩ := hc
  cases o with
  | kept mem => exact h b mem
  | bought cost purchase quantity => exact ⟨(hpos.bought_pos quantity).le, purchase.quantity.le⟩
  | drawn a product data mem found valid same positive less =>
      have hpieces := ht.pieces_pos found valid hpos
      rw [same]
      exact ⟨positive.le, (less hpieces.le).trans (h a mem).2⟩
  | credited a sale may found first =>
      have hsale := ht.sales sale (Collection.get?_eq_some_iff.1 found).1
      have ha := h a (firstLive_spec first).1
      exact ⟨add_nonneg ha.1 hsale.le, hreversal may sale found a first⟩
  | rebuilt last sale n may found none_live snapshot valid batch_id =>
      exact absurd snapshot (hrebuild.not_rebuilt may found none_live)
  | creditedAll a mem live =>
      obtain ⟨h0, hle⟩ := h a mem
      exact ⟨add_nonneg h0 (credited_nonneg ht.sales _ _), creditedAll_bounds hle (hbulk live)⟩
  | edited a quantity initialQuantity q cpq mem admin found edited castQuantity castCpq =>
      have haccepted := accepted_of_edited edited castQuantity
      exact edited_bounds (h a mem) edited castQuantity hpos.1 (hedit admin a found haccepted)

/-! ## Runs -/

theorem trading_and_bounded {db : Db} (h : Reach Db.IsEmpty Fits serveStep db) :
    Trading db.store ∧ Bounded db.store := by
  refine h.invariant (I := fun db => Trading db.store ∧ Bounded db.store) ?_ ?_
  · intro db hempty
    exact ⟨trading_of_isEmpty hempty, by simp [Bounded, hempty.2.1]⟩
  · rintro c db ⟨ht, hb⟩ hc
    have e := serve_effect c db
    exact ⟨ht.effect e hc.1, fun b hb' => hb.origin ht (e.origin hb') hc⟩

/-- **Bounds of a batch.** In every run of requests that fit, every batch holds between nothing and
what came in, and the pieces sold that an edit computes are never negative. -/
theorem batches_bounded {db : Db} (h : Reach Db.IsEmpty Fits serveStep db) :
    ∀ b ∈ db.store.inventories.docs,
      0 ≤ b.quantity ∧ b.quantity ≤ b.initialQuantity ∧ 0 ≤ quantitySold b := by
  intro b hb
  obtain ⟨h0, hle⟩ := (trading_and_bounded h).2 b hb
  exact ⟨h0, hle, sub_nonneg.2 hle⟩

/-- A sale and its reversal, an edit, and a sale that is reversed with all others. -/
theorem batches_bounded_reversals :
    let db := serveAll [Sample.call (.addProduct (Sample.productBody 10 100)),
      Sample.call (.recordSales 1 (Sample.salesBody 4)),
      Sample.call (.deleteSalesRecord 4 1),
      Sample.call (.recordSales 1 (Sample.salesBody 3)),
      Sample.call (.editInventory 2 (Sample.editBody (some 8) none)),
      Sample.call .deleteAllSales] Sample.db
    db.store.inventories.docs.map (fun b => (b.quantity, b.initialQuantity)) = [(8, 8)] ∧
      ∀ b ∈ db.store.inventories.docs,
        0 ≤ b.quantity ∧ b.quantity ≤ b.initialQuantity ∧ 0 ≤ quantitySold b :=
  ⟨by decide +kernel, batches_bounded (Reach.foldl (.start Sample.isEmpty) (by decide +kernel))⟩

/-- Two batches of five; a sale of seven uses up the first and is reversed. -/
def overfillingRun : List Call :=
  [Sample.call (.addProduct (Sample.productBody 5 50)),
    Sample.call (.addInventory 1 (Sample.inventoryBody 5 50)),
    Sample.call (.recordSales 1 (Sample.salesBody 7)),
    Sample.call (.deleteSalesRecord 6 1)]

/-- One batch of ten is sold in one go, and the sale is reversed. -/
def rebuildingRun : List Call :=
  [Sample.call (.addProduct (Sample.productBody 10 100)),
    Sample.call (.recordSales 1 (Sample.salesBody 10)),
    Sample.call (.deleteSalesRecord 5 1)]

/-- The second batch ends with ten pieces of the five that came in; the rebuilt batch has ten pieces
and an initial quantity of zero. -/
theorem reversals_exceed_bounds :
    Reach Db.IsEmpty (fun c db => SuppliesPositive c.request ∧ ReversesOwn c db) serveStep
        (serveAll overfillingRun Sample.db) ∧
      (serveAll overfillingRun Sample.db).store.inventories.docs.map
        (fun b => (b.quantity, b.initialQuantity)) = [(10, 5)] ∧
      Reach Db.IsEmpty (fun c db => SuppliesPositive c.request ∧ ReversesOwn c db) serveStep
        (serveAll rebuildingRun Sample.db) ∧
      (serveAll rebuildingRun Sample.db).store.inventories.docs.map
        (fun b => (b.quantity, b.initialQuantity)) = [(10, 0)] :=
  ⟨Reach.foldl (.start Sample.isEmpty) (by decide +kernel), by decide +kernel,
    Reach.foldl (.start Sample.isEmpty) (by decide +kernel), by decide +kernel⟩

end InventoryHero.Batches
