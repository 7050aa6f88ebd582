import InventoryHero.Batches.Positive

/-!
# The unit cost of a batch

`cpq` is meant to be `costPrice / initialQuantity`. It is computed in five places, with three
different divisors: the quantity that came in, the quantity left and the quantity an edit gives.
The relation survives an edit as long as the divisor is the initial quantity that the edit leaves;
`KeepsUnitCost` says for which edits this is so.
-/

set_option autoImplicit false

namespace InventoryHero.Batches

open Interaction Storage Model Stock Serial

/-- The unit cost spreads the cost price over the initial quantity. -/
def UnitCost (b : Inventory) : Prop :=
  b.initialQuantity ≠ 0 ∧ b.cpq = .fin (b.costPrice / b.initialQuantity)

/-- A batch comes in with a quantity other than zero. -/
def BuysPieces (r : Request) : Prop := r.bought ≠ some 0

instance (r : Request) : Decidable (BuysPieces r) := inferInstanceAs (Decidable (_ ≠ _))

/-- The edit leaves the batch with the unit cost it should have. -/
def KeepsUnitCost (b : Inventory) (data : EditBody) : Prop :=
  -- a cost price of zero is stored, but `cpq` is not computed from it
  (data.costPrice = some 0 → b.costPrice = 0) ∧
    -- the quantity given is what was sold: the quantity stored is zero and counts as not given
    (0 < quantitySold b → data.quantity = some (quantitySold b) →
      if truthy data.costPrice then b.quantity = quantitySold b
      else b.quantity = 0 ∨ b.costPrice = 0) ∧
    -- more pieces left than came in: the initial quantity is not changed
    (quantitySold b < 0 →
      if truthy data.quantity then data.quantity = some b.initialQuantity ∨
        truthy data.costPrice = false ∧ b.costPrice = 0
      else truthy data.costPrice = false)

instance (b : Inventory) (data : EditBody) : Decidable (KeepsUnitCost b data) :=
  inferInstanceAs (Decidable (_ ∧ _ ∧ _))

/-- Requests that keep the unit costs. -/
def KeepsUnitCosts (c : Call) (db : Db) : Prop :=
  PlainEdits c.request ∧ BuysPieces c.request ∧ NoRebuild c db ∧ OnAcceptedEdit KeepsUnitCost c db

instance (c : Call) (db : Db) : Decidable (KeepsUnitCosts c db) :=
  inferInstanceAs (Decidable (_ ∧ _ ∧ _ ∧ _))

/-! ## Edits -/

/-- The unit cost an edit computes divides the cost price it leaves. -/
theorem editCpq_eq {b : Inventory} {data : EditBody} (quantity : Option JsNumber)
    (hzero : data.costPrice = some 0 → b.costPrice = 0) (hcpq : data.cpq = none) :
    editCpq b data quantity =
      if quantity.elim false JsNumber.truthy then
        data.quantity.map (.div (data.costPrice.getD b.costPrice))
      else if truthy data.costPrice then
        some (.div (data.costPrice.getD b.costPrice) b.quantity)
      else none := by
  have hprice := costPrice_of_falsy hzero
  cases hcp : truthy data.costPrice with
  | false =>
      rw [hprice hcp]
      cases hq : quantity.elim false JsNumber.truthy <;> simp [editCpq, hcp, hq, hcpq]
  | true =>
      obtain ⟨c, hc, hc0⟩ := truthy_eq_true_iff.1 hcp
      rw [hc] at hcp
      cases hq : quantity.elim false JsNumber.truthy <;> simp [editCpq, hcp, hq, hc]

/-- The unit cost after an edit whose quantity does not count, with the initial quantity `m`. -/
theorem cpq_without_quantity {b : Inventory} {data : EditBody} {m : ℚ} (hb : UnitCost b)
    (hzero : data.costPrice = some 0 → b.costPrice = 0) (hm : m ≠ 0)
    (hgiven : truthy data.costPrice = true → b.quantity = m)
    (hsame : truthy data.costPrice = false → b.costPrice / b.initialQuantity = b.costPrice / m) :
    ((if truthy data.costPrice then some (.div (data.costPrice.getD b.costPrice) b.quantity)
      else none).getD b.cpq : JsNumber) = .fin (data.costPrice.getD b.costPrice / m) := by
  cases hcp : truthy data.costPrice with
  | true => simp [hgiven hcp, JsNumber.div_of_ne hm]
  | false => simp [hb.2, costPrice_of_falsy hzero hcp, hsame hcp]

/-- An edit that keeps the unit cost, case by case. -/
theorem edited_unitCost {b : Inventory} {data : EditBody} {quantity : Option JsNumber}
    {initialQuantity q : Option ℚ} {cpq : Option JsNumber} (h : UnitCost b)
    (edited : editQuantities b data = some (quantity, initialQuantity))
    (castQuantity : castQuantity quantity = .ok q)
    (castCpq : castCpq (editCpq b data quantity) = .ok cpq)
    (hplain : data.initialQuantity = none ∧ data.cpq = none) (hkeep : KeepsUnitCost b data) :
    UnitCost (((editUpdate b data quantity initialQuantity).patch q cpq).apply b) := by
  obtain ⟨hzero, hall, hover⟩ := hkeep
  obtain rfl := castCpq_ok castCpq
  change initialQuantity.getD b.initialQuantity ≠ 0 ∧ (editCpq b data quantity).getD b.cpq =
    .fin (data.costPrice.getD b.costPrice / initialQuantity.getD b.initialQuantity)
  rw [editCpq_eq quantity hzero hplain.2]
  rcases edited_cases edited castQuantity with
    ⟨hsold, rfl, rfl, rfl⟩ | ⟨n, hsold, hn, hle, rfl, rfl, rfl⟩ | ⟨hsold, rfl, rfl, rfl⟩
  · -- nothing sold: the batch is still whole
    have hwhole : b.quantity = b.initialQuantity := (sub_eq_zero.1 hsold).symm
    cases hn : truthy data.quantity with
    | true =>
        obtain ⟨n, hq, hn0⟩ := truthy_eq_true_iff.1 hn
        simp [hq, JsNumber.truthy, hn0, JsNumber.div_of_ne hn0]
    | false =>
        simp only [truthy_map, hn, hplain.1, Bool.false_eq_true, if_false, Option.getD_none]
        exact ⟨h.1, cpq_without_quantity h hzero h.1 (fun _ => hwhole) fun _ => rfl⟩
  · -- pieces sold: the quantity given becomes the initial quantity
    have hn0 : n ≠ 0 := (hsold.trans_le hle).ne'
    refine ⟨hn0, ?_⟩
    by_cases hleft : n = quantitySold b
    · -- no piece left: the quantity stored is zero
      have hzeroLeft : n - (b.initialQuantity - b.quantity) = 0 := sub_eq_zero.2 hleft
      have hall := hall hsold (hleft ▸ hn)
      simp only [hzeroLeft, Option.elim_some, JsNumber.truthy, ne_eq, not_true_eq_false,
        decide_false, Bool.false_eq_true, if_false, Option.getD_some]
      refine cpq_without_quantity h hzero hn0 (fun hcp => ?_) fun hcp => ?_
      · rw [if_pos hcp] at hall
        exact hall.trans hleft.symm
      · rw [if_neg (by simp [hcp])] at hall
        rcases hall with hempty | hfree
        · rw [hleft, quantitySold, hempty, sub_zero]
        · simp [hfree]
    · have hleft0 : n - (b.initialQuantity - b.quantity) ≠ 0 := sub_ne_zero.2 hleft
      simp [hn, JsNumber.truthy, hleft0, JsNumber.div_of_ne hn0]
  · -- more left than came in: the initial quantity stays
    have hover := hover hsold
    rw [hplain.1, Option.getD_none]
    refine ⟨h.1, ?_⟩
    cases hn : truthy data.quantity with
    | true =>
        obtain ⟨n, hq, hn0⟩ := truthy_eq_true_iff.1 hn
        rw [if_pos hn, hq] at hover
        rw [truthy_map, if_pos hn, hq, Option.map_some, Option.getD_some, JsNumber.div_of_ne hn0]
        rcases hover with hsame | ⟨hcp, hfree⟩
        · rw [Option.some.inj hsame]
        · rw [costPrice_of_falsy hzero hcp, hfree, zero_div, zero_div]
    | false =>
        rw [if_neg (by simp [hn])] at hover
        simp only [truthy_map, hn, Bool.false_eq_true, if_false]
        exact cpq_without_quantity h hzero h.1 (fun hcp => absurd hcp (by simp [hover]))
          fun _ => rfl

/-! ## Runs -/

/-- Every batch has the unit cost it should have. -/
def UnitCosts (s : Store) : Prop := ∀ b ∈ s.inventories.docs, UnitCost b

theorem UnitCosts.origin {db : Db} {n' : ObjectId} {c : Call} {b : Inventory}
    (h : UnitCosts db.store) (o : Origin db n' c b) (hc : KeepsUnitCosts c db) : UnitCost b := by
  obtain ⟨hplain, hbuys, hrebuild, hedit⟩ := hc
  cases o with
  | kept mem => exact h b mem
  | bought cost purchase quantity =>
      have hinit : b.initialQuantity ≠ 0 := by
        rw [← purchase.quantity]
        exact fun e => hbuys (e ▸ quantity)
      exact ⟨hinit, purchase.cpq.trans (JsNumber.div_of_ne hinit)⟩
  | drawn a product data mem found valid same positive less =>
      rw [same]
      exact h a mem
  | credited a sale may found first => exact h a (firstLive_spec first).1
  | rebuilt last sale n may found none_live snapshot valid batch_id =>
      exact absurd snapshot (hrebuild.not_rebuilt may found none_live)
  | creditedAll a mem live => exact h a mem
  | edited a quantity initialQuantity q cpq mem admin found edited castQuantity castCpq =>
      have haccepted := accepted_of_edited edited castQuantity
      exact edited_unitCost (h a mem) edited castQuantity castCpq ⟨hplain.1, hplain.2.1⟩
        (hedit admin a found haccepted)

/-- **Unit costs.** In every run of requests that keep the unit costs, every batch has an initial
quantity other than zero and a finite unit cost, which multiplied by it is the cost price. -/
theorem unit_cost_exact {db : Db} (h : Reach Db.IsEmpty KeepsUnitCosts serveStep db) :
    ∀ b ∈ db.store.inventories.docs, b.initialQuantity ≠ 0 ∧
      ∃ c, b.cpq = .fin c ∧ c * b.initialQuantity = b.costPrice := by
  have hinv : UnitCosts db.store := by
    refine h.invariant (I := fun db => UnitCosts db.store) ?_ ?_
    · intro db hempty
      simp [UnitCosts, hempty.2.1]
    · exact fun c db hcosts hc b hb => hcosts.origin ((serve_effect c db).origin hb) hc
  intro b hb
  obtain ⟨hinit, hcpq⟩ := hinv b hb
  exact ⟨hinit, _, hcpq, div_mul_cancel₀ _ hinit⟩

/-- Ten pieces come in for a hundred, four are sold, and quantity and cost price are edited. -/
theorem unit_cost_exact_edited :
    let db := serveAll [Sample.call (.addProduct (Sample.productBody 10 100)),
      Sample.call (.recordSales 1 (Sample.salesBody 4)),
      Sample.call (.editInventory 2 (Sample.editBody (some 8) (some 60)))] Sample.db
    db.store.inventories.docs.map (fun b => (b.initialQuantity, b.cpq, b.costPrice)) =
        [(8, .fin (15 / 2), 60)] ∧
      ∀ b ∈ db.store.inventories.docs, b.initialQuantity ≠ 0 ∧
        ∃ c, b.cpq = .fin c ∧ c * b.initialQuantity = b.costPrice :=
  ⟨by decide +kernel, unit_cost_exact (Reach.foldl (.start Sample.isEmpty) (by decide +kernel))⟩

/-- A product comes in with a quantity of zero. -/
def emptyPurchaseRun : List Call := [Sample.call (.addProduct (Sample.productBody 0 100))]

/-- Ten pieces come in for a hundred, four are sold, and the quantity is edited to four. -/
def lastPiecesRun : List Call :=
  [Sample.call (.addProduct (Sample.productBody 10 100)),
    Sample.call (.recordSales 1 (Sample.salesBody 4)),
    Sample.call (.editInventory 2 (Sample.editBody (some 4) none))]

/-- The first batch has no finite unit cost; the second still has the unit cost of ten pieces. -/
theorem unit_cost_lost :
    Reach Db.IsEmpty (fun c _ => PlainEdits c.request) serveStep
        (serveAll emptyPurchaseRun Sample.db) ∧
      (serveAll emptyPurchaseRun Sample.db).store.inventories.docs.map
        (fun b => (b.initialQuantity, b.cpq, b.costPrice)) = [(0, .posInf, 100)] ∧
      Reach Db.IsEmpty (fun c _ => PlainEdits c.request) serveStep
        (serveAll lastPiecesRun Sample.db) ∧
      (serveAll lastPiecesRun Sample.db).store.inventories.docs.map
        (fun b => (b.initialQuantity, b.cpq, b.costPrice)) = [(4, .fin 10, 100)] :=
  ⟨Reach.foldl (.start Sample.isEmpty) (by decide +kernel), by decide +kernel,
    Reach.foldl (.start Sample.isEmpty) (by decide +kernel), by decide +kernel⟩

end InventoryHero.Batches
