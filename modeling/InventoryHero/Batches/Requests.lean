import InventoryHero.Serial.Edits

/-!
# Conditions on requests

What the results about runs ask of the requests: of their bodies, and of what they find in the
database they are served on. A condition only concerns requests that are carried out: those of a
caller who may make them, and edits that are not refused.
-/

set_option autoImplicit false

namespace InventoryHero.Batches

open Interaction Storage Model Stock Serial

/-- A number that, if supplied, is positive. -/
def Positive (q : Option ℚ) : Prop := ∀ x ∈ q, 0 < x

/-- Every quantity and `upb` that the request supplies is positive. -/
def SuppliesPositive : Request → Prop
  | .addProduct body => Positive body.quantity ∧ Positive body.upb
  | .addInventory _ body => Positive body.quantity
  | .recordSales _ body => Positive body.quantity
  | .editInventory _ data => Positive data.quantity ∧ Positive data.initialQuantity
  | _ => True

instance (q : Option ℚ) : Decidable (Positive q) := inferInstanceAs (Decidable (∀ x ∈ q, 0 < x))

instance : DecidablePred SuppliesPositive
  | .addProduct _ => inferInstanceAs (Decidable (_ ∧ _))
  | .addInventory _ body => inferInstanceAs (Decidable (Positive body.quantity))
  | .recordSales _ body => inferInstanceAs (Decidable (Positive body.quantity))
  | .editInventory _ _ => inferInstanceAs (Decidable (_ ∧ _))
  | .deleteSalesRecord _ _ | .deleteAllSales | .userDeleteProduct _ | .deleteInventory _ =>
      .isTrue trivial

theorem SuppliesPositive.bought_pos {r : Request} (h : SuppliesPositive r) {q : ℚ}
    (hq : r.bought = some q) : 0 < q := by
  cases r with
  | addProduct body => exact h.1 q hq
  | addInventory id body => exact h q hq
  | _ => cases hq

/-- A sale is reversed for its own product. -/
def ReversesOwn (c : Call) (db : Db) : Prop :=
  c.request.OnReversal fun id prd => ∀ sale ∈ db.store.sales.get? id, sale.product = prd

instance (c : Call) (db : Db) : Decidable (ReversesOwn c db) :=
  inferInstanceAs (Decidable (c.request.OnReversal _))

/-- The reversal of a sale by an admin does not rebuild a batch: there is a live batch to credit, or
no snapshot to rebuild one from (and the reversal fails). -/
def NoRebuild (c : Call) (db : Db) : Prop :=
  c.request.OnReversal fun id prd => MayReverse db c.caller → db.store.sales.get? id ≠ none →
    firstLive prd db.store.inventories = none → db.store.lastsOf prd = []

instance (c : Call) (db : Db) : Decidable (NoRebuild c db) :=
  inferInstanceAs (Decidable (c.request.OnReversal _))

theorem NoRebuild.not_rebuilt {db : Db} {id prd : ObjectId} {caller : Caller} {env : Env}
    {sale : Sale} {last : Last} (h : NoRebuild ⟨.deleteSalesRecord id prd, caller, env⟩ db)
    (may : MayReverse db caller) (found : db.store.sales.get? id = some sale)
    (none_live : firstLive prd db.store.inventories = none) :
    (db.store.lastsOf prd).head? ≠ some last := by
  have hlasts := h may (by simp [found]) none_live
  simp [hlasts]

/-! ## Edits -/

/-- Edits give no other fields than a quantity, prices, a batch number and dates. -/
def PlainEdits (r : Request) : Prop :=
  r.OnEdit fun _ data => data.initialQuantity = none ∧ data.cpq = none ∧ data.product = none ∧
    data.createdBy = none ∧ data.createdAt = none ∧ data.isDeleted = none

instance (r : Request) : Decidable (PlainEdits r) := inferInstanceAs (Decidable (r.OnEdit _))

/-- The pieces sold from a batch, as `editInventory` computes them. -/
def quantitySold (b : Inventory) : ℚ := b.initialQuantity - b.quantity

/-- An edit is refused if it gives fewer pieces than were sold, and fails if it gives no quantity
for a batch from which pieces were sold. -/
def Accepted (b : Inventory) (data : EditBody) : Prop :=
  0 < quantitySold b → ∃ n ∈ data.quantity, quantitySold b ≤ n

instance (b : Inventory) (data : EditBody) : Decidable (Accepted b data) :=
  inferInstanceAs (Decidable (_ → _))

theorem accepted_of_edited {b : Inventory} {data : EditBody} {quantity : Option JsNumber}
    {initialQuantity q : Option ℚ}
    (edited : editQuantities b data = some (quantity, initialQuantity))
    (cast : castQuantity quantity = .ok q) : Accepted b data := by
  intro hsold
  rcases edited_cases edited cast with ⟨h, -⟩ | ⟨n, -, hn, hle, -⟩ | ⟨h, -⟩
  · exact absurd h hsold.ne'
  · exact ⟨n, hn, hle⟩
  · exact absurd hsold h.not_gt

/-- The condition `P` on the batch and the body of an edit that an admin makes and that is not
refused. -/
def OnAcceptedEdit (P : Inventory → EditBody → Prop) (c : Call) (db : Db) : Prop :=
  c.request.OnEdit fun id data => isAdmin (db.store.users.get? c.caller._id) = true →
    ∀ b ∈ db.store.findInventory id, Accepted b data → P b data

instance (P : Inventory → EditBody → Prop) [∀ b data, Decidable (P b data)] (c : Call) (db : Db) :
    Decidable (OnAcceptedEdit P c db) :=
  inferInstanceAs (Decidable (c.request.OnEdit _))

end InventoryHero.Batches
