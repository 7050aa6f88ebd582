import InventoryHero.Batches.Requests
import InventoryHero.Serial.Serve

/-!
# Edits that are delivered more than once

`editInventory` takes the quantity it is given for the pieces that came in, subtracts the pieces
sold and stores the rest. The pieces sold are computed from the stored batch, so a second delivery
starts from other numbers than the first. It computes the same ones as long as the batch does not
hold more pieces than came in, the edit leaves pieces, and no cost price of zero is given
(`edits_once`). In a batch that holds more, the first delivery counts no sold pieces and the second
does.
-/

set_option autoImplicit false

namespace InventoryHero.Retries

open Interaction Storage Model Serial Batches

/-- A patch that says the same when it is applied again. -/
def Settles {δ : Type} [Keyed δ ObjectId] (p : Patch δ) : Prop :=
  ∀ d, p.apply (p.apply d) = p.apply d

theorem Settles.modify {δ : Type} [Keyed δ ObjectId] {p : Patch δ} (h : Settles p)
    (c : Collection δ) (k : ObjectId) : (c.modify k p).modify k p = c.modify k p := by
  apply Collection.ext
  rw [Collection.docs_modify, Collection.docs_modify, List.map_map]
  apply List.map_congr_left
  intro d _
  by_cases hd : Keyed.key d = k
  · simp [hd, p.key_apply, h d]
  · simp [hd]

/-- A field that is given is stored the same again. -/
theorem getD_getD {β : Type} (o : Option β) (b : β) : o.getD (o.getD b) = o.getD b := by
  cases o <;> rfl

theorem settles_inventoryUpdate (u : InventoryUpdate) (q : Option ℚ) (cpq : Option JsNumber) :
    Settles (u.patch q cpq) := by
  intro d
  simp only [InventoryUpdate.patch, getD_getD]

theorem settles_costUpdate (u : CostUpdate) : Settles u.patch := by
  intro d
  simp only [CostUpdate.patch, getD_getD]

/-! ## The second delivery computes the same -/

/-- The batch holds no more than came in, the edit leaves pieces, and a cost price of zero, which is
stored but not computed with, is not given. -/
def Repeatable (b : Inventory) (data : EditBody) : Prop :=
  b.quantity ≤ b.initialQuantity ∧ data.quantity ≠ some (quantitySold b) ∧
    data.costPrice ≠ some 0

instance (b : Inventory) (data : EditBody) : Decidable (Repeatable b data) :=
  inferInstanceAs (Decidable (_ ∧ _ ∧ _))

section Again

variable {b : Inventory} {data : EditBody} {quantity quantity' : Option JsNumber}
  {initialQuantity initialQuantity' q q' : Option ℚ} {cpq cpq' : Option JsNumber}

/-- The quantities, from the batch that the first delivery stored. -/
theorem edited_again (hb : Repeatable b data)
    (edited : editQuantities b data = some (quantity, initialQuantity))
    (cast : castQuantity quantity = .ok q)
    (edited' : editQuantities
      (((editUpdate b data quantity initialQuantity).patch q cpq).apply b) data =
        some (quantity', initialQuantity'))
    (cast' : castQuantity quantity' = .ok q') :
    quantity' = quantity ∧ initialQuantity' = initialQuantity ∧ q' = q := by
  obtain ⟨hle, hleaves, -⟩ := hb
  have hinit :
      (((editUpdate b data quantity initialQuantity).patch q cpq).apply b).initialQuantity =
        initialQuantity.getD b.initialQuantity := rfl
  have hq : (((editUpdate b data quantity initialQuantity).patch q cpq).apply b).quantity =
    q.getD b.quantity := rfl
  have hagain := edited_cases edited' cast'
  rw [hinit, hq] at hagain
  rcases edited_cases edited cast with
    ⟨hsold, rfl, rfl, rfl⟩ | ⟨n, hsold, hn, -, rfl, rfl, rfl⟩ | ⟨hsold, -⟩
  · -- nothing was sold, and a quantity that is given counts
    have hcounts : ∀ n, data.quantity = some n → truthy data.quantity = true := by
      intro n hn
      refine truthy_eq_true_iff.2 ⟨n, hn, ?_⟩
      rintro rfl
      exact hleaves (by rw [quantitySold, hsold, hn])
    rcases hagain with ⟨-, rfl, rfl, rfl⟩ | ⟨n, hsold', hn, -⟩ | ⟨hsold', rfl, rfl, rfl⟩
    · exact ⟨rfl, rfl, rfl⟩
    · rw [if_pos (hcounts n hn), hn] at hsold'
      simp at hsold'
    · cases hn : data.quantity with
      | none => simp [truthy]
      | some n =>
          rw [if_pos (hcounts n hn), hn] at hsold'
          simp at hsold'
  · -- the pieces sold are the same as before
    simp only [Option.getD_some, sub_sub_cancel] at hagain
    rcases hagain with ⟨hsold', -⟩ | ⟨m, -, hm, -, rfl, rfl, rfl⟩ | ⟨hsold', -⟩
    · exact absurd hsold' hsold.ne'
    · obtain rfl : n = m := Option.some.inj (hn.symm.trans hm)
      exact ⟨rfl, rfl, rfl⟩
    · exact absurd hsold' hsold.not_gt
  · exact absurd hsold (not_lt.2 (sub_nonneg.2 hle))

/-- The unit cost: the cost price is the one that is given or the old one, and the quantity that
divides it is the one that is given or the one left. -/
theorem editCpq_again (hb : Repeatable b data)
    (edited : editQuantities b data = some (quantity, initialQuantity))
    (cast : castQuantity quantity = .ok q) :
    editCpq (((editUpdate b data quantity initialQuantity).patch q cpq).apply b) data quantity =
      editCpq b data quantity := by
  obtain ⟨hle, hleaves, hzero⟩ := hb
  have hcp : truthy data.costPrice = false → data.costPrice = none := by
    intro h
    cases hcp : data.costPrice with
    | none => rfl
    | some c =>
        obtain rfl : c = 0 := by simpa [hcp, truthy] using h
        exact absurd hcp hzero
  have hq : quantity.elim false JsNumber.truthy = false → q = none := by
    intro h
    rcases edited_cases edited cast with
      ⟨hsold, rfl, rfl, -⟩ | ⟨n, hsold, hn, hge, rfl, -, -⟩ | ⟨hsold, -⟩
    · cases hn : data.quantity with
      | none => rfl
      | some n =>
          obtain rfl : n = 0 := by simpa [hn, JsNumber.truthy] using h
          exact absurd (by rw [quantitySold, hsold, hn]) hleaves
    · have hzero : n - (b.initialQuantity - b.quantity) = 0 := by
        simpa [JsNumber.truthy] using h
      exact absurd (hn.trans (congrArg some (sub_eq_zero.1 hzero))) hleaves
    · exact absurd hsold (not_lt.2 (sub_nonneg.2 hle))
  cases hprice : truthy data.costPrice with
  | true =>
      cases hgiven : quantity.elim false JsNumber.truthy with
      | true => simp [editCpq, hprice, hgiven]
      | false => simp [editCpq, hprice, hgiven, InventoryUpdate.patch, hq hgiven]
  | false =>
      cases hgiven : quantity.elim false JsNumber.truthy with
      | true =>
          simp [editCpq, hgiven, InventoryUpdate.patch, editUpdate, hcp hprice]
      | false => simp [editCpq, hprice, hgiven]

end Again

/-! ## The second delivery stores the same -/

/-- The first cost record of a batch stays the first when it is updated. -/
theorem costOf_updated {s s' : Store} {id : ObjectId} {cost : Cost} {u : CostUpdate}
    (h : s.costOf id = some cost) (hs' : s'.costs = s.costs.modify cost._id u.patch) :
    s'.costOf id = some (u.patch.apply cost) := by
  have hsame : ((fun d : Cost => decide (d.inventoryId = id)) ∘ fun d =>
      if Keyed.key d = cost._id then u.patch.apply d else d) =
      fun d => decide (d.inventoryId = id) := by
    funext d
    by_cases hd : d._id = cost._id
    · simp [hd, CostUpdate.patch]
    · simp [hd]
  rw [Store.costOf, hs', Collection.docs_modify, List.find?_map, hsame]
  change (s.costOf id).map _ = _
  rw [h]
  simp

theorem editedCosts_again {s s' : Store} {id : ObjectId} {data : EditBody}
    {quantity : Option JsNumber} (hs' : s'.costs = editedCosts s id data quantity) :
    editedCosts s' id data quantity = s'.costs := by
  cases hcost : s.costOf id with
  | none =>
      simp only [editedCosts, hcost] at hs'
      have hcost' : s'.costOf id = none := by rwa [Store.costOf, hs']
      simp only [editedCosts, hcost']
  | some cost =>
      cases hedits : editsCost data quantity with
      | false =>
          simp only [editedCosts, hedits, Bool.false_eq_true, if_false]
          split <;> rfl
      | true =>
          simp only [editedCosts, hcost, hedits, if_true] at hs'
          simp only [editedCosts, costOf_updated hcost hs', hedits, if_true, hs']
          exact (settles_costUpdate _).modify s.costs cost._id

/-- **An edit takes effect once.** If a delivery of an edit changes the store, then the next one
does not, whoever sends it, as long as the batch that the edit found holds no more pieces than came
in, the quantity given is not just the pieces sold, and the cost price given is not zero. -/
theorem edits_once {db : Db} {id : ObjectId} {data : EditBody} {caller caller' : Caller}
    {env env' : Env} (hb : ∀ b ∈ db.store.findInventory id, Repeatable b data)
    (hchanged : (serveStep ⟨.editInventory id data, caller, env⟩ db).store ≠ db.store) :
    (serveStep ⟨.editInventory id data, caller', env'⟩
        (serveStep ⟨.editInventory id data, caller, env⟩ db)).store =
      (serveStep ⟨.editInventory id data, caller, env⟩ db).store := by
  cases serve_effect ⟨.editInventory id data, caller, env⟩ db with
  | unchanged store next => exact absurd store hchanged
  | editInventory batch quantity initialQuantity q cpq admin found edited cast castCpq store next =>
      generalize serveStep ⟨.editInventory id data, caller, env⟩ db = db' at store
      cases serve_effect ⟨.editInventory id data, caller', env'⟩ db' with
      | unchanged store' next' => exact store'
      | editInventory batch' quantity' initialQuantity' q' cpq' admin' found' edited' cast' castCpq'
          store' next' =>
          have hrep := hb batch found
          -- the batch that the second delivery finds is the one that the first stored
          obtain rfl : ((editUpdate batch data quantity initialQuantity).patch q cpq).apply batch =
              batch' := by
            have hget := Store.get?_of_findInventory found'
            rw [store] at hget
            simpa [editedStore, Collection.get?_modify, Store.get?_of_findInventory found]
              using hget
          obtain ⟨rfl, rfl, rfl⟩ := edited_again hrep edited cast edited' cast'
          have hcpq : cpq' = cpq := by
            rw [castCpq_ok castCpq', castCpq_ok castCpq, editCpq_again hrep edited cast]
          have hupdate : editUpdate (((editUpdate batch data quantity' initialQuantity').patch q'
              cpq).apply batch) data quantity' initialQuantity' =
              editUpdate batch data quantity' initialQuantity' :=
            congrArg (fun c => { editUpdate batch data quantity' initialQuantity' with cpq := c })
              (editCpq_again hrep edited cast)
          have hsettles := settles_inventoryUpdate
            (editUpdate batch data quantity' initialQuantity') q' cpq
          rw [store', hcpq, hupdate, editedStore, hsettles batch]
          have hcosts := congrArg Store.costs store
          simp only [editedStore] at hcosts
          -- both deliveries come to the cost record, or neither does
          have hagain : (if (((editUpdate batch data quantity' initialQuantity').patch q'
              cpq).apply batch).valid then editedCosts db'.store id data quantity'
              else db'.store.costs) = db'.store.costs := by
            split
            · rename_i hvalid
              rw [if_pos hvalid] at hcosts
              exact editedCosts_again hcosts
            · rfl
          rw [hagain]
          have hbatches : db'.store.inventories = db.store.inventories.modify id
              ((editUpdate batch data quantity' initialQuantity').patch q' cpq) :=
            congrArg Store.inventories store
          have hsame := hsettles.modify db.store.inventories id
          rw [← hbatches] at hsame
          rw [hsame]

/-- The batch of ten pieces, of which four are sold, is corrected to twelve. -/
theorem edits_once_shop :
    let edit := Sample.call (.editInventory 2 (Sample.editBody (some 12) (some 120)))
    let db := serveStep edit Sample.shop
    (serveStep edit db).store = db.store ∧
      db.store.inventories.docs.map (fun b => (b.quantity, b.initialQuantity)) = [(8, 12)] := by
  intro edit db
  have hrep : ∀ b ∈ Sample.shop.store.findInventory 2,
      Repeatable b (Sample.editBody (some 12) (some 120)) := by decide +kernel
  have hchanged : db.store ≠ Sample.shop.store := by
    intro hsame
    exact absurd (congrArg (fun s => s.inventories.docs.map (·.quantity)) hsame)
      (by decide +kernel)
  exact ⟨edits_once hrep hchanged, by decide +kernel⟩

end InventoryHero.Retries
