import InventoryHero.Edits.Batch

/-!
# Editing a batch without its quantity

An edit that gives prices, a batch number or dates only should leave the quantities as they are.
Where something was sold, `editInventory` subtracts the pieces sold from the quantity all the same:
the difference of `undefined` and a number is not a number, the update is refused, and nothing is
stored. Where nothing was sold, or more is left than came in, the edit does what it should, provided
that the batch and the cost record, if it is updated, can be saved (`plain_edit_iff`).
-/

set_option autoImplicit false

namespace InventoryHero.Edits

open Interaction Storage Model Stock Serial

/-- A body made of `price`, `costPrice`, `batch`, `expiryDate` and `transactionDate`, each of them
given or not. -/
structure Plain (data : EditBody) : Prop where
  quantity : data.quantity = none
  initialQuantity : data.initialQuantity = none
  cpq : data.cpq = none
  product : data.product = none
  createdBy : data.createdBy = none
  createdAt : data.createdAt = none
  isDeleted : data.isDeleted = none

variable {s : Store} {id : ObjectId} {data : EditBody} {batch : Inventory} {env : Env}

/-! ## The plan of the edit -/

/-- Something was sold: the quantity that is to be stored is not a number. -/
theorem editQuantities_plain_sold (h : Plain data) (hsold : 0 < sold batch) :
    editQuantities batch data = some (some .nan, none) := by
  rw [sold] at hsold
  simp [editQuantities, hsold.ne', hsold, h.quantity]

theorem editQuantities_plain (h : Plain data) (hsold : sold batch ≤ 0) :
    editQuantities batch data = some (none, none) := by
  rw [sold] at hsold
  simp [editQuantities, not_lt.2 hsold, h.quantity, h.initialQuantity, truthy]

theorem div_ne_nan {a : ℚ} (ha : a ≠ 0) (b : ℚ) : JsNumber.div a b ≠ .nan := by
  rw [JsNumber.div]
  split_ifs with hb hpos hneg
  · exact JsNumber.noConfusion
  · exact JsNumber.noConfusion
  · exact JsNumber.noConfusion
  · exact fun _ => ha (le_antisymm (not_lt.1 hpos) (not_lt.1 hneg))

/-- A unit cost is computed from a cost price that is given and not zero, so it can be stored. -/
theorem castCpq_plain (h : Plain data) :
    castCpq (editCpq batch data none) = .ok (editCpq batch data none) := by
  have hne : editCpq batch data none ≠ some .nan := by
    cases hcost : truthy data.costPrice with
    | false => simp [editCpq, hcost, h.cpq]
    | true =>
        obtain ⟨c, hc, hzero⟩ := truthy_eq_true_iff.1 hcost
        have hcpq : editCpq batch data none = some (.div c batch.quantity) := by
          simp [editCpq, hc ▸ hcost, hc]
        simpa [hcpq] using div_ne_nan hzero batch.quantity
  unfold castCpq
  split
  · contradiction
  · rfl

theorem editPlan_plain_sold (h : Plain data) (hsold : 0 < sold batch) :
    editPlan batch data = none := by
  simp only [editPlan, editQuantities_plain_sold h hsold, castQuantity]

theorem editPlan_plain (h : Plain data) (hsold : sold batch ≤ 0) :
    editPlan batch data =
      some (none, (editUpdate batch data none none).patch none (editCpq batch data none)) := by
  simp only [editPlan, editQuantities_plain h hsold, castQuantity, castCpq_plain h]

/-! ## The batch and its cost record -/

/-- The batch has the values that are given. -/
structure HasGiven (data : EditBody) (stored : Inventory) : Prop where
  price : ∀ price ∈ data.price, stored.price = price
  costPrice : ∀ costPrice ∈ data.costPrice, stored.costPrice = costPrice
  batch : ∀ number ∈ data.batch, stored.batch = number
  expiryDate : ∀ date ∈ data.expiryDate, stored.expiryDate = date
  transactionDate : ∀ date ∈ data.transactionDate, stored.createdAt = date

theorem getD_eq_of_mem {α : Type} {o : Option α} {a b : α} (h : b ∈ o) : o.getD a = b := by
  rw [Option.mem_def.1 h, Option.getD_some]

theorem hasGiven_patch (h : Plain data) (cpq : Option JsNumber) :
    HasGiven data (((editUpdate batch data none none).patch none cpq).apply batch) where
  price _ hmem := getD_eq_of_mem hmem
  costPrice _ hmem := getD_eq_of_mem hmem
  batch _ hmem := getD_eq_of_mem hmem
  expiryDate _ hmem := getD_eq_of_mem hmem
  transactionDate date hmem := by
    change (data.transactionDate.or data.createdAt).getD batch.createdAt = date
    rw [h.createdAt, Option.or_none]
    exact getD_eq_of_mem hmem

/-- The cost record has the price and the date that are given; a price of zero passes for none. -/
structure RecordsGiven (data : EditBody) (cost : Cost) : Prop where
  costPrice : ∀ costPrice ∈ data.costPrice, costPrice ≠ 0 → cost.cost = costPrice
  transactionDate : ∀ date ∈ data.transactionDate, cost.createdAt = date

theorem recordsGiven_patch (cost : Cost) :
    RecordsGiven data ((editCostData data none).patch.apply cost) where
  costPrice costPrice hmem hzero := by
    have htruthy : truthy data.costPrice = true := truthy_eq_true_iff.2 ⟨costPrice, hmem, hzero⟩
    change (if truthy data.costPrice then data.costPrice else none).getD cost.cost = costPrice
    rw [if_pos htruthy]
    exact getD_eq_of_mem hmem
  transactionDate _ hmem := getD_eq_of_mem hmem

/-- The cost record has what the edit gives, if it comes to it. -/
theorem get?_costs_edited {cost : Cost} (hcost : s.costOf id = some cost) (data : EditBody)
    {patch : Patch Inventory} (hvalid : (patch.apply batch).valid = true) :
    (editedStore s id batch data none patch).costs.get? cost._id =
      some ((editCostData data none).patch.apply cost) := by
  have hget := Store.get?_of_costOf hcost
  simp only [editedStore, if_pos hvalid, editedCosts, hcost]
  by_cases hedits : editsCost data none = true
  · rw [if_pos hedits, Collection.get?_modify, if_pos rfl, hget, Option.map_some]
  · rw [if_neg hedits, editCostData_of_not_edits (by simpa using hedits)]
    exact hget

/-- The batch and, if it is updated, the cost record can be saved: they name their creators, and the
unit cost is a number or computed anew. -/
def Savable (batch : Inventory) (cost : Cost) (data : EditBody) : Prop :=
  batch.createdBy.firstName ≠ "" ∧ (truthy data.costPrice = true ∨ batch.cpq ≠ .nan) ∧
    (editsCost data none = true → cost.createdBy.firstName ≠ "")

instance (batch : Inventory) (cost : Cost) (data : EditBody) :
    Decidable (Savable batch cost data) :=
  inferInstanceAs (Decidable (_ ∧ _ ∧ _))

theorem valid_plain_iff (batch : Inventory) (h : Plain data) :
    (((editUpdate batch data none none).patch none (editCpq batch data none)).apply batch).valid =
        true ↔
      batch.createdBy.firstName ≠ "" ∧ (truthy data.costPrice = true ∨ batch.cpq ≠ .nan) := by
  rw [Inventory.valid_iff]
  refine and_congr ?_ ?_
  · change (data.createdBy.getD batch.createdBy).valid = true ↔ _
    simp [h.createdBy, Person.valid_iff]
  · change (editCpq batch data none).getD batch.cpq ≠ .nan ↔ _
    cases hcost : truthy data.costPrice with
    | false => simp [editCpq, hcost, h.cpq]
    | true =>
        obtain ⟨c, hc, hzero⟩ := truthy_eq_true_iff.1 hcost
        have hcpq : editCpq batch data none = some (.div c batch.quantity) := by
          simp [editCpq, hc ▸ hcost, hc]
        simpa [hcpq] using div_ne_nan hzero batch.quantity

theorem not_throws_plain_iff {cost : Cost} (hcost : s.costOf id = some cost) (h : Plain data) :
    ¬Throws s id data none
        (((editUpdate batch data none none).patch none (editCpq batch data none)).apply batch) ↔
      Savable batch cost data := by
  rw [Throws, not_or, Bool.not_eq_false, valid_plain_iff batch h, Savable, and_assoc, hcost]
  simp [Person.valid_iff]

/-- The edit is answered with success, the batch and its cost record have the values that are given,
and the quantities of both are as before. -/
structure PlainEdited (db' : Db) (sent : List Response) (id : ObjectId) (data : EditBody)
    (batch : Inventory) (cost : Cost) : Prop where
  succeeds : sent.map Response.status = [200]
  stored : ∃ after ∈ db'.store.inventories.get? id, HasGiven data after ∧
    after.quantity = batch.quantity ∧ after.initialQuantity = batch.initialQuantity
  recorded : ∃ after ∈ db'.store.costs.get? cost._id, RecordsGiven data after ∧
    after.quantity = cost.quantity

section Edit

variable {db : Db} {caller : Caller} {cost : Cost}
  (hadmin : isAdmin (db.store.users.get? caller._id) = true)
  (hbatch : db.store.inventories.get? id = some batch) (hcost : db.store.costOf id = some cost)
  (hdata : Plain data)

include hadmin hbatch hdata

/-- A batch that cannot be found, or of which something was sold, makes the edit fail. -/
theorem statuses_of_hidden_or_sold (h : batch.isDeleted = true ∨ 0 < sold batch) (env : Env) :
    (serve ⟨.editInventory id data, caller, env⟩ db).loc.sent.map Response.status = [500] := by
  rw [(editInventory_outcome db id data caller env).statuses]
  cases hdeleted : batch.isDeleted with
  | true =>
      -- the hook hides the batch
      have hfound : db.store.findInventory id = none := by
        simp [Store.findInventory, hbatch, hdeleted]
      rw [outcome_of_missing hadmin hfound]
      rfl
  | false =>
      have hfound : db.store.findInventory id = some batch := by
        simp [Store.findInventory, hbatch, hdeleted]
      have hsold : 0 < sold batch := h.resolve_left (by simp [hdeleted])
      rw [outcome_of_found hadmin hfound, editPlan_plain_sold hdata hsold,
        editQuantities_plain_sold hdata hsold]
      rfl

/-- Otherwise it comes to the updates. -/
theorem outcome_plain (hlive : batch.isDeleted = false) (hsold : sold batch ≤ 0) (env : Env) :
    editInventoryOutcome db.store id data caller env =
      editOutcome db.store id batch data none
        ((editUpdate batch data none none).patch none (editCpq batch data none)) env := by
  have hfound : db.store.findInventory id = some batch := by
    simp [Store.findInventory, hbatch, hlive]
  rw [outcome_of_found hadmin hfound, editPlan_plain hdata hsold]

include hcost

/-- An edit without a quantity does what it should exactly if the batch can be found, nothing of it
was sold or more is left than came in, both documents can be saved, and the commit does not fail
from outside. -/
theorem plain_edit_iff (env : Env) :
    PlainEdited (serveStep ⟨.editInventory id data, caller, env⟩ db)
        (serve ⟨.editInventory id data, caller, env⟩ db).loc.sent id data batch cost ↔
      batch.isDeleted = false ∧ sold batch ≤ 0 ∧ Savable batch cost data ∧
        env.commitFails = false := by
  by_cases hfails : batch.isDeleted = true ∨ 0 < sold batch
  · have hstatuses := statuses_of_hidden_or_sold hadmin hbatch hdata hfails env
    refine iff_of_false ?_ ?_
    · intro h
      rw [h.succeeds] at hstatuses
      simp at hstatuses
    · rintro ⟨hlive, hsold, -⟩
      rcases hfails with hdeleted | hpos
      · simp [hlive] at hdeleted
      · exact not_lt.2 hsold hpos
  · obtain ⟨hlive, hsold⟩ := not_or.1 hfails
    rw [Bool.not_eq_true] at hlive
    rw [not_lt] at hsold
    have hserved := editInventory_outcome db id data caller env
    rw [outcome_plain hadmin hbatch hdata hlive hsold] at hserved
    have hstore : (serveStep ⟨.editInventory id data, caller, env⟩ db).store = _ := hserved.store
    rw [apply_editOutcome] at hstore
    have hstatuses := hserved.statuses
    rw [statuses_editOutcome, ← ite_not, if_congr (not_throws_plain_iff hcost hdata) rfl rfl]
      at hstatuses
    constructor
    · intro h
      rw [h.succeeds] at hstatuses
      refine ⟨hlive, hsold, ?_⟩
      by_contra hnot
      split_ifs at hstatuses <;> simp_all
    · rintro ⟨-, -, hsavable, hcommit⟩
      have hvalid := (valid_plain_iff batch hdata).2 ⟨hsavable.1, hsavable.2.1⟩
      refine ⟨?_, ?_, ?_⟩
      · rw [hstatuses, if_pos hsavable, hcommit]
        rfl
      · rw [hstore, get?_edited hbatch]
        exact ⟨_, rfl, hasGiven_patch hdata _, rfl, rfl⟩
      · rw [hstore, get?_costs_edited hcost data hvalid]
        exact ⟨_, rfl, recordsGiven_patch cost, rfl⟩

end Edit

/-- A new batch gets another cost price and another date. -/
theorem plain_edit_new_batch :
    let db := serveAll [Sample.call (.addProduct (Sample.productBody 10 100))] Sample.db
    let data := { Sample.editBody none (some 50) with transactionDate := some 7 }
    let c := Sample.call (.editInventory 2 data)
    ∃ batch ∈ db.store.inventories.get? 2, ∃ cost ∈ db.store.costOf 2,
      PlainEdited (serveStep c db) (serve c db).loc.sent 2 data batch cost := by
  intro db data c
  have hadmin : isAdmin (db.store.users.get? Sample.admin._id) = true := by decide +kernel
  have hfound : ∃ batch ∈ db.store.inventories.get? 2, ∃ cost ∈ db.store.costOf 2,
      batch.isDeleted = false ∧ sold batch ≤ 0 ∧ Savable batch cost data := by decide +kernel
  obtain ⟨batch, hbatch, cost, hcost, hlive, hsold, hsavable⟩ := hfound
  have hdata : Plain data := ⟨rfl, rfl, rfl, rfl, rfl, rfl, rfl⟩
  exact ⟨batch, hbatch, cost, hcost,
    (plain_edit_iff hadmin hbatch hcost hdata Sample.env).2 ⟨hlive, hsold, hsavable, rfl⟩⟩

/-- Of a batch with four of ten pieces sold, the cost price cannot be changed: the answer is an
error, and the batch is as before. -/
theorem plain_edit_of_sold_batch :
    let c := Sample.call (.editInventory 2 (Sample.editBody none (some 50)))
    (serve c Sample.shop).loc.sent = [internalServerError] ∧
      (Sample.shop.store.costOf 2).isSome = true ∧
      ((serveStep c Sample.shop).store.inventories.get? 2).map Inventory.costPrice = some 100 := by
  decide +kernel

end InventoryHero.Edits
