import InventoryHero.Serial.Commits

/-!
# Editing a batch

`editInventory` opens a transaction, but updates the batch and its cost record outside of it. An
error after the first of the two updates leaves the batch edited (`edit_undone_iff`): it comes up
where the batch has no cost record, as a reversal makes them, and where `save` refuses one of the
two documents, which the update has not checked.

The quantity of the request is the total of the batch, of which the pieces sold are to be
subtracted. The source tells by its truth value whether there is one, and does not subtract where
more is left than came in (`edit_keeps_sold_iff`).
-/

set_option autoImplicit false

namespace InventoryHero.Edits

open Interaction Storage Model Stock Serial

/-- The rewritten quantity and the change of the batch that an edit comes to, if it is not refused
and its numbers can be stored. -/
def editPlan (batch : Inventory) (data : EditBody) : Option (Option JsNumber × Patch Inventory) :=
  match editQuantities batch data with
  | none => none
  | some (quantity, initialQuantity) =>
      match castQuantity quantity, castCpq (editCpq batch data quantity) with
      | .ok q, .ok cpq =>
          some (quantity, (editUpdate batch data quantity initialQuantity).patch q cpq)
      | _, _ => none

variable {s : Store} {id : ObjectId} {data : EditBody} {caller : Caller} {env : Env}
  {batch : Inventory}

section Outcomes

variable (hadmin : isAdmin (s.users.get? caller._id) = true)

include hadmin

theorem outcome_of_missing (hfound : s.findInventory id = none) :
    editInventoryOutcome s id data caller env = .idle 0 [500] := by
  simp only [editInventoryOutcome, hadmin, if_true, hfound]

theorem outcome_of_found (hfound : s.findInventory id = some batch) :
    editInventoryOutcome s id data caller env =
      match editPlan batch data with
      | none => .idle 0 [if editQuantities batch data = none then 400 else 500]
      | some (quantity, patch) => editOutcome s id batch data quantity patch env := by
  simp only [editInventoryOutcome, hadmin, if_true, hfound, editPlan]
  cases hq : editQuantities batch data with
  | none => simp
  | some r =>
      obtain ⟨quantity, initialQuantity⟩ := r
      cases hcast : castQuantity quantity with
      | error e => simp [hcast]
      | ok q =>
          cases hcpq : castCpq (editCpq batch data quantity) with
          | error e => simp [hcast, hcpq]
          | ok cpq => simp [hcast, hcpq]

end Outcomes

/-- The edit throws after the update of the batch: the new batch does not pass the schema, or its
cost record is to be updated as well, and is missing or does not pass. -/
def Throws (s : Store) (id : ObjectId) (data : EditBody) (quantity : Option JsNumber)
    (after : Inventory) : Prop :=
  after.valid = false ∨
    editsCost data quantity = true ∧ ∀ cost ∈ s.costOf id, cost.createdBy.valid = false

instance (s : Store) (id : ObjectId) (data : EditBody) (quantity : Option JsNumber)
    (after : Inventory) : Decidable (Throws s id data quantity after) :=
  inferInstanceAs (Decidable (_ ∨ _))

/-- Once it comes to the updates, they take effect. -/
theorem apply_editOutcome (s : Store) (id : ObjectId) (batch : Inventory) (data : EditBody)
    (quantity : Option JsNumber) (patch : Patch Inventory) (env : Env) (n : ObjectId) :
    s.apply ((editOutcome s id batch data quantity patch env).writes n) =
      editedStore s id batch data quantity patch := by
  unfold editOutcome editedStore editedCosts
  cases (patch.apply batch).valid with
  | false => rfl
  | true =>
      cases editsCost data quantity with
      | false => cases s.costOf id <;> rfl
      | true =>
          cases s.costOf id with
          | none => rfl
          | some cost => cases hname : cost.createdBy.valid <;> simp [hname] <;> rfl

/-- The answer depends on whether the edit throws, and then on the commit. -/
theorem statuses_editOutcome (s : Store) (id : ObjectId) (batch : Inventory) (data : EditBody)
    (quantity : Option JsNumber) (patch : Patch Inventory) (env : Env) :
    (editOutcome s id batch data quantity patch env).statuses =
      if Throws s id data quantity (patch.apply batch) then [500]
      else if env.commitFails then [] else [200] := by
  rw [editOutcome]
  cases hvalid : (patch.apply batch).valid with
  | false => simp [Throws, hvalid, editBroken]
  | true =>
      cases hedits : editsCost data quantity with
      | false => simp [Throws, hvalid, hedits, editDone]
      | true =>
          cases hcost : s.costOf id with
          | none => simp [Throws, hedits, hcost, editBroken]
          | some cost =>
              cases hname : cost.createdBy.valid <;>
                simp [Throws, hvalid, hedits, hcost, hname, editBroken, editDone]

theorem statuses_editOutcome_ne (s : Store) (id : ObjectId) (batch : Inventory) (data : EditBody)
    (quantity : Option JsNumber) (patch : Patch Inventory) (env : Env) :
    (editOutcome s id batch data quantity patch env).statuses ≠ [400] := by
  rw [statuses_editOutcome]
  split_ifs <;> simp

theorem throws_of_error {quantity : Option JsNumber} {patch : Patch Inventory}
    (h : (editOutcome s id batch data quantity patch env).statuses = [500]) :
    Throws s id data quantity (patch.apply batch) := by
  by_contra hnot
  rw [statuses_editOutcome, if_neg hnot] at h
  cases hfails : env.commitFails <;> simp [hfails] at h

theorem get?_edited (h : s.inventories.get? id = some batch) (data : EditBody)
    (quantity : Option JsNumber) (patch : Patch Inventory) :
    (editedStore s id batch data quantity patch).inventories.get? id =
      some (patch.apply batch) := by
  rw [editedStore, Collection.get?_modify, if_pos rfl, h, Option.map_some]

/-! ## Errors -/

/-- The updates change the batch or, if they come to it, its cost record. -/
def Alters (s : Store) (id : ObjectId) (data : EditBody) (quantity : Option JsNumber)
    (before after : Inventory) : Prop :=
  after ≠ before ∨ after.valid = true ∧
    ∃ cost ∈ s.costOf id, (editCostData data quantity).patch.apply cost ≠ cost

instance (s : Store) (id : ObjectId) (data : EditBody) (quantity : Option JsNumber)
    (before after : Inventory) : Decidable (Alters s id data quantity before after) :=
  inferInstanceAs (Decidable (_ ∨ _))

theorem costs_edited_eq_iff (s : Store) (id : ObjectId) (batch : Inventory) (data : EditBody)
    (quantity : Option JsNumber) (patch : Patch Inventory) :
    (editedStore s id batch data quantity patch).costs = s.costs ↔
      ¬((patch.apply batch).valid = true ∧
        ∃ cost ∈ s.costOf id, (editCostData data quantity).patch.apply cost ≠ cost) := by
  unfold editedStore editedCosts
  cases (patch.apply batch).valid with
  | false => simp
  | true =>
      cases hcost : s.costOf id with
      | none => simp
      | some cost =>
          cases hedits : editsCost data quantity with
          | false => simp [editCostData_of_not_edits hedits]
          | true => simp [Collection.modify_eq_self_iff (Store.get?_of_costOf hcost)]

/-- The edit throws after updates that have changed something. -/
def HalfEdited (s : Store) (id : ObjectId) (data : EditBody) : Prop :=
  ∃ batch ∈ s.findInventory id, ∃ plan ∈ editPlan batch data,
    Throws s id data plan.1 (plan.2.apply batch) ∧
      Alters s id data plan.1 batch (plan.2.apply batch)

instance (s : Store) (id : ObjectId) (data : EditBody) : Decidable (HalfEdited s id data) :=
  inferInstanceAs (Decidable (∃ _ ∈ _, _))

/-- An edit that is answered with an error has changed nothing, except where it throws after its
updates. -/
theorem edit_undone_iff {db : Db} {id : ObjectId} {data : EditBody} {caller : Caller} {env : Env}
    (herror : (serve ⟨.editInventory id data, caller, env⟩ db).loc.sent.map Response.status ∈
      [[400], [500]]) :
    ((serveStep ⟨.editInventory id data, caller, env⟩ db).store.inventories =
        db.store.inventories ∧
      (serveStep ⟨.editInventory id data, caller, env⟩ db).store.costs = db.store.costs) ↔
      ¬HalfEdited db.store id data := by
  obtain ⟨hstore, -, hstatuses, -⟩ := editInventory_outcome db id data caller env
  rw [hstatuses, List.mem_pair] at herror
  change (serveStep _ db).store = _ at hstore
  rw [hstore]
  by_cases hadmin : isAdmin (db.store.users.get? caller._id) = true
  swap
  · simp [editInventoryOutcome, hadmin, Outcome.idle] at herror
  cases hfound : db.store.findInventory id with
  | none =>
      rw [outcome_of_missing hadmin hfound]
      simp [HalfEdited, hfound, Outcome.idle]
  | some batch =>
      rw [outcome_of_found hadmin hfound] at herror ⊢
      cases hplan : editPlan batch data with
      | none => simp [HalfEdited, hfound, hplan, Outcome.idle]
      | some plan =>
          obtain ⟨quantity, patch⟩ := plan
          rw [hplan] at herror
          -- the answer is 500, and the updates stay
          have hthrows := throws_of_error
            (herror.resolve_left (statuses_editOutcome_ne _ _ _ _ _ _ _))
          have hhalf : HalfEdited db.store id data ↔
              Alters db.store id data quantity batch (patch.apply batch) := by
            simp [HalfEdited, hfound, hplan, hthrows]
          have hsame : (editedStore db.store id batch data quantity patch).inventories =
              db.store.inventories ↔ patch.apply batch = batch :=
            Collection.modify_eq_self_iff (Store.get?_of_findInventory hfound) patch
          rw [hhalf, apply_editOutcome, hsame, costs_edited_eq_iff, Alters, not_or, not_not]

/-- An edit to fewer pieces than were sold is refused, and nothing changes. -/
theorem edit_undone_refused :
    let c := Sample.call (.editInventory 2 (Sample.editBody (some 3) (some 50)))
    (serveStep c Sample.shop).store.inventories = Sample.shop.store.inventories ∧
      (serveStep c Sample.shop).store.costs = Sample.shop.store.costs :=
  (edit_undone_iff (by decide +kernel)).2 (by decide +kernel)

/-- The batch that a reversal rebuilt has no cost record. -/
def rebuiltBatch : Db :=
  serveAll [Sample.call (.addProduct (Sample.productBody 10 100)),
    Sample.call (.recordSales 1 (Sample.salesBody 10)),
    Sample.call (.deleteSalesRecord 5 1)] Sample.db

/-- An edit of its cost price is answered with an error, and has changed it. So is one that takes
the name from a new batch. -/
theorem edit_of_rebuilt_batch :
    let c := Sample.call (.editInventory 6 (Sample.editBody none (some 50)))
    let blank := Sample.call (.editInventory 2 Sample.blankName)
    let db := serveAll [Sample.call (.addProduct (Sample.productBody 10 100))] Sample.db
    ((serve c rebuiltBatch).loc.sent = [internalServerError] ∧
      (rebuiltBatch.store.inventories.get? 6).map Inventory.costPrice = some 100 ∧
      ((serveStep c rebuiltBatch).store.inventories.get? 6).map Inventory.costPrice = some 50) ∧
    (serve blank db).loc.sent = [internalServerError] ∧
      (db.store.inventories.get? 2).map (·.createdBy.firstName) = some "shop" ∧
      ((serveStep blank db).store.inventories.get? 2).map (·.createdBy.firstName) = some "" := by
  decide +kernel

/-! ## Quantities -/

/-- What was sold of a batch, according to its quantities. -/
def sold (b : Inventory) : ℚ := b.initialQuantity - b.quantity

section Quantities

variable {n : ℚ} (hn : data.quantity = some n)

include hn

theorem editQuantities_unsold (h : sold batch = 0) :
    editQuantities batch data =
      some (some (.fin n), if n = 0 then data.initialQuantity else some n) := by
  rw [sold] at h
  by_cases h₀ : n = 0 <;> simp [editQuantities, h, hn, truthy, h₀]

theorem editQuantities_sold (h : 0 < sold batch) :
    editQuantities batch data =
      if n < sold batch then none else some (some (.fin (n - sold batch)), some n) := by
  rw [sold] at h
  simp only [editQuantities, h.ne', h, hn, sold, if_true, if_false]
  rfl

theorem editQuantities_credited (h : sold batch < 0) :
    editQuantities batch data = some (some (.fin n), data.initialQuantity) := by
  rw [sold] at h
  simp [editQuantities, h.ne, not_lt.2 h.le, hn]

/-- An edit is refused if it asks for less than was sold. -/
theorem editQuantities_eq_none_iff (h₀ : 0 ≤ n) :
    editQuantities batch data = none ↔ n < sold batch := by
  rcases lt_trichotomy (sold batch) 0 with h | h | h
  · rw [editQuantities_credited hn h]
    exact iff_of_false (Option.some_ne_none _) (not_lt.2 (h.le.trans h₀))
  · rw [editQuantities_unsold hn h, h]
    exact iff_of_false (Option.some_ne_none _) (not_lt.2 h₀)
  · rw [editQuantities_sold hn h]
    simp

end Quantities

theorem editQuantities_of_editPlan {plan : Option JsNumber × Patch Inventory}
    (hplan : editPlan batch data = some plan) : editQuantities batch data ≠ none := by
  intro hnone
  rw [editPlan, hnone] at hplan
  cases hplan

/-- The quantities of the batch after the edit. -/
theorem quantities_of_editPlan {plan : Option JsNumber × Patch Inventory} {q : ℚ} {i : Option ℚ}
    (hplan : editPlan batch data = some plan)
    (hq : editQuantities batch data = some (some (.fin q), i)) :
    (plan.2.apply batch).quantity = q ∧
      (plan.2.apply batch).initialQuantity = i.getD batch.initialQuantity := by
  simp only [editPlan, hq, castQuantity] at hplan
  cases hcpq : castCpq (editCpq batch data (some (.fin q))) with
  | error e => simp [hcpq] at hplan
  | ok cpq =>
      simp only [hcpq, Option.some.injEq] at hplan
      subst hplan
      exact ⟨rfl, rfl⟩

/-- The total is now `n`, and what was sold is what was sold before. -/
def KeepsSold (before after : Inventory) (n : ℚ) : Prop :=
  after.initialQuantity = n ∧ sold after = sold before

instance (before after : Inventory) (n : ℚ) : Decidable (KeepsSold before after n) :=
  inferInstanceAs (Decidable (_ ∧ _))

/-- Something was sold of the batch; or nothing was, and the total is not zero or is to be stored as
zero. -/
def Subtracts (batch : Inventory) (data : EditBody) (n : ℚ) : Prop :=
  0 < sold batch ∨
    sold batch = 0 ∧ (n ≠ 0 ∨ data.initialQuantity.getD batch.initialQuantity = 0)

instance (batch : Inventory) (data : EditBody) (n : ℚ) : Decidable (Subtracts batch data n) :=
  inferInstanceAs (Decidable (_ ∨ _))

theorem keepsSold_iff {n : ℚ} {plan : Option JsNumber × Patch Inventory}
    (hn : data.quantity = some n) (hplan : editPlan batch data = some plan) :
    KeepsSold batch (plan.2.apply batch) n ↔ Subtracts batch data n := by
  rw [KeepsSold, Subtracts, sold]
  rcases lt_trichotomy (sold batch) 0 with h | h | h
  · -- more is left than came in: the quantity is stored as it is
    obtain ⟨hq, hi⟩ := quantities_of_editPlan hplan (editQuantities_credited hn h)
    rw [hq, hi]
    refine iff_of_false ?_ ?_
    · rintro ⟨htotal, hsold⟩
      linarith
    · rintro (hpos | ⟨hzero, -⟩)
      · exact lt_asymm h hpos
      · exact h.ne hzero
  · obtain ⟨hq, hi⟩ := quantities_of_editPlan hplan (editQuantities_unsold hn h)
    rw [hq, hi, h]
    by_cases h₀ : n = 0
    · simp [h₀]
    · simp [h₀]
  · have hnot := editQuantities_of_editPlan hplan
    rw [editQuantities_sold hn h] at hnot
    have hle : ¬n < sold batch := by
      intro hlt
      exact hnot (if_pos hlt)
    have hq := editQuantities_sold hn h
    rw [if_neg hle] at hq
    obtain ⟨hq, hi⟩ := quantities_of_editPlan hplan hq
    rw [hq, hi]
    simp [h]

/-- An edit of the total to `n` is refused exactly if `n` is less than was sold. If it goes through,
it keeps what was sold exactly if something was sold, or the total can be told from none. -/
theorem edit_keeps_sold_iff {db : Db} {n : ℚ}
    (hadmin : isAdmin (db.store.users.get? caller._id) = true)
    (hfound : db.store.findInventory id = some batch) (hn : data.quantity = some n) (h₀ : 0 ≤ n)
    (env : Env) :
    ((serve ⟨.editInventory id data, caller, env⟩ db).loc.sent.map Response.status = [400] ↔
      n < sold batch) ∧
    (Commits ⟨.editInventory id data, caller, env⟩ db →
      ((∃ after ∈ (serveStep ⟨.editInventory id data, caller, env⟩ db).store.inventories.get? id,
        KeepsSold batch after n) ↔ Subtracts batch data n)) := by
  have hserved := editInventory_outcome db id data caller env
  rw [hserved.statuses, commits_iff hserved, outcome_of_found hadmin hfound,
    ← editQuantities_eq_none_iff hn h₀]
  have hstore : (serveStep ⟨.editInventory id data, caller, env⟩ db).store = _ := hserved.store
  rw [outcome_of_found hadmin hfound] at hstore
  cases hplan : editPlan batch data with
  | none =>
      refine ⟨?_, fun hcommits => Bool.noConfusion hcommits⟩
      simp [Outcome.idle]
  | some plan =>
      refine ⟨iff_of_false (statuses_editOutcome_ne _ _ _ _ _ _ _) ?_, fun _ => ?_⟩
      · exact editQuantities_of_editPlan hplan
      · have hafter :
            (serveStep ⟨.editInventory id data, caller, env⟩ db).store.inventories.get? id =
              some (plan.2.apply batch) := by
          rw [hstore, hplan, apply_editOutcome]
          exact get?_edited (Store.get?_of_findInventory hfound) ..
        rw [hafter]
        simpa using keepsSold_iff hn hplan

/-- Of a batch with four of ten pieces sold, the total is set to four: nothing is left. -/
theorem edit_keeps_sold_four :
    ∃ batch ∈ Sample.shop.store.findInventory 2, ∃ after ∈ (serveStep (Sample.call (.editInventory 2
        (Sample.editBody (some 4) none))) Sample.shop).store.inventories.get? 2,
      after.quantity = 0 ∧ KeepsSold batch after 4 := by
  have hfound : ∃ batch ∈ Sample.shop.store.findInventory 2,
      Subtracts batch (Sample.editBody (some 4) none) 4 ∧
        ∀ after ∈ (serveStep (Sample.call (.editInventory 2 (Sample.editBody (some 4) none)))
          Sample.shop).store.inventories.get? 2, after.quantity = 0 := by decide +kernel
  obtain ⟨batch, hbatch, hsubtracts, hzero⟩ := hfound
  have hadmin : isAdmin (Sample.shop.store.users.get? Sample.admin._id) = true := by decide +kernel
  obtain ⟨after, hafter, hkeeps⟩ := ((edit_keeps_sold_iff hadmin hbatch rfl (by decide +kernel)
    Sample.env).2 (by decide +kernel)).2 hsubtracts
  exact ⟨batch, hbatch, after, hafter, hzero after hafter, hkeeps⟩

/-- A batch that was credited with the pieces of another one: five of five pieces, and the twelve
pieces of a sale that used up the batch before it. -/
def creditedBatch : Db :=
  serveAll [Sample.call (.addProduct (Sample.productBody 10 100)),
    Sample.call (.addInventory 1 (Sample.inventoryBody 5 50)),
    Sample.call (.recordSales 1 (Sample.salesBody 12)),
    Sample.call (.deleteSalesRecord 6 1)] Sample.db

/-- A new batch of ten pieces whose total is set to zero looks sold. The batch of five pieces that
holds fifteen keeps its total of five whatever is asked for. -/
theorem edits_lose_sold :
    let db := serveAll [Sample.call (.addProduct (Sample.productBody 10 100))] Sample.db
    let toZero := Sample.call (.editInventory 2 (Sample.editBody (some 0) none))
    let toTwenty := Sample.call (.editInventory 4 (Sample.editBody (some 20) none))
    (Commits toZero db ∧ ∃ batch ∈ db.store.findInventory 2,
      ∃ after ∈ (serveStep toZero db).store.inventories.get? 2,
        (sold batch = 0 ∧ sold after = 10) ∧ ¬KeepsSold batch after 0) ∧
      Commits toTwenty creditedBatch ∧ ∃ batch ∈ creditedBatch.store.findInventory 4,
        ∃ after ∈ (serveStep toTwenty creditedBatch).store.inventories.get? 4,
          after.initialQuantity = 5 ∧ ¬KeepsSold batch after 20 := by
  decide +kernel

end InventoryHero.Edits
