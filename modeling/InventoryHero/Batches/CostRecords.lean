import InventoryHero.Batches.Bounds

/-!
# The cost record of a batch

A batch is stored together with its cost record, and `editInventory` updates both, with separate
code. `Recorded R` says that every batch has exactly one cost record and that the two are related by
`R`; a batch that was rebuilt after a reversal has none, and is recognised by its initial quantity
of zero. `Recorded.effect` asks of `R` only what the purchase and the edit of a batch have to give.
-/

set_option autoImplicit false

namespace InventoryHero.Batches

open Interaction Storage Model Stock Serial

/-- `cost` is the one cost record of the batch `id`. -/
structure RecordOf (c : Collection Cost) (id : ObjectId) (cost : Cost) : Prop where
  mem : cost ∈ c.docs
  batch : cost.inventoryId = id
  unique : ∀ other ∈ c.docs, other.inventoryId = id → other = cost

/-- The cost record after an edit that makes `b` of its batch: it is left alone if `b` does not pass
the schema. -/
def editedRecord (data : EditBody) (quantity : Option JsNumber) (b : Inventory) (cost : Cost) :
    Cost :=
  if b.valid then (editCostData data quantity).patch.apply cost else cost

namespace RecordOf

variable {c : Collection Cost} {s : Store} {id : ObjectId} {cost : Cost}

theorem costOf (h : RecordOf s.costs id cost) : s.costOf id = some cost := by
  cases hc : s.costOf id with
  | none => exact absurd h.batch (by simpa using List.find?_eq_none.1 hc cost h.mem)
  | some found =>
      obtain ⟨hmem, hid⟩ := Store.mem_of_costOf hc
      rw [h.unique found hmem hid]

theorem insert_other {new : Cost} (h : RecordOf c id cost) (hne : new.inventoryId ≠ id) :
    RecordOf (c.insert new) id cost := by
  refine ⟨Collection.mem_insert_of_mem h.mem, h.batch, fun other ho hid => ?_⟩
  rcases Collection.mem_of_mem_insert ho with ho | rfl
  · exact h.unique other ho hid
  · exact absurd hid hne

theorem insert_new {new : Cost} (hacc : c.accepts (.insert new) = true)
    (hfresh : ∀ other ∈ c.docs, other.inventoryId ≠ new.inventoryId) :
    RecordOf (c.insert new) new.inventoryId new := by
  refine ⟨by simp [Collection.docs_insert hacc], rfl, fun other ho hid => ?_⟩
  rcases Collection.mem_of_mem_insert ho with ho | rfl
  · exact absurd hid (hfresh other ho)
  · rfl

theorem modify {patch : Patch Cost} (h : RecordOf c id cost)
    (hp : ∀ a, (patch.apply a).inventoryId = a.inventoryId) :
    RecordOf (c.modify cost._id patch) id (patch.apply cost) := by
  refine ⟨Collection.mem_modify.2 ⟨cost, h.mem, by simp⟩, (hp cost).trans h.batch, ?_⟩
  intro other ho hid
  obtain ⟨a, ha, rfl⟩ := Collection.mem_modify.1 ho
  have hcost : a = cost := by
    refine h.unique a ha ?_
    split at hid
    · exact (hp a).symm.trans hid
    · exact hid
  simp [hcost]

theorem modify_other {k : ObjectId} {patch : Patch Cost} (h : RecordOf c id cost)
    (hk : cost._id ≠ k) (hp : ∀ a, (patch.apply a).inventoryId = a.inventoryId) :
    RecordOf (c.modify k patch) id cost := by
  refine ⟨Collection.mem_modify.2 ⟨cost, h.mem, by simp [hk]⟩, h.batch, fun other ho hid => ?_⟩
  obtain ⟨a, ha, rfl⟩ := Collection.mem_modify.1 ho
  have hcost : a = cost := by
    refine h.unique a ha ?_
    split at hid
    · exact (hp a).symm.trans hid
    · exact hid
  simp [hcost, hk]

theorem delete {k : ObjectId} (h : RecordOf c id cost) (hk : cost._id ≠ k) :
    RecordOf (c.delete k) id cost :=
  ⟨Collection.mem_delete.2 ⟨h.mem, hk⟩, h.batch,
    fun other ho => h.unique other (Collection.mem_delete.1 ho).1⟩

/-- The record found for another batch is another record. -/
theorem ne_of_costOf {id' : ObjectId} {cost' : Cost} (h : RecordOf s.costs id cost)
    (hne : id ≠ id') (hc : s.costOf id' = some cost') : cost._id ≠ cost'._id := by
  intro e
  obtain ⟨hmem, hid⟩ := Store.mem_of_costOf hc
  have hcost : cost = cost' := Collection.eq_of_key_eq h.mem hmem e
  exact hne (h.batch.symm.trans (hcost ▸ hid))

/-- The record after the removal of another batch. -/
theorem without {id' : ObjectId} (h : RecordOf s.costs id cost) (hne : id ≠ id') :
    RecordOf (costsWithout s id') id cost := by
  unfold costsWithout
  cases hc : s.costOf id' with
  | none => exact h
  | some cost' => exact h.delete (h.ne_of_costOf hne hc)

/-- The record after an edit of the batch. -/
theorem edited (h : RecordOf s.costs id cost) (batch : Inventory) (data : EditBody)
    (quantity : Option JsNumber) (patch : Patch Inventory) :
    RecordOf (editedStore s id batch data quantity patch).costs id
      (editedRecord data quantity (patch.apply batch) cost) := by
  unfold editedStore editedRecord
  split
  · simp only [editedCosts, h.costOf]
    cases he : editsCost data quantity with
    | true => exact h.modify fun _ => rfl
    | false =>
        rw [editCostData_of_not_edits he]
        exact h
  · exact h

/-- The record after an edit of another batch. -/
theorem edited_other {id' : ObjectId} (h : RecordOf s.costs id cost) (hne : id ≠ id')
    (batch : Inventory) (data : EditBody) (quantity : Option JsNumber) (patch : Patch Inventory) :
    RecordOf (editedStore s id' batch data quantity patch).costs id cost := by
  simp only [editedStore, editedCosts]
  split
  · cases hc : s.costOf id' with
    | none => exact h
    | some cost' =>
        cases he : editsCost data quantity with
        | true => exact h.modify_other (h.ne_of_costOf hne hc) fun _ => rfl
        | false => exact h
  · exact h

end RecordOf

/-- Every batch has exactly one cost record, related to it by `R`, unless it was rebuilt. -/
def Recorded (R : Cost → Inventory → Prop) (s : Store) : Prop :=
  ∀ b ∈ s.inventories.docs, b.initialQuantity = 0 ∨ ∃ cost, RecordOf s.costs b._id cost ∧ R cost b

/-- What an edit does to a batch and its record. -/
def EditsBoth (R : Cost → Inventory → Prop) (c : Call) (db : Db) : Prop :=
  c.request.OnEdit fun id data => isAdmin (db.store.users.get? c.caller._id) = true →
    ∀ b ∈ db.store.findInventory id, ∀ quantity initialQuantity q cpq,
      editQuantities b data = some (quantity, initialQuantity) → castQuantity quantity = .ok q →
      castCpq (editCpq b data quantity) = .ok cpq →
      let b' := ((editUpdate b data quantity initialQuantity).patch q cpq).apply b
      (b.initialQuantity = 0 → b'.initialQuantity = 0) ∧
        ∀ cost, R cost b → R (editedRecord data quantity b' cost) b'

section Effect

variable {R : Cost → Inventory → Prop} {db db' : Db} {c : Call}

theorem Recorded.purchase {n' : ObjectId} {batch : Inventory} {cost : Cost}
    (h : Recorded R db.store) (hids : FreshIds db) (hp : Purchase db.nextId n' batch cost)
    (hR : R cost batch) (hacc : db.store.costs.accepts (.insert cost) = true) :
    ∀ b ∈ (db.store.inventories.insert batch).docs, b.initialQuantity = 0 ∨
      ∃ cost', RecordOf (db.store.costs.insert cost) b._id cost' ∧ R cost' b := by
  intro b hb
  -- an older batch keeps its record, since the new one is for a new id
  rcases Collection.mem_of_mem_insert hb with hb | rfl
  · refine (h b hb).imp_right fun ⟨cost', hrec, hR'⟩ => ⟨cost', hrec.insert_other ?_, hR'⟩
    rw [hp.cost_inventoryId]
    exact ((hids.batch b hb).trans_le hp.batch_id.1).ne'
  · right
    have hfresh : ∀ other ∈ db.store.costs.docs, other.inventoryId ≠ cost.inventoryId :=
      fun other ho => ((hids.cost other ho).trans_le (hp.cost_inventoryId ▸ hp.batch_id.1)).ne
    exact ⟨cost, hp.cost_inventoryId ▸ RecordOf.insert_new hacc hfresh, hR⟩

/-- Cost records stay related to their batches, as long as purchases and edits relate them. -/
theorem Recorded.effect (h : Recorded R db.store) (hids : FreshIds db) (e : Effect db c db')
    (hdrop : c.request.OnProductRemoval fun _ => False)
    (hbuy : ∀ {n n' batch cost}, Purchase n n' batch cost → R cost batch)
    (hquantity : ∀ {cost a} q, R cost a → R cost { a with quantity := q })
    (hedit : EditsBoth R c db) : Recorded R db'.store := by
  -- a batch of which only the quantity changed, in a store with the same cost records
  have hsame : ∀ (a : Inventory) (q : ℚ), a ∈ db.store.inventories.docs →
      a.initialQuantity = 0 ∨ ∃ cost, RecordOf db.store.costs a._id cost ∧
        R cost { a with quantity := q } := fun a q ha =>
    (h a ha).imp_right fun ⟨cost, hrec, hR⟩ => ⟨cost, hrec, hquantity q hR⟩
  cases e with
  | unchanged store next => rwa [store]
  | addProduct product batch cost purchase batch_product product_id quantity upb costPrice commit =>
      have hacc := Store.accepts_costs commit.accepted
      rw [Collection.acceptsAll_singleton] at hacc
      rw [commit.store]
      exact h.purchase hids purchase (hbuy purchase) hacc
  | addInventory product price batch cost found purchase batch_product quantity costPrice commit =>
      have hacc := Store.accepts_costs commit.accepted
      rw [Collection.acceptsAll_singleton] at hacc
      rw [commit.store]
      exact h.purchase hids purchase (hbuy purchase) hacc
  | recordSales product data sale lasts known found valid enough sale_product sale_quantity sale_id
      snapshot usedUp commit =>
      rw [commit.store]
      intro b hb
      obtain ⟨a, ha, hab, -⟩ := mem_drawWrites (fun e he => (List.mem_filter.1 he).1)
        (nodup_batches db.store _) hb
      rw [hab]
      exact hsame a b.quantity ha
  | deleteSalesRecord may reversed =>
      cases reversed with
      | restock sale batch found first valid commit =>
          rw [commit.store]
          intro b hb
          obtain ⟨a, ha, rfl⟩ := Collection.mem_modify.1 hb
          split
          · exact hsame a _ ha
          · exact h a ha
      | rebuild sale last n found none_live snapshot valid batch_id commit =>
          rw [commit.store]
          intro b hb
          -- a rebuilt batch has no record, and an initial quantity of zero
          rcases Collection.mem_of_mem_insert hb with hb | rfl
          · exact h b hb
          · exact .inl rfl
  | deleteAllSales live store next =>
      rw [store]
      intro b hb
      obtain ⟨a, ha, rfl⟩ := mem_creditAll hb
      exact hsame a _ ha
  | userDeleteProduct store next => exact hdrop.elim
  | deleteInventory admin store next =>
      rw [store]
      intro b hb
      obtain ⟨hb, hne⟩ := Collection.mem_delete.1 hb
      exact (h b hb).imp_right fun ⟨cost, hrec, hR⟩ => ⟨cost, hrec.without hne, hR⟩
  | @editInventory id data caller env _ batch quantity initialQuantity q cpq admin found edited
      castQuantity castCpq store next =>
      rw [store]
      intro b hb
      -- the edited batch keeps its record, edited along with it
      rcases mem_edited found hb with ⟨hb, hne⟩ | rfl
      · exact (h b hb).imp_right fun ⟨cost, hrec, hR⟩ =>
          ⟨cost, hrec.edited_other hne batch data quantity _, hR⟩
      · obtain ⟨hmem, hid⟩ := Store.mem_of_findInventory found
        obtain ⟨hzero, hboth⟩ := hedit admin batch found quantity initialQuantity q cpq edited
          castQuantity castCpq
        refine (h batch hmem).imp hzero fun ⟨cost, hrec, hR⟩ => ⟨_, ?_, hboth cost hR⟩
        have hid' : batch._id = id := hid
        rw [hid'] at hrec
        exact hid'.symm ▸ hrec.edited batch data quantity _

end Effect

/-! ## Edits that keep batch and record together -/

/-- A quantity is given only for a batch from which nothing was sold. -/
def WholeBatch (b : Inventory) (data : EditBody) : Prop :=
  quantitySold b ≠ 0 → data.quantity = none

instance (b : Inventory) (data : EditBody) : Decidable (WholeBatch b data) :=
  inferInstanceAs (Decidable (_ → _))

/-- The quantity on the record follows the initial quantity of the batch. -/
theorem edited_record_quantity {b : Inventory} {data : EditBody} {quantity : Option JsNumber}
    {initialQuantity q : Option ℚ} {cost : Cost}
    (edited : editQuantities b data = some (quantity, initialQuantity))
    (cast : castQuantity quantity = .ok q) (hinit : data.initialQuantity = none)
    (hwhole : WholeBatch b data) (h : cost.quantity = b.initialQuantity) :
    ((editCostData data quantity).patch.apply cost).quantity =
      initialQuantity.getD b.initialQuantity := by
  change (quantity.bind JsNumber.truthyValue?).getD cost.quantity = _
  rcases edited_cases edited cast with
    ⟨-, rfl, -, rfl⟩ | ⟨n, hsold, hn, -⟩ | ⟨hsold, rfl, -, rfl⟩
  · cases hq : truthy data.quantity with
    | true =>
        obtain ⟨n, hn, hn0⟩ := truthy_eq_true_iff.1 hq
        simp [hn, hn0, JsNumber.truthyValue?]
    | false =>
        -- no quantity, or zero, which counts as none
        have hnone : (data.quantity.map JsNumber.fin).bind JsNumber.truthyValue? = none := by
          cases hn : data.quantity with
          | none => rfl
          | some n => simpa [hn, truthy, JsNumber.truthyValue?] using hq
        simp [hnone, hinit, h]
  -- pieces sold: excluded, the quantity left would be put on the record
  · rw [hwhole hsold.ne'] at hn
    cases hn
  · simp [hwhole hsold.ne, hinit, h]

/-- A rebuilt batch stays recognisable. -/
theorem edited_rebuilt {b : Inventory} {data : EditBody} {quantity : Option JsNumber}
    {initialQuantity q : Option ℚ}
    (edited : editQuantities b data = some (quantity, initialQuantity))
    (cast : castQuantity quantity = .ok q) (hinit : data.initialQuantity = none)
    (hpos : 0 < b.quantity) (h : b.initialQuantity = 0) :
    initialQuantity.getD b.initialQuantity = 0 := by
  have hsold : quantitySold b < 0 := by rwa [quantitySold, h, zero_sub, neg_lt_zero]
  rcases edited_cases edited cast with ⟨hsold', -⟩ | ⟨n, hsold', -⟩ | ⟨-, -, -, rfl⟩
  · exact absurd hsold' hsold.ne
  · exact absurd hsold' hsold.not_gt
  · rw [hinit]
    exact h

/-! ## Runs of purchases, sales and edits -/

/-- The record has the cost price and the initial quantity of the batch. -/
def Agrees (cost : Cost) (b : Inventory) : Prop :=
  cost.cost = b.costPrice ∧ cost.quantity = b.initialQuantity

/-- Purchases, sales and plain edits with positive quantities. Edits give a quantity only for whole
batches, and a cost price of zero only for batches that have it already. -/
def KeepsAgreement (c : Call) (db : Db) : Prop :=
  SuppliesPositive c.request ∧ PlainEdits c.request ∧
    OnAcceptedEdit (fun b data => WholeBatch b data ∧ (data.costPrice = some 0 → b.costPrice = 0))
      c db ∧
    (c.request.OnReversal fun _ _ => False) ∧ c.request.OnBulkReversal False ∧
    (c.request.OnProductRemoval fun _ => False) ∧ c.request.OnBatchRemoval fun _ => False

instance (c : Call) (db : Db) : Decidable (KeepsAgreement c db) :=
  inferInstanceAs (Decidable (_ ∧ _ ∧ _ ∧ _ ∧ _ ∧ _ ∧ _))

theorem KeepsAgreement.fits {c : Call} {db : Db} (h : KeepsAgreement c db) : Fits c db := by
  obtain ⟨hpos, hplain, -, hrev, hbulk, -⟩ := h
  refine ⟨hpos, hrev.mono fun _ _ => False.elim, hrev.mono fun _ _ => False.elim,
    hbulk.mono False.elim, hplain.mono ?_⟩
  intro id data hdata _ b _ _ _ _ n hn
  rw [hdata.1] at hn
  cases hn

theorem KeepsAgreement.keepsPieces {c : Call} {db : Db} (h : KeepsAgreement c db) :
    KeepsPieces c db := by
  obtain ⟨hpos, -, hedit, -⟩ := h
  refine ⟨hpos, hedit.mono ?_⟩
  intro id data hdata admin b found accepted hsold hn
  rw [(hdata admin b found accepted).1 hsold.ne'] at hn
  cases hn

/-- Plain edits give no name. -/
theorem PlainEdits.namesBatch {r : Request} (h : PlainEdits r) :
    r.OnEdit fun _ data => NamesBatch data := by
  refine h.mono ?_
  intro id data hdata person hperson
  rw [hdata.2.2.2.1] at hperson
  cases hperson

theorem KeepsAgreement.editsBoth {c : Call} {db : Db} (h : KeepsAgreement c db)
    (hpos : AllPositive db.store) (hvalid : AllValid db.store) : EditsBoth Agrees c db := by
  obtain ⟨-, hplain, hedit, -⟩ := h
  refine ((hplain.and hplain.namesBatch).and hedit).mono ?_
  rintro id data ⟨⟨⟨hinit, -⟩, hname⟩, hdata⟩ admin b found quantity initialQuantity q cpq edited
    cast castCpq
  obtain ⟨hwhole, hzero⟩ := hdata admin b found (accepted_of_edited edited cast)
  have hmem := (Store.mem_of_findInventory found).1
  -- the edited batch passes the schema, so its record is edited along with it
  have hsaved := valid_updated (u := editUpdate b data quantity initialQuantity) (q := q)
    (numeric_of_valid _ (hvalid.batch b hmem)) castCpq
    (hname.namedAfter (hvalid.batch b hmem) quantity initialQuantity)
  refine ⟨edited_rebuilt edited cast hinit (hpos b hmem), fun cost hagrees => ?_⟩
  rw [editedRecord, if_pos hsaved]
  refine ⟨?_, ?_⟩
  · change (if truthy data.costPrice then data.costPrice else none).getD cost.cost =
      data.costPrice.getD b.costPrice
    cases hcp : truthy data.costPrice with
    | true =>
        obtain ⟨n, hn, -⟩ := truthy_eq_true_iff.1 hcp
        simp [hn]
    | false =>
        rw [costPrice_of_falsy hzero hcp]
        exact hagrees.1
  · exact edited_record_quantity edited cast hinit hwhole hagrees.2

theorem recorded_agrees {db : Db} (h : Reach Db.IsEmpty KeepsAgreement serveStep db) :
    (FreshIds db ∧ AllValid db.store) ∧ Recorded Agrees db.store := by
  refine h.invariant_with
    (I := fun db => (FreshIds db ∧ AllValid db.store) ∧ Recorded Agrees db.store)
    (J := fun db => AllPositive db.store) ?_ ?_ ?_
  · exact fun db h => (trading_and_positive (h.mono fun _ _ => KeepsAgreement.keepsPieces)).2
  · intro db hempty
    exact ⟨⟨freshIds_of_isEmpty hempty, allValid_of_isEmpty hempty⟩,
      by simp [Recorded, hempty.2.1]⟩
  · rintro c db hpos ⟨⟨hids, hvalid⟩, hrec⟩ hc
    have e := serve_effect c db
    refine ⟨⟨hids.effect e, hvalid.effect hc.2.1.namesBatch e⟩,
      hrec.effect hids e hc.2.2.2.2.2.1 ?_ ?_ (hc.editsBoth hpos hvalid)⟩
    · exact fun hp => ⟨hp.cost_cost, hp.cost_quantity⟩
    · exact fun q hagrees => hagrees

/-- **Batch and cost record agree.** In every run of purchases, sales and edits that keep the
agreement, every batch has exactly one cost record, with its cost price and initial quantity. -/
theorem cost_records_agree {db : Db} (h : Reach Db.IsEmpty KeepsAgreement serveStep db) :
    ∀ b ∈ db.store.inventories.docs, ∃ cost ∈ db.store.costs.docs,
      cost.inventoryId = b._id ∧ cost.cost = b.costPrice ∧ cost.quantity = b.initialQuantity ∧
        ∀ other ∈ db.store.costs.docs, other.inventoryId = b._id → other = cost := by
  intro b hb
  have hpos := (trading_and_positive (h.mono fun _ _ => KeepsAgreement.keepsPieces)).2 b hb
  have hle := ((trading_and_bounded (h.mono fun _ _ => KeepsAgreement.fits)).2 b hb).2
  -- no batch was rebuilt: a positive quantity within bounds excludes a zero initial quantity
  rcases (recorded_agrees h).2 b hb with hzero | ⟨cost, hrec, hagrees⟩
  · exact absurd hzero (hpos.trans_le hle).ne'
  · exact ⟨cost, hrec.mem, hrec.batch, hagrees.1, hagrees.2, hrec.unique⟩

/-- A whole batch is edited, pieces are sold from it, and its cost price is edited. -/
theorem cost_records_agree_edited :
    let db := serveAll [Sample.call (.addProduct (Sample.productBody 10 100)),
      Sample.call (.editInventory 2 (Sample.editBody (some 8) (some 96))),
      Sample.call (.recordSales 1 (Sample.salesBody 3)),
      Sample.call (.addInventory 1 (Sample.inventoryBody 5 50)),
      Sample.call (.editInventory 5 (Sample.editBody none (some 45)))] Sample.db
    db.store.inventories.docs.map (fun b => (b._id, b.costPrice, b.initialQuantity)) =
        [(2, 96, 8), (5, 45, 5)] ∧
      ∀ b ∈ db.store.inventories.docs, ∃ cost ∈ db.store.costs.docs,
        cost.inventoryId = b._id ∧ cost.cost = b.costPrice ∧ cost.quantity = b.initialQuantity ∧
          ∀ other ∈ db.store.costs.docs, other.inventoryId = b._id → other = cost :=
  ⟨by decide +kernel, cost_records_agree (Reach.foldl (.start Sample.isEmpty) (by decide +kernel))⟩

/-- Ten pieces come in, four are sold, and the quantity is edited to eight. -/
def partlySoldEdit : List Call :=
  [Sample.call (.addProduct (Sample.productBody 10 100)),
    Sample.call (.recordSales 1 (Sample.salesBody 4)),
    Sample.call (.editInventory 2 (Sample.editBody (some 8) none))]

/-- Ten pieces come in for a hundred, and the cost price is edited to zero. -/
def freeBatchEdit : List Call :=
  [Sample.call (.addProduct (Sample.productBody 10 100)),
    Sample.call (.editInventory 2 (Sample.editBody none (some 0)))]

/-- The record of the partly sold batch has what is left as its quantity, and that of the free batch
still has the old cost. -/
theorem edits_part_batch_and_record :
    Reach Db.IsEmpty (fun c _ => SuppliesPositive c.request ∧ PlainEdits c.request) serveStep
        (serveAll partlySoldEdit Sample.db) ∧
      (serveAll partlySoldEdit Sample.db).store.inventories.docs.map
        (fun b => (b._id, b.costPrice, b.initialQuantity)) = [(2, 100, 8)] ∧
      (serveAll partlySoldEdit Sample.db).store.costs.docs.map
        (fun cost => (cost.inventoryId, cost.cost, cost.quantity)) = [(2, 100, 4)] ∧
      Reach Db.IsEmpty (fun c _ => SuppliesPositive c.request ∧ PlainEdits c.request) serveStep
        (serveAll freeBatchEdit Sample.db) ∧
      (serveAll freeBatchEdit Sample.db).store.inventories.docs.map
        (fun b => (b._id, b.costPrice, b.initialQuantity)) = [(2, 0, 10)] ∧
      (serveAll freeBatchEdit Sample.db).store.costs.docs.map
        (fun cost => (cost.inventoryId, cost.cost, cost.quantity)) = [(2, 100, 10)] :=
  ⟨Reach.foldl (.start Sample.isEmpty) (by decide +kernel), by decide +kernel, by decide +kernel,
    Reach.foldl (.start Sample.isEmpty) (by decide +kernel), by decide +kernel, by decide +kernel⟩

end InventoryHero.Batches
