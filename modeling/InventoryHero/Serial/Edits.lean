import InventoryHero.Serial.Handlers

/-!
# Editing a batch

`editInventory` issues its two updates without the session, so they take effect at once, and its
transaction contains no write (`Idle`): nothing after the updates changes the store, whether the
transaction commits or not.
-/

set_option autoImplicit false

namespace InventoryHero.Serial

open Interaction Storage Model Stock

variable {db : Db} {x : Exchange} {α : Type} {Q : Final Db Exchange JsError α → Prop}

/-- The transaction is open and has issued no write. -/
def Idle (x : Exchange) : Prop := ∃ snap, x.session = .inProgress ⟨snap, {}⟩

/-- A write without the session takes effect at once, or is refused. -/
theorem wp_direct {c : Command} {f : c.Result → Js α}
    (herr : ∀ e, (∀ w r, c.plan db.store = .ok (w, r) → db.store.accepts w = false) →
      Q ⟨db, x, .error e⟩)
    (k : ∀ w r db', c.plan db.store = .ok (w, r) → db'.store = db.store.apply w →
      db'.nextId = db.nextId → db'.oplog = db.oplog ++ [w.keys] → (f r).Wp sem Q db' x) :
    (direct c >>= f).Wp sem Q db x := by
  refine wp_issue ?_
  simp only [sem, execDirect]
  cases hp : c.plan db.store with
  | error e => exact herr _ fun w r hok => by simp [hp] at hok
  | ok wr =>
      obtain ⟨w, r⟩ := wr
      by_cases ha : db.store.accepts w = true
      · simp only [ha, if_true]
        exact k w r _ hp rfl rfl rfl
      · simp only [ha]
        refine herr _ fun w' r' hok => ?_
        rw [hp] at hok
        cases hok
        simpa using ha

/-- `save()` of a document without changes. -/
theorem wp_touch {c : Command} {f : c.Result → Js α} {snap : Option (Nat × Store)}
    (hc : ∀ s w r, c.plan s = .ok (w, r) → w = {}) (hs : x.session = .inProgress ⟨snap, {}⟩)
    (herr : ∀ e x', c.plan (Txn.view ⟨snap, {}⟩ db) = .error e → Q ⟨db, x', .error (.mongo e)⟩)
    (k : ∀ r x', Idle x' → (f r).Wp sem Q db x') :
    (inSession c >>= f).Wp sem Q db x := by
  refine wp_issue ?_
  simp only [sem, execInSession, hs]
  cases hp : c.plan (Txn.view ⟨snap, {}⟩ db) with
  | error e => exact herr e _ hp
  | ok wr =>
      obtain ⟨w, r⟩ := wr
      obtain rfl := hc _ _ _ hp
      simp only [Store.accepts_empty, if_true]
      exact k r _ ⟨_, rfl⟩

theorem wp_touch_refused {c : Command} {f : c.Result → Js α} {snap : Option (Nat × Store)}
    {e : MongoError} (hs : x.session = .inProgress ⟨snap, {}⟩)
    (hplan : c.plan (Txn.view ⟨snap, {}⟩ db) = .error e)
    (herr : ∀ x', Idle x' → x'.sent = x.sent → Q ⟨db, x', .error (.mongo e)⟩) :
    (inSession c >>= f).Wp sem Q db x := by
  refine wp_issue ?_
  simp only [sem, execInSession, hs, hplan]
  refine herr _ ?_ rfl
  rcases Txn.refuse_cases ⟨snap, {}⟩ e db with href | href
  · exact ⟨_, congrArg Session.inProgress href⟩
  · exact ⟨_, congrArg Session.inProgress href⟩

/-- The commit of a transaction without writes. -/
theorem wp_commit_idle {f : Unit → Js α} (hx : Idle x) (herr : ∀ e x', Q ⟨db, x', .error e⟩)
    (k : ∀ db' x', db'.store = db.store → db'.nextId = db.nextId → (f ()).Wp sem Q db' x') :
    (commitTransaction >>= f).Wp sem Q db x := by
  obtain ⟨snap, hs⟩ := hx
  refine wp_issue ?_
  simp only [sem, execCommit, hs]
  cases x.env.commitFails with
  | true => exact herr _ _
  | false =>
      cases Txn.conflicts ⟨snap, {}⟩ db with
      | true => exact herr _ _
      | false => exact k _ _ rfl rfl

theorem plan_touchInventory {d : Inventory} (s : Store) (w : Writes) (r : Unit)
    (h : (Command.touchInventory d).plan s = .ok (w, r)) : w = {} := by
  simp only [Command.plan] at h
  split at h
  · split at h <;> cases h
    rfl
  · cases h

theorem plan_touchCost {d : Cost} (s : Store) (w : Writes) (r : Unit)
    (h : (Command.touchCost d).plan s = .ok (w, r)) : w = {} := by
  simp only [Command.plan] at h
  split at h
  · split at h <;> cases h
    rfl
  · cases h

/-- The update of the batch casts its numbers and then always succeeds. -/
theorem plan_updateInventory {id : ObjectId} {data : InventoryUpdate} {s : Store} {w : Writes}
    {r : Option Inventory} (h : (Command.updateInventory id data).plan s = .ok (w, r)) :
    ∃ q cpq, castQuantity data.quantity = .ok q ∧ castCpq data.cpq = .ok cpq ∧
      s.apply w = s.apply { inventories := [.modify id (data.patch q cpq)] } ∧
      r = (s.inventories.get? id).map (data.patch q cpq).apply := by
  obtain ⟨q, hq, h⟩ := bind_ok h
  obtain ⟨cpq, hc, h⟩ := bind_ok h
  cases h
  exact ⟨q, cpq, hq, hc, apply_updateInventory hq hc s id, rfl⟩

/-- The update of the cost record, after that of the batch. Every exit leaves the store with the
record edited. -/
theorem wp_editCost {s : Store} {id : ObjectId} {data : EditBody} {quantity : Option JsNumber}
    {patch : Patch Inventory} {Q : Final Db Exchange JsError Unit → Prop}
    (hst : db.store = s.apply { inventories := [.modify id patch] }) (hx : Idle x)
    (hdone : ∀ db' x' r, db'.store = { s with
        inventories := s.inventories.modify id patch, costs := editedCosts s id data quantity } →
      db'.nextId = db.nextId → (r = .ok () → Idle x') → Q ⟨db', x', r⟩) :
    (editCost id data quantity).Wp sem Q db x := by
  have hcostOf : db.store.costOf id = s.costOf id := by rw [hst]; rfl
  unfold editCost
  by_cases he : editsCost data quantity = true
  · rw [if_pos he]
    refine wp_direct (fun _ href => ?_) fun w r db₁ hplan hst₁ hn₁ _ => ?_
    -- the update is never refused: its numbers are rational by now
    · exfalso
      simp only [Command.plan] at href
      cases hc : db.store.costOf id <;> simp [hc, Store.accepts] at href
    · simp only [Command.plan, hcostOf] at hplan
      cases hc : s.costOf id with
      | none =>
          rw [hc] at hplan
          cases hplan
          -- no record: the update finds nothing, and reading its result throws
          refine hdone _ _ _ ?_ hn₁ fun hok => by cases hok
          rw [hst₁, hst]
          simp only [editedCosts, hc]
          rfl
      | some cost =>
          rw [hc] at hplan
          cases hplan
          -- the record changes at once; the save in the session that follows adds nothing
          have hedited : db₁.store = { s with
              inventories := s.inventories.modify id patch
              costs := editedCosts s id data quantity } := by
            rw [hst₁, hst]
            simp only [editedCosts, hc, he, if_true]
            rfl
          rw [orTypeError_some, Prog.done_bind, ← Prog.bind_done (inSession _)]
          obtain ⟨snap, hs⟩ := hx
          refine wp_touch plan_touchCost hs (fun _ _ _ => ?_) fun _ x' hx' => ?_
          · exact hdone _ _ _ hedited hn₁ fun hok => by cases hok
          · exact hdone _ _ _ hedited hn₁ fun _ => hx'
  · rw [if_neg he]
    refine hdone _ _ _ ?_ rfl fun _ => hx
    rw [hst]
    cases hc : s.costOf id <;> simp only [editedCosts, hc, he] <;> rfl

/-- The batch `d` that was just updated is still there when it is saved once more, in the snapshot
of the transaction and in the updated store: the save succeeds if the batch passes the schema. -/
theorem plan_touchInventory_of_get {db₀ db : Db} {id : ObjectId} {batch d : Inventory}
    {patch : Patch Inventory} {snap : Option (Nat × Store)}
    (hget : db₀.store.inventories.get? id = some batch) (hid : d._id = id)
    (hst : db.store = db₀.store.apply { inventories := [.modify id patch] })
    (hsnap : snap.getD (db₀.oplog.length, db₀.store) = (db₀.oplog.length, db₀.store)) :
    (Command.touchInventory d).plan (Txn.view ⟨snap, {}⟩ db) =
      if d.valid then .ok ({}, ()) else .error .validation := by
  have hview : (Txn.view ⟨snap, {}⟩ db).inventories.get? id ≠ none := by
    -- the snapshot was taken before the update or is taken only now
    cases snap with
    | none =>
        change db.store.inventories.get? id ≠ none
        rw [hst]
        simp [Collection.get?_modify, hget]
    | some s =>
        change s.2.inventories.get? id ≠ none
        rw [Option.getD_some] at hsnap
        simp [hsnap, hget]
  simp only [Command.plan, hid]
  cases hfound : (Txn.view ⟨snap, {}⟩ db).inventories.get? id with
  | none => exact absurd hfound hview
  | some _ => rfl

theorem editInventory_effect (db : Db) (id : ObjectId) (data : EditBody) (caller : Caller)
    (env : Env) :
    Effect db ⟨.editInventory id data, caller, env⟩
      (serveStep ⟨.editInventory id data, caller, env⟩ db) := by
  refine wp_read (Q := fun F => Effect db _ F.shared) ?_
  cases hadmin : isAdmin (Query.eval (.user caller._id) db.store) with
  | false => exact wp_send fun _ _ _ _ _ => .unchanged rfl le_rfl
  | true =>
      refine wp_withTransaction_shared (P := Effect db _) (fun _ => quiet_send _) ?_
      intro x hx
      refine hx.read fun x hx => ?_
      cases hfound : Query.eval (.inventory id) db.store with
      | none => exact hx.unchanged
      | some batch =>
          rw [orTypeError_some, Prog.done_bind]
          cases hed : editQuantities batch data with
          | none =>
              exact hx.abort fun x' _ _ => wp_send fun _ _ _ _ _ => hx.unchanged
          | some edited =>
              obtain ⟨quantity, initialQuantity⟩ := edited
              refine wp_direct (fun _ _ => hx.unchanged) fun w r db₁ hplan hst hn _ => ?_
              obtain ⟨q, cpq, hq, hc, hw, rfl⟩ := plan_updateInventory hplan
              rw [hw] at hst
              -- from here on the store is the edited one, whatever becomes of the transaction
              have hdone : ∀ db', db'.store = editedStore db.store id batch data quantity
                  ((editUpdate batch data quantity initialQuantity).patch q cpq) →
                  db'.nextId = db₁.nextId → Effect db ⟨.editInventory id data, caller, env⟩ db' :=
                fun db' hst' hn' => .editInventory batch quantity initialQuantity q cpq hadmin
                  hfound hed hq hc hst' (hn'.trans hn).ge
              have hget := Store.get?_of_findInventory hfound
              obtain ⟨snap, hs, hsnap⟩ := hx.session
              rw [hget, Option.map_some, orTypeError_some, Prog.done_bind]
              have hid : ((editUpdate batch data quantity initialQuantity).patch q cpq |>.apply
                  batch)._id = id := (Store.mem_of_findInventory hfound).2
              have htouch := plan_touchInventory_of_get hget hid hst hsnap
              -- the batch passes the schema, or its save throws and the cost record stays
              by_cases hvalid : (((editUpdate batch data quantity initialQuantity).patch q
                  cpq).apply batch).valid = true
              · rw [if_pos hvalid] at htouch
                simp only [editedStore, if_pos hvalid] at hdone
                refine wp_touch plan_touchInventory hs (fun e _ he => ?_) fun _ x' hx' => ?_
                · rw [htouch] at he
                  cases he
                refine Prog.Wp.bind (wp_editCost hst hx' fun db₂ x₂ r hst₂ hn₂ hx₂ => ?_)
                -- the record may be missing: then the handler throws, with the batch already edited
                cases r with
                | error e => exact hdone db₂ hst₂ hn₂
                | ok u =>
                    rw [Final.elim_ok]
                    refine wp_commit_idle (hx₂ rfl) (fun _ _ => hdone db₂ hst₂ hn₂) ?_
                    intro db₃ x₃ hst₃ hn₃
                    exact wp_send fun _ _ _ _ _ => hdone db₃ (hst₃.trans hst₂) (hn₃.trans hn₂)
              · rw [if_neg hvalid] at htouch
                simp only [editedStore, if_neg hvalid] at hdone
                refine wp_touch_refused hs htouch fun _ _ _ => hdone db₁ ?_ rfl
                rw [hst]
                rfl

/-! ## What an edit stores -/

/-- The three cases of `editQuantities`, by the pieces sold from the batch, after the cast. `q` and
`initialQuantity` are what is stored where present. -/
theorem edited_cases {batch : Inventory} {data : EditBody} {quantity : Option JsNumber}
    {initialQuantity q : Option ℚ}
    (edited : editQuantities batch data = some (quantity, initialQuantity))
    (cast : castQuantity quantity = .ok q) :
    batch.initialQuantity - batch.quantity = 0 ∧ quantity = data.quantity.map .fin ∧
        q = data.quantity ∧
        initialQuantity = (if truthy data.quantity then data.quantity else data.initialQuantity) ∨
      (∃ n, 0 < batch.initialQuantity - batch.quantity ∧ data.quantity = some n ∧
        batch.initialQuantity - batch.quantity ≤ n ∧
        quantity = some (.fin (n - (batch.initialQuantity - batch.quantity))) ∧
        q = some (n - (batch.initialQuantity - batch.quantity)) ∧ initialQuantity = some n) ∨
      batch.initialQuantity - batch.quantity < 0 ∧ quantity = data.quantity.map .fin ∧
        q = data.quantity ∧ initialQuantity = data.initialQuantity := by
  have hfin : ∀ {o : Option ℚ}, castQuantity (o.map .fin) = .ok q → q = o := by
    intro o ho
    cases o with
    | none =>
        cases ho
        rfl
    | some n =>
        cases ho
        rfl
  -- along the conditionals of `editQuantities`
  simp only [editQuantities] at edited
  split at edited
  · rename_i hsold
    cases edited
    exact .inl ⟨hsold, rfl, hfin cast, rfl⟩
  · split at edited
    · rename_i hsold
      cases hn : data.quantity with
      | none =>
          -- the quantity is not a number, and the cast fails
          rw [hn] at edited
          cases edited
          cases cast
      | some n =>
          rw [hn] at edited
          dsimp only at edited
          split at edited
          · cases edited
          · rename_i hle
            cases edited
            cases cast
            exact .inr (.inl ⟨n, hsold, rfl, not_lt.1 hle, rfl, rfl, rfl⟩)
    · rename_i hne hpos
      cases edited
      exact .inr (.inr ⟨lt_of_le_of_ne (not_lt.1 hpos) hne, rfl, hfin cast, rfl⟩)

/-- An edit that does not call for an update of the cost record would not change it. -/
theorem editCostData_of_not_edits {data : EditBody} {quantity : Option JsNumber}
    (h : editsCost data quantity = false) (cost : Cost) :
    (editCostData data quantity).patch.apply cost = cost := by
  simp only [editsCost, Bool.or_eq_false_iff, Option.isSome_eq_false_iff,
    Option.isNone_iff_eq_none] at h
  obtain ⟨⟨hdate, hcost⟩, hquantity⟩ := h
  have hnone : quantity.bind JsNumber.truthyValue? = none := by
    cases quantity with
    | none => rfl
    | some n => cases n <;> simp_all [JsNumber.truthy, JsNumber.truthyValue?]
  simp [editCostData, CostUpdate.patch, hdate, hcost, hnone]

theorem truthy_eq_true_iff {o : Option ℚ} : truthy o = true ↔ ∃ n, o = some n ∧ n ≠ 0 := by
  cases o with
  | none => simp [truthy]
  | some n => simp [truthy]

theorem truthy_map (o : Option ℚ) :
    (o.map JsNumber.fin).elim false JsNumber.truthy = truthy o := by
  cases o with
  | none => rfl
  | some n => rfl

theorem castCpq_ok {c cpq : Option JsNumber} (h : castCpq c = .ok cpq) : cpq = c := by
  unfold castCpq at h
  split at h <;> cases h
  rfl

/-- The cost price after an edit that gives none, or zero to a batch that has it already. -/
theorem costPrice_of_falsy {b : Inventory} {data : EditBody}
    (hzero : data.costPrice = some 0 → b.costPrice = 0) (h : truthy data.costPrice = false) :
    data.costPrice.getD b.costPrice = b.costPrice := by
  cases hcp : data.costPrice with
  | none => rfl
  | some c =>
      have hc : c = 0 := by simpa [hcp, truthy] using h
      rw [hzero (hc ▸ hcp), hc]
      rfl

/-- The batch that is edited, and the batches that are not. -/
theorem mem_edited {s : Store} {id : ObjectId} {batch b : Inventory} {patch : Patch Inventory}
    (found : s.findInventory id = some batch) (hb : b ∈ (s.inventories.modify id patch).docs) :
    b ∈ s.inventories.docs ∧ b._id ≠ id ∨ b = patch.apply batch := by
  obtain ⟨hmem, hid⟩ := Store.mem_of_findInventory found
  obtain ⟨a, ha, rfl⟩ := Collection.mem_modify.1 hb
  -- ids are unique, so the batch under this id is the one that was found
  by_cases hk : Keyed.key a = id
  · right
    rw [if_pos hk, Collection.eq_of_key_eq ha hmem (hk.trans hid.symm)]
  · left
    rw [if_neg hk]
    exact ⟨ha, hk⟩

end InventoryHero.Serial
