import InventoryHero.Concurrent.Rules
import InventoryHero.Stock.Credit

/-!
# What a request writes when it commits

The transactions of `addInventory`, `recordSales` and `deleteSalesRecord` compute their writes from
reads that carry no session. `Planned request reads w` says which writes follow from which reads;
the handlers commit nothing else, whatever other requests do in between (`addInventory_follows`,
`recordSales_follows`, `deleteSalesRecord_follows`).
-/

set_option autoImplicit false

namespace InventoryHero.Concurrent

open Interaction Storage Model Stock

/-- The writes a request commits, with the stores that its reads saw. -/
inductive Planned : Request → Reads → Writes → Prop
  /-- A new batch. -/
  | purchase {id : ObjectId} {body : InventoryBody} {reads : Reads} (price : Option Price)
      (batch : Inventory) (cost : Cost) (quantity : body.quantity = some batch.quantity)
      (product : batch.product = id) :
      Planned (.addInventory id body) reads
        { products := priceWrites id price, inventories := [.insert batch],
          costs := [.insert cost] }
  /-- A draw from the batches that were read. -/
  | sale {id : ObjectId} {body : SalesBody} {reads : Reads} (seen seen' : Store)
      (product : Product) (data : SalesInput) (sale : Sale) (lasts : List (DocWrite Last))
      (product_read : reads.lookup (.product id) = some seen')
      (stock_read : reads.lookup (.stock id) = some seen)
      (found : seen'.findProduct id = some product) (valid : validateSales body = .ok data)
      (enough : data.pieces product ≤ quantitySum (seen.batches id)) :
      Planned (.recordSales id body) reads
        { inventories := drawWrites (data.pieces product) (seen.batches id),
          sales := [.insert sale], lasts := lasts }
  /-- A credit to the first batch that was read. -/
  | restock {id prd : ObjectId} {reads : Reads} (seen seen' : Store) (sale : Sale)
      (batch : Inventory) (sale_read : reads.lookup (.sale id) = some seen')
      (batches_read : reads.lookup (.inventories prd) = some seen)
      (found : seen'.sales.get? id = some sale)
      (first : firstLive prd seen.inventories = some batch) :
      Planned (.deleteSalesRecord id prd) reads
        { inventories := [.modify batch._id (setQuantity (batch.quantity + sale.quantity))],
          sales := [.delete id] }
  /-- A batch rebuilt from a snapshot, when no batch was read. -/
  | rebuild {id prd : ObjectId} {reads : Reads} (seen seen' : Store) (sale : Sale) (last : Last)
      (n : ObjectId) (sale_read : reads.lookup (.sale id) = some seen')
      (batches_read : reads.lookup (.inventories prd) = some seen)
      (found : seen'.sales.get? id = some sale)
      (none_live : firstLive prd seen.inventories = none) (product : last.product = prd) :
      Planned (.deleteSalesRecord id prd) reads
        { inventories := [.insert (last.toInventory n sale.quantity)], sales := [.delete id] }

/-- A condition on the result, where there is one. -/
def OnSuccess {α : Type} (φ : α → Exchange → Prop) : Except JsError α → Exchange → Prop
  | .ok a, x => φ a x
  | .error _, _ => True

variable {x : Exchange} {w : Writes} {R : Reads}

/-! ## addInventory -/

theorem addInventory_follows (id : ObjectId) (body : InventoryBody) (caller : Caller)
    (hx : committed? x = none) :
    Follows (Planned (.addInventory id body)) (addInventory id body caller) x := by
  refine follows_withTransaction hx (fun x h => ?_) fun _ x => follows_send _ x
  refine h.read fun db x h => ?_
  cases Query.eval (.user caller._id) db.store with
  | none => exact follows_send _ x
  | some user =>
      refine ensures_now fun today => ?_
      cases hv : validateInventory body with
      | error e => trivial
      | ok data =>
          obtain ⟨hq, -⟩ := validateInventory_ok hv
          refine h.read fun db x h => ?_
          cases Query.eval (.product id) db.store with
          | none => exact follows_send _ x
          | some product =>
              refine h.inSession (fun _ _ _ => trivial) fun s w₁ r x hp₁ h => ?_
              cases hp₁
              -- the updated product may be gone in the view of the transaction
              cases hget : s.products.get? id with
              | none => trivial
              | some found =>
                  have hid : found._id = id := (Collection.get?_eq_some_iff.1 hget).2
                  refine ensures_newId fun n => ?_
                  refine h.inSession (fun _ _ _ => trivial) fun s w₂ _ x hp₂ h => ?_
                  obtain ⟨-, rfl⟩ := plan_saveInventory hp₂
                  refine ensures_newId fun n' => ?_
                  refine h.inSession (fun _ _ _ => trivial) fun s w₃ _ x hp₃ h => ?_
                  obtain ⟨-, rfl⟩ := plan_saveCost hp₃
                  refine h.commit ?_ (fun _ _ => trivial) fun x => follows_send _ x
                  simp only [Writes.mk_append, List.nil_append, List.append_nil]
                  exact .purchase data.price _ _ hq hid

/-! ## recordSales -/

/-- The transaction has collected `w` and possibly writes of snapshots, and made `R` and possibly
more reads. -/
def WorkingWithLasts (w : Writes) (R : Reads) (x : Exchange) : Prop :=
  ∃ (lw : List (DocWrite Last)) (R' : Reads), Working (w ++ { lasts := lw }) (R ++ R') x

theorem Working.withLasts {R' : Reads} (h : Working w (R ++ R') x) : WorkingWithLasts w R x :=
  ⟨[], R', (Writes.append_empty w).symm ▸ h⟩

/-- Whatever the snapshot's reads see and whether its write is refused, only a snapshot is added. -/
theorem Working.snapshotLast {P : Reads → Writes → Prop} (h : Working w R x) (product : ObjectId) :
    (Model.snapshotLast product).Ensures sem (Acts P)
      (OnSuccess fun _ x' => WorkingWithLasts w R x') x := by
  refine h.read fun db x h => ?_
  cases Query.eval (.inventories product) db.store with
  | nil => exact h.withLasts
  | cons first rest =>
      cases rest with
      | cons second rest => exact h.withLasts
      | nil =>
          refine h.read fun db x h => ?_
          rw [List.append_assoc] at h
          cases Query.eval (.last first.product) db.store with
          | some found =>
              refine Prog.Ensures.tryCatch (Q := fun _ x' => WorkingWithLasts w R x') ?_
                (fun _ _ hx => hx) fun _ _ hx => hx
              refine h.inSession_last (c := .updateLast _ _) (fun _ _ h' => h'.withLasts)
                fun s w' _ x' hplan h' => ?_
              rcases plan_updateLast hplan with ⟨-, rfl⟩ | ⟨last, -, -, rfl⟩
              · rw [Writes.append_empty] at h'
                exact h'.withLasts
              · exact ⟨_, _, h'⟩
          | none =>
              refine ensures_newId fun n => ?_
              refine Prog.Ensures.tryCatch (Q := fun _ x' => WorkingWithLasts w R x') ?_
                (fun _ _ hx => hx) fun _ _ hx => hx
              refine h.inSession_last (c := .saveLast _) (fun _ _ h' => h'.withLasts)
                fun s w' _ x' hplan h' => ?_
              obtain ⟨-, rfl⟩ := plan_saveLast hplan
              exact ⟨_, _, h'⟩

/-- The draw loop collects the writes that the batches it was given determine. -/
theorem Working.drawLoop {P : Reads → Writes → Prop} {l : List Inventory} {t : ℚ}
    (h : Working w R x) :
    (Model.drawLoop t l).Ensures sem (Acts P) (OnSuccess fun _ x' => ∃ lw R',
      Working (w ++ { inventories := drawWrites t l, lasts := lw }) (R ++ R') x') x := by
  -- along the batches that were read, which are fixed by now
  induction l generalizing t w R x with
  | nil =>
      refine ⟨[], [], ?_⟩
      rw [List.append_nil]
      exact (Writes.append_empty w).symm ▸ h
  | cons e rest ih =>
      by_cases h₀ : 0 < e.quantity
      · by_cases hq : e.quantity ≤ t
        · rw [drawWrites_used_up rest h₀ hq]
          simp only [Model.drawLoop, h₀, hq, if_true]
          refine Prog.Ensures.bind (h.snapshotLast e.product) (fun _ x₁ h₁ => ?_)
            fun _ _ _ => trivial
          obtain ⟨lw, R₁, h₁⟩ := h₁
          refine h₁.inSession (fun _ _ _ => trivial) fun s w' _ x₂ hplan h₂ => ?_
          cases hplan
          refine Prog.Ensures.bind (ih h₂) (fun _ x₃ h₃ => ?_) fun _ _ _ => trivial
          obtain ⟨lw', R₃, h₃⟩ := h₃
          refine ⟨lw ++ lw', R₁ ++ R₃, ?_⟩
          rw [append_usedUp, List.append_assoc] at h₃
          exact h₃
        · rw [drawWrites_remainder rest h₀ hq]
          simp only [Model.drawLoop, h₀, hq, if_true, if_false]
          refine h.inSession (fun _ _ _ => trivial) fun s w' _ x₂ hplan h₂ => ?_
          cases hplan
          exact ⟨[], [], (List.append_nil R).symm ▸ h₂⟩
      · rw [drawWrites_skip rest h₀]
        simp only [Model.drawLoop, h₀, if_false]
        refine h.send (fun _ _ => trivial) fun x₁ h₁ => ?_
        exact Prog.Ensures.bind (ih h₁) (fun _ _ h₂ => h₂) fun _ _ _ => trivial

theorem recordSales_follows (id : ObjectId) (body : SalesBody) (caller : Caller)
    (hx : committed? x = none) (hreads : x.reads = []) :
    Follows (Planned (.recordSales id body)) (recordSales id body caller) x := by
  refine follows_withTransaction hx (fun x h => ?_) fun _ x => follows_pure x
  refine h.read fun db x h => ?_
  cases Query.eval (.user caller._id) db.store with
  | none => exact follows_send _ x
  | some user =>
      refine h.read fun dbp x h => ?_
      cases hfound : Query.eval (.product id) dbp.store with
      | none => exact follows_send _ x
      | some product =>
          cases hv : validateSales body with
          | error e => trivial
          | ok data =>
              refine h.read fun dbs x h => ?_
              -- this read fixes the batches, the one of the product the pieces
              change Follows _ (orTypeError (dbs.store.stock id).head? >>= _) x
              cases hpop : (dbs.store.stock id).head? with
              | none => trivial
              | some populated =>
                  obtain ⟨product', batches⟩ := populated
                  obtain rfl : batches = dbs.store.batches id := stock_head hpop
                  rw [orTypeError_some, Prog.done_bind]
                  by_cases hempty : (dbs.store.batches id).length = 0
                  · rw [if_pos hempty]
                    exact follows_abort_send _ x
                  rw [if_neg hempty]
                  by_cases hmore : quantitySum (dbs.store.batches id) < data.pieces product
                  · rw [if_pos hmore]
                    exact follows_abort_send _ x
                  · rw [if_neg hmore]
                    refine Prog.Ensures.bind h.drawLoop (fun _ x h => ?_) fun _ _ _ => trivial
                    obtain ⟨lw, R', h⟩ := h
                    refine ensures_newId fun n => ?_
                    refine h.inSession (fun _ _ _ => trivial) fun s w' _ x hplan h => ?_
                    obtain ⟨-, rfl⟩ := plan_saveSale hplan
                    refine h.commit ?_ (fun _ _ => trivial) fun x => follows_send _ x
                    simp only [Writes.mk_append, List.nil_append, List.append_nil]
                    exact .sale dbs.store dbp.store product data _ lw
                      (by simp [lookup_cons_of_ne, hreads]) (by simp [lookup_cons_of_ne, hreads])
                      hfound hv (not_lt.1 hmore)

/-! ## deleteSalesRecord -/

/-- The credit is collected; the deletion of the sale and the commit follow. -/
theorem Working.finishReversal {P : Reads → Writes → Prop} {id : ObjectId}
    (h : Working w R x)
    (hP : P R (w ++ { sales := [.delete id] })) :
    Follows P (Model.inSession (.deleteSale id) >>= fun _ => commitTransaction >>= fun _ =>
      Model.send recordDeleted) x := by
  refine h.inSession (fun _ _ _ => trivial) fun s w' _ x hplan h => ?_
  cases hplan
  exact h.commit hP (fun _ _ => trivial) fun x => follows_send _ x

theorem deleteSalesRecord_follows (id prd : ObjectId) (caller : Caller) (hx : committed? x = none)
    (hreads : x.reads = []) :
    Follows (Planned (.deleteSalesRecord id prd)) (deleteSalesRecord id prd caller) x := by
  refine ensures_read hx fun db => ?_
  split
  · exact follows_send _ _
  refine follows_withTransaction hx (fun x h => ?_) fun _ x => follows_send _ x
  -- sale and batches are read one after the other, perhaps from different stores
  refine h.read fun dbs x h => h.read fun dbi x h => ?_
  have hlive := head?_liveBatches dbi.store prd
  cases hl : Query.eval (.inventories prd) dbi.store with
  | nil =>
      change dbi.store.liveBatches prd = [] at hl
      rw [hl, List.head?_nil] at hlive
      refine h.read fun dbl x h => ?_
      change Follows _ (orTypeError (dbl.store.lastsOf prd).head? >>= _ >>= _) x
      cases hlast : (dbl.store.lastsOf prd).head? with
      | none => trivial
      | some last =>
          cases hsale : Query.eval (.sale id) dbs.store with
          | none => trivial
          | some sale =>
              refine ensures_newId fun n => ?_
              refine h.inSession (c := .saveInventory _) (fun _ _ _ => trivial)
                fun s w' _ x hplan h => ?_
              obtain ⟨-, rfl⟩ := plan_saveInventory hplan
              refine h.finishReversal ?_
              have hlp : last.product = prd := (Store.mem_lastsOf_head hlast).2
              exact .rebuild dbi.store dbs.store sale last n (by simp [lookup_cons_of_ne, hreads])
                (by simp [lookup_cons_of_ne, hreads]) hsale hlive.symm hlp
  | cons first rest =>
      change dbi.store.liveBatches prd = first :: rest at hl
      rw [hl, List.head?_cons] at hlive
      cases hsale : Query.eval (.sale id) dbs.store with
      | none => trivial
      | some sale =>
          refine h.inSession (c := .saveQuantity _) (fun _ _ _ => trivial)
            fun s w' _ x hplan h => ?_
          obtain ⟨-, rfl⟩ := plan_saveQuantity hplan
          refine h.finishReversal ?_
          exact .restock dbi.store dbs.store sale first (by simp [lookup_cons_of_ne, hreads])
            (by simp [lookup_cons_of_ne, hreads]) hsale hlive.symm

end InventoryHero.Concurrent
