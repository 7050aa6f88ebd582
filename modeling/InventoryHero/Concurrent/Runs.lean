import InventoryHero.Concurrent.Handlers
import Mathlib.Data.Fin.VecNotation

/-!
# Interleavings of the handlers

`Conducted.invariant` is the rule for invariants of interleavings: what the operations keep that the
requests may issue holds after every interleaving. What a command can write (`plan_writes`) and what
an operation can do to the store and to the session of its request (`store_step`, `committed_step`,
`pending_step`) is said once here.
-/

set_option autoImplicit false

namespace InventoryHero.Concurrent

open Interaction Storage Model

/-! ## One command -/

/-- The writes that a command can amount to. Those that delete are not told apart. -/
inductive CommandWrites : Command → Writes → Prop
  | saveProduct (d : Product) : CommandWrites (.saveProduct d) { products := [.insert d] }
  | saveInventory (d : Inventory) : CommandWrites (.saveInventory d) { inventories := [.insert d] }
  | saveCost (d : Cost) : CommandWrites (.saveCost d) { costs := [.insert d] }
  | saveSale (d : Sale) : CommandWrites (.saveSale d) { sales := [.insert d] }
  | saveLast (d : Last) : CommandWrites (.saveLast d) { lasts := [.insert d] }
  | currentPrice (id : ObjectId) (price : Option Price) :
      CommandWrites (.updateCurrentPrice id price)
        { products := [.modify id (setCurrentPrice price)] }
  | hide (id : ObjectId) :
      CommandWrites (.softDeleteProduct id) { products := [.modify id softDelete] }
  | product (id : ObjectId) (data : ProductUpdate) :
      CommandWrites (.updateProduct id data) { products := [.modify id data.patch] }
  | snapshot (p : ObjectId) (obj : Snapshot) (k : ObjectId) :
      CommandWrites (.updateLast p obj) { lasts := [.modify k (setSnapshot obj)] }
  | updateQuantity (id : ObjectId) (q : ℚ) :
      CommandWrites (.updateQuantity id q) { inventories := [.modify id (setQuantity q)] }
  | saveQuantity (d : Inventory) :
      CommandWrites (.saveQuantity d) { inventories := [.modify d._id (setQuantity d.quantity)] }
  | inventory (id : ObjectId) (data : InventoryUpdate) (q : Option ℚ) (cpq : Option JsNumber) :
      CommandWrites (.updateInventory id data) { inventories := [.modify id (data.patch q cpq)] }
  | cost (id : ObjectId) (data : CostUpdate) (k : ObjectId) :
      CommandWrites (.updateCostOf id data) { costs := [.modify k data.patch] }
  | deletes (c : Command) (hc : inserts c = []) (ps is ss cs ls : List ObjectId) :
      CommandWrites c ⟨ps.map .delete, is.map .delete, ss.map .delete, cs.map .delete,
        ls.map .delete⟩

theorem CommandWrites.nothing {c : Command} (hc : inserts c = []) : CommandWrites c {} :=
  .deletes c hc [] [] [] [] []

theorem plan_writes {c : Command} {s : Store} {w : Writes} {r : c.Result}
    (h : c.plan s = .ok (w, r)) : CommandWrites c w := by
  cases c with
  | saveProduct d =>
      obtain ⟨-, rfl⟩ := plan_saveProduct h
      exact .saveProduct d
  | saveInventory d =>
      obtain ⟨-, rfl⟩ := plan_saveInventory h
      exact .saveInventory d
  | saveCost d =>
      obtain ⟨-, rfl⟩ := plan_saveCost h
      exact .saveCost d
  | saveSale d =>
      obtain ⟨-, rfl⟩ := plan_saveSale h
      exact .saveSale d
  | saveLast d =>
      obtain ⟨-, rfl⟩ := plan_saveLast h
      exact .saveLast d
  | updateCurrentPrice id price =>
      cases h
      unfold priceWrites
      split
      · exact .nothing rfl
      · exact .currentPrice id price
  | updateLast p obj =>
      rcases plan_updateLast h with ⟨-, rfl⟩ | ⟨last, -, -, rfl⟩
      · exact .nothing rfl
      · exact .snapshot p obj last._id
  | updateQuantity id q =>
      cases h
      exact .updateQuantity id q
  | saveQuantity d =>
      obtain ⟨-, rfl⟩ := plan_saveQuantity h
      exact .saveQuantity d
  | touchInventory d | touchCost d =>
      simp only [Command.plan] at h
      split at h
      · split at h
        · cases h
        · cases h
          exact .nothing rfl
      · cases h
  | deleteInventory id =>
      cases h
      exact .deletes _ rfl [] [id] [] [] []
  | deleteSale id =>
      cases h
      exact .deletes _ rfl [] [] [id] [] []
  | deleteCostOf id =>
      rcases plan_deleteCostOf h with ⟨-, rfl⟩ | ⟨cost, -, rfl⟩
      · exact .nothing rfl
      · exact .deletes _ rfl [] [] [] [cost._id] []
  | deleteProduct id =>
      cases h
      exact .deletes _ rfl [id] [] [] [] []
  | deleteSales id =>
      cases h
      simpa [Function.comp_def] using CommandWrites.deletes (.deleteSales id) rfl [] []
        ((s.sales.docs.filter fun d => d.product = id).map (·._id)) [] []
  | deleteInventories id =>
      cases h
      simpa [Function.comp_def] using CommandWrites.deletes (.deleteInventories id) rfl []
        ((s.batches id).map (·._id)) [] [] []
  | deleteCosts id =>
      cases h
      simpa [Function.comp_def] using CommandWrites.deletes (.deleteCosts id) rfl [] [] []
        ((s.costs.docs.filter fun d => d.product = id).map (·._id)) []
  | deleteLasts id =>
      cases h
      simpa [Function.comp_def] using CommandWrites.deletes (.deleteLasts id) rfl [] [] [] []
        ((s.lastsOf id).map (·._id))
  | updateInventory id data =>
      obtain ⟨quantity, -, h⟩ := bind_ok h
      obtain ⟨cpq, -, h⟩ := bind_ok h
      cases h
      split
      · exact .nothing rfl
      · exact .inventory id data quantity cpq
  | updateCostOf id data =>
      simp only [Command.plan] at h
      split at h
      · cases h
        exact .nothing rfl
      · rename_i cost _
        cases h
        exact .cost id data cost._id
  | softDeleteProduct id =>
      cases h
      exact .hide id
  | updateProduct id data =>
      simp only [Command.plan] at h
      split at h
      · cases h
        exact .nothing rfl
      · split at h
        · cases h
          exact .nothing rfl
        · split at h
          · cases h
          · cases h
            exact .product id data

/-! ## One operation -/

section Step

variable {x : Exchange × Notes} {o : Op} {request : WriteRequest} {caller : Caller}

/-- How the store changes. -/
inductive StoreStep (o : Op) (db : Db) (x : Exchange × Notes) (s : Store) : Prop
  | same (store : s = db.store)
  /-- The transaction commits. -/
  | commit (t : Txn) (issued : o = .commitTransaction) (session : x.1.session = .inProgress t)
      (store : s = db.store.apply t.writes)
      (after : committed? (notedSem o db x).2.1.1 = some t.writes)
  /-- A write takes effect at once. -/
  | direct (c : Command) (w : Writes) (r : c.Result) (issued : o = .direct c)
      (plan : c.plan db.store = .ok (w, r)) (store : s = db.store.apply w)

theorem store_step (o : Op) (db : Db) (x : Exchange × Notes) :
    StoreStep o db x (notedSem o db x).1.store := by
  cases o with
  | commitTransaction =>
      cases hs : x.1.session with
      | inProgress t =>
          by_cases hfails : x.1.env.commitFails = true
          · exact .same (by simp [notedSem, Sem.ghost, sem, execCommit, hs, hfails])
          by_cases hconf : t.conflicts db = true
          · exact .same (by simp [notedSem, Sem.ghost, sem, execCommit, hs, hfails, hconf])
          by_cases hacc : db.store.accepts t.writes = true
          · exact .commit t rfl hs
              (by simp [notedSem, Sem.ghost, sem, execCommit, hs, hfails, hconf, hacc])
              (by simp [notedSem, Sem.ghost, sem, execCommit, hs, hfails, hconf, hacc, committed?])
          · exact .same (by simp [notedSem, Sem.ghost, sem, execCommit, hs, hfails, hconf, hacc])
      | _ => exact .same (by simp [notedSem, Sem.ghost, sem, execCommit, hs])
  | direct c =>
      cases hp : c.plan db.store with
      | error e => exact .same (by simp [notedSem, Sem.ghost, sem, execDirect, hp])
      | ok wr =>
          obtain ⟨w, r⟩ := wr
          by_cases hacc : db.store.accepts w = true
          · exact .direct c w r rfl hp (by simp [notedSem, Sem.ghost, sem, execDirect, hp, hacc])
          · exact .same (by simp [notedSem, Sem.ghost, sem, execDirect, hp, hacc])
  | _ =>
      refine .same ?_
      simp only [notedSem, Sem.ghost, sem, execInSession, execAbort, execSend, execDestroy]
      repeat' split
      all_goals rfl

/-- A request that has committed stays so, and what it commits it had collected. -/
theorem committed_step (db : Db) (hmay : May request caller o x) :
    committed? (notedSem o db x).2.1.1 = committed? x.1 ∨ o = .commitTransaction ∧
      ∃ t, x.1.session = .inProgress t ∧
        committed? (notedSem o db x).2.1.1 = some t.writes := by
  cases o with
  | commitTransaction =>
      cases hs : x.1.session with
      | inProgress t =>
          simp only [notedSem, Sem.ghost, sem, execCommit, hs]
          repeat' split
          all_goals simp [committed?, hs]
      | _ => exact .inl (by simp [notedSem, Sem.ghost, sem, execCommit, hs])
  | startTransaction => exact .inl (by simp [notedSem, Sem.ghost, sem, committed?, hmay.1])
  | inSession c =>
      refine .inl ?_
      cases hs : x.1.session with
      | inProgress t =>
          simp only [notedSem, Sem.ghost, sem, execInSession, hs]
          repeat' split
          all_goals simp [committed?, hs]
      | _ => simp [notedSem, Sem.ghost, sem, execInSession, hs]
  | abortTransaction =>
      refine .inl ?_
      cases hs : x.1.session with
      | inProgress t => simp [notedSem, Sem.ghost, sem, execAbort, hs, committed?]
      | _ => simp [notedSem, Sem.ghost, sem, execAbort, hs]
  | _ =>
      refine .inl ?_
      simp only [notedSem, Sem.ghost, sem, execDirect, execSend, execDestroy]
      repeat' split
      all_goals rfl

/-- What holds of the writes that are planned holds of all that a transaction has collected. -/
theorem pending_step (db : Db) {P : Writes → Prop} (hempty : P {})
    (happend : ∀ w w', P w → P w' → P (w ++ w'))
    (hplan : ∀ c s w r, o = .inSession c → c.plan s = .ok (w, r) → P w)
    (hx : ∀ t, x.1.session = .inProgress t → P t.writes) :
    ∀ t, (notedSem o db x).2.1.1.session = .inProgress t → P t.writes := by
  intro t ht
  cases o with
  | startTransaction =>
      cases ht
      exact hempty
  | inSession c =>
      simp only [notedSem, Sem.ghost, sem, execInSession] at ht
      split at ht
      · rename_i t₀ ht₀
        split at ht
        · cases ht
          rw [Txn.writes_refuse]
          exact hx t₀ ht₀
        · rename_i w r hp
          split at ht
          · cases ht
            exact happend _ _ (hx t₀ ht₀) (hplan c _ w r rfl hp)
          · cases ht
            exact hx t₀ ht₀
      · exact hx t ht
  | commitTransaction =>
      simp only [notedSem, Sem.ghost, sem, execCommit] at ht
      repeat' split at ht
      all_goals first | exact hx t ht | cases ht
  | abortTransaction =>
      simp only [notedSem, Sem.ghost, sem, execAbort] at ht
      repeat' split at ht
      all_goals first | exact hx t ht | cases ht
  | _ =>
      simp only [notedSem, Sem.ghost, sem, execDirect, execSend, execDestroy] at ht
      repeat' split at ht
      all_goals exact hx t ht

end Step

/-! ## Every interleaving -/

section Interleavings

variable {ι : Type} [DecidableEq ι] {calls : ι → WriteCall}

/-- Requests being served, with notes. -/
abbrev NotedRequests (ι : Type) := Pool mongo ι Db (Exchange × Notes) JsError Unit

/-- Every request keeps to what it may do from here on. -/
def Conducted (calls : ι → WriteCall) (q : NotedRequests ι) : Prop :=
  q.Ensures notedSem (fun i o _ x _ _ => May (calls i).request (calls i).caller o x) fun _ => Ended

omit [DecidableEq ι] in
theorem conducted_writers (db : Db) (calls : ι → WriteCall) :
    Conducted calls ((writers db calls).withGhost .init) :=
  fun i => writeHandler_behaves (calls i).request (calls i).caller (calls i).env

/-- The requests of `p` lead to `p'` in some order of their operations. -/
abbrev Interleaves (p p' : Requests ι) : Prop :=
  Reach (· = p) (fun _ _ => True) (Pool.step sem) p'

/-- What the operations keep that the requests may issue holds after every interleaving. -/
theorem Conducted.invariant {q : NotedRequests ι} (hq : Conducted calls q)
    {I : Db → (ι → Exchange × Notes) → Prop} (h₀ : I q.shared q.locals)
    (hstep : ∀ db loc i o, May (calls i).request (calls i).caller o (loc i) → I db loc →
      I (notedSem o db (loc i)).1 (Function.update loc i (notedSem o db (loc i)).2.1))
    {p : Requests ι} (h : Interleaves q.erase p) :
    ∃ q', q'.erase = p ∧ Conducted calls q' ∧ I q'.shared q'.locals :=
  Reach.conducted hq h₀ hstep h

/-- The requests carry out one operation each, in the given order. -/
def follow (is : List ι) (p : Requests ι) : Requests ι := p.follow sem is

theorem interleaves_follow (is : List ι) (p : Requests ι) : Interleaves p (follow is p) :=
  Pool.reach_follow is p

end Interleavings

/-! ## A run -/

/-- A product, two sales of it and a purchase. -/
def busyCalls : Fin 4 → WriteCall :=
  ![⟨.stock (.addProduct (Sample.productBody 10 100)), Sample.admin, Sample.env⟩,
    ⟨.stock (.recordSales 1 (Sample.salesBody 3)), Sample.admin, Sample.env⟩,
    ⟨.stock (.recordSales 1 (Sample.salesBody 5)), Sample.admin, Sample.env⟩,
    ⟨.stock (.addInventory 1 (Sample.inventoryBody 5 50)), Sample.admin, Sample.env⟩]

/-- The product is added, both sales read its batches and the purchase begins; then the first sale
is carried out. -/
def busyRun : Requests (Fin 4) :=
  follow (List.replicate 11 0 ++ List.replicate 4 1 ++ List.replicate 4 2 ++ List.replicate 9 3 ++
    List.replicate 5 1) (writers Sample.db busyCalls)

/-- The other two are carried out as well. -/
def busyEnd : Requests (Fin 4) := follow (List.replicate 5 2 ++ List.replicate 2 3) busyRun

theorem interleaves_busyRun : Interleaves (writers Sample.db busyCalls) busyRun :=
  interleaves_follow _ _

theorem interleaves_busyEnd : Interleaves (writers Sample.db busyCalls) busyEnd := by
  rw [busyEnd, busyRun, follow, follow, Pool.follow_follow]
  exact interleaves_follow _ _

end InventoryHero.Concurrent
