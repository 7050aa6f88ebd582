import InventoryHero.Storage.Renaming
import InventoryHero.Serial.Selling
import InventoryHero.Stock.Lots

/-!
# Requests about one product

The five requests that trade in a product address its documents in different ways: by the id of the
product, of a batch or of a sale, and cost records by the batch they belong to. Whatever the way,
the writes of a request about product `p` stay with the documents of `p` (`LocalWrites`), and of the
ids it generates they depend on the names only (`RenamedWrites`).

A cost record keeps the product it was written for when its batch is moved to another one, so the
cost records of a request are those of the batches of `p`, whatever product they name.
-/

set_option autoImplicit false

namespace InventoryHero.Commuting

open Interaction Storage Model Stock Serial

/-- The request is about product `p`: its batch, or its sale, is one of `p`, and stays one. -/
def Concerns (s : Store) (p : ObjectId) : Request → Prop
  | .recordSales id _ => id = p
  | .addInventory id _ => id = p
  | .editInventory id data =>
      data.product = none ∧ ∃ b, s.inventories.get? id = some b ∧ b.product = p
  | .deleteInventory id => ∃ b, s.inventories.get? id = some b ∧ b.product = p
  | .deleteSalesRecord id prd => prd = p ∧ ∃ sale, s.sales.get? id = some sale ∧ sale.product = p
  | _ => False

/-- What the request comes to. -/
def outcome (s : Store) (c : Call) : Outcome :=
  match c.request with
  | .recordSales id body => recordSalesOutcome s id body c.caller c.env
  | .addInventory id body => addInventoryOutcome s id body c.caller c.env
  | .editInventory id data => editInventoryOutcome s id data c.caller c.env
  | .deleteInventory id => deleteInventoryOutcome s id c.caller c.env
  | .deleteSalesRecord id prd => deleteSalesRecordOutcome s id prd c.caller c.env
  | _ => .idle 0 []

theorem served_outcome {db : Db} {p : ObjectId} {c : Call} (hids : AllFresh db)
    (h : Concerns db.store p c.request) : Served db (outcome db.store c) (serve c db) := by
  obtain ⟨request, caller, env⟩ := c
  cases request with
  | recordSales id body => exact recordSales_outcome hids id body caller env
  | addInventory id body => exact addInventory_outcome hids id body caller env
  | editInventory id data => exact editInventory_outcome db id data caller env
  | deleteInventory id => exact deleteInventory_outcome db id caller env
  | deleteSalesRecord id prd => exact deleteSalesRecord_outcome hids id prd caller env
  | addProduct body => exact h.elim
  | deleteAllSales => exact h.elim
  | userDeleteProduct id => exact h.elim

/-! ## Where the writes go -/

/-- The ids from `lo` to `hi`. -/
def Between (lo hi k : ObjectId) : Prop := lo ≤ k ∧ k < hi

instance decidableBetween (lo hi : ObjectId) : DecidablePred (Between lo hi) := fun _ =>
  inferInstanceAs (Decidable (_ ∧ _))

/-- A write about the cost record of a batch of `p`, or about that of a new batch of `p`. -/
inductive CostWrite (s : Store) (p lo hi : ObjectId) : DocWrite Cost → Prop
  | insert {a : Cost} (product : a.product = p) (isNew : Between lo hi a._id)
      (newBatch : Between lo hi a.inventoryId) : CostWrite s p lo hi (.insert a)
  | modify {a : Cost} {b : Inventory} (mem : a ∈ s.costs.docs) (batch : b ∈ s.inventories.docs)
      (owned : b.product = p) (link : a.inventoryId = b._id) (u : CostUpdate) :
      CostWrite s p lo hi (.modify a._id u.patch)
  | delete {a : Cost} {b : Inventory} (mem : a ∈ s.costs.docs) (batch : b ∈ s.inventories.docs)
      (owned : b.product = p) (link : a.inventoryId = b._id) : CostWrite s p lo hi (.delete a._id)

/-- Writes to documents of product `p`, with new ids from `lo` to `hi`. -/
structure LocalWrites (s : Store) (p lo hi : ObjectId) (w : Writes) : Prop where
  products : ∀ x ∈ w.products, Confined Product._id s.products p (fun _ => False) x := by
    exact List.forall_mem_nil _
  inventories : ∀ x ∈ w.inventories,
      Confined Inventory.product s.inventories p (Between lo hi) x := by
    exact List.forall_mem_nil _
  sales : ∀ x ∈ w.sales, Confined Sale.product s.sales p (Between lo hi) x := by
    exact List.forall_mem_nil _
  costs : ∀ x ∈ w.costs, CostWrite s p lo hi x := by
    exact List.forall_mem_nil _
  lasts : ∀ x ∈ w.lasts, Confined (fun last => last.product) s.lasts p (Between lo hi) x := by
    exact List.forall_mem_nil _

/-! ## Names -/

/-- Batches with new names. -/
def inventoryNames (σ : ObjectId ↪ ObjectId) : Renaming Inventory where
  keys := σ
  doc b := { b with _id := σ b._id }
  injective := σ.injective
  key_doc _ := rfl

def saleNames (σ : ObjectId ↪ ObjectId) : Renaming Sale where
  keys := σ
  doc sale := { sale with _id := σ sale._id }
  injective := σ.injective
  key_doc _ := rfl

/-- Cost records name their batch, too. -/
def costNames (σ : ObjectId ↪ ObjectId) : Renaming Cost where
  keys := σ
  doc cost := { cost with _id := σ cost._id, inventoryId := σ cost.inventoryId }
  injective := σ.injective
  key_doc _ := rfl

def lastNames (σ : ObjectId ↪ ObjectId) : Renaming Last where
  keys := σ
  doc last := { last with _id := σ last._id }
  injective := σ.injective
  key_doc _ := rfl

/-- The same writes with new names. -/
structure RenamedWrites (σ : ObjectId ↪ ObjectId) (w w' : Writes) : Prop where
  products : w'.products = w.products := by rfl
  inventories : List.Forall₂ (inventoryNames σ).Renames w.inventories w'.inventories := by
    exact .nil
  sales : List.Forall₂ (saleNames σ).Renames w.sales w'.sales := by exact .nil
  costs : List.Forall₂ (costNames σ).Renames w.costs w'.costs := by exact .nil
  lasts : List.Forall₂ (lastNames σ).Renames w.lasts w'.lasts := by exact .nil

/-- The writes stay with product `p`, and do not depend on the ids that are generated but for their
names. Ids in use are below `n`. -/
structure LocalOutcome (s : Store) (p n : ObjectId) (o : Outcome) : Prop where
  confined : ∀ m, LocalWrites s p m (m + o.fresh) (o.writes m)
  renamed : ∀ (σ : ObjectId ↪ ObjectId) m m', (∀ k < n, σ k = k) →
    (∀ i < o.fresh, σ (m + i) = m' + i) → RenamedWrites σ (o.writes m) (o.writes m')

variable {s : Store} {p n : ObjectId} {env : Env}

theorem localOutcome_idle {k : Nat} {statuses : List Nat} :
    LocalOutcome s p n (.idle k statuses) :=
  ⟨fun _ => { }, fun _ _ _ _ _ => { }⟩

theorem localOutcome_commit {k status : Nat} {before : List Nat} {writes : ObjectId → Writes}
    (hconfined : ∀ m, LocalWrites s p m (m + k) (writes m))
    (hrenamed : ∀ (σ : ObjectId ↪ ObjectId) m m', (∀ k < n, σ k = k) →
      (∀ i < k, σ (m + i) = m' + i) → RenamedWrites σ (writes m) (writes m')) :
    LocalOutcome s p n (.commit env k before status writes) := by
  unfold Outcome.commit
  cases env.commitFails with
  | true => exact localOutcome_idle
  | false => exact ⟨hconfined, hrenamed⟩

/-! ## Purchases, deletions and edits -/

variable {db : Db}

theorem localOutcome_addInventory (s : Store) (n id : ObjectId) (body : InventoryBody)
    (caller : Caller) (env : Env) :
    LocalOutcome s id n (addInventoryOutcome s id body caller env) := by
  unfold addInventoryOutcome
  cases s.users.get? caller._id with
  | none => exact localOutcome_idle
  | some user =>
      cases validateInventory body with
      | error e => exact localOutcome_idle
      | ok data =>
          cases hfound : s.findProduct id with
          | none => exact localOutcome_idle
          | some product =>
              have hget := Store.get?_of_findProduct hfound
              obtain ⟨-, hid⟩ := Store.mem_of_findProduct hfound
              dsimp only
              split
              swap
              · exact localOutcome_idle
              refine localOutcome_commit (fun m => ?_) fun σ m m' _ hnew => ?_
              · have hprice : ∀ x ∈ priceWrites id data.price,
                    Confined Product._id s.products id (fun _ => False) x := by
                  unfold priceWrites
                  split
                  · exact List.forall_mem_nil _
                  · exact List.forall_mem_singleton.2 (.modify_get hget hid fun _ h => h)
                have hbatch : Between m (m + 2) m := ⟨le_rfl, Nat.lt_add_of_pos_right (by decide)⟩
                have hcost : Between m (m + 2) (m + 1) :=
                  ⟨Nat.le_add_right m 1, Nat.add_lt_add_left (by decide) m⟩
                exact {
                  products := hprice
                  inventories := List.forall_mem_singleton.2 (.insert rfl hbatch)
                  costs := List.forall_mem_singleton.2 (.insert rfl hcost hbatch) }
              · obtain rfl : σ m = m' := hnew 0 (by decide)
                have hcost : σ (m + 1) = σ m + 1 := hnew 1 (by decide)
                exact {
                  inventories := .cons (.insert_eq rfl) .nil
                  costs := .cons (.insert_eq (by simp [costNames, hcost])) .nil }

theorem localOutcome_deleteInventory (hids : AllFresh db) {id : ObjectId} {b : Inventory}
    (hget : db.store.inventories.get? id = some b) (hb : b.product = p) (caller : Caller)
    (env : Env) :
    LocalOutcome db.store p db.nextId (deleteInventoryOutcome db.store id caller env) := by
  obtain ⟨hmem, rfl⟩ := Collection.get?_eq_some_iff.1 hget
  change LocalOutcome db.store p db.nextId (deleteInventoryOutcome db.store b._id caller env)
  unfold deleteInventoryOutcome
  split
  · refine localOutcome_commit (fun m => ?_) fun σ m m' hold _ => ?_
    · refine { inventories := List.forall_mem_singleton.2 (.delete hmem hb), costs := ?_ }
      cases hcost : db.store.costOf b._id with
      | none => exact List.forall_mem_nil _
      | some cost =>
          obtain ⟨hc, hlink⟩ := Store.mem_of_costOf hcost
          exact List.forall_mem_singleton.2 (.delete hc hmem hb hlink)
    · refine { inventories := .cons (.delete_old (hold _ (hids.batch b hmem))) .nil, costs := ?_ }
      cases hcost : db.store.costOf b._id with
      | none => exact .nil
      | some cost =>
          have hold' : σ cost._id = cost._id :=
            hold _ (hids.costId cost (Store.mem_of_costOf hcost).1)
          exact .cons (.delete_old hold') .nil
  · exact localOutcome_idle

/-- The batch is changed in place; so is its cost record, if there is one and the request calls for
it. -/
theorem localOutcome_edit (hids : AllFresh db) {b : Inventory}
    (hmem : b ∈ db.store.inventories.docs) (hb : b.product = p) (batch : Inventory)
    (data : EditBody) (quantity : Option JsNumber) {patch : Patch Inventory}
    (hproduct : ∀ d, (patch.apply d).product = d.product)
    (hnames : ∀ σ d, patch.apply ((inventoryNames σ).doc d) =
      (inventoryNames σ).doc (patch.apply d)) (env : Env) :
    LocalOutcome db.store p db.nextId
      (editOutcome db.store b._id batch data quantity patch env) := by
  have hbatch lo hi : Confined Inventory.product db.store.inventories p (Between lo hi)
      (.modify b._id patch) := .modify hmem hb fun d hd => (hproduct d).trans hd
  have hsame {σ : ObjectId ↪ ObjectId} (hold : ∀ k < db.nextId, σ k = k) :
      (inventoryNames σ).Renames (.modify b._id patch) (.modify b._id patch) :=
    .modify_old (hold _ (hids.batch b hmem)) (hnames σ)
  -- however the edit ends, it has stored the batch alone or with its cost record
  have halone (statuses : List Nat) (done : Bool) : LocalOutcome db.store p db.nextId
      ⟨fun _ => { inventories := [.modify b._id patch] }, 0, statuses, done⟩ :=
    ⟨fun m => { inventories := List.forall_mem_singleton.2 (hbatch _ _) },
      fun σ m m' hold _ => { inventories := .cons (hsame hold) .nil }⟩
  unfold editOutcome
  split
  swap
  · exact halone _ _
  split
  swap
  · exact halone _ _
  cases hcost : db.store.costOf b._id with
  | none => exact halone _ _
  | some cost =>
      obtain ⟨hc, hlink⟩ := Store.mem_of_costOf hcost
      have hboth (statuses : List Nat) (done : Bool) : LocalOutcome db.store p db.nextId
          ⟨fun _ => { inventories := [.modify b._id patch]
                      costs := [.modify cost._id (editCostData data quantity).patch] },
            0, statuses, done⟩ := by
        refine ⟨fun m => ?_, fun σ m m' hold _ => ?_⟩
        · exact {
            inventories := List.forall_mem_singleton.2 (hbatch _ _)
            costs := List.forall_mem_singleton.2 (.modify hc hmem hb hlink _) }
        · exact {
            inventories := .cons (hsame hold) .nil
            costs := .cons (.modify_old (hold _ (hids.costId cost hc)) fun _ => rfl) .nil }
      dsimp only
      split
      · exact hboth _ _
      · exact hboth _ _

theorem localOutcome_editInventory (hids : AllFresh db) {id : ObjectId} {b : Inventory}
    (hget : db.store.inventories.get? id = some b) (hb : b.product = p) {data : EditBody}
    (hdata : data.product = none) (caller : Caller) (env : Env) :
    LocalOutcome db.store p db.nextId (editInventoryOutcome db.store id data caller env) := by
  obtain ⟨hmem, rfl⟩ := Collection.get?_eq_some_iff.1 hget
  change LocalOutcome db.store p db.nextId (editInventoryOutcome db.store b._id data caller env)
  unfold editInventoryOutcome
  split
  · split
    · exact localOutcome_idle
    · split
      · exact localOutcome_idle
      · split
        · refine localOutcome_edit hids hmem hb _ data _ (fun d => ?_) (fun _ _ => rfl) env
          simp [InventoryUpdate.patch, editUpdate, hdata]
        · exact localOutcome_idle
  · exact localOutcome_idle

/-! ## Sales -/

theorem localOutcome_deleteSalesRecord (hids : AllFresh db) {id : ObjectId} {sale : Sale}
    (hget : db.store.sales.get? id = some sale) (hsale : sale.product = p) (caller : Caller)
    (env : Env) :
    LocalOutcome db.store p db.nextId (deleteSalesRecordOutcome db.store id p caller env) := by
  obtain ⟨hmem, rfl⟩ := Collection.get?_eq_some_iff.1 hget
  change LocalOutcome db.store p db.nextId
    (deleteSalesRecordOutcome db.store sale._id p caller env)
  have hdelete lo hi : Confined Sale.product db.store.sales p (Between lo hi)
      (.delete sale._id) := .delete hmem hsale
  unfold deleteSalesRecordOutcome
  split
  · exact localOutcome_idle
  · split
    · rename_i first rest sale' hlive hsale'
      obtain ⟨hfirst, hproduct⟩ := mem_liveBatches (hlive ▸ List.mem_cons_self)
      split
      swap
      · exact localOutcome_idle
      refine localOutcome_commit (fun m => ?_) fun σ m m' hold _ => ?_
      · exact {
          inventories := List.forall_mem_singleton.2 (.modify hfirst hproduct fun _ h => h)
          sales := List.forall_mem_singleton.2 (hdelete _ _) }
      · exact {
          inventories := .cons (.modify_old (hold _ (hids.batch first hfirst)) fun _ => rfl) .nil
          sales := .cons (.delete_old (hold _ (hids.sale sale hmem))) .nil }
    · rename_i last sale' hlive hlast hsale'
      obtain ⟨-, hproduct⟩ := Store.mem_lastsOf_head hlast
      split
      swap
      · exact localOutcome_idle
      refine localOutcome_commit (fun m => ?_) fun σ m m' hold hnew => ?_
      · have hbatch : Between m (m + 1) m := ⟨le_rfl, Nat.lt_succ_self m⟩
        exact {
          inventories := List.forall_mem_singleton.2 (.insert hproduct hbatch)
          sales := List.forall_mem_singleton.2 (hdelete _ _) }
      · obtain rfl : σ m = m' := hnew 0 (by decide)
        exact {
          inventories := .cons (.insert_eq rfl) .nil
          sales := .cons (.delete_old (hold _ (hids.sale sale hmem))) .nil }
    · exact localOutcome_idle

theorem renames_drawWrites {σ : ObjectId ↪ ObjectId} {t : ℚ} {l : List Inventory}
    (hl : ∀ b ∈ l, σ b._id = b._id) :
    List.Forall₂ (inventoryNames σ).Renames (drawWrites t l) (drawWrites t l) := by
  induction l generalizing t with
  | nil => exact .nil
  | cons b rest ih =>
      have hb : (inventoryNames σ).keys b._id = b._id := hl b List.mem_cons_self
      have hrest {t : ℚ} := ih (t := t) fun d hd => hl d (List.mem_cons_of_mem b hd)
      unfold drawWrites
      split
      · split
        · exact .cons (.delete_old hb) hrest
        · exact .cons (.modify_old hb fun _ => rfl) .nil
      · exact hrest

theorem confined_snapshotWrites (s : Store) (p m hi : ObjectId) (j : Nat)
    (hhi : m + snapshotIds s p j ≤ hi) :
    ∀ x ∈ snapshotWrites s p j m,
      Confined (fun last => last.product) s.lasts p (Between m hi) x := by
  unfold snapshotWrites
  unfold snapshotIds at hhi
  split
  · rename_i first last hlive hlast
    obtain ⟨hmem, hproduct⟩ := Store.mem_lastsOf_head hlast
    have hfirst : first.product = p := (mem_liveBatches (hlive ▸ List.mem_cons_self)).2
    split
    · exact List.forall_mem_nil _
    · exact List.forall_mem_singleton.2 (.modify hmem hproduct fun _ _ => hfirst)
  · rename_i first hlive hlast
    have hfirst : first.product = p := (mem_liveBatches (hlive ▸ List.mem_cons_self)).2
    simp only [hlive, hlast] at hhi
    split
    · intro x hx
      obtain ⟨i, hi', rfl⟩ := List.mem_map.1 hx
      refine .insert hfirst ⟨Nat.le_add_right m i, lt_of_lt_of_le ?_ hhi⟩
      exact Nat.add_lt_add_left (List.mem_range.1 hi') m
    · exact List.forall_mem_nil _
  · exact List.forall_mem_nil _

theorem renames_snapshotWrites {σ : ObjectId ↪ ObjectId} {m m' : ObjectId} {j : Nat}
    (hold : ∀ last ∈ s.lasts.docs, σ last._id = last._id)
    (hnew : ∀ i < snapshotIds s p j, σ (m + i) = m' + i) :
    List.Forall₂ (lastNames σ).Renames (snapshotWrites s p j m) (snapshotWrites s p j m') := by
  unfold snapshotWrites
  unfold snapshotIds at hnew
  split
  · rename_i first last hlive hlast
    split
    · exact .nil
    · exact .cons (.modify_old (hold last (Store.mem_lastsOf_head hlast).1) fun _ => rfl) .nil
  · rename_i first hlive hlast
    simp only [hlive, hlast] at hnew
    split
    · rw [List.forall₂_map_left_iff, List.forall₂_map_right_iff, List.forall₂_same]
      intro i hi
      refine .insert_eq ?_
      simp [lastNames, hnew i (List.mem_range.1 hi)]
    · exact .nil
  · exact .nil

theorem localOutcome_recordSales (hids : AllFresh db) (id : ObjectId) (body : SalesBody)
    (caller : Caller) (env : Env) :
    LocalOutcome db.store id db.nextId (recordSalesOutcome db.store id body caller env) := by
  unfold recordSalesOutcome
  split
  · exact localOutcome_idle
  · exact localOutcome_idle
  · exact localOutcome_idle
  · split
    · exact localOutcome_idle
    split
    · exact localOutcome_idle
    unfold sellOutcome
    dsimp only
    split
    · exact localOutcome_idle
    split
    swap
    · exact localOutcome_idle
    refine localOutcome_commit (fun m => ?_) fun σ m m' hold hnew => ?_
    · have hsale (k : Nat) : Between m (m + (k + 1)) (m + k) :=
        ⟨Nat.le_add_right m k, Nat.add_lt_add_left (Nat.lt_succ_self k) m⟩
      exact {
        inventories := confined_drawWrites fun b hb => by simpa [Store.batches] using hb
        sales := List.forall_mem_singleton.2 (.insert rfl (hsale _))
        lasts := confined_snapshotWrites _ _ _ _ _ (Nat.add_le_add_left (Nat.le_succ _) m) }
    · have hsale := hnew _ (Nat.lt_succ_self _)
      exact {
        inventories := renames_drawWrites fun b hb =>
          hold _ (hids.batch b (List.mem_of_mem_filter hb))
        sales := .cons (.insert_eq (by simp [saleNames, soldAs, hsale])) .nil
        lasts := renames_snapshotWrites (fun last hlast => hold _ (hids.last last hlast))
          fun i hi => hnew i (Nat.lt_succ_of_lt hi) }

theorem localOutcome_of_concerns (hids : AllFresh db) {c : Call}
    (h : Concerns db.store p c.request) :
    LocalOutcome db.store p db.nextId (outcome db.store c) := by
  obtain ⟨request, caller, env⟩ := c
  cases request with
  | recordSales id body =>
      obtain rfl : id = p := h
      exact localOutcome_recordSales hids id body caller env
  | addInventory id body =>
      obtain rfl : id = p := h
      exact localOutcome_addInventory db.store db.nextId id body caller env
  | editInventory id data =>
      obtain ⟨hdata, b, hget, hb⟩ := h
      exact localOutcome_editInventory hids hget hb hdata caller env
  | deleteInventory id =>
      obtain ⟨b, hget, hb⟩ := h
      exact localOutcome_deleteInventory hids hget hb caller env
  | deleteSalesRecord id prd =>
      obtain ⟨rfl, sale, hget, hsale⟩ := h
      exact localOutcome_deleteSalesRecord hids hget hsale caller env
  | addProduct body => exact h.elim
  | deleteAllSales => exact h.elim
  | userDeleteProduct id => exact h.elim

end InventoryHero.Commuting
