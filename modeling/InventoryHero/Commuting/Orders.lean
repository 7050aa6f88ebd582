import InventoryHero.Commuting.Requests

/-!
# Either order

Requests about different products can be served in either order. The first one does not touch what
the second one reads (`Agrees`), so each comes to the same outcome in both orders, and the writes of
the two commute on the documents of every product. What differs is the names of new documents: the
ids of the request that comes first are the smaller ones (`swapBlocks`).
-/

set_option autoImplicit false

namespace InventoryHero.Commuting

open Interaction Storage Model Stock Serial

variable {db : Db} {s s' : Store} {p q lo hi : ObjectId} {w : Writes}

/-! ## What a request reads -/

/-- The stores agree on what requests about product `p` read. -/
structure Agrees (p : ObjectId) (s s' : Store) : Prop where
  users : s'.users = s.users
  product : s'.products.get? p = s.products.get? p
  batches : s'.batches p = s.batches p
  sales : s'.sales.ownedBy Sale.product p = s.sales.ownedBy Sale.product p
  costs : ∀ b ∈ s.batches p, s'.costOf b._id = s.costOf b._id
  lasts : s'.lastsOf p = s.lastsOf p

namespace Agrees

variable (h : Agrees p s s')

include h

theorem findProduct : s'.findProduct p = s.findProduct p := by
  unfold Store.findProduct
  rw [h.product]

theorem liveBatches : s'.liveBatches p = s.liveBatches p := by
  have hlive (s : Store) : s.liveBatches p = (s.batches p).filter fun inv => !inv.isDeleted :=
    List.filter_comm _ _ _
  rw [hlive, hlive, h.batches]

theorem getBatch {id : ObjectId} {b : Inventory} (hget : s.inventories.get? id = some b)
    (hb : b.product = p) : s'.inventories.get? id = some b ∧ b ∈ s.batches p := by
  obtain ⟨hmem, hid⟩ := Collection.get?_eq_some_iff.1 hget
  have hbatch : b ∈ s.batches p := List.mem_filter.2 ⟨hmem, by simpa using hb⟩
  have hmem' : b ∈ s'.inventories.docs := List.mem_of_mem_filter (h.batches ▸ hbatch)
  exact ⟨Collection.get?_eq_some_iff.2 ⟨hmem', hid⟩, hbatch⟩

theorem getSale {id : ObjectId} {sale : Sale} (hget : s.sales.get? id = some sale)
    (hsale : sale.product = p) : s'.sales.get? id = some sale := by
  obtain ⟨hmem, hid⟩ := Collection.get?_eq_some_iff.1 hget
  have howned : sale ∈ s.sales.ownedBy Sale.product p :=
    List.mem_filter.2 ⟨hmem, by simpa using hsale⟩
  have hmem' : sale ∈ s'.sales.docs := List.mem_of_mem_filter (h.sales ▸ howned)
  exact Collection.get?_eq_some_iff.2 ⟨hmem', hid⟩

theorem concerns {request : Request} (hc : Concerns s p request) : Concerns s' p request := by
  cases request with
  | recordSales id body => exact hc
  | addInventory id body => exact hc
  | editInventory id data =>
      obtain ⟨hdata, b, hget, hb⟩ := hc
      exact ⟨hdata, b, (h.getBatch hget hb).1, hb⟩
  | deleteInventory id =>
      obtain ⟨b, hget, hb⟩ := hc
      exact ⟨b, (h.getBatch hget hb).1, hb⟩
  | deleteSalesRecord id prd =>
      obtain ⟨hprd, sale, hget, hsale⟩ := hc
      exact ⟨hprd, sale, h.getSale hget hsale, hsale⟩
  | addProduct body => exact hc
  | deleteAllSales => exact hc
  | userDeleteProduct id => exact hc

/-- A request about `p` comes to the same in stores that agree on `p`. -/
theorem outcome_eq {c : Call} (hc : Concerns s p c.request) : outcome s' c = outcome s c := by
  obtain ⟨request, caller, env⟩ := c
  cases request with
  | recordSales id body =>
      obtain rfl : id = p := hc
      simp only [outcome, recordSalesOutcome, sellOutcome, snapshotIds, snapshotWrites, h.users,
        h.findProduct, h.batches, h.liveBatches, h.lasts]
  | addInventory id body =>
      obtain rfl : id = p := hc
      simp only [outcome, addInventoryOutcome, h.users, h.findProduct]
  | editInventory id data =>
      obtain ⟨-, b, hget, hb⟩ := hc
      obtain ⟨hget', hbatch⟩ := h.getBatch hget hb
      have hid : b._id = id := (Collection.get?_eq_some_iff.1 hget).2
      have hcost := h.costs b hbatch
      rw [hid] at hcost
      simp only [outcome, editInventoryOutcome, editOutcome, Store.findInventory, h.users, hget,
        hget', hcost]
  | deleteInventory id =>
      obtain ⟨b, hget, hb⟩ := hc
      have hid : b._id = id := (Collection.get?_eq_some_iff.1 hget).2
      have hcost := h.costs b (h.getBatch hget hb).2
      rw [hid] at hcost
      simp only [outcome, deleteInventoryOutcome, h.users, hcost]
  | deleteSalesRecord id prd =>
      obtain ⟨rfl, sale, hget, hsale⟩ := hc
      simp only [outcome, deleteSalesRecordOutcome, h.users, h.liveBatches, h.lasts, hget,
        h.getSale hget hsale]
  | addProduct body => exact hc.elim
  | deleteAllSales => exact hc.elim
  | userDeleteProduct id => exact hc.elim

end Agrees

/-! ## What a request leaves alone -/

/-- New ids are not in use. -/
theorem not_between {α : Type} [Keyed α ObjectId] {c : Collection α} {n : ObjectId}
    (h : ∀ a ∈ c.docs, Keyed.key a < n) (hlo : n ≤ lo) :
    ∀ a ∈ c.docs, ¬Between lo hi (Keyed.key a) := fun a ha hk =>
  absurd ((h a ha).trans_le hlo) (Nat.not_lt.2 hk.1)

/-- Cost records are confined to the owner of their batch. -/
theorem CostWrite.confined {x : DocWrite Cost} {τ : ObjectId → ObjectId}
    (h : CostWrite s p lo hi x) (hτ : ∀ b ∈ s.inventories.docs, b.product = τ b._id)
    (hnew : ∀ k, Between lo hi k → τ k = p) :
    Confined (fun cost => τ cost.inventoryId) s.costs p (Between lo hi) x := by
  cases h with
  | insert product isNew newBatch => exact .insert (hnew _ newBatch) isNew
  | modify mem batch owned link u =>
      exact .modify mem (by rw [link, ← hτ _ batch, owned]) fun _ h => h
  | delete mem batch owned link => exact .delete mem (by rw [link, ← hτ _ batch, owned])

theorem get?_eq_head_ownedBy (c : Collection Product) (r : ObjectId) :
    c.get? r = (c.ownedBy Product._id r).head? := List.head?_filter.symm

theorem costOf_eq_find_ownedBy {τ : ObjectId → ObjectId} {id r : ObjectId} (h : τ id = r) :
    s.costOf id = (s.costs.ownedBy (fun cost => τ cost.inventoryId) r).find?
      fun cost => cost.inventoryId = id := by
  unfold Collection.ownedBy
  rw [List.find?_filter]
  apply congrArg (List.find? · s.costs.docs)
  funext cost
  by_cases hid : cost.inventoryId = id <;> simp [hid, h]

/-- Writes to documents of `p` do not touch what requests about `q` read. -/
theorem LocalWrites.agrees (hids : AllFresh db) (hlo : db.nextId ≤ lo)
    (h : LocalWrites db.store p lo hi w) (hpq : p ≠ q) :
    Agrees q db.store (db.store.apply w) := by
  constructor
  case users => rfl
  case product =>
    rw [get?_eq_head_ownedBy, get?_eq_head_ownedBy]
    exact congrArg List.head? (Confined.frame (fun _ _ => not_false) h.products hpq)
  case batches => exact Confined.frame (not_between hids.batch hlo) h.inventories hpq
  case sales => exact Confined.frame (not_between hids.sale hlo) h.sales hpq
  case costs =>
    intro b hb
    obtain ⟨hmem, hproduct⟩ := List.mem_filter.1 hb
    -- the owner of a cost record is the product of its batch
    let τ := Confined.ownerOf Inventory.product db.store.inventories p p (Between lo hi)
    have hτ : ∀ b ∈ db.store.inventories.docs, b.product = τ b._id := Confined.ownerOf_key
    have hq : τ b._id = q := (hτ b hmem).symm.trans (by simpa using hproduct)
    rw [costOf_eq_find_ownedBy hq, costOf_eq_find_ownedBy hq]
    have hcosts : ∀ x ∈ w.costs, Confined (fun cost => τ cost.inventoryId) db.store.costs p
        (Between lo hi) x := fun x hx =>
      (h.costs x hx).confined hτ fun _ => Confined.ownerOf_new (not_between hids.batch hlo)
    exact congrArg (List.find? _) (Confined.frame (not_between hids.costId hlo) hcosts hpq)
  case lasts => exact Confined.frame (not_between hids.last hlo) h.lasts hpq

/-! ## Swapped writes -/

/-- The documents of product `r` are the same but for their names. -/
structure SameUpTo (σ : ObjectId ↪ ObjectId) (r : ObjectId) (s s' : Store) : Prop where
  batches : s'.batches r = (s.batches r).map (inventoryNames σ).doc
  sales : s'.sales.ownedBy Sale.product r =
    (s.sales.ownedBy Sale.product r).map (saleNames σ).doc
  costs : s'.costs.ownedBy Cost.product r =
    (s.costs.ownedBy Cost.product r).map (costNames σ).doc
  lasts : s'.lastsOf r = (s.lastsOf r).map (lastNames σ).doc
  price : (s'.products.get? r).map Product.currentPrice =
    (s.products.get? r).map Product.currentPrice

variable {lo' hi' : ObjectId} {v : Writes}

theorem CostWrite.keeps_product {x : DocWrite Cost} {π : ObjectId → ObjectId}
    (h : CostWrite s p lo hi x) (hnew : ∀ k, Between lo hi k → π k = p) :
    x.Keeps fun cost => cost.product = π cost._id := by
  cases h with
  | insert product isNew _ => exact product.trans (hnew _ isNew).symm
  | modify _ _ _ _ u => exact fun _ _ h => h
  | delete _ _ _ _ => trivial

theorem CostWrite.inserts {x : DocWrite Cost} (h : CostWrite s p lo hi x) (hx : x.Inserts) :
    Between lo hi x.key := by
  cases h with
  | insert _ isNew _ => exact isNew
  | modify _ _ _ _ _ => exact hx.elim
  | delete _ _ _ _ => exact hx.elim

/-- Purchases of different products add cost records of different products. -/
theorem costs_comm (hids : AllFresh db) (hlo : db.nextId ≤ lo) (hlo' : db.nextId ≤ lo')
    (hdisj : ∀ k, Between lo' hi' k → ¬Between lo hi k) (hpq : p ≠ q)
    (hw : LocalWrites db.store p lo hi w) (hv : LocalWrites db.store q lo' hi' v) (r : ObjectId) :
    ((db.store.costs.writeAll w.costs).writeAll v.costs).ownedBy Cost.product r =
      ((db.store.costs.writeAll v.costs).writeAll w.costs).ownedBy Cost.product r := by
  -- `τ` is the product of each batch, `π` that of each cost record
  let τ := Confined.ownerOf Inventory.product db.store.inventories p q (Between lo hi)
  let π := Confined.ownerOf Cost.product db.store.costs p q (Between lo hi)
  have hτ : ∀ b ∈ db.store.inventories.docs, b.product = τ b._id := Confined.ownerOf_key
  have hπ k (hk : Between lo hi k) : π k = p :=
    Confined.ownerOf_new (not_between hids.costId hlo) hk
  have hπ' k (hk : Between lo' hi' k) : π k = q :=
    Confined.ownerOf_not_new (not_between hids.costId hlo') hk (hdisj k hk)
  refine Collection.ownedBy_comm (τ := π) Confined.ownerOf_key
    (fun x hx => (hw.costs x hx).keeps_product hπ)
    (fun x hx => (hv.costs x hx).keeps_product hπ') (fun x hx y hy => ?_) ?_
  · -- the records belong to batches of different products
    have hτp k (hk : Between lo hi k) : τ k = p :=
      Confined.ownerOf_new (not_between hids.batch hlo) hk
    have hτq k (hk : Between lo' hi' k) : τ k = q :=
      Confined.ownerOf_not_new (not_between hids.batch hlo') hk (hdisj k hk)
    exact Confined.key_ne (not_between hids.costId hlo) (not_between hids.costId hlo') hdisj hpq
      ((hw.costs x hx).confined hτ hτp) ((hv.costs y hy).confined hτ hτq)
  · by_cases hr : p = r
    · right
      intro x hx hin
      rw [hπ' _ ((hv.costs x hx).inserts hin), ← hr]
      exact hpq.symm
    · left
      intro x hx hin
      rw [hπ _ ((hw.costs x hx).inserts hin)]
      exact hr

/-- Writes to documents of `p`, then of `q`, and the other way round with new names. -/
theorem local_swap {α : Type} [Keyed α ObjectId] {c : Collection α} {n : ObjectId}
    {owner : α → ObjectId} {R : Renaming α} {ws ws' vs vs' : List (DocWrite α)}
    (hfresh : ∀ a ∈ c.docs, Keyed.key a < n) (hlo : n ≤ lo) (hlo' : n ≤ lo')
    (hdisj : ∀ k, Between lo' hi' k → ¬Between lo hi k) (hpq : p ≠ q)
    (howner : ∀ a, owner (R.doc a) = owner a) (hold : ∀ a ∈ c.docs, R.doc a = a)
    (hw : List.Forall₂ R.Renames ws ws') (hv : List.Forall₂ R.Renames vs vs')
    (hw' : ∀ x ∈ ws', Confined owner c p (Between lo hi) x)
    (hv' : ∀ x ∈ vs', Confined owner c q (Between lo' hi') x) (r : ObjectId) :
    ((c.writeAll vs').writeAll ws').ownedBy owner r =
      (((c.writeAll ws).writeAll vs).ownedBy owner r).map R.doc :=
  Renaming.ownedBy_swap howner hold hw hv
    (Confined.comm (not_between hfresh hlo) (not_between hfresh hlo') hdisj hpq hw' hv' r)

/-- Writes `w` about `p`, then `v` about `q`, and the other way round with new names. -/
theorem sameUpTo_swap {σ : ObjectId ↪ ObjectId} {w' v' : Writes} (hids : AllFresh db)
    (hold : ∀ k < db.nextId, σ k = k) (hlo : db.nextId ≤ lo) (hlo' : db.nextId ≤ lo')
    (hdisj : ∀ k, Between lo' hi' k → ¬Between lo hi k) (hpq : p ≠ q)
    (hw : RenamedWrites σ w w') (hv : RenamedWrites σ v v')
    (hw' : LocalWrites db.store p lo hi w') (hv' : LocalWrites db.store q lo' hi' v')
    (r : ObjectId) :
    SameUpTo σ r ((db.store.apply w).apply v) ((db.store.apply v').apply w') := by
  constructor
  case batches =>
    exact local_swap hids.batch hlo hlo' hdisj hpq (fun _ => rfl)
      (fun b hb => by simp [inventoryNames, hold _ (hids.batch b hb)]) hw.inventories
      hv.inventories hw'.inventories hv'.inventories r
  case sales =>
    exact local_swap hids.sale hlo hlo' hdisj hpq (fun _ => rfl)
      (fun sale hs => by simp [saleNames, hold _ (hids.sale sale hs)]) hw.sales hv.sales hw'.sales
      hv'.sales r
  case costs =>
    refine Renaming.ownedBy_swap (fun _ => rfl) (fun cost hc => ?_) hw.costs hv.costs
      (costs_comm hids hlo hlo' hdisj hpq hw' hv' r)
    simp [costNames, hold _ (hids.costId cost hc), hold _ (hids.cost cost hc)]
  case lasts =>
    exact local_swap hids.last hlo hlo' hdisj hpq (fun _ => rfl)
      (fun last hl => by simp [lastNames, hold _ (hids.last last hl)]) hw.lasts hv.lasts hw'.lasts
      hv'.lasts r
  case price =>
    have hcomm := Confined.comm (fun _ _ => not_false) (fun _ _ => not_false) (fun _ h => h.elim)
      hpq hw'.products hv'.products r
    simp only [Store.products_apply, get?_eq_head_ownedBy, ← hw.products, ← hv.products, hcomm]

/-! ## Names of new documents -/

/-- The blocks of `a` and `b` numbers from `n` on change places. -/
def swapped (n a b k : Nat) : Nat :=
  if k < n then k else if k < n + a then k + b else if k < n + a + b then k - a else k

theorem swapped_swapped (n a b k : Nat) : swapped n b a (swapped n a b k) = k := by
  unfold swapped
  split_ifs <;> omega

def swapBlocks (n a b : Nat) : Nat ↪ Nat where
  toFun := swapped n a b
  inj' := Function.LeftInverse.injective (swapped_swapped n a b)

theorem swapBlocks_lt {n a b k : Nat} (h : k < n) : swapBlocks n a b k = k := if_pos h

theorem swapBlocks_first {n a b i : Nat} (h : i < a) :
    swapBlocks n a b (n + i) = n + b + i := by
  show swapped n a b (n + i) = n + b + i
  unfold swapped
  split_ifs <;> omega

theorem swapBlocks_second {n a b i : Nat} (h : i < b) :
    swapBlocks n a b (n + a + i) = n + i := by
  show swapped n a b (n + a + i) = n + i
  unfold swapped
  split_ifs <;> omega

/-! ## The two orders -/

/-- The statuses of the answers. -/
def statuses (F : Final Db Exchange JsError Unit) : List Nat := F.loc.sent.map Response.status

/-- After a request about another product, a request comes to what it would have come to before. -/
theorem served_after {c d : Call} (hids : AllFresh db) (hc : Concerns db.store p c.request)
    (hd : Concerns db.store q d.request) (hpq : p ≠ q) :
    Served (serveStep c db) (outcome db.store d) (serve d (serveStep c db)) := by
  have hserved := served_outcome hids hc
  have hlocal := (localOutcome_of_concerns hids hc).confined db.nextId
  have hfresh : AllFresh (serveStep c db) := hids.effect (serve_effect c db)
  have hagrees : Agrees q db.store (serveStep c db).store := by
    show Agrees q db.store (serve c db).shared.store
    rw [hserved.store]
    exact hlocal.agrees hids le_rfl hpq
  have hafter := served_outcome hfresh (hagrees.concerns hd)
  rwa [hagrees.outcome_eq hd] at hafter

/-- The writes of both requests, with the ids that each draws. -/
theorem store_after {c d : Call} (hids : AllFresh db) (hc : Concerns db.store p c.request)
    (hd : Concerns db.store q d.request) (hpq : p ≠ q) :
    (serveStep d (serveStep c db)).store =
      (db.store.apply ((outcome db.store c).writes db.nextId)).apply
        ((outcome db.store d).writes (db.nextId + (outcome db.store c).fresh)) := by
  have hserved := served_outcome hids hc
  have hstore : (serveStep c db).store = _ := hserved.store
  have hnext : (serveStep c db).nextId = _ := hserved.next
  have hafter := (served_after hids hc hd hpq).store
  rw [hstore, hnext] at hafter
  exact hafter

/-- Requests about different products commute: each is answered with the same status in both orders,
and every product ends with the same documents and price, up to the names of new documents. -/
theorem requests_commute {c d : Call} (hids : AllFresh db) (hc : Concerns db.store p c.request)
    (hd : Concerns db.store q d.request) (hpq : p ≠ q) :
    statuses (serve c (serveStep d db)) = statuses (serve c db) ∧
    statuses (serve d (serveStep c db)) = statuses (serve d db) ∧
    ∃ σ : ObjectId ↪ ObjectId, (∀ k < db.nextId, σ k = k) ∧
      ∀ r, SameUpTo σ r (serveStep d (serveStep c db)).store
        (serveStep c (serveStep d db)).store := by
  have hc' := localOutcome_of_concerns hids hc
  have hd' := localOutcome_of_concerns hids hd
  refine ⟨?_, ?_, swapBlocks db.nextId (outcome db.store c).fresh (outcome db.store d).fresh,
    fun _ => swapBlocks_lt, fun r => ?_⟩
  · exact (served_after hids hd hc hpq.symm).statuses.trans (served_outcome hids hc).statuses.symm
  · exact (served_after hids hc hd hpq).statuses.trans (served_outcome hids hd).statuses.symm
  · rw [store_after hids hc hd hpq, store_after hids hd hc hpq.symm]
    refine sameUpTo_swap hids (fun _ => swapBlocks_lt) (Nat.le_add_right _ _) le_rfl ?_ hpq
      (hc'.renamed _ _ _ (fun _ => swapBlocks_lt) fun _ => swapBlocks_first)
      (hd'.renamed _ _ _ (fun _ => swapBlocks_lt) fun _ => swapBlocks_second)
      (hc'.confined _) (hd'.confined _) r
    exact fun k hk hk' => absurd hk.2 (Nat.not_lt.2 hk'.1)

/-- Two products with a batch each: product `1` with batch `2`, and product `4` with batch `5`. -/
def shelf : Db :=
  serveAll [Sample.call (.addProduct (Sample.productBody 10 100)),
    Sample.call (.addProduct { Sample.productBody 5 50 with name := "beans", sku := "b1" })]
    Sample.db

/-- The only batch of one product is sold out while the other product is bought. -/
theorem requests_commute_shelf :
    let c := Sample.call (.recordSales 1 (Sample.salesBody 10))
    let d := Sample.call (.addInventory 4 (Sample.inventoryBody 5 50))
    (statuses (serve c shelf) = [201] ∧ statuses (serve d shelf) = [200]) ∧
    statuses (serve c (serveStep d shelf)) = statuses (serve c shelf) ∧
    statuses (serve d (serveStep c shelf)) = statuses (serve d shelf) ∧
    ∃ σ : ObjectId ↪ ObjectId, (∀ k < shelf.nextId, σ k = k) ∧
      ∀ r, SameUpTo σ r (serveStep d (serveStep c shelf)).store
        (serveStep c (serveStep d shelf)).store := by
  have hids : AllFresh shelf := (allFresh_of_isEmpty Sample.isEmpty).serveAll _
  have hc : Concerns shelf.store 1 (.recordSales 1 (Sample.salesBody 10)) := rfl
  have hd : Concerns shelf.store 4 (.addInventory 4 (Sample.inventoryBody 5 50)) := rfl
  exact ⟨by decide +kernel, requests_commute hids hc hd (by decide)⟩

end InventoryHero.Commuting
