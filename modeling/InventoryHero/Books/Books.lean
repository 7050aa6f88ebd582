import InventoryHero.Ledger.Account
import InventoryHero.Serial.Effect

/-!
# The books of the store

For each product the store keeps an account: the cost records say what was bought, the batches what
is held, the sales what was sold (`books`). Each effect of a request is a list of entries in these
books; the lemmas here say which.
-/

set_option autoImplicit false

namespace InventoryHero.Books

open Storage Model Stock Serial Ledger

/-- The sum of `Costs.quantity` over the cost records of product `p`. -/
def costQuantity (s : Store) (p : ObjectId) : ℚ :=
  ((s.costs.docs.filter fun d => d.product = p).map Cost.quantity).sum

/-- The sum of `quantity` over the batches of product `p`. -/
def stockQuantity (s : Store) (p : ObjectId) : ℚ :=
  ((s.inventories.docs.filter fun d => d.product = p).map Inventory.quantity).sum

/-- The sum of `quantity` over the sales of product `p`. -/
def salesQuantity (s : Store) (p : ObjectId) : ℚ :=
  ((s.sales.docs.filter fun d => d.product = p).map fun d => d.quantity).sum

/-- What is bought, held and sold of each product. -/
def books (s : Store) (p : ObjectId) : Account ℚ :=
  ⟨costQuantity s p, stockQuantity s p, salesQuantity s p⟩

theorem costQuantity_eq (s : Store) (p : ObjectId) :
    costQuantity s p = s.costs.total fun d => if d.product = p then d.quantity else 0 :=
  s.costs.sum_filter_eq_total (fun d => d.product = p) Cost.quantity

theorem stockQuantity_eq (s : Store) (p : ObjectId) :
    stockQuantity s p = s.inventories.total (quantityOf p) :=
  s.inventories.sum_filter_eq_total (fun d => d.product = p) Inventory.quantity

theorem salesQuantity_eq (s : Store) (p : ObjectId) :
    salesQuantity s p = s.sales.total fun d => if d.product = p then d.quantity else 0 :=
  s.sales.sum_filter_eq_total (fun d => d.product = p) fun d => d.quantity

/-- Books are determined by the three sums of every product. -/
theorem books_eq_postAt {s s' : Store} {k : ObjectId} {e : Entry ℚ}
    (h : ∀ p, books s' p = if p = k then (books s p).post e else books s p) :
    books s' = post (books s) [(k, e)] := by
  funext p
  rw [post_singleton, postAt, Function.update_apply, h p]
  by_cases hp : p = k
  · rw [if_pos hp, if_pos hp, hp]
  · rw [if_neg hp, if_neg hp]

/-! ## Purchases -/

/-- A batch stored with its cost record is a purchase. -/
theorem books_purchase {s : Store} {pw : List (DocWrite Product)} {batch : Inventory} {cost : Cost}
    (hacc : s.accepts { products := pw, inventories := [.insert batch], costs := [.insert cost] }
      = true)
    (hp : cost.product = batch.product) (hq : cost.quantity = batch.quantity) :
    books (s.apply { products := pw, inventories := [.insert batch], costs := [.insert cost] }) =
      post (books s) [(batch.product, .purchase batch.quantity)] := by
  have hbatch := Store.accepts_inventories hacc
  have hcost := Store.accepts_costs hacc
  refine books_eq_postAt fun p => ?_
  simp only [books, costQuantity_eq, stockQuantity_eq, salesQuantity_eq, Store.costs_apply,
    Store.inventories_apply, Store.sales_apply, Collection.total_writeAll_insert _ hbatch,
    Collection.total_writeAll_insert _ hcost, Collection.writeAll_nil, Account.post, quantityOf, hp,
    hq]
  by_cases h : batch.product = p
  · simp [h]
  · have h' : ¬ p = batch.product := fun e => h e.symm
    simp [h, h']

/-! ## Sales -/

/-- A draw takes its pieces from the stock of the product. -/
theorem total_draw {s : Store} {id : ObjectId} {t : ℚ} (ht : 0 ≤ t)
    (henough : t ≤ quantitySum (s.batches id)) (p : ObjectId) :
    (s.inventories.writeAll (drawWrites t (s.batches id))).total (quantityOf p) =
      s.inventories.total (quantityOf p) - if id = p then t else 0 :=
  total_drawWrites (nodup_batches s id) (fun _ he => (mem_batches.1 he).2)
    (fun _ he _ => Collection.get?_of_mem (mem_batches.1 he).1) ht
    (quantitySum_eq (s.batches id) ▸ henough) p

/-- A draw from the product's batches together with the sale record is a sale. -/
theorem books_sell {s : Store} {id : ObjectId} {t : ℚ} {sale : Sale} {lw : List (DocWrite Last)}
    (hacc : s.sales.accepts (.insert sale) = true) (hp : sale.product = id)
    (hq : sale.quantity = t) (ht : 0 ≤ t) (henough : t ≤ quantitySum (s.batches id)) :
    books (s.apply { inventories := drawWrites t (s.batches id), sales := [.insert sale],
                     lasts := lw }) = post (books s) [(id, .sell t)] := by
  refine books_eq_postAt fun p => ?_
  simp only [books, costQuantity_eq, stockQuantity_eq, salesQuantity_eq, Store.costs_apply,
    Store.inventories_apply, Store.sales_apply, Collection.writeAll_cons, Collection.writeAll_nil,
    Collection.write_insert, Collection.total_insert _ hacc, total_draw ht henough, hp, hq]
  by_cases h : id = p
  · simp [h, Account.post]
  · have h' : ¬ p = id := fun e => h e.symm
    simp [h, h']

/-- A reversal deletes the sale and adds its pieces to the stock of `prd`. -/
theorem stock_reversed {db db' : Db} {id prd : ObjectId} (h : Reversed db id prd db') :
    ∃ sale, db.store.sales.get? id = some sale ∧ db'.store.sales = db.store.sales.delete id ∧
      db'.store.costs = db.store.costs ∧ ∀ p, stockQuantity db'.store p =
        stockQuantity db.store p + if prd = p then sale.quantity else 0 := by
  cases h with
  | restock sale batch found first valid commit =>
      refine ⟨sale, found, by rw [commit.store]; rfl, by rw [commit.store]; rfl, fun p => ?_⟩
      have hcredit := total_credit (p := prd) (c := db.store.inventories) (by simp [first])
        sale.quantity p
      rw [credit_of_some first] at hcredit
      rw [commit.store, stockQuantity_eq, stockQuantity_eq]
      exact hcredit
  | rebuild sale last n found none_live snapshot valid batch_id commit =>
      refine ⟨sale, found, by rw [commit.store]; rfl, by rw [commit.store]; rfl, fun p => ?_⟩
      -- the rebuilt batch belongs to the product of the snapshot
      have hlast : last.product = prd := (Store.mem_lastsOf_head snapshot).2
      rw [commit.store, stockQuantity_eq, stockQuantity_eq, Store.inventories_apply,
        Collection.total_writeAll_insert _ (Store.accepts_inventories commit.accepted), ← hlast]
      rfl

/-- A reversal for the sale's own product takes the sale back. -/
theorem books_reversed {db db' : Db} {id prd : ObjectId} (h : Reversed db id prd db')
    (hown : ∀ sale, db.store.sales.get? id = some sale → sale.product = prd) :
    ∃ q, books db'.store = post (books db.store) [(prd, .undo q)] := by
  obtain ⟨sale, hfound, hsales, hcosts, hstock⟩ := stock_reversed h
  refine ⟨sale.quantity, books_eq_postAt fun p => ?_⟩
  simp only [books, costQuantity_eq, salesQuantity_eq, hcosts, hsales, hstock,
    Collection.total_delete _ hfound, hown sale hfound]
  by_cases h : prd = p
  · simp [h, Account.post]
  · have h' : ¬ p = prd := fun e => h e.symm
    simp [h, h']

/-! ## Everything at once -/

/-- Entries that take back the given sales. -/
def undoEntries (sales : List Sale) : List (ObjectId × Entry ℚ) :=
  sales.map fun sale => (sale.product, .undo sale.quantity)

/-- Taking back a list of sales moves their quantities from sold to held. -/
theorem post_undoEntries (b : ObjectId → Account ℚ) (sales : List Sale) (p : ObjectId) :
    post b (undoEntries sales) p =
      { bought := (b p).bought
        held := (b p).held + soldOf p sales
        sold := (b p).sold - soldOf p sales } := by
  induction sales generalizing b with
  | nil => simp [undoEntries, soldOf]
  | cons sale rest ih =>
      change post (postAt b sale.product (.undo sale.quantity)) (undoEntries rest) p = _
      rw [ih, soldOf_cons]
      by_cases h : sale.product = p
      · subst h
        simp only [postAt, Function.update_self, Account.post, if_true, Account.mk.injEq, true_and]
        constructor <;> ring
      · have h' : p ≠ sale.product := fun e => h e.symm
        simp [postAt, Function.update_of_ne h', h]

theorem total_creditAll {sales : List Sale} {c : Collection Inventory}
    (h : ∀ sale ∈ sales, firstLive sale.product c ≠ none) (p : ObjectId) :
    (creditAll sales c).total (quantityOf p) = c.total (quantityOf p) + soldOf p sales := by
  induction sales generalizing c with
  | nil => simp [soldOf]
  | cons sale rest ih =>
      -- a credit leaves the products of the other sales with their live batches
      have hrest : ∀ s ∈ rest,
          firstLive s.product (credit sale.product sale.quantity c) ≠ none := fun s hs hnone =>
        h s (List.mem_cons_of_mem _ hs) (firstLive_credit_eq_none.1 hnone)
      rw [creditAll_cons, ih hrest, total_credit (h sale List.mem_cons_self), soldOf_cons,
        add_assoc]

/-- The reversal of all sales takes each of them back. -/
theorem books_reversedAll {s : Store} (h : AllLive s) :
    books (reversedAll s) = post (books s) (undoEntries s.sales.docs) := by
  funext p
  rw [post_undoEntries]
  simp only [books, stockQuantity_eq, reversedAll, total_creditAll h.firstLive_ne_none,
    Account.mk.injEq]
  exact ⟨rfl, trivial, (sub_self _).symm⟩

/-- The removal of a product closes its account. -/
theorem books_dropProduct (s : Store) (id : ObjectId) :
    books (dropProduct s id) = post (books s) [(id, .close)] := by
  refine books_eq_postAt fun p => ?_
  by_cases h : p = id
  · subst h
    simp [books, costQuantity, stockQuantity, salesQuantity, dropProduct, List.filter_filter,
      Account.post]
  -- a filter for another product does not notice the removal
  · have hfilter : ∀ q : ObjectId, (decide (q = p) && !decide (q = id)) = decide (q = p) := by
      intro q
      by_cases hq : q = p
      · simp [hq, h]
      · simp [hq]
    simp [books, costQuantity, stockQuantity, salesQuantity, dropProduct, List.filter_filter, h,
      hfilter]

end InventoryHero.Books
