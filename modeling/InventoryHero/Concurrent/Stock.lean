import InventoryHero.Concurrent.Interleaving
import InventoryHero.Concurrent.Plans
import InventoryHero.Books.Books
import Mathlib.Data.Fin.VecNotation
import Mathlib.Data.Fintype.Basic

/-!
# Stock under concurrency

Sales and reversals write absolute quantities computed from batches that they read without the
session. As long as every commit finds the batches it overwrites as they were read, the stock of a
product is what the committed requests make it (`stock_balanced`). Nothing enforces this: two sales
that read the same batch overwrite each other (`sales_overwrite_each_other`).
-/

set_option autoImplicit false

namespace InventoryHero.Concurrent

open Interaction Storage Model Stock Books

/-! ## Requests that move the stock of one product -/

/-- The pieces of a sale of the product as the store has it. -/
def pieces? (s : Store) (id : ObjectId) (body : SalesBody) : Option ℚ :=
  match validateSales body, s.findProduct id with
  | .ok data, some product => some (data.pieces product)
  | _, _ => none

/-- Requests that buy, sell or take back pieces of product `P`. -/
def TradesIn (s₀ : Store) (P : ObjectId) : Request → Prop
  | .addInventory id _ => id = P
  | .recordSales id body => id = P ∧ ∀ q ∈ pieces? s₀ id body, 0 < q
  | .deleteSalesRecord _ prd => prd = P
  | _ => False

instance (s₀ : Store) (P : ObjectId) : DecidablePred (TradesIn s₀ P)
  | .addInventory _ _ => inferInstanceAs (Decidable (_ = _))
  | .recordSales _ _ => inferInstanceAs (Decidable (_ ∧ _))
  | .deleteSalesRecord _ _ => inferInstanceAs (Decidable (_ = _))
  | .addProduct _ | .deleteAllSales | .userDeleteProduct _ | .deleteInventory _
  | .editInventory _ _ => .isFalse not_false

/-- The sale that a request reverses. -/
def reverses? : Request → Option ObjectId
  | .deleteSalesRecord id _ => some id
  | _ => none

/-- Requests for product `P`, with no sale reversed by two of them. -/
structure Trade {ι : Type} (s₀ : Store) (P : ObjectId) (calls : ι → Call) : Prop where
  trades : ∀ i, TradesIn s₀ P (calls i).request
  distinct : ∀ i j, i ≠ j → ∀ id ∈ reverses? (calls i).request, id ∉ reverses? (calls j).request

/-- The sale that a request takes back: the one in the store or, if it was recorded since, the one
it read. -/
def saleOf (s₀ : Store) (id : ObjectId) (reads : Reads) : Option Sale :=
  s₀.sales.get? id <|> (reads.lookup (.sale id)).bind fun s => s.sales.get? id

/-- What a request adds to the stock: its quantity, once it has committed. -/
def moved (s₀ : Store) (request : Request) : Progress Store Query Writes → ℚ
  | ⟨_, none⟩ => 0
  | ⟨reads, some _⟩ =>
      match request with
      | .addInventory _ body => body.quantity.getD 0
      | .recordSales id body => -(pieces? s₀ id body).getD 0
      | .deleteSalesRecord id _ => (saleOf s₀ id reads).elim 0 fun sale => sale.quantity
      | _ => 0

theorem handler_follows {s₀ : Store} {P : ObjectId} {request : Request}
    (h : TradesIn s₀ P request) (caller : Caller) (env : Env) :
    Follows (Planned request) (handler request caller) (.init env) := by
  cases request with
  | addInventory id body => exact addInventory_follows id body caller rfl
  | recordSales id body => exact recordSales_follows id body caller rfl rfl
  | deleteSalesRecord id prd => exact deleteSalesRecord_follows id prd caller rfl rfl
  | _ => exact h.elim

/-! ## What the others leave alone -/

/-- The price of a product is all that purchases change in it. -/
theorem upb_modify_price (c : Collection Product) (id P : ObjectId) (price : Option Price) :
    (((c.modify id (setCurrentPrice price)).get? P).filter fun p => !p.isDeleted).map Product.upb =
      ((c.get? P).filter fun p => !p.isDeleted).map Product.upb := by
  rw [Collection.get?_modify]
  by_cases h : P = id
  · cases hg : c.get? P with
    | none => simp [h]
    | some product => cases hd : product.isDeleted <;> simp [h, setCurrentPrice, Option.filter, hd]
  · simp [h]

/-- The units per bulk of the product stay the same. -/
theorem Planned.upb {request : Request} {reads : Reads} {w : Writes} (h : Planned request reads w)
    (s : Store) (P : ObjectId) :
    ((s.apply w).findProduct P).map Product.upb = (s.findProduct P).map Product.upb := by
  cases h with
  | purchase price batch cost quantity product =>
      rw [Store.apply_restocked]
      exact upb_modify_price s.products _ P price
  | _ => rfl

/-- A sale is only touched by its own reversal. -/
theorem Planned.sale_kept {request : Request} {reads : Reads} {w : Writes} {s : Store}
    (h : Planned request reads w) (hacc : s.accepts w = true) {id : ObjectId}
    (hid : id ∉ reverses? request) {sale : Sale} (hsale : s.sales.get? id = some sale) :
    (s.apply w).sales.get? id = some sale := by
  cases h with
  | purchase price batch cost quantity product => exact hsale
  | sale seen seen' product data new lasts product_read stock_read found valid enough =>
      have hnew := Store.accepts_sales hacc
      rw [Collection.acceptsAll_singleton, Collection.accepts_insert_iff] at hnew
      obtain ⟨hmem, hkey⟩ := Collection.get?_eq_some_iff.1 hsale
      have hne : (DocWrite.insert new : DocWrite Sale).key ≠ id :=
        fun e => hnew sale hmem (hkey.trans e.symm)
      exact (Collection.get?_write_of_ne hne).trans hsale
  | @restock sid =>
      have hne : (DocWrite.delete sid : DocWrite Sale).key ≠ id := fun e => hid (congrArg some e)
      exact (Collection.get?_write_of_ne hne).trans hsale
  | @rebuild sid =>
      have hne : (DocWrite.delete sid : DocWrite Sale).key ≠ id := fun e => hid (congrArg some e)
      exact (Collection.get?_write_of_ne hne).trans hsale

/-- What a request relies on in the stores it reads: the units per bulk of `P` and the sale that it
reverses are those of `s₀`. -/
structure Relies (s₀ : Store) (P : ObjectId) (request : Request) (s : Store) : Prop where
  upb : (s.findProduct P).map Product.upb = (s₀.findProduct P).map Product.upb
  sale : ∀ id ∈ reverses? request, ∀ sale, s₀.sales.get? id = some sale →
    s.sales.get? id = some sale

theorem Relies.commit {s₀ s : Store} {P : ObjectId} {request other : Request} {reads : Reads}
    {w : Writes} (h : Relies s₀ P request s) (hplan : Planned other reads w)
    (hacc : s.accepts w = true) (hdistinct : ∀ id ∈ reverses? request, id ∉ reverses? other) :
    Relies s₀ P request (s.apply w) where
  upb := (hplan.upb s P).trans h.upb
  sale id hid sale hsale := hplan.sale_kept hacc (hdistinct id hid) (h.sale id hid sale hsale)

/-- The pieces of a sale can be computed from any of these stores. -/
theorem Relies.pieces {s₀ s : Store} {id : ObjectId} {request : Request} {body : SalesBody}
    {data : SalesInput} {product : Product} (h : Relies s₀ id request s)
    (found : s.findProduct id = some product) (valid : validateSales body = .ok data) :
    pieces? s₀ id body = some (data.pieces product) := by
  have hupb := h.upb
  rw [found] at hupb
  cases h₀ : s₀.findProduct id with
  | none =>
      rw [h₀] at hupb
      cases hupb
  | some product₀ =>
      have heq : product.upb = product₀.upb := by simpa [h₀] using hupb
      simp [pieces?, valid, h₀, SalesInput.pieces, heq]

/-- The sale that was read is the one that is taken back. -/
theorem Relies.saleOf {s₀ s : Store} {P id prd : ObjectId} {reads : Reads} {sale : Sale}
    (h : Relies s₀ P (.deleteSalesRecord id prd) s) (read : reads.lookup (.sale id) = some s)
    (found : s.sales.get? id = some sale) : saleOf s₀ id reads = some sale := by
  cases h₀ : s₀.sales.get? id with
  | none => simp [Concurrent.saleOf, h₀, read, found]
  | some sale₀ =>
      have hsame := (h.sale id rfl sale₀ h₀).symm.trans found
      simp [Concurrent.saleOf, h₀, Option.some.inj hsame]

/-! ## Commits that find the stock as it was read -/

/-- The read from which a request computes what it writes to the batches. -/
def stockQuery : Request → Option Query
  | .recordSales id _ => some (.stock id)
  | .deleteSalesRecord _ prd => some (.inventories prd)
  | _ => none

/-- Every batch that the commit changes or deletes still is what the request read. -/
def Current {ι : Type} (calls : ι → Call) (i : ι) (w : Writes) (m : Board ι) : Prop :=
  ∀ q ∈ stockQuery (calls i).request, ∀ seen ∈ (m.progress i).reads.lookup q,
    ∀ k ∈ w.inventories.filterMap DocWrite.overwritten?,
      m.state.inventories.get? k = seen.inventories.get? k

instance {ι : Type} (calls : ι → Call) (i : ι) (w : Writes) (m : Board ι) :
    Decidable (Current calls i w m) :=
  inferInstanceAs (Decidable (∀ q ∈ stockQuery (calls i).request, ∀ seen ∈ _, ∀ k ∈ _, _ = _))

theorem overwritten_drawWrites (t : ℚ) (l : List Inventory) :
    (drawWrites t l).filterMap DocWrite.overwritten? = (drawWrites t l).map DocWrite.key := by
  induction l generalizing t with
  | nil => rfl
  | cons e rest ih =>
      by_cases h₀ : 0 < e.quantity
      · by_cases hq : e.quantity ≤ t
        · rw [drawWrites_used_up rest h₀ hq, List.map_cons, ← ih]
          rfl
        · rw [drawWrites_remainder rest h₀ hq]
          rfl
      · rw [drawWrites_skip rest h₀, ih]

section Commit

variable {ι : Type} {s₀ : Store} {P : ObjectId} {calls : ι → Call} {m : Board ι} {i : ι}
  {w : Writes}

/-- **One commit.** If it finds the batches as they were read, the stock moves by the quantity of
the request. -/
theorem stock_commit (htrade : TradesIn s₀ P (calls i).request)
    (hplan : Planned (calls i).request (m.progress i).reads w)
    (hacc : m.state.accepts w = true) (hcur : Current calls i w m)
    (hrely : ∀ r ∈ (m.progress i).reads, Relies s₀ P (calls i).request r.2) :
    stockQuantity (m.state.apply w) P =
      stockQuantity m.state P + moved s₀ (calls i).request ⟨(m.progress i).reads, some w⟩ := by
  have hinv := Store.accepts_inventories hacc
  rw [stockQuantity_eq, stockQuantity_eq, Store.inventories_apply]
  unfold Current at hcur
  generalize (calls i).request = request at *
  generalize (m.progress i).reads = reads at *
  cases hplan with
  | purchase price batch cost quantity product =>
      obtain rfl := product.trans htrade
      rw [Collection.total_writeAll_insert _ hinv]
      simp [moved, quantityOf, quantity]
  | @sale id body _ seen seen' product data sale lasts product_read stock_read found valid enough =>
      obtain ⟨rfl, hpos⟩ := htrade
      have hpieces := (hrely _ (mem_of_lookup product_read)).pieces found valid
      -- the batches that the draw overwrites are still those it was computed from
      have hfresh := hcur _ rfl seen stock_read
      rw [overwritten_drawWrites] at hfresh
      rw [total_drawWrites (p := id) (nodup_batches seen id) (fun _ he => (mem_batches.1 he).2) ?_
        (hpos _ hpieces).le (quantitySum_eq (seen.batches id) ▸ enough)]
      · simp [moved, hpieces, sub_eq_add_neg]
      · intro e he hk
        rw [hfresh _ hk]
        exact Collection.get?_of_mem (mem_batches.1 he).1
  | @restock id prd _ seen seen' sale batch sale_read batches_read found first =>
      obtain rfl : prd = P := htrade
      have hsale := (hrely _ (mem_of_lookup sale_read)).saleOf sale_read found
      obtain ⟨hmem, -, hproduct⟩ := firstLive_spec first
      -- the batch that is credited still is what was read
      have hbatch : m.state.inventories.get? batch._id = some batch := by
        rw [hcur _ rfl seen batches_read _ (by simp [DocWrite.overwritten?])]
        exact Collection.get?_of_mem hmem
      rw [Collection.writeAll_cons, Collection.writeAll_nil, Collection.write_modify,
        Collection.total_modify _ hbatch]
      simp [moved, hsale, quantityOf, setQuantity, hproduct]
      ring
  | @rebuild id prd _ seen seen' sale last n sale_read batches_read found none_live product =>
      obtain rfl : prd = P := htrade
      have hsale := (hrely _ (mem_of_lookup sale_read)).saleOf sale_read found
      rw [Collection.total_writeAll_insert _ hinv]
      simp [moved, hsale, quantityOf, Snapshot.toInventory, product]

end Commit

/-! ## Whole runs -/

/-- **No lost update where commits find the stock as it was read.** Whatever the interleaving, the
stock of the product is the initial stock, with the committed purchases and reversals added and the
committed sales taken off. -/
theorem stock_balanced {ι : Type} [Fintype ι] [DecidableEq ι] {db₀ : Db} {P : ObjectId}
    {calls : ι → Call} {p : Requests ι} (htrade : Trade db₀.store P calls)
    (h : Reach (· = arrivals db₀ calls) (AtCommit (Current calls)) (Pool.step sem) p) :
    stockQuantity p.shared.store P = stockQuantity db₀.store P +
      ∑ i, moved db₀.store (calls i).request ((observe p).progress i) := by
  have hrun := interleaving_of_reach (P := fun i => Planned (calls i).request)
    (fun i => handler_follows (htrade.trades i) _ _) h
  refine hrun.balance (φ := fun s => stockQuantity s P)
    (f := fun i => moved db₀.store (calls i).request) (fun _ _ => rfl) ?_
  intro m j w hm hj hmay
  obtain ⟨hplan, hacc, hcur⟩ := hmay
  have hkept := hm.kept (K := fun i => Relies db₀.store P (calls i).request)
    (fun i => ⟨rfl, fun _ _ _ hsale => hsale⟩)
    (fun m i j w hij _ hmay h => h.commit hmay.1 hmay.2.1 (htrade.distinct i j hij)) j hj
  exact stock_commit (htrade.trades j) hplan hacc hcur hkept.2

/-! ## Two runs -/

def mixedCalls : Fin 3 → Call :=
  ![Sample.call (.recordSales 1 (Sample.salesBody 3)),
    Sample.call (.addInventory 1 (Sample.inventoryBody 5 50)),
    Sample.call (.deleteSalesRecord 4 1)]

/-- Sale `4` is reversed before the new sale reads the batches; the purchase falls between the reads
of the sale and its commit. -/
def mixedRun : Requests (Fin 3) :=
  [0, 0, 0, 2, 2, 2, 2, 2, 2, 2, 2, 0, 1, 1, 1, 1, 1, 1, 1, 1, 1, 1, 1, 1, 0, 0, 0, 0, 0].foldl
    (fun p i => p.step sem i) (arrivals Sample.shop mixedCalls)

theorem stock_balanced_mixed :
    stockQuantity mixedRun.shared.store 1 = stockQuantity Sample.shop.store 1 +
      ∑ i, moved Sample.shop.store (mixedCalls i).request ((observe mixedRun).progress i) ∧
    stockQuantity Sample.shop.store 1 = 6 ∧ stockQuantity mixedRun.shared.store 1 = 6 - 3 + 5 + 4 :=
  ⟨stock_balanced ⟨by decide +kernel, by decide +kernel⟩
    (Reach.foldl (.start rfl) (by decide +kernel)), by decide +kernel, by decide +kernel⟩

def rivalCalls : Bool → Call
  | false => Sample.call (.recordSales 1 (Sample.salesBody 3))
  | true => Sample.call (.recordSales 1 (Sample.salesBody 5))

/-- Both sales read the batches; then one is carried out, and then the other. -/
def rivalRun : Requests Bool :=
  (List.replicate 4 false ++ List.replicate 4 true ++ List.replicate 5 false ++
    List.replicate 5 true).foldl (fun p i => p.step sem i) (arrivals Sample.shop rivalCalls)

/-- Eight of six pieces are sold: the second sale sets the quantity of the batch to what is left of
the six pieces that it read, and one piece remains. -/
theorem sales_overwrite_each_other :
    Trade Sample.shop.store 1 rivalCalls ∧
    Reach (· = arrivals Sample.shop rivalCalls) (fun _ _ => True) (Pool.step sem) rivalRun ∧
    (∀ i, (rivalRun.procs i).loc.sent.map Response.status = [201]) ∧
    stockQuantity Sample.shop.store 1 = 6 ∧
    ∑ i, moved Sample.shop.store (rivalCalls i).request ((observe rivalRun).progress i) = - 3 - 5 ∧
    stockQuantity rivalRun.shared.store 1 = 1 :=
  ⟨⟨by decide +kernel, by decide +kernel⟩, Reach.foldl (.start rfl) (by decide +kernel),
    by decide +kernel, by decide +kernel, by decide +kernel, by decide +kernel⟩

end InventoryHero.Concurrent
