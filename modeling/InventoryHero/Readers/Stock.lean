import InventoryHero.Batches.Positive
import InventoryHero.Readers.Visibility
import InventoryHero.Sales.Drawing

/-!
# What is shown can be sold

`findProduct` and `recordSales` look the batches of a product up independently of each other: the
one joins them for the page of the product, the other to draw from. In every run with positive
quantities the two agree: a sale is confirmed exactly if its pieces are among those that the page
shows, and the page then shows that many fewer (`shown_stock_sells`).
-/

set_option autoImplicit false

namespace InventoryHero.Readers

open Interaction Storage Model Stock Serial Batches Sales Lots

/-- The page of the product shows these batches. -/
def Shows (driver : Driver) (s : Store) (id : ObjectId) (product : Product)
    (batches : List Inventory) : Prop :=
  (serveReader driver (.findProduct id) s).result = .ok ⟨200, .result [(product, batches)]⟩

/-- The products with the id of a product that is found. -/
theorem filter_products_of_findProduct {s : Store} {id : ObjectId} {product : Product}
    (h : s.findProduct id = some product) :
    s.products.docs.filter (fun p => p._id = id) = [product] := by
  obtain ⟨hmem, rfl⟩ := Store.mem_of_findProduct h
  have hall : ∀ p ∈ s.products.docs.filter (fun p => p._id = product._id), p = product := by
    intro p hp
    obtain ⟨hp, hid⟩ := List.mem_filter.1 hp
    exact Collection.eq_of_key_eq hp hmem (by simpa using hid)
  -- ids are unique, so there is one at most
  have hreplicate := List.eq_replicate_of_mem hall
  have hlength : (s.products.docs.filter (fun p => p._id = product._id)).length = 1 := by
    have hnodup := s.products.nodup_docs.filter fun p => decide (p._id = product._id)
    rw [hreplicate, List.nodup_replicate] at hnodup
    have hpos : 0 < (s.products.docs.filter (fun p => p._id = product._id)).length :=
      List.length_pos_of_mem (List.mem_filter.2 ⟨hmem, by simp⟩)
    omega
  rw [hreplicate, hlength]
  rfl

theorem result_findProduct (driver : Driver) (s : Store) (id : ObjectId) :
    (serveReader driver (.findProduct id) s).result =
      .ok (if s.findProduct id = none then ⟨404, .text "product not found"⟩
        else ⟨200, .result (ReadQuery.eval (.result id) s)⟩) := by
  refine Prog.Wp.tryCatch (Q := fun F : Final Store Unit ReaderError ReaderResponse =>
    F.result = _) (wp_query ?_)
  cases hfound : ReadQuery.eval (.product id) s with
  | none =>
      change s.findProduct id = none at hfound
      rw [if_pos hfound]
      rfl
  | some found =>
      change s.findProduct id = some found at hfound
      rw [if_neg (by simp [hfound])]
      rfl

theorem shows_iff {driver : Driver} {s : Store} {id : ObjectId} {product : Product}
    {batches : List Inventory} :
    Shows driver s id product batches ↔
      s.findProduct id = some product ∧ batches = s.batches id := by
  rw [Shows, result_findProduct]
  cases hfound : s.findProduct id with
  | none => simp
  | some p =>
      have hp := (Store.mem_of_findProduct hfound).2
      have heval : ReadQuery.eval (.result id) s = [(p, s.batches id)] := by
        simp only [ReadQuery.eval, Store.lookupInventories, filter_products_of_findProduct hfound,
          lookup, List.map_cons, List.map_nil, hp]
        rfl
      simp [heval, eq_comm]

/-- A draw from batches with pieces passes over none. -/
theorem passed_eq_zero {l : List Inventory} (h : ∀ b ∈ l, 0 < b.quantity) (t : ℚ) :
    passed t l = 0 := by
  induction l generalizing t with
  | nil => rfl
  | cons b rest ih =>
      obtain ⟨hb, hrest⟩ := List.forall_mem_cons.1 h
      by_cases hle : b.quantity ≤ t
      · rw [passed_used_up rest hb hle]
        exact ih hrest _
      · exact passed_remainder rest hb hle

/-- A sale from batches with pieces is confirmed if nothing stands in its way. -/
theorem confirmed_iff_sells {db : Db} (hids : AllFresh db) (hpos : AllPositive db.store)
    {id : ObjectId} {body : SalesBody} {caller : Caller} {env : Env} :
    Confirmed ⟨.recordSales id body, caller, env⟩ db ↔
      ∃ user product data, Sells db id body caller env user product data := by
  have hpassed (t : ℚ) : passed t (db.store.batches id) = 0 :=
    passed_eq_zero (fun b hb => hpos b (mem_batches.1 hb).1) t
  rw [Confirmed, (recordSales_outcome hids id body caller env).statuses]
  constructor
  · intro hconfirmed
    rcases recordSalesOutcome_cases db id body caller env with ⟨k, statuses, hidle, hnone⟩ | hsells
    · rw [hidle] at hconfirmed
      change statuses = [201] at hconfirmed
      simp [hconfirmed] at hnone
    · exact hsells
  · rintro ⟨user, product, data, hsells⟩
    rw [hsells.outcome, if_pos (hpassed _)]

/-- A sale changes no product. -/
theorem findProduct_of_sells {db : Db} (hids : AllFresh db) {id : ObjectId} {body : SalesBody}
    {caller : Caller} {env : Env} {user : User} {product : Product} {data : SalesInput}
    (h : Sells db id body caller env user product data) :
    (serveStep ⟨.recordSales id body, caller, env⟩ db).store.findProduct id = some product := by
  rw [h.store hids]
  exact h.found

/-- **What is shown can be sold.** In every run of requests with positive quantities and without
edits that leave a batch with nothing, a valid sale of a positive quantity by a caller whose account
has a first name is confirmed, if the commit does not fail, exactly when the page of the product
shows as many pieces; and then the page shows that many fewer. -/
theorem shown_stock_sells {db : Db} (h : Reach Db.IsEmpty KeepsPieces serveStep db)
    (driver : Driver) {id : ObjectId} {body : SalesBody} {data : SalesInput} {caller : Caller}
    {env : Env} {user : User} (known : db.store.users.get? caller._id = some user)
    (named : user.firstName ≠ "") (valid : validateSales body = .ok data)
    (positive : Positive body.quantity) (hok : env.commitFails = false) :
    (Confirmed ⟨.recordSales id body, caller, env⟩ db ↔ ∃ product batches,
      Shows driver db.store id product batches ∧
        data.pieces product ≤ (batches.map Inventory.quantity).sum) ∧
    (Confirmed ⟨.recordSales id body, caller, env⟩ db →
      ∀ product batches, Shows driver db.store id product batches → ∃ batches',
        Shows driver (serveStep ⟨.recordSales id body, caller, env⟩ db).store id product batches' ∧
        (batches'.map Inventory.quantity).sum =
          (batches.map Inventory.quantity).sum - data.pieces product) := by
  have hids : AllFresh db := h.invariant (I := AllFresh) (fun _ => allFresh_of_isEmpty)
    fun c db hids _ => hids.effect (serve_effect c db)
  obtain ⟨htrading, hpos⟩ := trading_and_positive h
  rw [confirmed_iff_sells hids hpos]
  refine ⟨⟨?_, ?_⟩, ?_⟩
  · rintro ⟨user, product, data', hsells⟩
    obtain rfl : data = data' := Except.ok.inj (valid.symm.trans hsells.valid)
    exact ⟨product, _, shows_iff.2 ⟨hsells.found, rfl⟩, hsells.enough⟩
  · rintro ⟨product, batches, hshows, henough⟩
    obtain ⟨found, rfl⟩ := shows_iff.1 hshows
    have hpieces := htrading.pieces_pos found valid positive
    have hvalid : user.createdBy.valid = true := Person.valid_iff.2 named
    refine ⟨user, product, data, known, found, valid, ?_, henough, ?_, hvalid, hok⟩
    · intro hnone
      rw [hnone] at henough
      exact absurd (hpieces.trans_le henough) (by simp)
    · rw [passed_eq_zero fun b hb => hpos b (mem_batches.1 hb).1]
      exact Nat.zero_le 1
  · rintro ⟨user, product, data', hsells⟩ product' batches hshows
    obtain ⟨found, rfl⟩ := shows_iff.1 hshows
    obtain rfl : data = data' := Except.ok.inj (valid.symm.trans hsells.valid)
    obtain rfl : product = product' := Option.some.inj (hsells.found.symm.trans found)
    have hpieces := htrading.pieces_pos found valid positive
    exact ⟨_, shows_iff.2 ⟨findProduct_of_sells hids hsells, rfl⟩,
      (tookPieces hids hsells hpieces.le).left⟩

/-- Of the six pieces that the page of the shop's product shows, five are sold. -/
theorem shown_stock_sells_shop :
    (Sample.shop.store.batches 1).map Inventory.quantity = [6] ∧
      Confirmed (Sample.call (.recordSales 1 (Sample.salesBody 5))) Sample.shop ∧
      ∃ product batches, Shows anyDriver Sample.shop.store 1 product batches ∧
        (⟨5, "pieces", 1, 1, 0⟩ : SalesInput).pieces product ≤
          (batches.map Inventory.quantity).sum := by
  have hconfirmed : Confirmed (Sample.call (.recordSales 1 (Sample.salesBody 5))) Sample.shop := by
    unfold Confirmed
    decide +kernel
  have hknown : Sample.shop.store.users.get? Sample.admin._id =
      some ⟨0, "shop", "keeper", .admin⟩ := by
    decide +kernel
  exact ⟨by decide +kernel, hconfirmed,
    (shown_stock_sells (Reach.foldl (.start Sample.isEmpty) (by decide +kernel)) anyDriver hknown
      (by decide) rfl (by decide +kernel) rfl).1.1 hconfirmed⟩

end InventoryHero.Readers
