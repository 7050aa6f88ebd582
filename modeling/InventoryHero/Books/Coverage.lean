import InventoryHero.Books.Conservation
import InventoryHero.Batches.CostRecords

/-!
# Sales are covered by purchases

`deleteInventory` deletes a batch together with its cost record, also when pieces of the batch were
sold, so the cost records alone do not cover the sales. Together with the records that were deleted
this way they do (`sales_covered`): in the ledger a deletion scraps what is left of the batch, and
an edit of a whole batch corrects a purchase. `Tally` keeps the deleted purchases next to the
database.
-/

set_option autoImplicit false

namespace InventoryHero.Books

open Interaction Storage Model Stock Serial Ledger Batches

/-- The edit gives neither a product nor an initial quantity, and a quantity only for a whole batch,
and then leaves a name with which the batch can be saved. -/
def KeepsBill (b : Inventory) (data : EditBody) : Prop :=
  data.product = none ∧ data.initialQuantity = none ∧ WholeBatch b data ∧
    (data.quantity ≠ none → (data.createdBy.getD b.createdBy).valid = true)

instance (b : Inventory) (data : EditBody) : Decidable (KeepsBill b data) :=
  inferInstanceAs (Decidable (_ ∧ _ ∧ _ ∧ _))

/-- Requests with positive quantities. Sales are reversed for their own product, no product is
removed, and the edits that are carried out keep the cost record the bill of its batch. -/
def CoveredRequest (c : Call) (db : Db) : Prop :=
  SuppliesPositive c.request ∧ ReversesOwn c db ∧ OnAcceptedEdit KeepsBill c db ∧
    c.request.OnProductRemoval fun _ => False

instance (c : Call) (db : Db) : Decidable (CoveredRequest c db) :=
  inferInstanceAs (Decidable (_ ∧ _ ∧ _ ∧ _))

theorem CoveredRequest.keepsPieces {c : Call} {db : Db} (h : CoveredRequest c db) :
    KeepsPieces c db := by
  obtain ⟨hpos, -, hedit, -⟩ := h
  refine ⟨hpos, hedit.mono ?_⟩
  intro id data hdata admin b found accepted hsold hn
  obtain ⟨-, -, hwhole, -⟩ := hdata admin b found accepted
  rw [hwhole hsold.ne'] at hn
  cases hn

/-! ## Cost records -/

/-- The record is about the product and the initial quantity of the batch. -/
def BillOf (cost : Cost) (b : Inventory) : Prop :=
  cost.product = b.product ∧ cost.quantity = b.initialQuantity

/-- Without a quantity in the body, none is stored. -/
theorem edited_of_none {b : Inventory} {data : EditBody} {quantity : Option JsNumber}
    {initialQuantity q : Option ℚ}
    (edited : editQuantities b data = some (quantity, initialQuantity))
    (cast : castQuantity quantity = .ok q) (hn : data.quantity = none) :
    quantity = none ∧ q = none ∧ initialQuantity = data.initialQuantity := by
  rcases edited_cases edited cast with
    ⟨-, rfl, rfl, rfl⟩ | ⟨n, -, hn', -⟩ | ⟨-, rfl, rfl, rfl⟩
  · rw [hn]
    exact ⟨rfl, rfl, rfl⟩
  · exact nomatch hn.symm.trans hn'
  · rw [hn]
    exact ⟨rfl, rfl, rfl⟩

/-- An edit that gives a quantity is saved, and goes on to the cost record. -/
theorem KeepsBill.valid_edited {b : Inventory} {data : EditBody} (h : KeepsBill b data)
    (hb : Numeric b.snapshot) (hn : data.quantity ≠ none) {quantity : Option JsNumber}
    {cpq : Option JsNumber} (castCpq : castCpq (editCpq b data quantity) = .ok cpq)
    (initialQuantity q : Option ℚ) :
    (((editUpdate b data quantity initialQuantity).patch q cpq).apply b).valid = true :=
  valid_updated (u := editUpdate b data quantity initialQuantity) hb castCpq (h.2.2.2 hn)

theorem CoveredRequest.editsBoth {c : Call} {db : Db} (h : CoveredRequest c db)
    (hpos : AllPositive db.store) (hdata : AllData Numeric db.store) :
    EditsBoth BillOf c db := by
  obtain ⟨-, -, hedit, -⟩ := h
  refine hedit.mono ?_
  intro id data hkeeps admin b found quantity initialQuantity q cpq edited cast castCpq
  have hkeep := hkeeps admin b found (accepted_of_edited edited cast)
  have ⟨hproduct, hinit, hwhole, _⟩ := hkeep
  have hmem := (Store.mem_of_findInventory found).1
  refine ⟨edited_rebuilt edited cast hinit (hpos b hmem), fun cost hbill => ?_⟩
  have hsame : data.product.getD b.product = b.product := by rw [hproduct, Option.getD_none]
  unfold editedRecord
  split
  · exact ⟨hbill.1.trans hsame.symm, edited_record_quantity edited cast hinit hwhole hbill.2⟩
  · -- the batch was not saved, so the body gives no quantity
    rename_i hrefused
    have hn : data.quantity = none := by
      by_contra hn
      exact hrefused (hkeep.valid_edited (hdata.batch b hmem) hn castCpq initialQuantity q)
    obtain ⟨-, -, rfl⟩ := edited_of_none edited cast hn
    refine ⟨hbill.1.trans hsame.symm, ?_⟩
    change cost.quantity = data.initialQuantity.getD b.initialQuantity
    rw [hinit]
    exact hbill.2

/-- What holds of the batches and their records in every run of such requests. -/
theorem billed_of_reach {db : Db} (h : Reach Db.IsEmpty CoveredRequest serveStep db) :
    (FreshIds db ∧ AllData Numeric db.store) ∧ Recorded BillOf db.store := by
  refine h.invariant_with
    (I := fun db => (FreshIds db ∧ AllData Numeric db.store) ∧ Recorded BillOf db.store)
    (J := fun db => AllPositive db.store) ?_ ?_ ?_
  · exact fun db h => (trading_and_positive (h.mono fun _ _ => CoveredRequest.keepsPieces)).2
  · intro db hempty
    exact ⟨⟨freshIds_of_isEmpty hempty, allData_of_isEmpty hempty⟩,
      by simp [Recorded, hempty.2.1]⟩
  · rintro c db hpos ⟨⟨hids, hdata⟩, hrec⟩ hc
    have e := serve_effect c db
    refine ⟨⟨hids.effect e, hdata.effect numeric_of_valid (editsData_numeric c) e⟩,
      hrec.effect hids e hc.2.2.2 ?_ ?_ (hc.editsBoth hpos hdata)⟩
    · exact fun hp => ⟨hp.cost_product, hp.cost_quantity⟩
    · exact fun q hbill => hbill

/-- A sum over the cost records after an edit. -/
theorem total_editedCosts {s : Store} {id : ObjectId} {cost : Cost} (h : RecordOf s.costs id cost)
    (data : EditBody) (quantity : Option JsNumber) (f : Cost → ℚ) :
    (editedCosts s id data quantity).total f =
      s.costs.total f - f cost + f ((editCostData data quantity).patch.apply cost) := by
  simp only [editedCosts, h.costOf]
  cases he : editsCost data quantity with
  | true => exact Collection.total_modify f (Collection.get?_of_mem h.mem) _
  | false =>
      rw [editCostData_of_not_edits he]
      simp

/-- An edit without a quantity does not change the books. -/
theorem books_edited_none {s : Store} {id : ObjectId} {batch : Inventory} {data : EditBody}
    {patch : Patch Inventory}
    (hpatch : ∀ a, (patch.apply a).product = a.product ∧ (patch.apply a).quantity = a.quantity) :
    books (editedStore s id batch data none patch) = books s := by
  -- the cost record may get a new date or cost, but keeps product and quantity
  have hcosts : ∀ f : Cost → ℚ, (∀ cost, f ((editCostData data none).patch.apply cost) = f cost) →
      (editedStore s id batch data none patch).costs.total f = s.costs.total f := by
    intro f hf
    simp only [editedStore, editedCosts]
    split
    · cases s.costOf id with
      | none => rfl
      | some cost =>
          dsimp only
          split
          · exact Collection.total_modify_of_eq f _ hf
          · rfl
    · rfl
  funext p
  have hstock : (s.inventories.modify id patch).total (quantityOf p) =
      s.inventories.total (quantityOf p) := by
    refine Collection.total_modify_of_eq _ id fun a => ?_
    simp only [quantityOf, hpatch a]
  simp only [books, costQuantity_eq, stockQuantity_eq, salesQuantity_eq]
  rw [hcosts _ fun cost => rfl]
  simp only [editedStore, hstock]

/-- An edit of a whole batch corrects its purchase. -/
theorem books_edited_some {s : Store} {id : ObjectId} {data : EditBody}
    {quantity : Option JsNumber} {patch : Patch Inventory} {batch : Inventory} {cost : Cost} {n : ℚ}
    (hget : s.inventories.get? id = some batch) (hrec : RecordOf s.costs id cost)
    (hvalid : (patch.apply batch).valid = true)
    (hproduct : (patch.apply batch).product = batch.product)
    (hquantity : (patch.apply batch).quantity = n) (hbill : cost.product = batch.product)
    (hcost : cost.quantity = batch.quantity)
    (hcost' : ((editCostData data quantity).patch.apply cost).quantity = n) :
    books (editedStore s id batch data quantity patch) =
      post (books s) [(batch.product, .purchase (n - batch.quantity))] := by
  refine books_eq_postAt fun p => ?_
  have hbill' : ((editCostData data quantity).patch.apply cost).product = batch.product := hbill
  simp only [books, costQuantity_eq, stockQuantity_eq, salesQuantity_eq, editedStore, if_pos hvalid,
    total_editedCosts hrec, Collection.total_modify _ hget, quantityOf, hproduct, hquantity, hbill,
    hcost, hcost', hbill']
  by_cases h : batch.product = p
  · subst h
    simp only [if_true, Account.post, Account.mk.injEq, and_true]
    constructor <;> ring
  · have h' : ¬ p = batch.product := fun e => h e.symm
    simp [h, h']

/-- **Simulation of an edit.** It posts exact entries to the books. -/
theorem edit_posts {db : Db} {id : ObjectId} {data : EditBody} {caller : Caller} {env : Env}
    (hpos : AllPositive db.store) (hdata : AllData Numeric db.store)
    (hrec : Recorded BillOf db.store)
    (hc : CoveredRequest ⟨.editInventory id data, caller, env⟩ db) :
    ∃ entries, books (serveStep ⟨.editInventory id data, caller, env⟩ db).store =
        post (books db.store) entries ∧ ∀ e ∈ entries, e.2.Exact ∧ e.2 ≠ .close := by
  obtain ⟨hsupplied, -, hedit, -⟩ := hc
  cases serve_effect ⟨.editInventory id data, caller, env⟩ db with
  | unchanged store next => exact ⟨[], by rw [store, post_nil], by simp⟩
  | editInventory batch quantity initialQuantity q cpq admin found edited castQuantity castCpq
      store next =>
      have hkeep := hedit admin batch found (accepted_of_edited edited castQuantity)
      have ⟨hproduct, hinit, hwhole, _⟩ := hkeep
      have hget := Store.get?_of_findInventory found
      obtain ⟨hmem, hid⟩ := Store.mem_of_findInventory found
      have hsame : (((editUpdate batch data quantity initialQuantity).patch q cpq).apply
          batch).product = batch.product := by
        change data.product.getD batch.product = batch.product
        rw [hproduct, Option.getD_none]
      rw [store]
      cases hn : data.quantity with
      | none =>
          -- without a quantity nothing that counts is stored
          obtain ⟨rfl, rfl, -⟩ := edited_of_none edited castQuantity hn
          refine ⟨[], books_edited_none fun a => ⟨?_, rfl⟩, by simp⟩
          change data.product.getD a.product = a.product
          rw [hproduct, Option.getD_none]
      | some n =>
          -- a quantity is given: the batch is whole, and its record has the pieces that it holds
          have hn0 : n ≠ 0 := (hsupplied.1 n hn).ne'
          have hsold : quantitySold batch = 0 := by
            by_contra hne
            exact nomatch hn.symm.trans (hwhole hne)
          have hall : batch.initialQuantity = batch.quantity := sub_eq_zero.1 hsold
          rcases hrec batch hmem with hzero | ⟨cost, hrecord, hbill⟩
          -- a rebuilt batch is never whole
          · exact absurd (hall.symm.trans hzero) (hpos batch hmem).ne'
          · have hrecord' := edited_record_quantity edited castQuantity hinit hwhole hbill.2
            rcases edited_cases edited castQuantity with
              ⟨-, -, rfl, rfl⟩ | ⟨n', hsold', -⟩ | ⟨hsold', -⟩
            · rw [hn, if_pos (truthy_eq_true_iff.2 ⟨n, rfl, hn0⟩), Option.getD_some] at hrecord'
              refine ⟨[(batch.product, .purchase (n - batch.quantity))], ?_, ?_⟩
              · have hsaved := hkeep.valid_edited (hdata.batch batch hmem) (by simp [hn]) castCpq
                refine books_edited_some hget (hid ▸ hrecord) (hsaved _ _) hsame ?_ hbill.1
                  (hbill.2.trans hall) hrecord'
                change data.quantity.getD batch.quantity = n
                rw [hn, Option.getD_some]
              · intro e he
                rw [List.mem_singleton.1 he]
                exact ⟨trivial, nofun⟩
            · exact absurd hsold hsold'.ne'
            · exact absurd hsold hsold'.ne

/-! ## The tally -/

/-- The database, with the quantities of the cost records that were deleted together with a batch,
for each product. -/
structure Tally where
  db : Db
  removed : ObjectId → ℚ

/-- The purchases of product `p` that the call strikes off the books by deleting a batch. -/
def removedBy (c : Call) (db : Db) (p : ObjectId) : ℚ :=
  match c.request with
  | .deleteInventory _ => costQuantity db.store p - costQuantity (serveStep c db).store p
  | _ => 0

/-- Serves a request and keeps the tally. -/
def Tally.step (c : Call) (t : Tally) : Tally where
  db := serveStep c t.db
  removed p := t.removed p + removedBy c t.db p

/-- The books with the purchases that were struck off. -/
def Tally.books (t : Tally) (p : ObjectId) : Account ℚ :=
  (Books.books t.db.store p).restore (t.removed p)

/-- A request that strikes nothing off posts the same entries to the tally. -/
theorem tally_posts_of_books {t : Tally} {c : Call} {entries : List (ObjectId × Entry ℚ)}
    (hremoved : ∀ p, removedBy c t.db p = 0)
    (h : books (serveStep c t.db).store = post (books t.db.store) entries)
    (hopen : ∀ e ∈ entries, e.2 ≠ .close) : (t.step c).books = post t.books entries := by
  change (fun p =>
    (books (serveStep c t.db).store p).restore (t.removed p + removedBy c t.db p)) = _
  simp only [hremoved, add_zero, h]
  exact restore_post t.removed hopen

/-- **Simulation of a removal.** It scraps what is left of the batch. -/
theorem removal_posts {t : Tally} {id : ObjectId} {caller : Caller} {env : Env}
    (hpos : AllPositive t.db.store) :
    ∃ entries, (t.step ⟨.deleteInventory id, caller, env⟩).books = post t.books entries ∧
      ∀ e ∈ entries, e.2.Sound := by
  -- what the cost records lose, the tally gains
  have hbooks : ∀ p, (t.step ⟨.deleteInventory id, caller, env⟩).books p =
      ⟨costQuantity t.db.store p + t.removed p,
        stockQuantity (serveStep ⟨.deleteInventory id, caller, env⟩ t.db).store p,
        salesQuantity (serveStep ⟨.deleteInventory id, caller, env⟩ t.db).store p⟩ := by
    intro p
    ext
    · simp only [Tally.books, Tally.step, removedBy, Account.restore, books]
      ring
    · rfl
    · rfl
  cases serve_effect ⟨.deleteInventory id, caller, env⟩ t.db with
  | unchanged store next =>
      refine ⟨[], ?_, by simp⟩
      funext p
      rw [hbooks, store]
      rfl
  | deleteInventory admin store next =>
      -- deleting a batch that is not there changes nothing
      cases hget : t.db.store.inventories.get? id with
      | none =>
          refine ⟨[], ?_, by simp⟩
          funext p
          rw [hbooks, store, Collection.delete_eq_self hget]
          rfl
      | some b =>
          refine ⟨[(b.product, .scrap b.quantity)], ?_, ?_⟩
          · funext p
            rw [hbooks, store, post_singleton, postAt, Function.update_apply]
            have hstock : (t.db.store.inventories.delete id).total (quantityOf p) =
                t.db.store.inventories.total (quantityOf p) - quantityOf p b :=
              Collection.total_delete _ hget
            simp only [stockQuantity_eq, salesQuantity_eq, hstock, quantityOf]
            by_cases hp : p = b.product
            · simp [hp, Tally.books, Account.restore, Account.post, books, stockQuantity_eq,
                salesQuantity_eq]
            · have hp' : ¬ b.product = p := fun e => hp e.symm
              simp [hp, hp', Tally.books, Account.restore, books, stockQuantity_eq,
                salesQuantity_eq]
          · intro e he
            rw [List.mem_singleton.1 he]
            exact (hpos b (Collection.get?_eq_some_iff.1 hget).1).le

/-- **Simulation.** A request posts sound entries to the tally. -/
theorem tally_posts {t : Tally} {c : Call} (ht : Trading t.db.store) (hpos : AllPositive t.db.store)
    (hdata : AllData Numeric t.db.store) (hrec : Recorded BillOf t.db.store)
    (hc : CoveredRequest c t.db) :
    ∃ entries, (t.step c).books = post t.books entries ∧ ∀ e ∈ entries, e.2.Sound := by
  -- requests of the shop strike nothing off
  have shop : ShopRequest c t.db → (∀ p, removedBy c t.db p = 0) →
      ∃ entries, (t.step c).books = post t.books entries ∧ ∀ e ∈ entries, e.2.Sound := by
    intro hshop hremoved
    obtain ⟨entries, hposts, hexact⟩ := serve_posts ht hshop
    exact ⟨entries, tally_posts_of_books hremoved hposts fun e he => (hexact e he).2 hc.2.2.2,
      fun e he => (hexact e he).1.sound⟩
  obtain ⟨request, caller, env⟩ := c
  cases request with
  | deleteInventory id => exact removal_posts hpos
  | editInventory id data =>
      obtain ⟨entries, hposts, hexact⟩ := edit_posts hpos hdata hrec hc
      exact ⟨entries, tally_posts_of_books (fun _ => rfl) hposts fun e he => (hexact e he).2,
        fun e he => (hexact e he).1.sound⟩
  | addProduct body => exact shop ⟨hc.1, hc.2.1, trivial, trivial⟩ fun _ => rfl
  | addInventory id body => exact shop ⟨hc.1, hc.2.1, trivial, trivial⟩ fun _ => rfl
  | recordSales id body => exact shop ⟨hc.1, hc.2.1, trivial, trivial⟩ fun _ => rfl
  | deleteSalesRecord id prd => exact shop ⟨hc.1, hc.2.1, trivial, trivial⟩ fun _ => rfl
  | deleteAllSales => exact shop ⟨hc.1, hc.2.1, trivial, trivial⟩ fun _ => rfl
  | userDeleteProduct id => exact hc.2.2.2.elim

/-- **Sales are covered.** After every request of a run, what was sold of a product was bought: it
is on its cost records or on those that were deleted together with a batch. -/
theorem sales_covered {t : Tally}
    (h : Reach (fun t => t.db.IsEmpty ∧ ∀ p, t.removed p = 0) (fun c t => CoveredRequest c t.db)
      Tally.step t) (p : ObjectId) :
    salesQuantity t.db.store p ≤ costQuantity t.db.store p + t.removed p := by
  -- the run of the tally is a run of the server
  have hdb : ∀ t, Reach (fun t => t.db.IsEmpty ∧ ∀ p, t.removed p = 0)
      (fun c t => CoveredRequest c t.db) Tally.step t →
      Reach Db.IsEmpty CoveredRequest serveStep t.db := fun t ht =>
    ht.map Tally.db (fun _ h => h.1) (fun _ _ h => h) fun _ _ => rfl
  have hpos : ∀ t, Reach (fun t => t.db.IsEmpty ∧ ∀ p, t.removed p = 0)
      (fun c t => CoveredRequest c t.db) Tally.step t →
      Trading t.db.store ∧ AllPositive t.db.store := fun t ht =>
    trading_and_positive ((hdb t ht).mono fun _ _ => CoveredRequest.keepsPieces)
  -- the books stay covered, and what is held is not negative
  have hcovered : ∀ p, (t.books p).Covered := by
    refine h.invariant_with (I := fun t => ∀ p, (t.books p).Covered)
      (J := fun t => (Trading t.db.store ∧ AllPositive t.db.store) ∧
        AllData Numeric t.db.store ∧ Recorded BillOf t.db.store) ?_ ?_ ?_
    · intro t ht
      obtain ⟨⟨-, hdata⟩, hrec⟩ := billed_of_reach (hdb t ht)
      exact ⟨hpos t ht, hdata, hrec⟩
    · rintro t ⟨⟨-, hi, hs, hc, -⟩, hr⟩ p
      simp [Account.Covered, Tally.books, Account.restore, books, costQuantity, stockQuantity,
        salesQuantity, hi, hs, hc, hr]
    · rintro c t ⟨⟨ht, hpos⟩, hdata, hrec⟩ hcov hc
      obtain ⟨entries, hposts, hsound⟩ := tally_posts ht hpos hdata hrec hc
      rw [hposts]
      exact covered_post hcov hsound
  have hstock : 0 ≤ stockQuantity t.db.store p := by
    refine List.sum_nonneg fun q hq => ?_
    obtain ⟨b, hb, rfl⟩ := List.mem_map.1 hq
    exact ((hpos t h).2 b (List.mem_filter.1 hb).1).le
  exact le_trans (le_add_of_nonneg_left hstock) (hcovered p)

/-- Ten pieces come in, the quantity is corrected to eight, four are sold, the batch is deleted. -/
theorem sales_covered_deleted :
    let t := [Sample.call (.addProduct (Sample.productBody 10 100)),
      Sample.call (.editInventory 2 (Sample.editBody (some 8) none)),
      Sample.call (.recordSales 1 (Sample.salesBody 4)),
      Sample.call (.deleteInventory 2)].foldl (fun t c => Tally.step c t) ⟨Sample.db, fun _ => 0⟩
    (salesQuantity t.db.store 1, costQuantity t.db.store 1, t.removed 1) = (4, 0, 8) ∧
      salesQuantity t.db.store 1 ≤ costQuantity t.db.store 1 + t.removed 1 :=
  ⟨by decide +kernel,
    sales_covered (Reach.foldl (.start ⟨Sample.isEmpty, fun _ => rfl⟩) (by decide +kernel)) 1⟩

/-- Ten pieces come in, four are sold, and the batch is deleted. -/
def deletedBatchRun : List Call :=
  [Sample.call (.addProduct (Sample.productBody 10 100)),
    Sample.call (.recordSales 1 (Sample.salesBody 4)),
    Sample.call (.deleteInventory 2)]

/-- Ten pieces come in, four are sold, the quantity is edited to eight, and four more are sold. -/
def editedBatchRun : List Call :=
  [Sample.call (.addProduct (Sample.productBody 10 100)),
    Sample.call (.recordSales 1 (Sample.salesBody 4)),
    Sample.call (.editInventory 2 (Sample.editBody (some 8) none)),
    Sample.call (.recordSales 1 (Sample.salesBody 4))]

/-- The deletion takes the purchase of the four sold pieces off the books; the edit writes the
pieces left, not the pieces that came in, to the cost record. -/
theorem sales_exceed_purchases :
    Reach Db.IsEmpty (fun c db => SuppliesPositive c.request ∧ ReversesOwn c db) serveStep
        (serveAll deletedBatchRun Sample.db) ∧
      (salesQuantity (serveAll deletedBatchRun Sample.db).store 1 = 4 ∧
        costQuantity (serveAll deletedBatchRun Sample.db).store 1 = 0) ∧
      Reach Db.IsEmpty (fun c db => SuppliesPositive c.request ∧ ReversesOwn c db) serveStep
        (serveAll editedBatchRun Sample.db) ∧
      salesQuantity (serveAll editedBatchRun Sample.db).store 1 = 8 ∧
        costQuantity (serveAll editedBatchRun Sample.db).store 1 = 4 :=
  ⟨Reach.foldl (.start Sample.isEmpty) (by decide +kernel), by decide +kernel,
    Reach.foldl (.start Sample.isEmpty) (by decide +kernel), by decide +kernel⟩

end InventoryHero.Books
