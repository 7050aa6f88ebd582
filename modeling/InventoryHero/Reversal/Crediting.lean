import InventoryHero.Books.Books
import InventoryHero.Serial.Reversals
import InventoryHero.Stock.Lots

/-!
# Which product a reversal credits

`deleteSalesRecord` takes the sale and the product to credit from two parameters of the path, and
does not compare them. A reversal that goes through gives the pieces to the product of the path
(`GivenBack`), which is right if this is the product that was sold (`reversal_credits_iff`).
-/

set_option autoImplicit false

namespace InventoryHero.Reversal

open Interaction Storage Model Stock Serial Books

/-- The batches `l'` of product `prd` after `q` pieces were given back: the first live batch is
credited or, without one, a batch is rebuilt from the snapshot. -/
inductive GivenBack (s : Store) (prd : ObjectId) (q : ℚ) (l' : List Inventory) : Prop
  | credited (live : (s.batches prd).find? (Credits prd) ≠ none)
      (batches : l' = creditDocs prd q (s.batches prd))
  | rebuilt (last : Last) (n : ObjectId) (none_live : (s.batches prd).find? (Credits prd) = none)
      (snapshot : (s.lastsOf prd).head? = some last) (valid : last.valid = true)
      (batches : l' = s.batches prd ++ [last.toInventory n q])

/-- A reversal gives the pieces of the sale back to `prd`, and leaves the other products alone. -/
theorem givenBack_of_reversed {db db' : Db} {id prd : ObjectId} (h : Reversed db id prd db') :
    ∃ sale, db.store.sales.get? id = some sale ∧
      GivenBack db.store prd sale.quantity (db'.store.batches prd) ∧
      ∀ p, prd ≠ p → db'.store.batches p = db.store.batches p := by
  cases h with
  | restock sale batch found first valid commit =>
      have hcredit : db'.store.inventories = credit prd sale.quantity db.store.inventories := by
        rw [commit.store, credit_of_some first]
        rfl
      refine ⟨sale, found, .credited ?_ (batches_credit hcredit), ?_⟩
      · rw [← firstLive_eq, first]
        exact Option.some_ne_none _
      · intro p hp
        exact batches_credit_of_ne hcredit hp
  | rebuild sale last n found none_live snapshot valid batch_id commit =>
      have hproduct : last.product = prd := (Store.mem_lastsOf_head snapshot).2
      have hacc := Store.accepts_inventories commit.accepted
      rw [Collection.acceptsAll_singleton] at hacc
      have hdocs : db'.store.inventories.docs =
          db.store.inventories.docs ++ [last.toInventory n sale.quantity] := by
        rw [commit.store]
        exact Collection.docs_insert hacc
      refine ⟨sale, found, .rebuilt last n ?_ snapshot valid ?_, ?_⟩
      · rw [← firstLive_eq, none_live]
      · rw [← hproduct]
        exact batches_insert hdocs
      · intro p hp
        rw [← hproduct] at hp
        exact batches_insert_of_ne hdocs hp

/-- The stock of the product that was sold grows by the quantity of the sale, and the batches of
every other product are as before. -/
def CreditsOwn (s s' : Store) (sale : Sale) : Prop :=
  stockQuantity s' sale.product = stockQuantity s sale.product + sale.quantity ∧
    ∀ p, p ≠ sale.product → s'.batches p = s.batches p

theorem creditDocs_zero (p : ObjectId) (l : List Inventory) : creditDocs p 0 l = l := by
  induction l with
  | nil => rfl
  | cons inv rest ih => simp [creditDocs, ih]

/-- A reversal that succeeds credits the product that was sold exactly if this is the product of
the path, or there is nothing to give back and a live batch to give it to. A reversal that fails
changes nothing. -/
theorem reversal_credits_iff (db : Db) (id prd : ObjectId) (caller : Caller) (env : Env) :
    let c : Call := ⟨.deleteSalesRecord id prd, caller, env⟩
    ((serve c db).loc.sent = [recordDeleted] → ∃ sale ∈ db.store.sales.get? id,
      (CreditsOwn db.store (serveStep c db).store sale ↔
        prd = sale.product ∨ sale.quantity = 0 ∧ db.store.liveBatches prd ≠ [])) ∧
      ((serve c db).loc.sent ≠ [recordDeleted] → (serveStep c db).store = db.store) := by
  intro c
  rcases deleteSalesRecord_served db id prd caller env with
    ⟨⟨-, hreversed⟩, hsent⟩ | ⟨hstore, -, hsent, -⟩
  · refine ⟨fun _ => ?_, fun hfailed => absurd hsent hfailed⟩
    obtain ⟨sale, hfound, hgiven, hothers⟩ := givenBack_of_reversed hreversed
    obtain ⟨sale', hfound', -, -, hstock⟩ := stock_reversed hreversed
    obtain rfl : sale = sale' := Option.some.inj (hfound.symm.trans hfound')
    refine ⟨sale, hfound, ?_⟩
    by_cases hprd : prd = sale.product
    · refine iff_of_true ⟨?_, ?_⟩ (.inl hprd)
      · rw [hstock, if_pos hprd]
      · intro p hp
        exact hothers p (hprd ▸ hp.symm)
    · have hlive : db.store.liveBatches prd ≠ [] ↔
          (db.store.batches prd).find? (Credits prd) ≠ none := by
        rw [← firstLive_eq, ← head?_liveBatches, ne_eq, ne_eq, List.head?_eq_none_iff]
      rw [CreditsOwn, hstock, if_neg hprd, hlive]
      constructor
      · rintro ⟨hgrown, hsame⟩
        refine .inr ⟨by linarith, ?_⟩
        cases hgiven with
        | credited live batches => exact live
        | rebuilt last n none_live snapshot valid batches =>
            -- a batch was added to a product that was not sold
            rw [hsame prd hprd] at batches
            simp at batches
      · rintro (hown | ⟨hzero, hsome⟩)
        · exact absurd hown hprd
        · refine ⟨by linarith, ?_⟩
          intro p hp
          by_cases hpp : prd = p
          · subst hpp
            cases hgiven with
            | credited live batches => rw [batches, hzero, creditDocs_zero]
            | rebuilt last n none_live snapshot valid batches => exact absurd none_live hsome
          · exact hothers p hpp
  · exact ⟨fun hok => absurd hok hsent, fun _ => hstore⟩

/-- Four of ten pieces of product `1` are sold, in sale `7`; product `4` has a batch, too. -/
def twoProducts : Db :=
  serveAll [Sample.call (.addProduct (Sample.productBody 10 100)),
    Sample.call (.addProduct { Sample.productBody 5 50 with name := "oil", sku := "o1" }),
    Sample.call (.recordSales 1 (Sample.salesBody 4))] Sample.db

/-- The sale is reversed for the other product, which gets the four pieces. -/
theorem reversal_for_other_product :
    let c := Sample.call (.deleteSalesRecord 7 4)
    (serve c twoProducts).loc.sent = [recordDeleted] ∧
      ((serveStep c twoProducts).store.batches 4).map Inventory.quantity = [9] ∧
      ∃ sale ∈ twoProducts.store.sales.get? 7,
        ¬CreditsOwn twoProducts.store (serveStep c twoProducts).store sale := by
  intro c
  have hstock : ∃ sale ∈ twoProducts.store.sales.get? 7,
      stockQuantity (serveStep c twoProducts).store sale.product ≠
        stockQuantity twoProducts.store sale.product + sale.quantity := by decide +kernel
  obtain ⟨sale, hsale, hne⟩ := hstock
  exact ⟨by decide +kernel, by decide +kernel, sale, hsale, fun hown => hne hown.1⟩

end InventoryHero.Reversal
