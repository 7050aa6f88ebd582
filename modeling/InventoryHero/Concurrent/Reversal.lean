import InventoryHero.Concurrent.Interleaving
import InventoryHero.Concurrent.Plans
import InventoryHero.Books.Books
import Mathlib.Data.Fin.VecNotation
import Mathlib.Data.Fintype.Basic

/-!
# Reversing one sale several times

Requests that reverse the same sale read it without the session, so a request can still hold a sale
that another one has reversed in the meantime. Its commit does no harm if it read the batches before
the first commit and found one: it then writes the quantity that is there already (`reversed_once`).
Otherwise the pieces are given back again (`reversed_twice`).
-/

set_option autoImplicit false

namespace InventoryHero.Concurrent

open Interaction Storage Model Stock Books

/-! ## Commits that repeat the first -/

/-- The commit is the first one, or its batches were read before the first one and one of them is
live. -/
def Repeats {ι : Type} (s₀ : Store) (P : ObjectId) (i : ι) (_ : Writes) (m : Board ι) : Prop :=
  (∀ j, (m.progress j).committed = none) ∨
    ∃ seen ∈ (m.progress i).reads.lookup (.inventories P),
      seen.inventories.docs = s₀.inventories.docs ∧ firstLive P seen.inventories ≠ none

instance {ι : Type} [Fintype ι] (s₀ : Store) (P : ObjectId) (i : ι) (w : Writes) (m : Board ι) :
    Decidable (Repeats s₀ P i w m) :=
  inferInstanceAs (Decidable (_ ∨ _))

/-- The pieces of the sale were given back once: to the first live batch or, without one, in some
other way. -/
def CreditedOnce (s₀ : Store) (sale : Sale) (s : Store) : Prop :=
  (∃ b, firstLive sale.product s₀.inventories = some b ∧ s.inventories =
      s₀.inventories.modify b._id (setQuantity (b.quantity + sale.quantity))) ∨
    firstLive sale.product s₀.inventories = none ∧
      stockQuantity s sale.product = stockQuantity s₀ sale.product + sale.quantity

/-- What is known of the requests at any time. -/
structure Reversing {ι : Type} (s₀ : Store) (sale : Sale) (m : Board ι) : Prop where
  /-- Before the first commit, nothing has changed, and nobody has seen anything else. -/
  before : (∀ i, (m.progress i).committed = none) →
    m.state = s₀ ∧ ∀ i, ∀ r ∈ (m.progress i).reads, r.2 = s₀
  /-- From then on, the pieces were given back once. -/
  after : (∃ i, (m.progress i).committed ≠ none) → CreditedOnce s₀ sale m.state

section Steps

variable {ι : Type} {s₀ : Store} {sale : Sale} {m : Board ι}

theorem CreditedOnce.stock {s : Store} (h : CreditedOnce s₀ sale s) :
    stockQuantity s sale.product = stockQuantity s₀ sale.product + sale.quantity := by
  rcases h with ⟨b, hfirst, hs⟩ | ⟨-, hs⟩
  · have hcredit := total_credit (p := sale.product) (c := s₀.inventories) (by simp [hfirst])
      sale.quantity sale.product
    rw [credit_of_some hfirst, ← hs, if_pos rfl] at hcredit
    rw [stockQuantity_eq, stockQuantity_eq, hcredit]
  · exact hs

/-- An absolute quantity can be written again. -/
theorem modify_setQuantity_again (c : Collection Inventory) (k : ObjectId) (q : ℚ) :
    (c.modify k (setQuantity q)).modify k (setQuantity q) = c.modify k (setQuantity q) := by
  apply Collection.ext
  rw [Collection.docs_modify, Collection.docs_modify, List.map_map]
  apply List.map_congr_left
  intro b _
  by_cases h : b._id = k <;> simp [h, setQuantity]

/-- A commit that is the first one, or repeats it, leaves the pieces given back once. -/
theorem Reversing.commit {i : ι} {w : Writes} (h : Reversing s₀ sale m)
    (hplan : Planned (.deleteSalesRecord sale._id sale.product) (m.progress i).reads w)
    (hacc : m.state.accepts w = true) (hrep : Repeats s₀ sale.product i w m)
    (hsale : ∀ r ∈ (m.progress i).reads, ∀ found, r.2.sales.get? sale._id = some found →
      found = sale) :
    CreditedOnce s₀ sale (m.state.apply w) := by
  -- either way, the batches that were read are the initial ones
  have hseen : ∀ seen, (m.progress i).reads.lookup (.inventories sale.product) = some seen →
      seen.inventories = s₀.inventories := by
    intro seen hread
    rcases hrep with hfirst | ⟨seen', hread', hdocs, -⟩
    · exact congrArg Store.inventories ((h.before hfirst).2 i _ (mem_of_lookup hread))
    · obtain rfl := Option.some.inj (hread.symm.trans hread')
      exact Collection.ext hdocs
  cases hplan with
  | restock seen seen' found batch sale_read batches_read found_eq first =>
      obtain rfl := hsale _ (mem_of_lookup sale_read) found found_eq
      rw [hseen seen batches_read] at first
      refine .inl ⟨batch, first, ?_⟩
      rw [Store.inventories_apply, Collection.writeAll_cons, Collection.writeAll_nil,
        Collection.write_modify]
      -- the first commit credits the batch, a repetition writes the same quantity again
      by_cases hfirst : ∀ j, (m.progress j).committed = none
      · rw [(h.before hfirst).1]
      · rcases h.after (not_forall.1 hfirst) with ⟨b, hb, hs⟩ | ⟨hnone, -⟩
        · obtain rfl := Option.some.inj (first.symm.trans hb)
          rw [hs, modify_setQuantity_again]
        · exact absurd (first.symm.trans hnone) (by simp)
  | rebuild seen seen' found last n sale_read batches_read found_eq none_live product =>
      obtain rfl := hsale _ (mem_of_lookup sale_read) found found_eq
      -- without a live batch only the first commit is allowed
      have hfirst : ∀ j, (m.progress j).committed = none := by
        rcases hrep with hfirst | ⟨seen', hread', -, hlive⟩
        · exact hfirst
        · obtain rfl := Option.some.inj (batches_read.symm.trans hread')
          exact absurd none_live hlive
      refine .inr ⟨hseen seen batches_read ▸ none_live, ?_⟩
      rw [stockQuantity_eq, stockQuantity_eq, Store.inventories_apply,
        Collection.total_writeAll_insert _ (Store.accepts_inventories hacc), (h.before hfirst).1]
      simp [quantityOf, Snapshot.toInventory, product]

variable [DecidableEq ι]

theorem Reversing.read (h : Reversing s₀ sale m) (j : ι) (q : Query) :
    Reversing s₀ sale (m.read j q) := by
  -- a read is no commit
  have hsame : ∀ i, ((m.read j q).progress i).committed = (m.progress i).committed := by
    intro i
    by_cases hij : i = j
    · subst hij
      simp [Interleaved.read]
    · simp [Interleaved.read, Function.update_of_ne hij]
  constructor
  · intro hnone
    obtain ⟨hstate, hreads⟩ := h.before fun i => (hsame i).symm.trans (hnone i)
    refine ⟨hstate, fun i r hr => ?_⟩
    by_cases hij : i = j
    · subst hij
      simp only [Interleaved.read, Function.update_self, List.mem_append, List.mem_singleton] at hr
      rcases hr with hr | rfl
      · exact hreads i r hr
      · exact hstate
    · simp only [Interleaved.read, Function.update_of_ne hij] at hr
      exact hreads i r hr
  · rintro ⟨i, hi⟩
    exact h.after ⟨i, hsame i ▸ hi⟩

end Steps

/-! ## Whole runs -/

/-- A sale that is in the store, or was reversed. -/
def SaleOrNone (sale : Sale) (s : Store) : Prop :=
  ∀ found, s.sales.get? sale._id = some found → found = sale

/-- Every interleaving of commits that repeat the first one gives the pieces back once. -/
theorem reversing_of_interleaving {ι : Type} [DecidableEq ι] {s₀ : Store} {sale : Sale}
    {m : Board ι} (hsale : s₀.sales.get? sale._id = some sale)
    (h : Interleaving Store.apply
      (Allowed (fun _ => Planned (.deleteSalesRecord sale._id sale.product))
        (Repeats s₀ sale.product)) s₀ m) :
    Reversing s₀ sale m := by
  induction h with
  | init => exact ⟨fun _ => ⟨rfl, fun i r hr => nomatch hr⟩, fun ⟨i, hi⟩ => absurd rfl hi⟩
  | read j q h hj ih => exact ih.read j q
  | @commit m j w h hj hmay ih =>
      obtain ⟨hplan, hacc, hrep⟩ := hmay
      have hkept := h.kept (K := fun _ => SaleOrNone sale)
        (fun _ found hfound => Option.some.inj (hfound.symm.trans hsale))
        (fun m i j w _ _ hmay _ => ?_) j hj
      · refine ⟨fun hnone => ?_, fun _ => ih.commit hplan hacc hrep hkept.2⟩
        have hj' := hnone j
        simp [Interleaved.commit] at hj'
      · -- a reversal deletes the sale
        intro found hfound
        have hgone : (m.state.apply w).sales.get? sale._id = none := by
          cases hmay.1 <;> simp [Collection.get?_delete]
        exact absurd (hgone.symm.trans hfound) (by simp)

/-- **A sale is reversed once where commits repeat the first one.** Whatever the interleaving, the
stock is what it was before the first commit, and larger by the quantity of the sale after it. -/
theorem reversed_once {ι : Type} [DecidableEq ι] {db₀ : Db} {sale : Sale} {calls : ι → Call}
    {p : Requests ι} (hsale : db₀.store.sales.get? sale._id = some sale)
    (hcalls : ∀ i, (calls i).request = .deleteSalesRecord sale._id sale.product)
    (h : Reach (· = arrivals db₀ calls) (AtCommit (Repeats db₀.store sale.product))
      (Pool.step sem) p) :
    (∀ i, committed? (p.procs i).loc = none) ∧
        stockQuantity p.shared.store sale.product = stockQuantity db₀.store sale.product ∨
      (∃ i, committed? (p.procs i).loc ≠ none) ∧
        stockQuantity p.shared.store sale.product =
          stockQuantity db₀.store sale.product + sale.quantity := by
  have hrun := interleaving_of_reach
    (P := fun _ => Planned (.deleteSalesRecord sale._id sale.product))
    (fun i => by
      rw [hcalls i]
      exact deleteSalesRecord_follows _ _ _ rfl rfl) h
  have hm := reversing_of_interleaving hsale hrun
  by_cases hnone : ∀ i, committed? (p.procs i).loc = none
  · left
    exact ⟨hnone, congrArg (stockQuantity · sale.product) (hm.before hnone).1⟩
  · right
    exact ⟨not_forall.1 hnone, (hm.after (not_forall.1 hnone)).stock⟩

/-! ## Three runs -/

/-- Sale `4` of the sample shop. -/
def shopSale : Sale where
  bQuantity := 10
  aQuantity := 6
  packages := "pieces"
  ppu := 1
  quantity := 4
  cost := 1
  createdBy := ⟨"shop", "keeper"⟩
  _id := 4
  product := 1
  createdAt := 0

/-- Two requests that reverse sale `id` of product `1`. -/
def rivalReversals (id : ObjectId) : Fin 2 → Call :=
  fun _ => Sample.call (.deleteSalesRecord id 1)

/-- Both requests read the sale and the batches before either commits. -/
def repeatRun : Requests (Fin 2) :=
  [0, 0, 0, 0, 1, 1, 1, 1, 0, 0, 0, 0, 1, 1, 1, 1].foldl (fun p i => p.step sem i)
    (arrivals Sample.shop (rivalReversals 4))

theorem reversed_once_repeat :
    ((∀ i, committed? (repeatRun.procs i).loc = none) ∧
        stockQuantity repeatRun.shared.store 1 = stockQuantity Sample.shop.store 1 ∨
      (∃ i, committed? (repeatRun.procs i).loc ≠ none) ∧
        stockQuantity repeatRun.shared.store 1 = stockQuantity Sample.shop.store 1 + 4) ∧
    ∀ i, (repeatRun.procs i).loc.sent = [recordDeleted] :=
  have hsale : Sample.shop.store.sales.get? shopSale._id = some shopSale := by decide +kernel
  ⟨reversed_once hsale (fun _ => rfl) (Reach.foldl (.start rfl) (by decide +kernel)),
    by decide +kernel⟩

/-- The second request reads the sale before the first one commits, and the batches after it. -/
def lateRun : Requests (Fin 2) :=
  [1, 1, 1, 0, 0, 0, 0, 0, 0, 0, 0, 1, 1, 1, 1, 1].foldl (fun p i => p.step sem i)
    (arrivals Sample.shop (rivalReversals 4))

/-- Both requests find no batch and rebuild one. -/
def rebuildRun : Requests (Fin 2) :=
  [0, 0, 0, 0, 1, 1, 1, 1, 0, 0, 0, 0, 0, 0, 1, 1, 1, 1, 1, 1].foldl (fun p i => p.step sem i)
    (arrivals Sample.soldOut (rivalReversals 5))

/-- Four sold pieces bring back eight, and ten sold pieces twenty. -/
theorem reversed_twice :
    (Sample.shop.store.sales.get? 4 = some shopSale ∧
      Reach (· = arrivals Sample.shop (rivalReversals 4)) (fun _ _ => True) (Pool.step sem)
        lateRun ∧
      (∀ i, (lateRun.procs i).loc.sent = [recordDeleted]) ∧
      stockQuantity Sample.shop.store 1 = 6 ∧
      stockQuantity lateRun.shared.store 1 = 6 + 4 + 4) ∧
    (Sample.soldOut.store.sales.get? 5).map (fun sale => (sale.product, sale.quantity)) =
        some (1, 10) ∧
      Reach (· = arrivals Sample.soldOut (rivalReversals 5)) (fun _ _ => True) (Pool.step sem)
        rebuildRun ∧
      (∀ i, (rebuildRun.procs i).loc.sent = [recordDeleted]) ∧
      stockQuantity Sample.soldOut.store 1 = 0 ∧
      stockQuantity rebuildRun.shared.store 1 = 0 + 10 + 10 :=
  ⟨⟨by decide +kernel, Reach.foldl (.start rfl) (by decide +kernel), by decide +kernel,
      by decide +kernel, by decide +kernel⟩,
    by decide +kernel, Reach.foldl (.start rfl) (by decide +kernel), by decide +kernel,
    by decide +kernel, by decide +kernel⟩

end InventoryHero.Concurrent
