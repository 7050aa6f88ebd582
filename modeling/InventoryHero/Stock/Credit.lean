import InventoryHero.Stock.Draw
import Mathlib.Algebra.Order.BigOperators.Group.List

/-!
# Giving pieces back

A reversed sale gives its pieces to the first live batch of its product (`credit`). Credits commute
(`credit_comm`), which is why the order in which sales are reversed does not matter.
-/

set_option autoImplicit false

namespace InventoryHero.Stock

open Storage Model

/-- The batches a reversal can credit: those of the product that are not soft-deleted. -/
def Credits (p : ObjectId) (inv : Inventory) : Bool := !inv.isDeleted && inv.product = p

/-- The first live batch of product `p`, in storage order. -/
def firstLive (p : ObjectId) (c : Collection Inventory) : Option Inventory :=
  c.docs.find? (Credits p)

/-- Adds `q` pieces to the first live batch of product `p`. -/
def credit (p : ObjectId) (q : ℚ) (c : Collection Inventory) : Collection Inventory :=
  match firstLive p c with
  | none => c
  | some inv => c.modify inv._id (setQuantity (inv.quantity + q))

/-- The reversal of a list of sales, one after the other. -/
def creditAll (sales : List Sale) (c : Collection Inventory) : Collection Inventory :=
  sales.foldl (fun c sale => credit sale.product sale.quantity c) c

@[simp] theorem creditAll_nil (c : Collection Inventory) : creditAll [] c = c := rfl

theorem creditAll_cons (sale : Sale) (sales : List Sale) (c : Collection Inventory) :
    creditAll (sale :: sales) c = creditAll sales (credit sale.product sale.quantity c) := rfl

theorem creditAll_concat (sales : List Sale) (sale : Sale) (c : Collection Inventory) :
    creditAll (sales ++ [sale]) c = credit sale.product sale.quantity (creditAll sales c) := by
  simp [creditAll]

theorem head?_liveBatches (s : Store) (p : ObjectId) :
    (s.liveBatches p).head? = firstLive p s.inventories := by
  simp only [Store.liveBatches, Store.liveInventories, firstLive, List.filter_filter,
    List.head?_filter]
  congr 1
  funext inv
  simp [Credits, Bool.and_comm]

theorem firstLive_spec {p : ObjectId} {c : Collection Inventory} {inv : Inventory}
    (h : firstLive p c = some inv) : inv ∈ c.docs ∧ inv.isDeleted = false ∧ inv.product = p := by
  have hcr : Credits p inv = true := List.find?_some h
  simp only [Credits, Bool.and_eq_true, Bool.not_eq_true', decide_eq_true_eq] at hcr
  exact ⟨List.mem_of_find?_eq_some h, hcr⟩

theorem firstLive_eq_none_iff {p : ObjectId} {c : Collection Inventory} :
    firstLive p c = none ↔ ∀ inv ∈ c.docs, inv.isDeleted = false → inv.product ≠ p := by
  simp [firstLive, List.find?_eq_none, Credits]

theorem credit_of_some {p : ObjectId} {c : Collection Inventory} {inv : Inventory}
    (h : firstLive p c = some inv) (q : ℚ) :
    credit p q c = c.modify inv._id (setQuantity (inv.quantity + q)) := by
  simp only [credit, h]

/-! ## Credits as changes of the document list -/

/-- `credit` on the list of documents. -/
def creditDocs (p : ObjectId) (q : ℚ) : List Inventory → List Inventory
  | [] => []
  | inv :: rest =>
      if Credits p inv then { inv with quantity := inv.quantity + q } :: rest
      else inv :: creditDocs p q rest

theorem product_of_credits {p : ObjectId} {inv : Inventory} (h : Credits p inv = true) :
    inv.product = p := by
  simp only [Credits, Bool.and_eq_true, decide_eq_true_eq] at h
  exact h.2

theorem creditDocs_first {p : ObjectId} {inv : Inventory} (h : Credits p inv = true) (q : ℚ)
    (rest : List Inventory) :
    creditDocs p q (inv :: rest) = { inv with quantity := inv.quantity + q } :: rest :=
  if_pos h

theorem creditDocs_later {p : ObjectId} {inv : Inventory} (h : ¬Credits p inv = true) (q : ℚ)
    (rest : List Inventory) : creditDocs p q (inv :: rest) = inv :: creditDocs p q rest :=
  if_neg h

/-- A change of a document that is not in the list changes nothing. -/
theorem map_patch_of_fresh {l : List Inventory} {k : ObjectId} (h : k ∉ l.map Inventory._id)
    (patch : Patch Inventory) : (l.map fun a => if a._id = k then patch.apply a else a) = l := by
  conv_rhs => rw [← List.map_id l]
  apply List.map_congr_left
  intro a ha
  have hne : a._id ≠ k := fun e => h (e ▸ List.mem_map_of_mem ha)
  simp [hne]

theorem creditDocs_eq_self {p : ObjectId} {q : ℚ} {l : List Inventory}
    (h : l.find? (Credits p) = none) : creditDocs p q l = l := by
  induction l with
  | nil => rfl
  | cons inv rest ih =>
      have hinv : ¬ Credits p inv = true := List.find?_eq_none.1 h inv List.mem_cons_self
      rw [List.find?_cons_of_neg hinv] at h
      rw [creditDocs_later hinv, ih h]

theorem docs_credit (p : ObjectId) (q : ℚ) (c : Collection Inventory) :
    (credit p q c).docs = creditDocs p q c.docs := by
  unfold credit
  cases h : firstLive p c with
  | none => exact (creditDocs_eq_self h).symm
  | some found =>
      obtain ⟨l, hl⟩ := c
      change (l.map Inventory._id).Nodup at hl
      change (l.map fun a => if a._id = found._id then
        (setQuantity (found.quantity + q)).apply a else a) = creditDocs p q l
      change l.find? (Credits p) = some found at h
      -- along the list, up to the batch that is found
      induction l with
      | nil => cases h
      | cons inv rest ih =>
          rw [List.map_cons, List.nodup_cons] at hl
          by_cases hinv : Credits p inv = true
          · rw [List.find?_cons_of_pos hinv] at h
            have hfound : found = inv := (Option.some.inj h).symm
            subst hfound
            rw [List.map_cons, map_patch_of_fresh hl.1, creditDocs_first hinv, if_pos rfl]
            rfl
          · rw [List.find?_cons_of_neg hinv] at h
            have hne : inv._id ≠ found._id := by
              intro e
              have hmem : found._id ∈ rest.map Inventory._id :=
                List.mem_map_of_mem (List.mem_of_find?_eq_some h)
              exact hl.1 (e ▸ hmem)
            rw [List.map_cons, ih hl.2 h, creditDocs_later hinv, if_neg hne]

theorem creditDocs_comm (p p' : ObjectId) (q q' : ℚ) (l : List Inventory) :
    creditDocs p q (creditDocs p' q' l) = creditDocs p' q' (creditDocs p q l) := by
  induction l with
  | nil => rfl
  | cons inv rest ih =>
      -- a credit does not change which products a batch can be credited for
      have hkeep : ∀ (r : ObjectId) (x : ℚ),
          Credits r { inv with quantity := x } = Credits r inv := fun _ _ => rfl
      by_cases h : Credits p inv = true <;> by_cases h' : Credits p' inv = true
      · simp [creditDocs, hkeep, h, h', add_right_comm]
      · simp [creditDocs, hkeep, h, h']
      · simp [creditDocs, hkeep, h, h']
      · simp [creditDocs, h, h', ih]

/-- Credits commute. -/
theorem credit_comm (p p' : ObjectId) (q q' : ℚ) (c : Collection Inventory) :
    credit p q (credit p' q' c) = credit p' q' (credit p q c) := by
  apply Collection.ext
  simp only [docs_credit, creditDocs_comm]

/-- The in-memory search and update of `deleteAllSales`, on the live documents of a collection. -/
theorem creditFirst_live (p : ObjectId) (q : ℚ) (c : Collection Inventory) :
    creditFirst p q (c.docs.filter fun inv => !inv.isDeleted) =
      (firstLive p c).map fun a => ({ a with quantity := a.quantity + q },
        (credit p q c).docs.filter fun inv => !inv.isDeleted) := by
  rw [docs_credit, firstLive]
  induction c.docs with
  | nil => rfl
  | cons inv rest ih =>
      -- soft-deleted batches are not among the documents read
      by_cases hd : inv.isDeleted = true
      · have hinv : ¬ Credits p inv = true := by simp [Credits, hd]
        rw [List.filter_cons_of_neg (by simp [hd]), ih, List.find?_cons_of_neg hinv]
        simp [creditDocs, hinv, hd]
      · rw [List.filter_cons_of_pos (by simp [hd]), creditFirst]
        by_cases hp : inv.product = p
        · have hinv : Credits p inv = true := by simp [Credits, hd, hp]
          simp [List.find?_cons_of_pos hinv, creditDocs, hinv, hd, hp]
        · have hinv : ¬ Credits p inv = true := by simp [Credits, hp]
          rw [if_neg hp, ih, List.find?_cons_of_neg hinv]
          cases List.find? (Credits p) rest with
          | none => rfl
          | some a => simp [creditDocs, hinv, hd]

/-! ## Batches and stock after credits -/

theorem mem_credit {p : ObjectId} {q : ℚ} {c : Collection Inventory} {b : Inventory}
    (hb : b ∈ (credit p q c).docs) :
    b ∈ c.docs ∧ firstLive p c ≠ some b ∨
      ∃ a, firstLive p c = some a ∧ b = { a with quantity := a.quantity + q } := by
  cases h : firstLive p c with
  | none => exact .inl ⟨by simpa [credit, h] using hb, nofun⟩
  | some found =>
      rw [credit_of_some h] at hb
      obtain ⟨a, ha, rfl⟩ := Collection.mem_modify.1 hb
      by_cases hk : a._id = found._id
      · right
        -- the credited batch is the one that was found, since ids are unique
        have haf : a = found := Collection.eq_of_key_eq ha (firstLive_spec h).1 hk
        subst haf
        exact ⟨a, rfl, by simp [setQuantity]⟩
      · left
        simp only [key_inventory, hk, if_false]
        exact ⟨ha, fun e => hk (congrArg Inventory._id (Option.some.inj e).symm)⟩

/-- The first live batch of a product after a credit. -/
theorem firstLive_credit (p p' : ObjectId) (q : ℚ) (c : Collection Inventory) :
    firstLive p' (credit p q c) = (firstLive p' c).map fun a =>
      if p' = p then { a with quantity := a.quantity + q } else a := by
  simp only [firstLive, docs_credit]
  induction c.docs with
  | nil => rfl
  | cons inv rest ih =>
      by_cases h : Credits p inv = true <;> by_cases h' : Credits p' inv = true
      -- a batch belongs to one product
      · obtain rfl : p' = p := (product_of_credits h').symm.trans (product_of_credits h)
        have hcr : Credits p' { inv with quantity := inv.quantity + q } = true := h'
        simp [creditDocs, h', List.find?_cons_of_pos hcr]
      · have hpp : p' ≠ p := fun e => h' (e ▸ h)
        have hcr : ¬ Credits p' { inv with quantity := inv.quantity + q } = true := h'
        simp [creditDocs, h, List.find?_cons_of_neg hcr, List.find?_cons_of_neg h', hpp]
      · have hpp : p' ≠ p := fun e => h (e ▸ h')
        simp [creditDocs, h, h', hpp]
      · simp [creditDocs, h, h', ih]

/-- The pieces of product `p` in a list of sales. -/
def soldOf (p : ObjectId) (sales : List Sale) : ℚ :=
  ((sales.filter fun sale => sale.product = p).map fun sale => sale.quantity).sum

theorem soldOf_cons (p : ObjectId) (sale : Sale) (sales : List Sale) :
    soldOf p (sale :: sales) =
      (if sale.product = p then sale.quantity else 0) + soldOf p sales := by
  by_cases h : sale.product = p
  · simp [soldOf, h]
  · simp [soldOf, h]

theorem soldOf_eq_zero {p : ObjectId} {sales : List Sale} (h : ∀ sale ∈ sales, sale.product ≠ p) :
    soldOf p sales = 0 := by
  have hnil : (sales.filter fun sale => sale.product = p) = [] :=
    List.filter_eq_nil_iff.2 fun sale hs => by simpa using h sale hs
  rw [soldOf, hnil]
  rfl

/-- What the sales give back to batch `a`: the first live batch of a product gets all of its
pieces. -/
def credited (sales : List Sale) (c : Collection Inventory) (a : Inventory) : ℚ :=
  if firstLive a.product c = some a then soldOf a.product sales else 0

/-- Credits change nothing but quantities. -/
theorem mem_creditAll {sales : List Sale} {c : Collection Inventory} {b : Inventory}
    (hb : b ∈ (creditAll sales c).docs) :
    ∃ a ∈ c.docs, b = { a with quantity := a.quantity + credited sales c a } := by
  induction sales generalizing c with
  | nil => exact ⟨b, hb, by simp [credited, soldOf]⟩
  | cons sale rest ih =>
      obtain ⟨a, ha, rfl⟩ := ih hb
      rcases mem_credit ha with ⟨ha, hne⟩ | ⟨a, hfirst, rfl⟩
      · -- a batch that this sale leaves alone: the first live one of another product, or none
        refine ⟨a, ha, ?_⟩
        by_cases hp : a.product = sale.product
        · have hfirst : firstLive a.product c ≠ some a := hp ▸ hne
          have hfirst' : firstLive a.product (credit sale.product sale.quantity c) ≠ some a := by
            rw [firstLive_credit]
            rintro e
            obtain ⟨x, hx, hxa⟩ := Option.map_eq_some_iff.1 e
            have hid : x._id = a._id := by
              rw [if_pos hp] at hxa
              rw [← hxa]
            rw [Collection.eq_of_key_eq (firstLive_spec hx).1 ha hid] at hx
            exact hfirst hx
          simp [credited, hfirst, hfirst']
        · have hfirst : firstLive a.product (credit sale.product sale.quantity c) =
              firstLive a.product c := by simp [firstLive_credit, hp]
          simp [credited, hfirst, soldOf_cons, Ne.symm hp]
      · -- the batch that this sale credits
        obtain ⟨hmem, -, hp⟩ := firstLive_spec hfirst
        exact ⟨a, hmem, by simp [credited, firstLive_credit, hp, hfirst, soldOf_cons, add_assoc]⟩

theorem credited_nonneg {sales : List Sale} (h : ∀ sale ∈ sales, 0 < sale.quantity)
    (c : Collection Inventory) (a : Inventory) : 0 ≤ credited sales c a := by
  unfold credited
  split
  · refine List.sum_nonneg fun q hq => ?_
    obtain ⟨sale, hsale, rfl⟩ := List.mem_map.1 hq
    exact (h sale (List.mem_filter.1 hsale).1).le
  · exact le_rfl

theorem firstLive_credit_eq_none {p p' : ObjectId} {q : ℚ} {c : Collection Inventory} :
    firstLive p' (credit p q c) = none ↔ firstLive p' c = none := by
  rw [firstLive_credit, Option.map_eq_none_iff]

/-- Whether the first live batch passes the schema does not depend on its quantity. -/
theorem any_valid_credit (p p' : ObjectId) (q : ℚ) (c : Collection Inventory) :
    (firstLive p' (credit p q c)).any Inventory.valid = (firstLive p' c).any Inventory.valid := by
  rw [firstLive_credit]
  cases firstLive p' c with
  | none => rfl
  | some a => by_cases h : p' = p <;> simp [h]

theorem any_valid_creditAll (sales : List Sale) (p : ObjectId) (c : Collection Inventory) :
    (firstLive p (creditAll sales c)).any Inventory.valid =
      (firstLive p c).any Inventory.valid := by
  induction sales generalizing c with
  | nil => rfl
  | cons sale sales ih => rw [creditAll_cons, ih, any_valid_credit]

/-- A credit adds its pieces to the stock of the product. -/
theorem total_credit {p : ObjectId} {c : Collection Inventory}
    (h : firstLive p c ≠ none) (q : ℚ) (p' : ObjectId) :
    (credit p q c).total (quantityOf p') =
      c.total (quantityOf p') + if p = p' then q else 0 := by
  obtain ⟨inv, hinv⟩ := Option.ne_none_iff_exists'.1 h
  obtain ⟨hmem, -, hp⟩ := firstLive_spec hinv
  have hget : c.get? inv._id = some inv := Collection.get?_of_mem hmem
  rw [credit_of_some hinv, Collection.total_modify _ hget]
  simp only [quantityOf, setQuantity, hp]
  split <;> ring

end InventoryHero.Stock
