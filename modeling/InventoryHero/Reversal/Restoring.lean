import InventoryHero.Reversal.Crediting
import InventoryHero.Sales.SellOut
import Mathlib.Data.Multiset.ZeroCons

/-!
# Undoing the latest sale

A sale takes its pieces from the front of the product's batches, whether they are live or not. Its
reversal gives them to one batch: the first live one, or one rebuilt from the snapshot, which has no
initial quantity. So the batches are as before the sale if it did not use up the first one, and
otherwise only if that was the only live one and came from a reversal itself
(`sale_undone_iff`).
-/

set_option autoImplicit false

namespace InventoryHero.Reversal

open Interaction Storage Model Stock Serial Lots Sales

/-- A batch without its `_id`. -/
def forgetId (b : Inventory) : Inventory := { b with _id := 0 }

/-- The product has the same batches, in any order and under any ids. -/
def Restored (s s' : Store) (id : ObjectId) : Prop :=
  ((s'.batches id).map forgetId).Perm ((s.batches id).map forgetId)

instance (s s' : Store) (id : ObjectId) : Decidable (Restored s s' id) :=
  inferInstanceAs (Decidable (List.Perm _ _))

/-- What a sale of `t` pieces and its reversal leave as it was: the first batch is live and, either
the sale does not use it up, or it takes exactly this batch, the others are soft-deleted, and the
batch is one that a snapshot can give back. -/
def Undoable (t : ℚ) : List Inventory → Prop
  | [] => False
  | first :: rest =>
      first.isDeleted = false ∧ (t < first.quantity ∨ t = first.quantity ∧
        (∀ b ∈ rest, b.isDeleted = true) ∧ first.initialQuantity = 0 ∧ first.cpq ≠ .nan)

instance (t : ℚ) (l : List Inventory) : Decidable (Undoable t l) := by
  cases l with
  | nil => exact inferInstanceAs (Decidable False)
  | cons first rest => exact inferInstanceAs (Decidable (_ ∧ _))

/-! ## Pieces in soft-deleted batches -/

/-- The pieces in soft-deleted batches. A sale takes them; a reversal does not give them back. -/
def hidden (l : List Inventory) : ℚ := (l.map fun b => if b.isDeleted then b.quantity else 0).sum

theorem hidden_cons (b : Inventory) (rest : List Inventory) :
    hidden (b :: rest) = (if b.isDeleted then b.quantity else 0) + hidden rest := by
  simp [hidden]

theorem hidden_eq_stock {l : List Inventory} (h : ∀ b ∈ l, b.isDeleted = true) :
    hidden l = Lots.stock l := by
  rw [hidden, stock_eq]
  congr 1
  apply List.map_congr_left
  intro b hb
  rw [h b hb, if_pos rfl]

theorem hidden_draw_le {t : ℚ} {l : List Inventory} (ht : 0 ≤ t) (hpos : ∀ b ∈ l, 0 < b.quantity) :
    hidden (draw t l) ≤ hidden l := by
  induction l generalizing t with
  | nil => exact le_rfl
  | cons e rest ih =>
      have h₀ : 0 < e.quantity := hpos e List.mem_cons_self
      have hrest : ∀ b ∈ rest, 0 < b.quantity := fun b hb => hpos b (List.mem_cons_of_mem e hb)
      by_cases hq : e.quantity ≤ t
      · have hle := ih (sub_nonneg.2 hq) hrest
        rw [Lots.draw_used_up rest h₀ hq, amount_inventory, hidden_cons]
        split <;> linarith
      · rw [Lots.draw_remainder rest h₀ hq, hidden_cons, hidden_cons]
        simp only [amount_inventory, setAmount_inventory]
        split <;> linarith

/-- A draw that starts in a soft-deleted batch takes pieces that are not given back. -/
theorem hidden_draw_lt {t : ℚ} {e : Inventory} {rest : List Inventory} (ht : 0 < t)
    (hpos : ∀ b ∈ e :: rest, 0 < b.quantity) (hdeleted : e.isDeleted = true) :
    hidden (draw t (e :: rest)) < hidden (e :: rest) := by
  have h₀ : 0 < e.quantity := hpos e List.mem_cons_self
  have hrest : ∀ b ∈ rest, 0 < b.quantity := fun b hb => hpos b (List.mem_cons_of_mem e hb)
  by_cases hq : e.quantity ≤ t
  · have hle := hidden_draw_le (sub_nonneg.2 hq) hrest
    rw [Lots.draw_used_up rest h₀ hq, hidden_cons, if_pos hdeleted]
    exact hle.trans_lt (lt_add_of_pos_left _ h₀)
  · rw [Lots.draw_remainder rest h₀ hq, hidden_cons, hidden_cons]
    simpa [hdeleted] using ht

/-- A draw that leaves all of the batches, and all of them soft-deleted, met no others. -/
theorem deleted_of_draw {t : ℚ} {l : List Inventory} (hlength : (draw t l).length = l.length)
    (h : ∀ b ∈ draw t l, b.isDeleted = true) : ∀ b ∈ l, b.isDeleted = true := by
  have hflags : (draw t l).map Inventory.isDeleted = l.map Inventory.isDeleted :=
    (map_draw_sublist (fun _ _ => rfl) t l).eq_of_length (by simpa using hlength)
  intro b hb
  have hmem : b.isDeleted ∈ (draw t l).map Inventory.isDeleted :=
    hflags ▸ List.mem_map_of_mem hb
  obtain ⟨d, hd, hflag⟩ := List.mem_map.1 hmem
  exact hflag ▸ h d hd

/-- A draw from soft-deleted batches takes pieces that are not given back. -/
theorem eq_zero_of_hidden_draw {t : ℚ} {l : List Inventory} (ht : 0 ≤ t) (henough : t ≤ supply l)
    (hleft : ∀ b ∈ draw t l, b.isDeleted = true) (hl : ∀ b ∈ l, b.isDeleted = true)
    (h : hidden (draw t l) = hidden l) : t = 0 := by
  have hstock := stock_draw ht henough
  rw [hidden_eq_stock hleft, hidden_eq_stock hl] at h
  linarith

theorem length_draw_le (t : ℚ) (l : List Inventory) : (draw t l).length ≤ l.length := by
  simpa using (map_draw_sublist (f := fun _ => ()) (fun _ _ => rfl) t l).length_le

theorem hidden_creditDocs (p : ObjectId) (q : ℚ) (l : List Inventory) :
    hidden (creditDocs p q l) = hidden l := by
  induction l with
  | nil => rfl
  | cons inv rest ih =>
      by_cases hcr : Credits p inv = true
      · have hlive : inv.isDeleted = false := by
          simp only [Credits, Bool.and_eq_true, Bool.not_eq_true'] at hcr
          exact hcr.1
        rw [creditDocs_first hcr, hidden_cons, hidden_cons]
        simp [hlive]
      · rw [creditDocs_later hcr, hidden_cons, hidden_cons, ih]

theorem length_creditDocs (p : ObjectId) (q : ℚ) (l : List Inventory) :
    (creditDocs p q l).length = l.length := by
  induction l with
  | nil => rfl
  | cons inv rest ih =>
      by_cases hcr : Credits p inv = true
      · rw [creditDocs_first hcr, List.length_cons, List.length_cons]
      · rw [creditDocs_later hcr, List.length_cons, List.length_cons, ih]

/-- What is given back is not hidden. -/
theorem GivenBack.hidden_eq {s : Store} {prd : ObjectId} {q : ℚ} {l' : List Inventory}
    (h : GivenBack s prd q l') : hidden l' = hidden (s.batches prd) := by
  cases h with
  | credited live batches => rw [batches, hidden_creditDocs]
  | rebuilt last n none_live snapshot valid batches =>
      rw [batches]
      simp [hidden, Snapshot.toInventory]

/-! ## The same batches -/

theorem eq_of_perm_append {α : Type} {a b : α} {l : List α} (h : (l ++ [a]).Perm (b :: l)) :
    a = b := by
  have hcons := Multiset.coe_eq_coe.2 ((List.perm_append_singleton a l).symm.trans h)
  rw [← Multiset.cons_coe, ← Multiset.cons_coe] at hcons
  exact (Multiset.cons_inj_left _).1 hcons

namespace Restored

variable {s s' : Store} {id : ObjectId}

theorem length_eq (h : Restored s s' id) : (s'.batches id).length = (s.batches id).length := by
  simpa using List.Perm.length_eq h

/-- The same batches come to the same sum of anything that does not depend on the ids. -/
theorem sum_eq (h : Restored s s' id) (w : Inventory → ℚ) (hw : ∀ b, w (forgetId b) = w b) :
    ((s'.batches id).map w).sum = ((s.batches id).map w).sum := by
  have hcomp : w ∘ forgetId = w := funext hw
  have hsum := (List.Perm.map w h).sum_eq
  rwa [List.map_map, List.map_map, hcomp] at hsum

end Restored

/-! ## A sale and its reversal -/

section Core

variable {s s₁ s₂ : Store} {id : ObjectId} {t : ℚ} {first : Inventory} {rest : List Inventory}
  (hl : s.batches id = first :: rest) (hpos : ∀ b ∈ s.batches id, 0 < b.quantity)
  (hdraw : s₁.batches id = draw t (s.batches id))
  (hgiven : GivenBack s₁ id t (s₂.batches id))

include hl hpos hdraw hgiven

/-- The sale ends in the first batch, which gets the pieces back. -/
theorem batches_eq_of_lt (hlive : first.isDeleted = false) (hlt : t < first.quantity) :
    s₂.batches id = s.batches id := by
  have hmem : first ∈ s.batches id := by simp [hl]
  have hlow : s₁.batches id = { first with quantity := first.quantity - t } :: rest := by
    rw [hdraw, hl, Lots.draw_remainder rest (hpos first hmem) (not_le.2 hlt)]
    rfl
  have hcr : Credits id { first with quantity := first.quantity - t } = true := by
    simp [Credits, hlive, (mem_batches.1 hmem).2]
  cases hgiven with
  | credited live batches =>
      rw [batches, hlow, creditDocs_first hcr, hl]
      simp
  | rebuilt last n none_live snapshot valid batches =>
      rw [hlow, List.find?_cons_of_pos hcr] at none_live
      cases none_live

/-- The sale takes the only live batch, which comes back from the snapshot. -/
theorem restored_of_rebuilt (heq : t = first.quantity) (hlive : first.isDeleted = false)
    (hothers : ∀ b ∈ rest, b.isDeleted = true) (hinitial : first.initialQuantity = 0)
    (hsnap : ∀ last ∈ (s₁.lastsOf id).head?, last.toSnapshot = first.snapshot) :
    Restored s s₂ id := by
  have hmem : first ∈ s.batches id := by simp [hl]
  have hrest : s₁.batches id = rest := by
    rw [hdraw, hl, Lots.draw_used_up rest (hpos first hmem) heq.ge, amount_inventory, heq,
      sub_self, draw_zero]
  cases hgiven with
  | credited live batches =>
      refine absurd (List.find?_eq_none.2 ?_) live
      intro b hb
      rw [hrest] at hb
      simp [Credits, hothers b hb]
  | rebuilt last n none_live snapshot valid batches =>
      have hback : forgetId (last.toInventory n t) = forgetId first := by
        rw [hsnap last snapshot, heq]
        simp [forgetId, Snapshot.toInventory, Inventory.snapshot, hinitial, hlive]
      rw [Restored, batches, hrest, hl, List.map_append, List.map_cons, List.map_cons, hback]
      exact List.perm_append_singleton _ _

/-- If the batches are the same, then the sale took nothing or everything from the first one, and
nothing from the others. -/
theorem undoable_of_restored (ht : 0 < t) (henough : t ≤ Lots.stock (s.batches id))
    (h : Restored s s₂ id) : Undoable t (s.batches id) := by
  have hhidden : hidden (draw t (s.batches id)) = hidden (s.batches id) := by
    rw [← hdraw, ← hgiven.hidden_eq]
    exact h.sum_eq _ fun _ => rfl
  have hlength := h.length_eq
  rw [hl] at hpos hdraw henough hhidden hlength ⊢
  have h₀ : 0 < first.quantity := hpos first List.mem_cons_self
  have hlive : first.isDeleted = false := by
    by_contra hdeleted
    exact (hidden_draw_lt ht hpos (Bool.not_eq_false _ ▸ hdeleted)).ne hhidden
  refine ⟨hlive, ?_⟩
  by_cases hlt : t < first.quantity
  · exact .inl hlt
  right
  have hq : first.quantity ≤ t := not_lt.1 hlt
  rw [Lots.draw_used_up rest h₀ hq, amount_inventory] at hdraw hhidden
  rw [hidden_cons, hlive, if_neg Bool.false_ne_true, zero_add] at hhidden
  have hshorter := length_draw_le (t - first.quantity) rest
  cases hgiven with
  | credited live batches =>
      -- one batch is missing
      rw [batches, length_creditDocs, hdraw, List.length_cons] at hlength
      omega
  | rebuilt last n none_live snapshot valid batches =>
      -- only one batch was used up, and the others are soft-deleted
      have hsame : (draw (t - first.quantity) rest).length = rest.length := by
        rw [batches, hdraw, List.length_append, List.length_singleton, List.length_cons] at hlength
        omega
      have hdeleted : ∀ b ∈ draw (t - first.quantity) rest, b.isDeleted = true := by
        intro b hb
        rw [← hdraw] at hb
        have hnot := List.find?_eq_none.1 none_live b hb
        simpa [Credits, (mem_batches.1 hb).2] using hnot
      have hothers := deleted_of_draw hsame hdeleted
      -- nothing was taken from them
      have hsupply : t - first.quantity ≤ supply rest := by
        rw [stock_cons, amount_inventory] at henough
        linarith [stock_le_supply rest]
      have hnothing : t - first.quantity = 0 :=
        eq_zero_of_hidden_draw (sub_nonneg.2 hq) hsupply hdeleted hothers hhidden
      rw [hnothing, draw_zero] at hdraw
      -- so the rebuilt batch is the first one
      have hback : forgetId (last.toInventory n t) = forgetId first := by
        rw [Restored, batches, hdraw, hl, List.map_append, List.map_cons, List.map_cons] at h
        exact eq_of_perm_append h
      have hcpq : last.cpq = first.cpq := congrArg Inventory.cpq hback
      have hinitial : 0 = first.initialQuantity := congrArg Inventory.initialQuantity hback
      exact ⟨sub_eq_zero.1 hnothing, hothers, hinitial.symm, hcpq ▸ (Snapshot.valid_iff.1 valid).2⟩

end Core

section Sold

variable {db : Db} {id : ObjectId} {body : SalesBody} {caller : Caller} {env : Env} {user : User}
  {product : Product} {data : SalesInput} (hids : AllFresh db)
  (h : Sells db id body caller env user product data)

include hids h

/-- The sale that is recorded last is of the pieces that were asked for. -/
theorem quantity_of_sells {sale : Sale}
    (hsale : (serveStep ⟨.recordSales id body, caller, env⟩ db).store.sales.docs =
      db.store.sales.docs ++ [sale]) : sale.quantity = data.pieces product := by
  rw [h.sales hids] at hsale
  have heq := List.append_cancel_left hsale
  rw [List.cons.injEq] at heq
  rw [← heq.1]
  rfl

/-- If it takes exactly the only live batch, that is the snapshot it leaves, if it leaves one. -/
theorem snapshot_of_only {first : Inventory} {rest : List Inventory}
    (hl : db.store.batches id = first :: rest) (h₀ : 0 < first.quantity)
    (hq : first.quantity ≤ data.pieces product) (hlive : first.isDeleted = false)
    (hothers : ∀ b ∈ rest, b.isDeleted = true) (hcpq : first.cpq ≠ .nan) :
    ∀ last ∈ ((serveStep ⟨.recordSales id body, caller, env⟩ db).store.lastsOf id).head?,
      last.toSnapshot = first.snapshot := by
  have hused : usedUp false (data.pieces product) (db.store.batches id) ≠ 0 := by
    rw [hl, (Serial.draw_used_up rest h₀ hq).2.1]
    exact Nat.succ_ne_zero _
  have honly : db.store.liveBatches id = [first] := by
    rw [liveBatches_eq, hl, List.filter_cons_of_pos (by simp [hlive]),
      List.filter_eq_nil_iff.2 fun b hb => by simp [hothers b hb]]
  intro last hlast
  have hleft := snapshot_of_sells hids h hused
  rw [Option.mem_def.1 hlast, snapshotLeft, honly] at hleft
  by_cases hcan : CanSnapshot db.store id first
  · simpa [hcan] using hleft
  · -- no snapshot could be written, and there was none before
    have hnone : (db.store.lastsOf id).head? = none := by
      by_contra hsome
      exact hcan ⟨hcpq, .inl hsome⟩
    simp [hcan, hnone] at hleft

end Sold

/-- Undoing a sale right away leaves the product with the same batches exactly if it is undone for
this product and the sale was of pieces that a reversal puts back where they were. -/
theorem sale_undone_iff {db : Db} {id prd : ObjectId} {body : SalesBody} {caller caller' : Caller}
    {env env' : Env} {t : ℚ} {sale : Sale} (hids : AllFresh db)
    (hpos : ∀ b ∈ db.store.batches id, 0 < b.quantity)
    (hasks : piecesAsked db.store id body = some t) (ht : 0 < t)
    (hcommits : Commits ⟨.recordSales id body, caller, env⟩ db)
    (hsale : (serveStep ⟨.recordSales id body, caller, env⟩ db).store.sales.docs =
      db.store.sales.docs ++ [sale])
    (hundone : (serve ⟨.deleteSalesRecord sale._id prd, caller', env'⟩
      (serveStep ⟨.recordSales id body, caller, env⟩ db)).loc.sent = [recordDeleted]) :
    Restored db.store (serveStep ⟨.deleteSalesRecord sale._id prd, caller', env'⟩
        (serveStep ⟨.recordSales id body, caller, env⟩ db)).store id ↔
      prd = id ∧ Undoable t (db.store.batches id) := by
  obtain ⟨user, product, data, h⟩ := (commits_recordSales_iff hids).1 hcommits
  obtain rfl := pieces_of_sells h hasks
  rcases deleteSalesRecord_served (serveStep ⟨.recordSales id body, caller, env⟩ db) sale._id prd
    caller' env' with ⟨⟨-, hreversed⟩, -⟩ | ⟨-, -, hsent, -⟩
  swap
  · exact absurd hundone hsent
  obtain ⟨sale', hfound, hgiven, hothers⟩ := givenBack_of_reversed hreversed
  -- the sale that is found is the one that was recorded
  obtain rfl : sale = sale' := by
    have hmem : sale ∈ (serveStep ⟨.recordSales id body, caller, env⟩ db).store.sales.docs := by
      simp [hsale]
    exact Option.some.inj ((Collection.get?_of_mem hmem).symm.trans hfound)
  rw [quantity_of_sells hids h hsale] at hgiven
  have hdraw := h.batches hids
  by_cases hprd : prd = id
  · subst hprd
    obtain ⟨first, rest, hl⟩ := List.exists_cons_of_ne_nil h.stocked
    constructor
    · intro hrestored
      exact ⟨rfl, undoable_of_restored hl hpos hdraw hgiven ht h.enough hrestored⟩
    · rintro ⟨-, hundoable⟩
      rw [hl] at hundoable
      obtain ⟨hlive, hlt | ⟨heq, hdeleted, hinitial, hcpq⟩⟩ := hundoable
      · rw [Restored, batches_eq_of_lt hl hpos hdraw hgiven hlive hlt]
      · have hsnap := snapshot_of_only hids h hl (hpos first (by simp [hl])) heq.ge hlive hdeleted
          hcpq
        exact restored_of_rebuilt hl hpos hdraw hgiven heq hlive hdeleted hinitial hsnap
  · refine iff_of_false (fun hrestored => ?_) fun hboth => hprd hboth.1
    -- the pieces went to another product
    have hsum := hrestored.sum_eq Inventory.quantity fun _ => rfl
    have hleft := stock_draw ht.le (h.enough.trans (stock_le_supply _))
    rw [hothers id hprd, hdraw] at hsum
    rw [stock_eq, hsum, ← stock_eq] at hleft
    linarith

/-- Four of ten pieces are sold, and given back. -/
theorem sale_undone_four :
    let sold := serveStep (Sample.call (.recordSales 1 (Sample.salesBody 4))) oneBatch
    ∃ sale ∈ sold.store.sales.docs, Restored oneBatch.store
      (serveStep (Sample.call (.deleteSalesRecord sale._id 1)) sold).store 1 := by
  intro sold
  have hsale : ∃ sale ∈ sold.store.sales.docs,
      sold.store.sales.docs = oneBatch.store.sales.docs ++ [sale] ∧
        (serve (Sample.call (.deleteSalesRecord sale._id 1)) sold).loc.sent = [recordDeleted] := by
    decide +kernel
  obtain ⟨sale, hmem, hdocs, hundone⟩ := hsale
  refine ⟨sale, hmem, ?_⟩
  exact (sale_undone_iff (t := 4) ((allFresh_of_isEmpty Sample.isEmpty).serveAll _)
    (by decide +kernel) (by decide +kernel) (by decide +kernel) (by decide +kernel) hdocs
    hundone).2 (by decide +kernel)

/-- Twelve pieces of two batches come back as one batch. All ten pieces of one batch come back with
no initial quantity. -/
theorem sales_not_restored :
    let sold := serveStep (Sample.call (.recordSales 1 (Sample.salesBody 12))) twoBatches
    let undo := Sample.call (.deleteSalesRecord 6 1)
    let soldOut := serveStep (Sample.call (.recordSales 1 (Sample.salesBody 10))) oneBatch
    let undoSoldOut := Sample.call (.deleteSalesRecord 5 1)
    ((serve undo sold).loc.sent = [recordDeleted] ∧
      ((serveStep undo sold).store.batches 1).map Inventory.quantity = [15] ∧
      ¬Restored twoBatches.store (serveStep undo sold).store 1) ∧
      (serve undoSoldOut soldOut).loc.sent = [recordDeleted] ∧
      ((serveStep undoSoldOut soldOut).store.batches 1).map Inventory.initialQuantity = [0] ∧
      ¬Restored oneBatch.store (serveStep undoSoldOut soldOut).store 1 := by
  decide +kernel

end InventoryHero.Reversal
