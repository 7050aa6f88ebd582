import InventoryHero.Lots.Draw
import InventoryHero.Stock.Credit
import InventoryHero.Storage.Locality

/-!
# Batches as lots

The writes of a sale leave the product with the batches that drawing from them as lots leaves
(`batches_drawWrites`), and every other product with its batches as they were
(`batches_drawWrites_of_ne`). What becomes of one batch is a matter of the pieces before it
(`get?_drawWrites`).
-/

set_option autoImplicit false

namespace InventoryHero.Stock

open Storage Model Lots

instance : Lot Inventory ℚ where
  amount := Inventory.quantity
  setAmount q inv := { inv with quantity := q }
  amount_setAmount _ _ := rfl
  setAmount_setAmount _ _ _ := rfl
  setAmount_amount _ := rfl

@[simp] theorem amount_inventory (inv : Inventory) : amount inv = inv.quantity := rfl

@[simp] theorem setAmount_inventory (q : ℚ) (inv : Inventory) :
    setAmount q inv = { inv with quantity := q } := rfl

theorem stock_eq (l : List Inventory) : stock l = (l.map Inventory.quantity).sum := rfl

/-! ## The batches of the product -/

theorem key_not_mem {done rest : List Inventory} {e : Inventory}
    (h : ((done ++ e :: rest).map Inventory._id).Nodup) :
    e._id ∉ done.map Inventory._id ∧ e._id ∉ rest.map Inventory._id := by
  rw [List.map_append, List.map_cons, List.nodup_middle, List.nodup_cons] at h
  exact not_or.1 fun hmem => h.1 (List.mem_append.2 hmem)

theorem filter_key_ne {done rest : List Inventory} {e : Inventory}
    (h : ((done ++ e :: rest).map Inventory._id).Nodup) :
    ((done ++ e :: rest).filter fun d => d._id ≠ e._id) = done ++ rest := by
  have hkeep : ∀ l : List Inventory, e._id ∉ l.map Inventory._id →
      (l.filter fun d => d._id ≠ e._id) = l := by
    intro l hl
    apply List.filter_eq_self.2
    intro d hd
    have hne : d._id ≠ e._id := fun he => hl (he ▸ List.mem_map_of_mem hd)
    simpa using hne
  obtain ⟨hdone, hrest⟩ := key_not_mem h
  rw [List.filter_append, List.filter_cons_of_neg (by simp), hkeep done hdone, hkeep rest hrest]

theorem map_key_eq {done rest : List Inventory} {e : Inventory}
    (h : ((done ++ e :: rest).map Inventory._id).Nodup) (patch : Patch Inventory) :
    ((done ++ e :: rest).map fun d => if d._id = e._id then patch.apply d else d) =
      done ++ patch.apply e :: rest := by
  obtain ⟨hdone, hrest⟩ := key_not_mem h
  rw [List.map_append, List.map_cons, map_patch_of_fresh hdone, map_patch_of_fresh hrest,
    if_pos rfl]

theorem filter_drawWrites {c : Collection Inventory} {p : ObjectId} {l : List Inventory} {t : ℚ}
    (done : List Inventory) (h : (c.docs.filter fun d => d.product = p) = done ++ l) :
    ((c.writeAll (drawWrites t l)).docs.filter fun d => d.product = p) = done ++ draw t l := by
  -- along the batches still to come; `done` are those that stay
  induction l generalizing c done t with
  | nil => simpa [drawWrites, draw] using h
  | cons e rest ih =>
      have hnodup : ((done ++ e :: rest).map Inventory._id).Nodup := by
        rw [← h]
        exact c.nodup.sublist (List.filter_sublist.map _)
      by_cases h₀ : 0 < e.quantity
      · by_cases hq : e.quantity ≤ t
        · rw [drawWrites_used_up rest h₀ hq, Collection.writeAll_cons, Collection.write_delete,
            draw_used_up rest h₀ hq]
          apply ih
          rw [Collection.docs_delete, List.filter_comm, h]
          exact filter_key_ne hnodup
        · rw [drawWrites_remainder rest h₀ hq, Collection.writeAll_cons, Collection.writeAll_nil,
            Collection.write_modify, draw_remainder rest h₀ hq, Collection.docs_modify,
            List.filter_map]
          have hproduct : ((fun d : Inventory => decide (d.product = p)) ∘ fun d =>
              if Keyed.key d = e._id then (setQuantity (e.quantity - t)).apply d else d) =
              fun d => decide (d.product = p) := by
            funext d
            by_cases hd : d._id = e._id <;> simp [hd, setQuantity]
          rw [hproduct, h]
          exact map_key_eq hnodup (setQuantity (e.quantity - t))
      · rw [drawWrites_skip rest h₀, draw_skip rest h₀]
        have hdone : (c.docs.filter fun d => d.product = p) = (done ++ [e]) ++ rest := by
          simpa using h
        simpa using ih (done ++ [e]) hdone

theorem filter_batches_drawWrites (s : Store) (p : ObjectId) (t : ℚ) :
    ((s.inventories.writeAll (drawWrites t (s.batches p))).docs.filter fun d => d.product = p) =
      draw t (s.batches p) :=
  filter_drawWrites [] rfl

/-- The product is left with the batches that the draw leaves. -/
theorem batches_drawWrites {s s' : Store} {p : ObjectId} {t : ℚ}
    (h : s'.inventories = s.inventories.writeAll (drawWrites t (s.batches p))) :
    s'.batches p = draw t (s.batches p) := by
  rw [Store.batches, h, filter_batches_drawWrites]

/-- A draw writes the batches it is given, each in place. -/
theorem confined_drawWrites {c : Collection Inventory} {p : ObjectId} {new : ObjectId → Prop}
    {t : ℚ} {l : List Inventory} (hl : ∀ b ∈ l, b ∈ c.docs ∧ b.product = p) :
    ∀ x ∈ drawWrites t l, Confined Inventory.product c p new x := by
  induction l generalizing t with
  | nil => exact List.forall_mem_nil _
  | cons b rest ih =>
      obtain ⟨hb, hproduct⟩ := hl b List.mem_cons_self
      have hrest {t : ℚ} := ih (t := t) fun d hd => hl d (List.mem_cons_of_mem b hd)
      by_cases h₀ : 0 < b.quantity
      · by_cases hq : b.quantity ≤ t
        · rw [drawWrites_used_up rest h₀ hq]
          exact List.forall_mem_cons.2 ⟨.delete hb hproduct, hrest⟩
        · rw [drawWrites_remainder rest h₀ hq]
          exact List.forall_mem_singleton.2 (.modify hb hproduct fun _ h => h)
      · rw [drawWrites_skip rest h₀]
        exact hrest

/-- Other products keep their batches. -/
theorem batches_drawWrites_of_ne {s s' : Store} {p p' : ObjectId} {t : ℚ}
    (h : s'.inventories = s.inventories.writeAll (drawWrites t (s.batches p))) (hp : p ≠ p') :
    s'.batches p' = s.batches p' := by
  have hconf : ∀ x ∈ drawWrites t (s.batches p),
      Confined Inventory.product s.inventories p (fun _ => False) x :=
    confined_drawWrites fun b hb => mem_batches.1 hb
  rw [Store.batches, h]
  exact Confined.frame (fun _ _ => not_false) hconf hp

/-! ## Credits and new batches -/

theorem firstLive_eq (p : ObjectId) (s : Store) :
    firstLive p s.inventories = (s.batches p).find? (Credits p) := by
  rw [Store.batches, List.find?_filter, firstLive]
  congr 1
  funext inv
  simp [Credits]

theorem filter_creditDocs (p : ObjectId) (q : ℚ) (l : List Inventory) :
    ((creditDocs p q l).filter fun d => d.product = p) =
      creditDocs p q (l.filter fun d => d.product = p) := by
  induction l with
  | nil => rfl
  | cons inv rest ih =>
      by_cases hcr : Credits p inv = true
      · have hp := product_of_credits hcr
        rw [creditDocs_first hcr, List.filter_cons_of_pos (by simpa using hp),
          List.filter_cons_of_pos (by simpa using hp), creditDocs_first hcr]
      · rw [creditDocs_later hcr]
        by_cases hp : inv.product = p
        · rw [List.filter_cons_of_pos (by simpa using hp),
            List.filter_cons_of_pos (by simpa using hp), creditDocs_later hcr, ih]
        · rw [List.filter_cons_of_neg (by simpa using hp),
            List.filter_cons_of_neg (by simpa using hp), ih]

theorem filter_creditDocs_of_ne {p p' : ObjectId} (hp : p ≠ p') (q : ℚ) (l : List Inventory) :
    ((creditDocs p q l).filter fun d => d.product = p') = l.filter fun d => d.product = p' := by
  induction l with
  | nil => rfl
  | cons inv rest ih =>
      by_cases hcr : Credits p inv = true
      · have hne : inv.product ≠ p' := product_of_credits hcr ▸ hp
        rw [creditDocs_first hcr, List.filter_cons_of_neg (by simpa using hne),
          List.filter_cons_of_neg (by simpa using hne)]
      · rw [creditDocs_later hcr, List.filter_cons, List.filter_cons, ih]

section Changes

variable {s s' : Store} {p p' : ObjectId}

theorem batches_credit {q : ℚ} (h : s'.inventories = credit p q s.inventories) :
    s'.batches p = creditDocs p q (s.batches p) := by
  rw [Store.batches, h, docs_credit, filter_creditDocs]
  rfl

theorem batches_credit_of_ne {q : ℚ} (h : s'.inventories = credit p q s.inventories)
    (hp : p ≠ p') : s'.batches p' = s.batches p' := by
  rw [Store.batches, h, docs_credit, filter_creditDocs_of_ne hp]
  rfl

theorem batches_insert {b : Inventory} (h : s'.inventories.docs = s.inventories.docs ++ [b]) :
    s'.batches b.product = s.batches b.product ++ [b] := by
  rw [Store.batches, h, List.filter_append]
  simp [Store.batches]

theorem batches_insert_of_ne {b : Inventory} (h : s'.inventories.docs = s.inventories.docs ++ [b])
    (hp : b.product ≠ p') : s'.batches p' = s.batches p' := by
  rw [Store.batches, h, List.filter_append]
  simp [Store.batches, hp]

end Changes

/-! ## One batch -/

section After

variable {s : Store} {p : ObjectId} {t : ℚ}

/-- A batch that the draw leaves is stored as the draw leaves it. -/
theorem get?_of_mem_draw {d : Inventory} (h : d ∈ draw t (s.batches p)) :
    (s.inventories.writeAll (drawWrites t (s.batches p))).get? d._id = some d := by
  rw [← filter_batches_drawWrites] at h
  exact Collection.get?_of_mem (List.mem_of_mem_filter h)

/-- What is stored after the draw under the id of a batch of the product is left by the draw. -/
theorem mem_draw_of_mem {b d : Inventory} (hb : b ∈ s.batches p)
    (hd : d ∈ (s.inventories.writeAll (drawWrites t (s.batches p))).docs) (hid : d._id = b._id) :
    d ∈ draw t (s.batches p) := by
  obtain ⟨hmem, hproduct⟩ := mem_batches.1 hb
  obtain ⟨a, ha, had, -⟩ := mem_drawWrites (fun e he => (mem_batches.1 he).1) (nodup_batches s p) hd
  have hab : a = b := by
    rw [had] at hid
    exact Collection.eq_of_key_eq ha hmem hid
  rw [← filter_batches_drawWrites, List.mem_filter]
  refine ⟨hd, ?_⟩
  rw [had, hab]
  simpa using hproduct

end After

/-- The draw does not leave a batch that it uses up. -/
theorem key_not_mem_draw {t : ℚ} {before after : List Inventory} {b : Inventory}
    (hn : ((before ++ b :: after).map Inventory._id).Nodup) (h₀ : 0 < b.quantity)
    (hbefore : supply before ≤ t) (hq : b.quantity ≤ t - supply before) :
    b._id ∉ (draw t (before ++ b :: after)).map Inventory._id := by
  obtain ⟨hb, ha⟩ := key_not_mem hn
  rw [draw_append_of_le hbefore, draw_used_up after h₀ hq, List.map_append, List.mem_append]
  rintro (hid | hid)
  · exact hb ((List.filter_sublist.map _).subset hid)
  · exact ha ((map_draw_sublist (fun _ _ => rfl) _ after).subset hid)

/-- A batch with pieces is used up if the draw takes it and everything before it; otherwise it is
lowered by what the draw still wants when it gets there. -/
theorem get?_drawWrites {s : Store} {p : ObjectId} {t : ℚ} {before after : List Inventory}
    {b : Inventory} (hl : s.batches p = before ++ b :: after) (h₀ : 0 < b.quantity)
    (ht : 0 ≤ t) :
    (s.inventories.writeAll (drawWrites t (s.batches p))).get? b._id =
      if supply before + b.quantity ≤ t then none
      else some { b with quantity := b.quantity - max (t - supply before) 0 } := by
  have hmem : b ∈ s.batches p := by simp [hl]
  by_cases hbefore : supply before ≤ t
  · have hmax : max (t - supply before) 0 = t - supply before := max_eq_left (sub_nonneg.2 hbefore)
    by_cases hq : b.quantity ≤ t - supply before
    · rw [if_pos (by linarith), Collection.get?_eq_none_iff]
      intro d hd hid
      have hleft := List.mem_map_of_mem (f := Inventory._id) (mem_draw_of_mem hmem hd hid)
      rw [hl, show d._id = b._id from hid] at hleft
      exact key_not_mem_draw (hl ▸ nodup_batches s p) h₀ hbefore hq hleft
    · rw [if_neg (by linarith), hmax]
      refine get?_of_mem_draw (d := { b with quantity := b.quantity - (t - supply before) }) ?_
      rw [hl, draw_append_of_le hbefore, draw_remainder after h₀ hq]
      simp
  · have hmax : max (t - supply before) 0 = 0 := max_eq_right (by linarith)
    rw [if_neg (by linarith), hmax, sub_zero]
    refine get?_of_mem_draw ?_
    rw [hl, draw_append_of_lt ht (not_le.1 hbefore)]
    simp

end InventoryHero.Stock
