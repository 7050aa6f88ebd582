import InventoryHero.Model.ProductController
import Mathlib.Tactic.Linarith
import Mathlib.Tactic.Ring

/-!
# Drawing pieces from batches

`recordSales` takes the pieces it sells from the product's batches in storage order: a batch that
is used up is deleted, the batch the draw ends in keeps the remainder, and an empty batch is passed
over. `drawWrites` is the list of writes this amounts to. It takes exactly the pieces asked for from
the product's stock (`total_drawWrites`) and only ever lowers a batch (`mem_drawWrites`).
-/

set_option autoImplicit false

namespace InventoryHero.Stock

open Storage Model

/-- The writes of a draw of `t` pieces from the given batches. -/
def drawWrites (t : ℚ) : List Inventory → List (DocWrite Inventory)
  | [] => []
  | element :: rest =>
      if 0 < element.quantity then
        if element.quantity ≤ t then .delete element._id :: drawWrites (t - element.quantity) rest
        else [.modify element._id (setQuantity (element.quantity - t))]
      else drawWrites t rest

/-- The order of the writes of a batch that is used up: its snapshot, its deletion, then those of
the batches after it. -/
theorem append_usedUp (w : Writes) (lw lw' : List (DocWrite Last)) (k : ObjectId)
    (iw : List (DocWrite Inventory)) :
    w ++ { lasts := lw } ++ { inventories := [.delete k] } ++ { inventories := iw, lasts := lw' } =
      w ++ { inventories := .delete k :: iw, lasts := lw ++ lw' } := by
  cases w
  simp

section Equations

variable {t : ℚ} {e : Inventory} (rest : List Inventory)

theorem drawWrites_used_up (h₀ : 0 < e.quantity) (h : e.quantity ≤ t) :
    drawWrites t (e :: rest) = .delete e._id :: drawWrites (t - e.quantity) rest := by
  simp only [drawWrites, h₀, h, if_true]

theorem drawWrites_remainder (h₀ : 0 < e.quantity) (h : ¬ e.quantity ≤ t) :
    drawWrites t (e :: rest) = [.modify e._id (setQuantity (e.quantity - t))] := by
  simp only [drawWrites, h₀, h, if_true, if_false]

theorem drawWrites_skip (h₀ : ¬ 0 < e.quantity) :
    drawWrites t (e :: rest) = drawWrites t rest := by
  simp only [drawWrites, h₀, if_false]

end Equations

theorem nodup_batches (s : Store) (p : ObjectId) : ((s.batches p).map Inventory._id).Nodup :=
  s.inventories.nodup.sublist (List.filter_sublist.map _)

theorem mem_batches {s : Store} {p : ObjectId} {b : Inventory} :
    b ∈ s.batches p ↔ b ∈ s.inventories.docs ∧ b.product = p := by
  simp [Store.batches]

theorem liveBatches_eq (s : Store) (p : ObjectId) :
    s.liveBatches p = (s.batches p).filter fun b => !b.isDeleted :=
  List.filter_comm _ _ _

theorem mem_liveBatches {s : Store} {p : ObjectId} {b : Inventory} (h : b ∈ s.liveBatches p) :
    b ∈ s.inventories.docs ∧ b.product = p := by
  rw [liveBatches_eq] at h
  exact mem_batches.1 (List.mem_of_mem_filter h)

theorem quantitySum_eq (l : List Inventory) : quantitySum l = (l.map Inventory.quantity).sum :=
  List.sum_eq_foldl.symm

/-- The aggregation finds the batches of the product. -/
theorem stock_head {s : Store} {id : ObjectId} {populated : Populated}
    (h : (s.stock id).head? = some populated) : populated.inventoryData = s.batches id := by
  have hmem := List.mem_of_head? h
  simp only [Store.stock, List.mem_insertionSort, List.mem_map, List.mem_filter,
    decide_eq_true_eq] at hmem
  obtain ⟨product, ⟨-, rfl⟩, rfl⟩ := hmem
  rfl

/-! ## Effect on the stock -/

/-- What a batch contributes to the stock of product `p`. -/
def quantityOf (p : ObjectId) (inv : Inventory) : ℚ := if inv.product = p then inv.quantity else 0

/-- A draw of `t` pieces takes `t` from the stock of the product, wherever the batches it writes
still are what the draw was computed from. -/
theorem total_drawWrites {c : Collection Inventory} {l : List Inventory} {t : ℚ} {p : ObjectId}
    (hl : (l.map Inventory._id).Nodup) (hp : ∀ e ∈ l, e.product = p)
    (hc : ∀ e ∈ l, e._id ∈ (drawWrites t l).map DocWrite.key → c.get? e._id = some e)
    (ht : 0 ≤ t) (hle : t ≤ (l.map Inventory.quantity).sum) (p' : ObjectId) :
    (c.writeAll (drawWrites t l)).total (quantityOf p') =
      c.total (quantityOf p') - if p = p' then t else 0 := by
  -- along the batches, with the collection as the earlier writes have left it
  induction l generalizing c t with
  | nil =>
      have : t = 0 := le_antisymm hle ht
      simp [drawWrites, this]
  | cons e rest ih =>
      have hep : e.product = p := hp e List.mem_cons_self
      have hrest : ∀ e' ∈ rest, e'.product = p := fun e' he' => hp e' (List.mem_cons_of_mem _ he')
      rw [List.map_cons, List.nodup_cons] at hl
      rw [List.map_cons, List.sum_cons] at hle
      by_cases h₀ : 0 < e.quantity
      · by_cases hq : e.quantity ≤ t
        · rw [drawWrites_used_up rest h₀ hq] at hc ⊢
          have hce := hc e List.mem_cons_self (by simp [DocWrite.key])
          rw [Collection.writeAll_cons, Collection.write_delete,
            ih hl.2 hrest ?_ (by linarith) (by linarith), Collection.total_delete _ hce]
          · simp only [quantityOf, hep]
            split <;> ring
          · intro e' he' hk
            -- the deletion leaves the other batches as they are
            have hne : e'._id ≠ e._id := fun h => hl.1 (h ▸ List.mem_map_of_mem he')
            rw [Collection.get?_delete, if_neg hne]
            exact hc e' (List.mem_cons_of_mem _ he') (by simp [hk])
        · rw [drawWrites_remainder rest h₀ hq] at hc ⊢
          have hce := hc e List.mem_cons_self (by simp [DocWrite.key])
          rw [Collection.writeAll_cons, Collection.writeAll_nil, Collection.write_modify,
            Collection.total_modify _ hce]
          simp only [quantityOf, setQuantity, hep]
          split <;> ring
      · rw [drawWrites_skip rest h₀] at hc ⊢
        exact ih hl.2 hrest (fun e' he' => hc e' (List.mem_cons_of_mem _ he')) ht (by linarith)

/-- A draw deletes batches and lowers at most one, which stays positive. -/
theorem mem_drawWrites {c : Collection Inventory} {l : List Inventory} {t : ℚ}
    (hl : ∀ e ∈ l, e ∈ c.docs) (hn : (l.map Inventory._id).Nodup) {b : Inventory}
    (hb : b ∈ (c.writeAll (drawWrites t l)).docs) :
    ∃ a ∈ c.docs, b = { a with quantity := b.quantity } ∧
      (b.quantity = a.quantity ∨ 0 < b.quantity ∧ (0 ≤ t → b.quantity ≤ a.quantity)) := by
  induction l generalizing c t with
  | nil => exact ⟨b, hb, rfl, .inl rfl⟩
  | cons e rest ih =>
      rw [List.map_cons, List.nodup_cons] at hn
      by_cases h₀ : 0 < e.quantity
      · by_cases hq : e.quantity ≤ t
        · rw [drawWrites_used_up rest h₀ hq, Collection.writeAll_cons,
            Collection.write_delete] at hb
          -- the batches after this one are still stored
          have hrest : ∀ e' ∈ rest, e' ∈ (c.delete e._id).docs := by
            intro e' he'
            refine Collection.mem_delete.2 ⟨hl e' (List.mem_cons_of_mem _ he'), ?_⟩
            exact fun h => hn.1 (h ▸ List.mem_map_of_mem he')
          obtain ⟨a, ha, hba, hcase⟩ := ih hrest hn.2 hb
          refine ⟨a, (Collection.mem_delete.1 ha).1, hba, hcase.imp_right fun h => ⟨h.1, ?_⟩⟩
          exact fun _ => h.2 (sub_nonneg.2 hq)
        · rw [drawWrites_remainder rest h₀ hq] at hb
          obtain ⟨a, ha, rfl⟩ := Collection.mem_modify.1 hb
          refine ⟨a, ha, ?_⟩
          by_cases hk : a._id = e._id
          -- the batch that the draw ends in
          · have hae : a = e :=
              Collection.eq_of_key_eq ha (hl e List.mem_cons_self) hk
            subst hae
            simp only [key_inventory, if_true, setQuantity, true_and]
            right
            constructor
            · linarith
            · intro ht
              linarith
          · simp [hk]
      · rw [drawWrites_skip rest h₀] at hb
        exact ih (fun e' he' => hl e' (List.mem_cons_of_mem _ he')) hn.2 hb

end InventoryHero.Stock
