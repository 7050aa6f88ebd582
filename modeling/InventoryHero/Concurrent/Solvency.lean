import InventoryHero.Concurrent.Runs
import InventoryHero.Storage.Locality
import InventoryHero.Batches.Positive

/-!
# Quantities under concurrency

Two sales that read the same batch can overwrite each other, and a reversal can overwrite a sale.
What is stored by then is wrong, but it is never out of range: as long as the requests supply
positive quantities and no batch is edited, every batch has pieces and a number for its unit cost,
sales and pieces per bulk are positive, and so is what a snapshot keeps of the last batch
(`solvent_of_interleaves`). Each write takes its quantity from stores that the request has read, and
these were in range themselves.
-/

set_option autoImplicit false

namespace InventoryHero.Concurrent

open Interaction Storage Model Batches

/-- The value is not `NaN`. -/
def IsNumber (n : JsNumber) : Prop := n ≠ .nan

/-- A batch with pieces and a number for its unit cost. -/
structure Sound (b : Inventory) : Prop where
  quantity : 0 < b.quantity
  cpq : IsNumber b.cpq

/-- The amounts of the store are in range. -/
structure Solvent (s : Store) : Prop extends Trading s where
  batches : ∀ b ∈ s.inventories.docs, Sound b
  lasts : ∀ last ∈ s.lasts.docs, IsNumber last.cpq

/-! ## Writes -/

/-- The writes leave the amounts in range. -/
structure Prudent (w : Writes) : Prop where
  products : ∀ v ∈ w.products, v.Keeps fun p => 0 < p.upb
  inventories : ∀ v ∈ w.inventories, v.Keeps Sound
  sales : ∀ v ∈ w.sales, v.Keeps fun sale => 0 < sale.quantity
  lasts : ∀ v ∈ w.lasts, v.Keeps fun last => IsNumber last.cpq

theorem prudent_empty : Prudent {} := ⟨by simp, by simp, by simp, by simp⟩

theorem Prudent.append {w w' : Writes} (h : Prudent w) (h' : Prudent w') : Prudent (w ++ w') where
  products v hv := (List.mem_append.1 hv).elim (h.products v) (h'.products v)
  inventories v hv := (List.mem_append.1 hv).elim (h.inventories v) (h'.inventories v)
  sales v hv := (List.mem_append.1 hv).elim (h.sales v) (h'.sales v)
  lasts v hv := (List.mem_append.1 hv).elim (h.lasts v) (h'.lasts v)

theorem Solvent.apply {s : Store} {w : Writes} (h : Solvent s) (hw : Prudent w) :
    Solvent (s.apply w) where
  upb := Collection.forall_writeAll h.upb hw.products
  sales := Collection.forall_writeAll h.sales hw.sales
  batches := Collection.forall_writeAll h.batches hw.inventories
  lasts := Collection.forall_writeAll h.lasts hw.lasts

/-- The amounts that a command carries are in range. -/
def InRange : Command → Prop
  | .saveProduct d => 0 < d.upb
  | .saveInventory d => Sound d
  | .saveSale d => 0 < d.quantity
  | .saveLast d => IsNumber d.cpq
  | .updateLast _ obj => IsNumber obj.cpq
  | .updateQuantity _ q => 0 < q
  | .saveQuantity d => 0 < d.quantity
  | .updateInventory _ _ => False
  | .updateProduct _ data => Positive data.upb
  | _ => True

theorem prudent_plan {c : Command} {s : Store} {w : Writes} {r : c.Result} (hc : InRange c)
    (h : c.plan s = .ok (w, r)) : Prudent w := by
  have none {α : Type} [Keyed α ObjectId] {Q : α → Prop} : ∀ v ∈ ([] : List (DocWrite α)),
      v.Keeps Q := List.forall_mem_nil _
  have one {α : Type} [Keyed α ObjectId] {Q : α → Prop} {v : DocWrite α} (hv : v.Keeps Q) :
      ∀ u ∈ [v], u.Keeps Q := List.forall_mem_singleton.2 hv
  cases plan_writes h with
  | saveProduct d => exact ⟨one hc, none, none, none⟩
  | saveInventory d => exact ⟨none, one hc, none, none⟩
  | saveCost d | cost id data k => exact ⟨none, none, none, none⟩
  | saveSale d => exact ⟨none, none, one hc, none⟩
  | saveLast d => exact ⟨none, none, none, one hc⟩
  | currentPrice id price | hide id => exact ⟨one fun _ _ hp => hp, none, none, none⟩
  | product id data =>
      refine ⟨one fun p _ hp => ?_, none, none, none⟩
      change 0 < data.upb.getD p.upb
      cases hupb : data.upb with
      | none => exact hp
      | some upb => exact hc upb hupb
  | snapshot p obj k => exact ⟨none, none, none, one fun _ _ _ => hc⟩
  | updateQuantity id q | saveQuantity d =>
      exact ⟨none, one fun _ _ hb => ⟨hc, hb.cpq⟩, none, none⟩
  | inventory id data q cpq => exact absurd hc not_false
  | deletes _ hi ps is ss cs ls =>
      have all {α : Type} [Keyed α ObjectId] {Q : α → Prop} (l : List ObjectId) :
          ∀ v ∈ l.map (DocWrite.delete (α := α)), v.Keeps Q := by
        intro v hv
        obtain ⟨k, -, rfl⟩ := List.mem_map.1 hv
        trivial
      exact ⟨all ps, all is, all ss, all ls⟩

/-! ## Requests -/

/-- Every quantity and `upb` that the request supplies is positive, and it edits no batch. -/
def SuppliesPieces : WriteRequest → Prop
  | .catalog (.stock r) => SuppliesPositive r ∧ r.OnEdit fun _ _ => False
  | .catalog (.editProduct _ data) => Positive data.upb
  | .catalog (.adminDeleteProduct _) => True
  | .updateProduct _ data => Positive data.upb
  | .updateProductStatus _ _ _ => True

instance : DecidablePred SuppliesPieces
  | .catalog (.stock _) => inferInstanceAs (Decidable (_ ∧ _))
  | .catalog (.editProduct _ data) => inferInstanceAs (Decidable (Positive data.upb))
  | .catalog (.adminDeleteProduct _) => .isTrue trivial
  | .updateProduct _ data => inferInstanceAs (Decidable (Positive data.upb))
  | .updateProductStatus _ _ _ => .isTrue trivial

theorem sound_bought {b : Inventory} {quantity : Option ℚ} (hpos : Positive quantity)
    (hq : quantity = some b.quantity) (hcpq : b.cpq = .div b.costPrice b.quantity) : Sound b := by
  have hb : 0 < b.quantity := hpos _ hq
  refine ⟨hb, ?_⟩
  rw [IsNumber, hcpq, JsNumber.div_of_ne hb.ne']
  exact JsNumber.noConfusion

/-- What a request writes in its transaction is in range if what it has read was. -/
theorem Issues.inRange {x : Exchange} {notes : Notes} {caller : Caller} {r : Request} {c : Command}
    (h : Issues x notes caller r c) (hread : ∀ s, Seen x s → Solvent s)
    (hr : SuppliesPositive r) : InRange c := by
  cases h with
  | product d drawn upb => exact hr.2 _ upb
  | firstBatch b drawn quantity cpq => exact sound_bought hr.1 quantity cpq
  | batch b drawn quantity cpq => exact sound_bought hr quantity cpq
  | renewSnapshot p s b seen found => exact ((hread s seen).batches b found).cpq
  | snapshot n s b drawn seen found => exact ((hread s seen).batches b found).cpq
  | remainder k q positive => exact positive
  | sale d drawn first recorded =>
      obtain ⟨data, valid, -, -, -, -, s, p, seen, found, hq⟩ := recorded.fields
      change 0 < d.quantity
      rw [hq]
      exact (hread s seen).pieces_pos found valid hr
  | restock s s' b sale seen seen' found sold =>
      exact add_pos ((hread s seen).batches b found).quantity ((hread s' seen').sales sale sold)
  | rebuild n s s' last sale drawn seen seen' found sold =>
      exact ⟨(hread s' seen').sales sale sold, (hread s seen).lasts last found⟩
  | restockAll s s' b credited seen seen' found sold =>
      refine add_pos_of_pos_of_nonneg ((hread s seen).batches b found).quantity ?_
      refine List.sum_nonneg fun q hq => ?_
      obtain ⟨sale, hsale, rfl⟩ := List.mem_map.1 hq
      exact ((hread s' seen').sales sale (sold sale hsale)).le
  | _ => trivial

theorem IssuesDirect.inRange {x : Exchange} {request : WriteRequest} {c : Command}
    (h : IssuesDirect x request c) (hread : ∀ s, Seen x s → Solvent s)
    (hr : SuppliesPieces request) : InRange c := by
  cases h with
  | editBatch u => exact absurd hr.2 id
  | editCost u => trivial
  | editProduct => exact hr
  | hide => trivial
  | updateProduct => exact hr
  | status s p seen found =>
      intro upb hupb
      obtain rfl : p.upb = upb := Option.some.inj hupb
      exact (hread s seen).upb p (Store.mem_of_findProduct found).1

/-! ## Every interleaving -/

section Interleavings

variable {ι : Type} [DecidableEq ι] {calls : ι → WriteCall}

/-- The store is in range, and so is what each request has read and what its transaction has
collected. -/
structure Ranged (db : Db) (loc : ι → Exchange × Notes) : Prop where
  store : Solvent db.store
  seen : ∀ i s, Seen (loc i).1 s → Solvent s
  pending : ∀ i t, (loc i).1.session = .inProgress t → Prudent t.writes

/-- A request sees the current store, or one that it saw before. -/
theorem seen_step {o : Op} {db : Db} {x : Exchange × Notes} {s : Store}
    (h : Seen (notedSem o db x).2.1.1 s) : s = db.store ∨ Seen x.1 s := by
  obtain ⟨q, hq⟩ := h
  cases o with
  | read q' =>
      rcases List.mem_append.1 hq with hq | hq
      · exact .inr ⟨q, hq⟩
      · cases List.mem_singleton.1 hq
        exact .inl rfl
  | _ =>
      refine .inr ⟨q, ?_⟩
      simp only [notedSem, Sem.ghost, sem, execInSession, execDirect, execCommit, execAbort,
        execSend, execDestroy] at hq
      repeat' split at hq
      all_goals exact hq

theorem Ranged.step {db : Db} {loc : ι → Exchange × Notes} (h : Ranged db loc) {i : ι} {o : Op}
    (hmay : May (calls i).request (calls i).caller o (loc i))
    (hcall : SuppliesPieces (calls i).request) :
    Ranged (notedSem o db (loc i)).1 (Function.update loc i (notedSem o db (loc i)).2.1) := by
  refine ⟨?_, forall_locals
    (P := fun _ (x : Exchange × Notes) => ∀ s, Seen x.1 s → Solvent s) (fun s hs => ?_)
    fun j _ => h.seen j, forall_locals
    (P := fun _ (x : Exchange × Notes) => ∀ t, x.1.session = .inProgress t → Prudent t.writes) ?_
    fun j _ => h.pending j⟩
  · cases store_step o db (loc i) with
    | same store =>
        rw [store]
        exact h.store
    | commit t issued session store after =>
        rw [store]
        exact h.store.apply (h.pending i t session)
    | direct c w r issued plan store =>
        subst issued
        rw [store]
        exact h.store.apply (prudent_plan (hmay.inRange (h.seen i) hcall) plan)
  · rcases seen_step hs with rfl | hs
    · exact h.store
    · exact h.seen i s hs
  · refine pending_step db prudent_empty (fun _ _ => .append) ?_ (h.pending i)
    rintro c s w r rfl plan
    obtain ⟨request, hrequest, hissues⟩ := hmay
    rw [hrequest] at hcall
    exact prudent_plan (hissues.inRange (h.seen i) hcall.1) plan

/-- **No interleaving drives an amount out of range.** Requests with positive quantities that edit
no batch keep every batch and every sale positive and every unit cost a number, in whatever order
their operations are carried out. -/
theorem solvent_of_interleaves {db₀ : Db} (h₀ : Solvent db₀.store)
    (hcalls : ∀ i, SuppliesPieces (calls i).request) {p : Requests ι}
    (h : Interleaves (writers db₀ calls) p) : Solvent p.shared.store := by
  have hinit : Ranged db₀ ((writers db₀ calls).withGhost .init).locals :=
    ⟨h₀, fun i s ⟨q, hq⟩ => absurd hq List.not_mem_nil, fun i t ht => by cases ht⟩
  obtain ⟨q, rfl, -, hq⟩ := (conducted_writers db₀ calls).invariant (I := Ranged) hinit
    (fun _ _ i _ hmay h => h.step hmay (hcalls i)) h
  exact hq.store

end Interleavings

theorem solvent_of_isEmpty {db : Db} (h : db.IsEmpty) : Solvent db.store := by
  have ht := trading_of_isEmpty h
  obtain ⟨-, hi, -, -, hl⟩ := h
  exact ⟨ht, by simp [hi], by simp [hl]⟩

/-- The second sale overwrites the first: ten pieces, of which eight were sold, and five more make
ten again. -/
theorem solvent_busyEnd :
    Solvent busyEnd.shared.store ∧
    busyEnd.shared.store.inventories.docs.map (·.quantity) = [5, 5] ∧
    busyEnd.shared.store.sales.docs.map (·.quantity) = [3, 5] :=
  ⟨solvent_of_interleaves (solvent_of_isEmpty Sample.isEmpty) (by decide +kernel)
    interleaves_busyEnd, by decide +kernel, by decide +kernel⟩

end InventoryHero.Concurrent
