import InventoryHero.Serial.Handlers

/-!
# Reversing sales

Both reversals either take effect as a whole and say so, or leave the store as it was and do not
claim success; `deleteSalesRecord_served` and `deleteAllSales_served` say exactly when. The loop of
`deleteAllSales` works on in-memory copies of the batches; they agree with the transaction's view of
the store after every step.
-/

set_option autoImplicit false

namespace InventoryHero.Serial

open Interaction Storage Model Stock

variable {db₀ db : Db} {env : Env} {w : Writes} {sent : List Response} {x : Exchange}

/-! ## One sale -/

/-- The sale is there, and its pieces have somewhere to go: to the first live batch of `prd` or,
without one, to a batch rebuilt from the first snapshot. Either has to pass the schema. -/
def Reversible (db : Db) (id prd : ObjectId) : Prop :=
  db.store.sales.get? id ≠ none ∧
    match firstLive prd db.store.inventories with
    | some batch => batch.valid = true
    | none => ∃ last, (db.store.lastsOf prd).head? = some last ∧ last.valid = true ∧
        ∀ b ∈ db.store.inventories.docs, b._id < db.nextId

/-- What `deleteSalesRecord` leaves behind. -/
def ReversalServed (db : Db) (id prd : ObjectId) (caller : Caller) (env : Env) (db' : Db)
    (sent : List Response) : Prop :=
  (MayReverse db caller ∧ Reversed db id prd db') ∧ sent = [recordDeleted] ∨
    db'.store = db.store ∧ db.nextId ≤ db'.nextId ∧ sent ≠ [recordDeleted] ∧
      ¬ (MayReverse db caller ∧ Reversible db id prd ∧ env.commitFails = false)

/-- A reversal that throws before its commit has gone through. -/
theorem reversalServed_failed {id prd : ObjectId} {caller : Caller} {sent : List Response}
    (h : Opened db₀ env w [] db x) (hx : sent = [])
    (hwhy : ¬ (MayReverse db₀ caller ∧ Reversible db₀ id prd ∧ env.commitFails = false)) :
    ReversalServed db₀ id prd caller env db sent ∧
      (sent = [] → ReversalServed db₀ id prd caller env db [internalServerError]) :=
  ⟨.inr ⟨h.store, h.next, by simp [hx], hwhy⟩, fun _ => .inr ⟨h.store, h.next, by decide, hwhy⟩⟩

/-- The part after the credit: the sale is deleted and the transaction committed. -/
theorem Opened.finishReversal {id prd : ObjectId} {caller : Caller} {iw : List (DocWrite Inventory)}
    (h : Opened db₀ env { inventories := iw } [] db x) (hmay : MayReverse db₀ caller)
    (hacc : db₀.store.accepts { inventories := iw } = true)
    (hrev : ∀ db', db.nextId ≤ db'.nextId →
      Commit db₀ { inventories := iw, sales := [.delete id] } db' → Reversed db₀ id prd db') :
    (Model.inSession (.deleteSale id) >>= fun _ => commitTransaction >>= fun _ =>
      Model.send recordDeleted).Wp sem
        (EndsSent (ReversalServed db₀ id prd caller env) fun _ => internalServerError) db x := by
  have hall : db₀.store.accepts { inventories := iw, sales := [.delete id] } = true := by
    rw [Store.accepts_iff] at hacc ⊢
    exact ⟨rfl, hacc.2.1, rfl, rfl, rfl⟩
  refine h.inSession (fun _ x' href _ => ?_) fun w' _ x₁ hplan _ h₁ => ?_
  -- a deletion is never refused
  · have := href _ _ rfl
    simp [Store.accepts] at this
  cases hplan
  simp only [Writes.mk_append, List.nil_append, List.append_nil] at h₁
  refine h₁.commit (fun _ x' hwhy hx' => ?_) fun db' x' _ _ hst hn _ hsent => ?_
  -- the commit failed, and the writes are ones the store accepts: so it failed from outside
  · refine reversalServed_failed h₁ hx' fun hgood => ?_
    rcases hwhy with hfail | hrefused
    · exact Bool.false_ne_true (hgood.2.2.symm.trans hfail)
    · exact Bool.false_ne_true (hrefused.symm.trans hall)
  · refine wp_send fun x'' res _ hfirst _ => ?_
    obtain ⟨hx'', rfl⟩ := hfirst hsent
    exact .inl ⟨⟨hmay, hrev db' hn.ge ⟨hst, hall, h₁.next.trans hn.ge⟩⟩, hx''⟩

/-- The transaction of `deleteSalesRecord`. -/
theorem Opened.reverseSale {id prd : ObjectId} {caller : Caller} (h : Opened db₀ env {} [] db x)
    (hmay : MayReverse db₀ caller) :
    (Model.reverseSale id prd).Wp sem
      (EndsSent (ReversalServed db₀ id prd caller env) fun _ => internalServerError) db x := by
  have hlive := head?_liveBatches db₀.store prd
  refine h.read fun x h => h.read fun x h => ?_
  refine Prog.Wp.bind ?_
  cases hl : Query.eval (.inventories prd) db₀.store with
  | nil =>
      -- no live batch: rebuild one from the snapshot
      change db₀.store.liveBatches prd = [] at hl
      rw [hl, List.head?_nil] at hlive
      refine h.read fun x h => ?_
      change Prog.Wp sem _ (orTypeError (db₀.store.lastsOf prd).head? >>= _) db x
      cases hlast : (db₀.store.lastsOf prd).head? with
      | none =>
          refine reversalServed_failed h h.sent_eq fun hgood => ?_
          -- neither a live batch nor a snapshot: reading the first of none throws
          have hgo := hgood.2.1.2
          rw [← hlive] at hgo
          obtain ⟨last, hl', -⟩ := hgo
          rw [hlast] at hl'
          cases hl'
      | some last =>
          cases hsale : Query.eval (.sale id) db₀.store with
          | none => exact reversalServed_failed h h.sent_eq fun hgood => hgood.2.1.1 hsale
          | some sale =>
              refine h.newId fun n db₁ hn hn' h₁ => ?_
              refine h₁.inSession_last (c := .saveInventory _) (fun _ x' href h' => ?_)
                fun w' _ x₂ hplan hacc h₂ => ?_
              · refine reversalServed_failed h' h'.sent_eq fun hgood => ?_
                have hgo := hgood.2.1.2
                rw [← hlive] at hgo
                obtain ⟨last', hl', hvalid, hids⟩ := hgo
                -- the new id is free, so the batch is accepted
                obtain rfl : last = last' := by simpa [hlast] using hl'
                have hrefused := href _ () (if_pos hvalid)
                rw [← Bool.not_eq_true, Store.accepts_iff] at hrefused
                refine hrefused ⟨rfl, ?_, rfl, rfl, rfl⟩
                rw [Collection.acceptsAll_singleton, Collection.accepts_insert_iff]
                exact fun b hb => ((hids b hb).trans_le (h.next.trans hn)).ne
              · obtain ⟨hvalid, rfl⟩ := plan_saveInventory hplan
                refine h₂.finishReversal hmay hacc fun db' hle hc => ?_
                exact .rebuild sale last n hsale hlive.symm hlast hvalid
                  ⟨h.next.trans hn, hn'.trans_le hle⟩ hc
  | cons first rest =>
      -- a live batch: credit the first one
      change db₀.store.liveBatches prd = first :: rest at hl
      rw [hl, List.head?_cons] at hlive
      cases hsale : Query.eval (.sale id) db₀.store with
      | none => exact reversalServed_failed h h.sent_eq fun hgood => hgood.2.1.1 hsale
      | some sale =>
          refine h.inSession_last (c := .saveQuantity _) (fun _ x' href h' => ?_)
            fun w' _ x₂ hplan hacc h₂ => ?_
          · -- the batch was just read, so it can be saved if it passes the schema
            refine reversalServed_failed h' h'.sent_eq fun hgood => ?_
            have hvalid := hgood.2.1.2
            rw [← hlive] at hvalid
            have hget : db₀.store.inventories.get? first._id = some first :=
              Collection.get?_of_mem (firstLive_spec hlive.symm).1
            have hrefused := href _ () (plan_saveQuantity_of_get hvalid hget)
            simp [Store.accepts] at hrefused
          · obtain ⟨hvalid, rfl⟩ := plan_saveQuantity hplan
            refine h₂.finishReversal hmay hacc fun db' hle hc => ?_
            exact .restock sale first hsale hlive.symm hvalid hc

theorem deleteSalesRecord_served (db : Db) (id prd : ObjectId) (caller : Caller) (env : Env) :
    ReversalServed db id prd caller env
      (serveStep ⟨.deleteSalesRecord id prd, caller, env⟩ db)
      (serve ⟨.deleteSalesRecord id prd, caller, env⟩ db).loc.sent := by
  refine wp_read (Q := fun F => ReversalServed db id prd caller env F.shared F.loc.sent) ?_
  split
  -- refused before the transaction is opened
  case isTrue hadmin =>
    refine wp_send fun x' _ _ hfirst _ => .inr ⟨rfl, le_rfl, ?_, ?_⟩
    · rw [(hfirst rfl).1]
      decide
    · rintro ⟨⟨hrole, huser⟩, -⟩
      rcases hadmin with h | h
      · exact h hrole
      · exact huser (Option.isNone_iff_eq_none.1 h)
  case isFalse hadmin =>
    rw [not_or, not_not, Option.isNone_iff_eq_none] at hadmin
    exact wp_withTransaction_send (P := ReversalServed db id prd caller env)
      fun x hx => hx.reverseSale hadmin

/-! ## All sales -/

/-- The transaction's view after the sales `done` were given back. -/
def reversedStore (s : Store) (done : List Sale) : Store :=
  { s with
    inventories := creditAll done s.inventories
    sales := s.sales.writeAll (done.map fun sale => .delete sale._id) }

theorem sales_reversedStore (s : Store) (done : List Sale) :
    (reversedStore s done).sales.docs =
      s.sales.docs.filter fun sale => sale._id ∉ done.map Sale._id :=
  s.sales.docs_writeAll_delete done

/-- The two writes of one round of the loop. -/
theorem reversedStore_concat {s : Store} {done : List Sale} {sale : Sale} {a : Inventory}
    (h : firstLive sale.product (reversedStore s done).inventories = some a) :
    ((reversedStore s done).apply
      { inventories := [.modify a._id (setQuantity (a.quantity + sale.quantity))] }).apply
      { sales := [.delete sale._id] } = reversedStore s (done ++ [sale]) := by
  have hcredit := credit_of_some h sale.quantity
  simp only [reversedStore] at hcredit
  simp only [reversedStore, Store.apply, Collection.writeAll_nil, Collection.writeAll_cons,
    Collection.write_modify, List.map_append, List.map_cons, List.map_nil,
    Collection.writeAll_append, creditAll_concat, hcredit]

/-- With every sale given back, none is left. -/
theorem reversedStore_all {s : Store} {done : List Sale}
    (h : ∀ sale ∈ s.sales.docs, sale ∈ done) :
    reversedStore s done =
      { s with inventories := creditAll done s.inventories, sales := .empty } := by
  have hsales : (reversedStore s done).sales = .empty := by
    apply Collection.ext
    rw [sales_reversedStore]
    refine List.filter_eq_nil_iff.2 fun sale hs => ?_
    simpa using List.mem_map_of_mem (f := Sale._id) (h sale hs)
  rw [← hsales]
  rfl

/-- What `deleteAllSales` leaves behind. -/
def BulkServed (db : Db) (env : Env) (db' : Db) (sent : List Response) : Prop :=
  (AllLive db.store ∧ env.commitFails = false) ∧ db'.store = reversedAll db.store ∧
      db.nextId ≤ db'.nextId ∧ sent = [allSalesDeleted] ∨
    ¬ (AllLive db.store ∧ env.commitFails = false) ∧ db'.store = db.store ∧
      db.nextId ≤ db'.nextId ∧ sent ≠ [allSalesDeleted]

/-- The loop, with the sales `done` behind it. It comes to the commit if every sale has a live batch
that can be saved; otherwise it is aborted, or a save throws. -/
theorem Opened.reverseLoop {Q : Final Db Exchange JsError Unit → Prop} {done sales : List Sale}
    {Inventories : List Inventory} (h : Opened db₀ env w [] db x)
    (hend : AllLive db₀.store → ∀ w x, Opened db₀ env w [] db x →
      db₀.store.apply w = reversedStore db₀.store db₀.store.sales.docs →
      db₀.store.accepts w = true →
      (commitTransaction >>= fun _ => Model.send allSalesDeleted).Wp sem Q db x)
    (hnone : ¬AllLive db₀.store → ∀ w x, Opened db₀ env w [] db x →
      (abortTransaction >>= fun _ => Model.send noMatchingInventory).Wp sem Q db x)
    (hthrow : ¬AllLive db₀.store → ∀ e w x, Opened db₀ env w [] db x → Q ⟨db, x, .error e⟩)
    (hview : db₀.store.apply w = reversedStore db₀.store done)
    (hacc : db₀.store.accepts w = true) (hall : done ++ sales = db₀.store.sales.docs)
    (hlive : ∀ sale ∈ done,
      (firstLive sale.product db₀.store.inventories).any Inventory.valid = true)
    (hmem : Inventories = (db₀.store.apply w).liveInventories) :
    (Model.reverseLoop sales Inventories).Wp sem Q db x := by
  -- the invariant: the view is that after `done`, and the copies are its live batches
  induction sales generalizing done w x Inventories with
  | nil =>
      rw [List.append_nil] at hall
      subst hall
      exact hend hlive w x h hview hacc
  | cons sale sales ih =>
      -- the search among the copies finds what `firstLive` finds in the view
      have hfind := creditFirst_live sale.product sale.quantity (db₀.store.apply w).inventories
      change creditFirst _ _ (db₀.store.apply w).liveInventories = _ at hfind
      rw [← hmem] at hfind
      unfold Model.reverseLoop
      cases hfirst : firstLive sale.product (db₀.store.apply w).inventories with
      | none =>
          rw [hfirst, Option.map_none] at hfind
          rw [hfind]
          -- no batch to credit: there was none in the initial store either, since credits add none
          refine hnone (fun hlive' => ?_) w x h
          have hvalid := hlive' sale (hall ▸ by simp)
          rw [hview] at hfirst
          rw [← any_valid_creditAll done, show firstLive _ (creditAll done _) = _ from hfirst]
            at hvalid
          simp at hvalid
      | some a =>
          rw [hfirst, Option.map_some] at hfind
          rw [hfind]
          -- the batch is in the view, so saving it succeeds if it passes the schema
          have hget : (db₀.store.apply w).inventories.get? a._id = some a :=
            Collection.get?_of_mem (firstLive_spec hfirst).1
          have hvalid : (firstLive sale.product db₀.store.inventories).any Inventory.valid =
              a.valid := by
            rw [hview] at hfirst
            rw [← any_valid_creditAll done, show firstLive _ (creditAll done _) = _ from hfirst]
            rfl
          refine h.inSession (fun _ x' href h' => ?_) fun w₁ _ x₁ hplan _ h₁ => ?_
          · refine hthrow (fun hlive' => ?_) _ w x' h'
            have hok : a.valid = true := hvalid.symm.trans (hlive' sale (hall ▸ by simp))
            have hrefused := href _ () (plan_saveQuantity_of_get hok hget)
            simp [Store.accepts] at hrefused
          obtain ⟨hok, rfl⟩ := plan_saveQuantity hplan
          refine h₁.inSession (fun _ x' href _ => ?_) fun w₂ _ x₂ hplan₂ _ h₂ => ?_
          · have hrefused := href _ () rfl
            simp [Store.accepts] at hrefused
          cases hplan₂
          have hview' : db₀.store.apply (w ++ { inventories := [.modify a._id
              (setQuantity (a.quantity + sale.quantity))] } ++ { sales := [.delete sale._id] }) =
              reversedStore db₀.store (done ++ [sale]) := by
            rw [Store.apply_append, Store.apply_append, hview]
            rw [hview] at hfirst
            exact reversedStore_concat hfirst
          -- the invariant after this round
          refine ih h₂ hview' ?_ ?_ ?_ ?_
          · rw [Store.accepts_append, Store.accepts_append]
            exact ⟨⟨hacc, rfl⟩, rfl⟩
          · rw [← hall, List.append_assoc, List.singleton_append]
          · intro s hs
            rcases List.mem_append.1 hs with hs | hs
            · exact hlive s hs
            · rw [List.mem_singleton.1 hs]
              exact hvalid.trans hok
          · rw [hview', Store.liveInventories]
            simp only [reversedStore, creditAll_concat, hview]

/-- The end of the loop: every sale was given back, and the transaction is committed. -/
theorem Opened.finishReverseLoop (h : Opened db₀ env w [] db x)
    (hview : db₀.store.apply w = reversedStore db₀.store db₀.store.sales.docs)
    (hacc : db₀.store.accepts w = true) (hlive : AllLive db₀.store) :
    (commitTransaction >>= fun _ => Model.send allSalesDeleted).Wp sem
      (EndsSent (BulkServed db₀ env) fun _ => internalServerError) db x := by
  refine h.commit (fun _ x' hwhy hx' => ?_) fun db' x' hok _ hst hn _ hsent => ?_
  -- the store accepts the writes, so only the outside can make the commit fail
  · have hfail : ¬ (AllLive db₀.store ∧ env.commitFails = false) := by
      rintro ⟨-, hcommit⟩
      rcases hwhy with hf | hf
      · exact Bool.false_ne_true (hcommit.symm.trans hf)
      · exact Bool.false_ne_true (hf.symm.trans hacc)
    have hother : [internalServerError] ≠ [allSalesDeleted] := by decide
    exact ⟨.inr ⟨hfail, h.store, h.next, by simp [hx']⟩,
      fun _ => .inr ⟨hfail, h.store, h.next, hother⟩⟩
  · refine wp_send fun x'' res _ hfirst _ => ?_
    obtain ⟨hx'', rfl⟩ := hfirst hsent
    refine .inl ⟨⟨hlive, hok⟩, ?_, h.next.trans hn.ge, hx''⟩
    rw [hst, hview, reversedStore_all fun _ hs => hs]
    rfl

theorem deleteAllSales_served (db : Db) (caller : Caller) (env : Env) :
    BulkServed db env (serveStep ⟨.deleteAllSales, caller, env⟩ db)
      (serve ⟨.deleteAllSales, caller, env⟩ db).loc.sent := by
  refine wp_withTransaction_send (P := BulkServed db env) ?_
  intro x hx
  refine hx.read fun x hx => hx.read fun x hx => ?_
  refine hx.reverseLoop ?_ ?_ ?_ rfl rfl rfl (fun _ hs => absurd hs List.not_mem_nil) rfl
  · exact fun hlive w x h hview hacc => h.finishReverseLoop hview hacc hlive
  · intro hlive w x h
    refine h.abort fun x' _ hsent => wp_send fun x'' res _ hfirst _ => ?_
    obtain ⟨hx'', rfl⟩ := hfirst hsent
    exact .inr ⟨fun hall => hlive hall.1, h.store, h.next, by rw [hx'']; decide⟩
  · intro hlive e w x h
    have hother : [internalServerError] ≠ [allSalesDeleted] := by decide
    exact ⟨.inr ⟨fun hall => hlive hall.1, h.store, h.next, by simp [h.sent_eq]⟩,
      fun _ => .inr ⟨fun hall => hlive hall.1, h.store, h.next, hother⟩⟩

end InventoryHero.Serial
