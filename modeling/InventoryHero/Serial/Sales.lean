import InventoryHero.Serial.Handlers

/-!
# Recording a sale

The draw loop issues exactly the writes `drawWrites`, and before each deletion at most one write of
the product's snapshot (`Opened.drawLoop`). It answers in the middle of the transaction only where
it meets a batch without pieces.
-/

set_option autoImplicit false

namespace InventoryHero.Serial

open Interaction Storage Model Stock

variable {db₀ db : Db} {env : Env} {w : Writes} {sent : List Response} {x : Exchange} {p : ObjectId}

/-- The snapshot of `p` is there, provided `p` had one live batch, which passes the schema, and the
ids of the snapshots were below the counter. -/
def Kept (db₀ : Db) (p : ObjectId) (lasts : Collection Last) : Prop :=
  ∀ only, db₀.store.liveBatches p = [only] → only.valid = true →
    (∀ d ∈ db₀.store.lasts.docs, d._id < db₀.nextId) → ∃ d ∈ lasts.docs, d.product = p

theorem Kept.mono {batches : List Inventory} {n : ObjectId} {lasts lasts' : Collection Last}
    (h : Kept db₀ p lasts) (hs : Snapshotted batches p n lasts lasts') : Kept db₀ p lasts' := by
  intro only hone hvalid hids
  obtain ⟨d, hd, hp⟩ := h only hone hvalid hids
  obtain ⟨d', hd', hp'⟩ := hs.keep d hd
  exact ⟨d', hd', hp'.trans hp⟩

/-- Snapshots inserted since `db₀` have new ids. -/
theorem Snapshotted.id_lt {batches : List Inventory} {n : ObjectId} {lasts lasts' : Collection Last}
    (h : Snapshotted batches p n lasts lasts') (hids : ∀ d ∈ lasts.docs, d._id < n) :
    ∀ d ∈ lasts'.docs, d._id < n := by
  intro d hd
  rcases h.mem d hd with hd | ⟨-, hid | ⟨e, he, hed⟩⟩
  · exact hids d hd
  · exact hid
  · exact hed ▸ hids e he

/-- The transaction after `snapshotLast`: one more write of the snapshot of `p`, or none. -/
def SnapshotTaken (db₀ : Db) (env : Env) (w : Writes) (sent : List Response) (p : ObjectId)
    (db : Db) (x : Exchange) : Prop :=
  ∃ lw, Opened db₀ env (w ++ { lasts := lw }) sent db x ∧
    Snapshotted (db₀.store.batches p) p db.nextId (db₀.store.apply w).lasts
      ((db₀.store.apply w).lasts.writeAll lw) ∧
    Kept db₀ p ((db₀.store.apply w).lasts.writeAll lw)

theorem Opened.noSnapshot (h : Opened db₀ env w sent db x)
    (hkept : Kept db₀ p (db₀.store.apply w).lasts) : SnapshotTaken db₀ env w sent p db x :=
  ⟨[], by rwa [Writes.append_empty], Snapshotted.refl _ _ _ _, hkept⟩

section Snapshot

variable {Q : Final Db Exchange JsError Unit → Prop} {first : Inventory}

/-- There is a snapshot already: it stays, updated or not. -/
theorem Opened.updateLast (h : Opened db₀ env w sent db x)
    (hfirst : first ∈ db₀.store.batches first.product)
    (hkept : Kept db₀ first.product (db₀.store.apply w).lasts)
    (k : ∀ x', SnapshotTaken db₀ env w sent first.product db x' → Q ⟨db, x', .ok ()⟩) :
    ((Model.inSession (.updateLast first.product first.snapshot)).tryCatch
      fun _ => pure ()).Wp sem Q db x := by
  refine Prog.Wp.tryCatch ?_
  refine h.inSession_last (c := .updateLast _ _) (fun e x' _ h' => k x' (h'.noSnapshot hkept))
    fun w' r x' hplan _ h' => ?_
  rcases plan_updateLast hplan with ⟨-, rfl⟩ | ⟨last, hlast, hcpq, rfl⟩
  · rw [Writes.append_empty] at h'
    exact k x' (h'.noSnapshot hkept)
  · obtain ⟨hlmem, hlp⟩ := Store.mem_lastsOf_head hlast
    have hmod : Snapshotted (db₀.store.batches first.product) first.product db.nextId
        (db₀.store.apply w).lasts
        ((db₀.store.apply w).lasts.modify last._id (setSnapshot first.snapshot)) :=
      .modify hlmem hlp hfirst rfl hcpq
    exact k x' ⟨_, h', hmod, hkept.mono hmod⟩

/-- There is no snapshot: a new one is inserted, under an id that is not in use. -/
theorem Opened.saveLast {n : ObjectId} (h : Opened db₀ env w sent db x)
    (hfirst : first ∈ db₀.store.batches first.product)
    (hl : db₀.store.liveBatches first.product = [first]) (hn : n < db.nextId)
    (hnew : (∀ d ∈ db₀.store.lasts.docs, d._id < db₀.nextId) →
      ∀ d ∈ (db₀.store.apply w).lasts.docs, d._id < n)
    (k : ∀ x', SnapshotTaken db₀ env w sent first.product db x' → Q ⟨db, x', .ok ()⟩) :
    ((Model.inSession (.saveLast { first.snapshot with _id := n })).tryCatch
      fun _ => pure ()).Wp sem Q db x := by
  refine Prog.Wp.tryCatch ?_
  refine h.inSession_last (c := .saveLast _) (fun e x' href h' => ?_)
    fun w' r x' hplan hacc h' => ?_
  · refine k x' (h'.noSnapshot fun only hone hvalid hids => ?_)
    -- the save is refused only if the snapshot does not pass the schema
    exfalso
    cases hl.symm.trans hone
    have hplan : (Command.saveLast { first.snapshot with _id := n }).plan
        (db₀.store.apply w) = .ok (_, ()) := if_pos hvalid
    have hfresh := href _ _ hplan
    rw [← Bool.not_eq_true, Store.accepts_iff] at hfresh
    apply hfresh
    refine ⟨rfl, rfl, rfl, rfl, ?_⟩
    rw [Collection.acceptsAll_singleton, Collection.accepts_insert_iff]
    exact fun d hd => (hnew hids d hd).ne
  · obtain ⟨hvalid, rfl⟩ := plan_saveLast hplan
    have hof : SnapshotOf (db₀.store.batches first.product) first.product
        { first.snapshot with _id := n } :=
      ⟨rfl, (Snapshot.valid_iff.1 hvalid).2, first, hfirst, rfl⟩
    have hins := Snapshotted.insert (c := (db₀.store.apply w).lasts) hof hn
    refine k x' ⟨_, h', hins, fun _ _ _ _ => ?_⟩
    have haccepted := ((Store.accepts_iff _ _).1 hacc).2.2.2.2
    rw [Collection.acceptsAll_singleton] at haccepted
    refine ⟨{ first.snapshot with _id := n }, ?_, rfl⟩
    rw [Collection.writeAll_cons, Collection.writeAll_nil, Collection.write_insert,
      Collection.docs_insert haccepted]
    exact List.mem_append_right _ (List.mem_singleton_self _)

/-- The write of the snapshot never fails the sale. -/
theorem Opened.snapshotLast (h : Opened db₀ env w sent db x)
    (hs : Snapshotted (db₀.store.batches p) p db.nextId db₀.store.lasts (db₀.store.apply w).lasts)
    (k : ∀ db' x', db.nextId ≤ db'.nextId → SnapshotTaken db₀ env w sent p db' x' →
      Q ⟨db', x', .ok ()⟩) :
    (Model.snapshotLast p).Wp sem Q db x := by
  have hnext := h.next
  refine h.read fun x h => ?_
  -- only one live batch leads to a snapshot; it is counted in the initial store
  rcases hl : Query.eval (.inventories p) db₀.store with _ | ⟨first, _ | ⟨second, rest⟩⟩ <;>
    change db₀.store.liveBatches p = _ at hl
  · exact k db x le_rfl (h.noSnapshot fun only hone => by simp [hl] at hone)
  · have hmem := mem_liveBatches (hl ▸ List.mem_cons_self : first ∈ db₀.store.liveBatches p)
    obtain rfl : first.product = p := hmem.2
    have hfirst : first ∈ db₀.store.batches first.product := mem_batches.2 hmem
    refine h.read fun x h => ?_
    cases hfound : Query.eval (.last first.product) db₀.store with
    | some found =>
        obtain ⟨hmem, hp⟩ := Store.mem_lastsOf_head hfound
        obtain ⟨d, hd, hdp⟩ := hs.keep found hmem
        exact h.updateLast hfirst (fun _ _ _ _ => ⟨d, hd, hdp.trans hp⟩) fun x' => k db x' le_rfl
    | none =>
        refine h.newId fun n db' hn hn' h => ?_
        refine h.saveLast hfirst hl hn' (fun hids d hd => ?_) fun x' => k db' x' (hn.trans hn'.le)
        exact (hs.id_lt (fun d hd => (hids d hd).trans_le hnext) d hd).trans_le hn
  · exact k db x le_rfl (h.noSnapshot fun only hone => by simp [hl] at hone)

end Snapshot

/-- The draw loop issues the writes `drawWrites`, and snapshots of the product. It sends a response
only where a batch has no pieces. -/
theorem Opened.drawLoop {Q : Final Db Exchange JsError (List Inventory) → Prop}
    {l : List Inventory} {t : ℚ} (hl : ∀ e ∈ l, e.product = p) (h : Opened db₀ env w sent db x)
    (hs : Snapshotted (db₀.store.batches p) p db.nextId db₀.store.lasts (db₀.store.apply w).lasts)
    (herr : ∀ e db' x', db'.store = db₀.store → db₀.nextId ≤ db'.nextId →
      (x'.sent = sent ∨ ∃ b ∈ l, ¬ 0 < b.quantity) → Q ⟨db', x', .error e⟩)
    (k : ∀ l' lw sent' db' x',
      Opened db₀ env (w ++ { inventories := drawWrites t l, lasts := lw }) sent' db' x' →
      db.nextId ≤ db'.nextId →
      Snapshotted (db₀.store.batches p) p db'.nextId (db₀.store.apply w).lasts
        ((db₀.store.apply w).lasts.writeAll lw) →
      ((∃ i, .delete i ∈ drawWrites t l) →
        Kept db₀ p ((db₀.store.apply w).lasts.writeAll lw)) →
      (sent' = sent ∨ ∃ b ∈ l, ¬ 0 < b.quantity) → Q ⟨db', x', .ok l'⟩) :
    (Model.drawLoop t l).Wp sem Q db x := by
  -- along the batches; each round adds its writes to those issued before
  induction l generalizing t w sent db x Q with
  | nil =>
      refine k [] [] sent db x ?_ le_rfl (.refl _ _ _ _) ?_ (.inl rfl)
      · exact (Writes.append_empty w).symm ▸ h
      · rintro ⟨i, hi⟩
        cases hi
  | cons e rest ih =>
      have hep : e.product = p := hl e List.mem_cons_self
      have hrest : ∀ b ∈ rest, b.product = p := fun b hb => hl b (List.mem_cons_of_mem _ hb)
      have hsent : ∀ {s s' : List Response}, (s = s' ∨ ∃ b ∈ rest, ¬ 0 < b.quantity) →
          s = s' ∨ ∃ b ∈ e :: rest, ¬ 0 < b.quantity := fun h =>
        h.imp_right fun ⟨b, hb, hq⟩ => ⟨b, List.mem_cons_of_mem _ hb, hq⟩
      by_cases h₀ : 0 < e.quantity
      · by_cases hq : e.quantity ≤ t
        · rw [drawWrites_used_up rest h₀ hq] at k
          simp only [Model.drawLoop, h₀, hq, if_true, hep]
          refine Prog.Wp.bind (h.snapshotLast hs fun db₁ x₁ hn₁ htaken => ?_)
          obtain ⟨lw, h₁, hs₁, hk₁⟩ := htaken
          refine h₁.inSession (fun _ x' _ h' => herr _ _ _ h'.store h'.next (.inl h'.sent_eq))
            fun w' _ x₂ hplan _ h₂ => ?_
          cases hplan
          -- deleting the batch does not touch the snapshots
          have hlasts : (db₀.store.apply (w ++ { lasts := lw } ++
              { inventories := [.delete e._id] })).lasts =
              (db₀.store.apply w).lasts.writeAll lw := by
            simp [Collection.writeAll_append]
          have hs₂ := (hs.mono hn₁).trans hs₁
          refine Prog.Wp.bind (ih hrest h₂ (hlasts ▸ hs₂) ?_ ?_)
          · exact fun e db' x' hst hne hse => herr e db' x' hst hne (hsent hse)
          · intro l' lw' sent' db' x' h₃ hn₃ hs₃ _ hse
            rw [hlasts] at hs₃
            rw [append_usedUp] at h₃
            refine k _ (lw ++ lw') sent' db' x' h₃ (hn₁.trans hn₃) ?_ ?_ (hsent hse) <;>
              rw [Collection.writeAll_append]
            · exact (hs₁.mono hn₃).trans hs₃
            · exact fun _ => hk₁.mono hs₃
        -- the draw ends here, without a deletion
        · rw [drawWrites_remainder rest h₀ hq] at k
          simp only [Model.drawLoop, h₀, hq, if_true, if_false]
          refine h.inSession (fun _ x' _ h' => herr _ _ _ h'.store h'.next (.inl h'.sent_eq))
            fun w' _ x₂ hplan _ h₂ => ?_
          cases hplan
          refine k _ [] sent db x₂ h₂ le_rfl (.refl _ _ _ _) ?_ (.inl rfl)
          rintro ⟨i, hi⟩
          simp at hi
      · rw [drawWrites_skip rest h₀] at k
        -- a response goes out, and a second one would throw
        have hempty : ∃ b ∈ e :: rest, ¬ 0 < b.quantity := ⟨e, List.mem_cons_self, h₀⟩
        simp only [Model.drawLoop, h₀, if_false]
        refine h.send (fun _ _ => herr _ _ _ h.store h.next (.inr hempty)) fun x₁ _ h₁ => ?_
        refine Prog.Wp.bind (ih hrest h₁ hs ?_ ?_)
        · exact fun e db' x' hst hne _ => herr e db' x' hst hne (.inr hempty)
        · exact fun l' lw sent' db' x' h₂ hn₂ hs₂ hk₂ _ =>
            k _ lw sent' db' x' h₂ hn₂ hs₂ hk₂ (.inr hempty)

/-- What `recordSales` leaves behind: its effect on the database, and no message about an empty
batch unless the product has one. -/
def SaleServed (db : Db) (c : Call) (id : ObjectId) (db' : Db) (sent : List Response) : Prop :=
  Effect db c db' ∧ ((∀ b ∈ db.store.batches id, 0 < b.quantity) → inventoryEmpty ∉ sent)

/-- A sale that ends without a commit. -/
theorem saleServed_unchanged {c : Call} {id : ObjectId} {db₀ db : Db} {sent : List Response}
    (store : db.store = db₀.store) (next : db₀.nextId ≤ db.nextId)
    (hsent : sent = [] ∨ ∃ b ∈ db₀.store.batches id, ¬ 0 < b.quantity) :
    SaleServed db₀ c id db sent := by
  refine ⟨.unchanged store next, fun hpos => ?_⟩
  rcases hsent with rfl | ⟨b, hb, hq⟩
  · exact List.not_mem_nil
  · exact absurd (hpos b hb) hq

/-- Another response before the commit. -/
theorem wp_send_saleServed {c : Call} {id : ObjectId} {r : Response} (hr : r ≠ inventoryEmpty)
    (store : db.store = db₀.store) (next : db₀.nextId ≤ db.nextId) (hsent : x.sent = []) :
    (Model.send r).Wp sem (fun F => SaleServed db₀ c id F.shared F.loc.sent) db x := by
  refine wp_send fun x' _ _ hx' _ => ⟨.unchanged store next, fun _ => ?_⟩
  rw [(hx' hsent).1]
  simpa using hr.symm

/-- From the draw loop on, the sale is committed as a whole or not at all. -/
theorem Opened.sellFrom {user : User} {id : ObjectId} {body : SalesBody} {data : SalesInput}
    {product : Product} {caller : Caller} (h : Opened db₀ env {} [] db x)
    (hknown : db₀.store.users.get? caller._id ≠ none)
    (hfound : db₀.store.findProduct id = some product) (hv : validateSales body = .ok data)
    (henough : data.pieces product ≤ quantitySum (db₀.store.batches id)) :
    (Model.sellFrom user id data (data.pieces product) (db₀.store.batches id)).Wp sem
      (fun F => SaleServed db₀ ⟨.recordSales id body, caller, env⟩ id F.shared F.loc.sent)
      db x := by
  have hproduct : ∀ e ∈ db₀.store.batches id, e.product = id := fun e he => by
    simpa using (List.mem_filter.1 he).2
  refine Prog.Wp.bind (h.drawLoop hproduct (Snapshotted.refl _ _ _ _)
    (fun _ db' x' hst hne hse => saleServed_unchanged hst hne hse) ?_)
  intro l' lw sent' db₁ x₁ h₁ hn₁ hs₁ hk₁ hse
  rw [Final.elim_ok]
  refine h₁.newId fun n db₂ hn₂ hn₂' h₂ => ?_
  refine h₂.inSession
    (fun _ x' _ h' => saleServed_unchanged h'.store h'.next (h'.sent_eq ▸ hse))
    fun w' _ x₃ hplan _ h₃ => ?_
  obtain ⟨-, rfl⟩ := plan_saveSale hplan
  refine h₃.commit (fun _ x' _ hx' => saleServed_unchanged h₃.store h₃.next (hx' ▸ hse))
    fun db' x' _ ha hst hn _ hsent => ?_
  -- the draw, the sale record and the snapshots, in one commit
  simp only [Writes.mk_append, List.nil_append, List.append_nil] at ha hst
  refine wp_send fun x'' _ _ hfirst hlater => ⟨?_, fun hpos => ?_⟩
  · have hn' : db₁.nextId ≤ db'.nextId := hn ▸ hn₂.trans hn₂'.le
    refine .recordSales product data _ lw hknown hfound hv henough ?_ ?_ ?_ (hs₁.mono hn') ?_
      ⟨hst, ha, h₃.next.trans hn.ge⟩
    · rfl
    · rfl
    · exact ⟨h.next.trans (hn₁.trans hn₂), hn ▸ hn₂'⟩
    · exact fun only hone hvalid hids hdel => hk₁ hdel only hone hvalid hids
  · rcases hse with rfl | ⟨b, hb, hq⟩
    · rw [(hfirst hsent).1]
      simp [inventoryEmpty, Msg]
    · exact absurd (hpos b hb) hq

theorem recordSales_served (db : Db) (id : ObjectId) (body : SalesBody) (caller : Caller)
    (env : Env) :
    SaleServed db ⟨.recordSales id body, caller, env⟩ id
      (serveStep ⟨.recordSales id body, caller, env⟩ db)
      (serve ⟨.recordSales id body, caller, env⟩ db).loc.sent := by
  refine wp_withTransaction_silent (P := SaleServed db _ id) ?_
  intro x hx
  refine hx.read fun x hx => ?_
  cases huser : Query.eval (.user caller._id) db.store with
  | none => exact wp_send_saleServed (by decide) hx.store hx.next hx.sent_eq
  | some user =>
      refine hx.read fun x hx => ?_
      cases hfound : Query.eval (.product id) db.store with
      | none => exact wp_send_saleServed (by decide) hx.store hx.next hx.sent_eq
      | some product =>
          cases hv : validateSales body with
          | error e => exact saleServed_unchanged hx.store hx.next (.inl hx.sent_eq)
          | ok data =>
              refine hx.read fun x hx => ?_
              -- the aggregation returns the product with all its batches
              change Prog.Wp sem _ (orTypeError (db.store.stock id).head? >>= _) db x
              cases hpop : (db.store.stock id).head? with
              | none => exact saleServed_unchanged hx.store hx.next (.inl hx.sent_eq)
              | some populated =>
                  obtain ⟨product', batches⟩ := populated
                  obtain rfl : batches = db.store.batches id := stock_head hpop
                  rw [orTypeError_some, Prog.done_bind]
                  -- out of stock, not enough, or enough
                  by_cases hempty : (db.store.batches id).length = 0
                  · rw [if_pos hempty]
                    refine hx.abort fun x' _ hsent => ?_
                    exact wp_send_saleServed (by decide) hx.store hx.next hsent
                  rw [if_neg hempty]
                  by_cases hmore : quantitySum (db.store.batches id) < data.pieces product
                  · rw [if_pos hmore]
                    refine hx.abort fun x' _ hsent => ?_
                    exact wp_send_saleServed (by simp [quantityExceeded, inventoryEmpty, Msg])
                      hx.store hx.next hsent
                  · rw [if_neg hmore]
                    have hknown : db.store.users.get? caller._id ≠ none := fun hnone =>
                      Option.some_ne_none user (huser.symm.trans hnone)
                    exact hx.sellFrom hknown hfound hv (not_lt.1 hmore)

end InventoryHero.Serial
