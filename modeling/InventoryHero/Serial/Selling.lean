import InventoryHero.Serial.Outcome

/-!
# The exact outcome of a sale

The draw loop answers when it meets a batch without pieces, and goes on. A second such batch makes
it throw, before the commit (`drawEnds`). Each batch that it uses up writes a snapshot if the
product has one live batch: the same one again and again if there was a snapshot before, and a new
one each time if there was none, since the reads do not see the transaction (`snapshotWrites`).
-/

set_option autoImplicit false

namespace InventoryHero.Serial

open Interaction Storage Model Stock

/-- The in-memory batches after a draw of `t` pieces. -/
def drawn (t : ℚ) : List Inventory → List Inventory
  | [] => []
  | element :: rest =>
      if 0 < element.quantity then
        if element.quantity ≤ t then
          { element with quantity := 0 } :: drawn (t - element.quantity) rest
        else { element with quantity := element.quantity - t } :: rest
      else element :: drawn t rest

/-- How the draw loop ends: whether there was an answer by then, or `none` if a second answer
throws. -/
def drawEnds (answered : Bool) (t : ℚ) : List Inventory → Option Bool
  | [] => some answered
  | element :: rest =>
      if 0 < element.quantity then
        if element.quantity ≤ t then drawEnds answered (t - element.quantity) rest
        else some answered
      else if answered then none else drawEnds true t rest

/-- The number of batches used up when the draw loop ends or throws. -/
def usedUp (answered : Bool) (t : ℚ) : List Inventory → Nat
  | [] => 0
  | element :: rest =>
      if 0 < element.quantity then
        if element.quantity ≤ t then usedUp answered (t - element.quantity) rest + 1 else 0
      else if answered then 0 else usedUp true t rest

/-- What becomes of the snapshots of product `p` when `j` batches are used up. -/
def snapshotWrites (s : Store) (p : ObjectId) (j : Nat) (n : ObjectId) : List (DocWrite Last) :=
  match s.liveBatches p, (s.lastsOf p).head? with
  | [first], some last =>
      if first.cpq = .nan ∨ j = 0 then []
      else [.modify last._id (setSnapshot first.snapshot)]
  | [first], none =>
      if first.valid then (List.range j).map fun i => .insert { first.snapshot with _id := n + i }
      else []
  | _, _ => []

/-- The ids drawn for them. -/
def snapshotIds (s : Store) (p : ObjectId) (j : Nat) : Nat :=
  match s.liveBatches p, (s.lastsOf p).head? with
  | [_], none => j
  | _, _ => 0

/-- The sale that is stored. -/
def soldAs (user : User) (id : ObjectId) (data : SalesInput) (pieces : ℚ)
    (inventory : List Inventory) (saleId : ObjectId) : Sale where
  bQuantity := quantitySum inventory
  aQuantity := quantitySum (drawn pieces inventory)
  packages := data.packages
  ppu := data.ppu
  quantity := pieces
  cost := data.cost
  createdBy := user.createdBy
  _id := saleId
  product := id
  createdAt := data.date

/-- The part of `recordSales` from the draw loop on. -/
def sellOutcome (s : Store) (user : User) (id : ObjectId) (data : SalesInput) (pieces : ℚ)
    (env : Env) : Outcome :=
  let inventory := s.batches id
  let j := usedUp false pieces inventory
  match drawEnds false pieces inventory with
  | none => .idle (snapshotIds s id j) [200]
  | some answered =>
      if user.createdBy.valid then
        .commit env (snapshotIds s id j + 1) (if answered then [200] else []) 201 fun n =>
          { inventories := drawWrites pieces inventory
            sales := [.insert (soldAs user id data pieces inventory (n + snapshotIds s id j))]
            lasts := snapshotWrites s id j n }
      else .idle (snapshotIds s id j + 1) (if answered then [200] else [])

/-- `recordSales`. Data that validation refuses are not answered, and neither is the refusal of a
sale by a seller without a name. -/
def recordSalesOutcome (s : Store) (id : ObjectId) (body : SalesBody) (caller : Caller)
    (env : Env) : Outcome :=
  match s.users.get? caller._id, s.findProduct id, validateSales body with
  | none, _, _ => .idle 0 [404]
  | some _, none, _ => .idle 0 [404]
  | some _, some _, .error _ => .idle 0 []
  | some user, some product, .ok data =>
      if (s.batches id).length = 0 then .idle 0 [400]
      else if quantitySum (s.batches id) < data.pieces product then .idle 0 [400]
      else sellOutcome s user id data (data.pieces product) env

variable {db₀ db : Db} {env : Env} {w : Writes} {sent : List Response} {x : Exchange}
  {p : ObjectId} {j : Nat}

/-! ## Snapshots -/

/-- The state of the draw loop after `j` snapshots. -/
structure Drawing (db₀ : Db) (env : Env) (p : ObjectId) (j : Nat) (w : Writes)
    (sent : List Response) (db : Db) (x : Exchange) : Prop
    extends Underway db₀ env w sent (snapshotIds db₀.store p j) db x where
  lasts : (db₀.store.apply w).lasts =
    db₀.store.lasts.writeAll (snapshotWrites db₀.store p j db₀.nextId)

theorem lastsOf_head {s : Store} {last : Last} (h : (s.lastsOf p).head? = some last) :
    s.lasts.get? last._id = some last ∧ last.product = p := by
  obtain ⟨hmem, hp⟩ := Store.mem_lastsOf_head h
  exact ⟨Collection.get?_of_mem hmem, hp⟩

/-- Overwriting a snapshot of the product leaves it the first one. -/
theorem lastsOf_head_modify {s s' : Store} {last : Last} {obj : Snapshot}
    (h : (s.lastsOf p).head? = some last) (hobj : obj.product = p)
    (hs : s'.lasts = s.lasts.modify last._id (setSnapshot obj)) :
    (s'.lastsOf p).head? = some { last with toSnapshot := obj } := by
  obtain ⟨hget, hp⟩ := lastsOf_head h
  have hfilter : s'.lastsOf p =
      (s.lastsOf p).map fun d => if d._id = last._id then (setSnapshot obj).apply d else d := by
    unfold Store.lastsOf
    rw [hs, Collection.docs_modify, List.filter_map]
    congr 1
    apply List.filter_congr
    intro d hd
    by_cases hk : d._id = last._id
    · obtain rfl : d = last :=
        Collection.eq_of_key_eq hd (Collection.get?_eq_some_iff.1 hget).1 hk
      simp [setSnapshot, hobj, hp]
    · simp [hk]
  rw [hfilter, List.head?_map, h]
  simp [setSnapshot]

/-- Overwriting a snapshot twice with the same data is overwriting it once. -/
theorem modify_setSnapshot_again (c : Collection Last) (k : ObjectId) (obj : Snapshot) :
    (c.modify k (setSnapshot obj)).modify k (setSnapshot obj) = c.modify k (setSnapshot obj) := by
  apply Collection.ext
  rw [Collection.docs_modify, Collection.docs_modify, List.map_map]
  apply List.map_congr_left
  intro d _
  by_cases hk : d._id = k
  · simp [hk, setSnapshot]
  · simp [hk]

/-- A document of a collection to which documents were added was there before or is one of them. -/
theorem mem_of_mem_writeAll_insert {ι : Type} {c : Collection Last} {l : List ι} {f : ι → Last}
    {d : Last} (h : d ∈ (c.writeAll (l.map fun i => .insert (f i))).docs) :
    d ∈ c.docs ∨ ∃ i ∈ l, d = f i := by
  induction l generalizing c with
  | nil => exact .inl h
  | cons i l ih =>
      rcases ih h with hd | ⟨i', hi', hd⟩
      · rcases Collection.mem_of_mem_insert hd with hd | hd
        · exact .inl hd
        · exact .inr ⟨i, List.mem_cons_self, hd⟩
      · exact .inr ⟨i', List.mem_cons_of_mem _ hi', hd⟩

/-- The next new id is not in use, and none of those of the snapshots before. -/
theorem accepts_snapshot {c : Collection Last} {n : ObjectId} (hfresh : ∀ d ∈ c.docs, d._id < n)
    (obj : Snapshot) (j : Nat) :
    (c.writeAll ((List.range j).map fun i => .insert { obj with _id := n + i })).accepts
      (.insert { obj with _id := n + j }) = true := by
  rw [Collection.accepts_insert_iff]
  intro d hd
  rcases mem_of_mem_writeAll_insert hd with hd | hd
  · exact ((hfresh d hd).trans_le (Nat.le_add_right _ _)).ne
  · obtain ⟨i, hi, rfl⟩ := hd
    exact (Nat.add_lt_add_left (List.mem_range.1 hi) _).ne

/-- With a snapshot there already, it stays the one that is found, and overwriting it comes to the
same whether it was overwritten before or not. -/
theorem Drawing.overwrite {first : Inventory} {last : Last}
    (h : Drawing db₀ env first.product j w sent db x)
    (hl : db₀.store.liveBatches first.product = [first])
    (hfound : (db₀.store.lastsOf first.product).head? = some last) (hnan : first.cpq ≠ .nan) :
    (db₀.store.apply w).lasts.modify last._id (setSnapshot first.snapshot) =
        db₀.store.lasts.modify last._id (setSnapshot first.snapshot) ∧
      ∃ d, ((db₀.store.apply w).lastsOf first.product).head? = some d ∧ d._id = last._id := by
  have hlasts := h.lasts
  simp only [snapshotWrites, hl, hfound, hnan, false_or] at hlasts
  by_cases hj : j = 0
  · rw [if_pos hj, Collection.writeAll_nil] at hlasts
    refine ⟨by rw [hlasts], last, ?_, rfl⟩
    rw [← hfound, Store.lastsOf, Store.lastsOf, hlasts]
  · rw [if_neg hj] at hlasts
    refine ⟨?_, _, lastsOf_head_modify hfound rfl hlasts, rfl⟩
    rw [hlasts]
    exact modify_setSnapshot_again _ _ _

/-- No snapshot is written: the transaction stays as it is. -/
theorem Drawing.skip (h : Underway db₀ env w sent (snapshotIds db₀.store p (j + 1)) db x)
    (hlasts : (db₀.store.apply w).lasts =
      db₀.store.lasts.writeAll (snapshotWrites db₀.store p j db₀.nextId))
    (hsame : snapshotWrites db₀.store p (j + 1) db₀.nextId =
      snapshotWrites db₀.store p j db₀.nextId) :
    Drawing db₀ env p (j + 1) (w ++ { lasts := [] }) sent db x := by
  rw [Writes.append_empty]
  exact ⟨h, hsame ▸ hlasts⟩

section Snapshot

variable {Q : Final Db Exchange JsError Unit → Prop} {first : Inventory}

/-- There is a snapshot already: it is overwritten, unless the unit cost is not a number. -/
theorem Drawing.updateLast {last : Last} (h : Drawing db₀ env first.product j w sent db x)
    (hl : db₀.store.liveBatches first.product = [first])
    (hfound : (db₀.store.lastsOf first.product).head? = some last)
    (next : ∀ lw db' x', Drawing db₀ env first.product (j + 1) (w ++ { lasts := lw }) sent db' x' →
      Q ⟨db', x', .ok ()⟩) :
    ((Model.inSession (.updateLast first.product first.snapshot)).tryCatch
      fun _ => pure ()).Wp sem Q db x := by
  have hdrawing := h
  obtain ⟨h, hlasts⟩ := h
  have hids : snapshotIds db₀.store first.product (j + 1) =
      snapshotIds db₀.store first.product j := by
    simp only [snapshotIds, hl, hfound]
  rw [← hids] at h
  refine Prog.Wp.tryCatch ?_
  by_cases hnan : first.cpq = .nan
  · have hplan : (Command.updateLast first.product first.snapshot).plan
        (db₀.store.apply w) = .error .cast := by
      have hhead : ((db₀.store.apply w).lastsOf first.product).head? = some last := by
        rw [← hfound, Store.lastsOf, Store.lastsOf, hlasts]
        simp [snapshotWrites, hl, hfound, hnan]
      simp only [Command.plan, hhead]
      exact if_pos hnan
    -- the error is ignored
    refine h.refuse_last hplan fun _ x' h' => next [] db x' (Drawing.skip h' hlasts ?_)
    simp [snapshotWrites, hl, hfound, hnan]
  · obtain ⟨hagain, d, hhead, hd⟩ := hdrawing.overwrite hl hfound hnan
    have hplan : (Command.updateLast first.product first.snapshot).plan (db₀.store.apply w) =
        .ok ({ lasts := [.modify last._id (setSnapshot first.snapshot)] }, ()) := by
      simp only [Command.plan, hhead, hd]
      exact if_neg hnan
    refine h.write_last hplan rfl fun x' h' =>
      next [.modify last._id (setSnapshot first.snapshot)] db x' ⟨h', ?_⟩
    rw [Store.lasts_apply, Writes.lasts_append, Collection.writeAll_append]
    simp only [snapshotWrites, hl, hfound, hnan, Nat.succ_ne_zero, or_self, if_false]
    exact hagain

/-- There is no snapshot in the store the request started with: one more is inserted, if it passes
the schema. -/
theorem Drawing.saveLast (hids : AllFresh db₀) (h : Underway db₀ env w sent (j + 1) db x)
    (hlasts : (db₀.store.apply w).lasts =
      db₀.store.lasts.writeAll (snapshotWrites db₀.store first.product j db₀.nextId))
    (hl : db₀.store.liveBatches first.product = [first])
    (hfound : (db₀.store.lastsOf first.product).head? = none)
    (next : ∀ lw db' x', Drawing db₀ env first.product (j + 1) (w ++ { lasts := lw }) sent db' x' →
      Q ⟨db', x', .ok ()⟩) :
    ((Model.inSession (.saveLast { first.snapshot with _id := db₀.nextId + j })).tryCatch
      fun _ => pure ()).Wp sem Q db x := by
  have hdrawn : snapshotIds db₀.store first.product (j + 1) = j + 1 := by
    simp only [snapshotIds, hl, hfound]
  refine Prog.Wp.tryCatch ?_
  by_cases hvalid : first.valid = true
  · simp only [snapshotWrites, hl, hfound, hvalid, if_true] at hlasts
    refine h.write_last (c := .saveLast _) (if_pos hvalid) ?_ fun x' h' =>
      next [.insert { first.snapshot with _id := db₀.nextId + j }] db x' ⟨hdrawn.symm ▸ h', ?_⟩
    · have hins := accepts_snapshot hids.last first.snapshot j
      rw [← hlasts] at hins
      simpa [Store.accepts_iff] using hins
    · rw [Store.lasts_apply, Writes.lasts_append, Collection.writeAll_append]
      simp only [snapshotWrites, hl, hfound, hvalid, if_true, List.range_succ, List.map_append,
        Collection.writeAll_append]
      exact congrArg (fun c => Collection.writeAll c _) hlasts
  · refine h.refuse_last (c := .saveLast _) (if_neg hvalid) fun _ x' h' =>
      next [] db x' (Drawing.skip (hdrawn.symm ▸ h') hlasts ?_)
    simp only [snapshotWrites, hl, hfound, hvalid, Bool.false_eq_true, if_false]

/-- The snapshot of one more batch that is used up. -/
theorem Drawing.snapshotLast (hids : AllFresh db₀) (h : Drawing db₀ env p j w sent db x)
    (next : ∀ lw db' x', Drawing db₀ env p (j + 1) (w ++ { lasts := lw }) sent db' x' →
      Q ⟨db', x', .ok ()⟩) :
    (Model.snapshotLast p).Wp sem Q db x := by
  obtain ⟨h, hlasts⟩ := h
  refine h.read fun x h => ?_
  rcases hl : Query.eval (.inventories p) db₀.store with _ | ⟨first, _ | ⟨second, rest⟩⟩ <;>
    change db₀.store.liveBatches p = _ at hl
  · simp only [snapshotIds, hl] at h
    refine next [] db x (Drawing.skip ?_ hlasts ?_)
    · simpa only [snapshotIds, hl] using h
    · simp only [snapshotWrites, hl]
  · obtain rfl : first.product = p := (mem_liveBatches (hl ▸ List.mem_cons_self)).2
    refine h.read fun x h => ?_
    cases hfound : Query.eval (.last first.product) db₀.store with
    | some last => exact Drawing.updateLast ⟨h, hlasts⟩ hl hfound next
    | none =>
        change (db₀.store.lastsOf first.product).head? = none at hfound
        simp only [snapshotIds, hl, hfound] at h
        exact h.newId fun db₁ h => Drawing.saveLast hids h hlasts hl hfound next
  · simp only [snapshotIds, hl] at h
    refine next [] db x (Drawing.skip ?_ hlasts ?_)
    · simpa only [snapshotIds, hl] using h
    · simp only [snapshotWrites, hl]

end Snapshot

/-! ## The draw loop -/

/-- What the loop has answered. -/
def answers (answered : Bool) : List Response := if answered then [inventoryEmpty] else []

section Equations

variable {b : Bool} {t : ℚ} {e : Inventory} (rest : List Inventory)

theorem draw_used_up (h₀ : 0 < e.quantity) (h : e.quantity ≤ t) :
    drawEnds b t (e :: rest) = drawEnds b (t - e.quantity) rest ∧
      usedUp b t (e :: rest) = usedUp b (t - e.quantity) rest + 1 ∧
      drawn t (e :: rest) = { e with quantity := 0 } :: drawn (t - e.quantity) rest := by
  simp only [drawEnds, usedUp, drawn, h₀, h, if_true, and_self]

theorem draw_remainder (h₀ : 0 < e.quantity) (h : ¬ e.quantity ≤ t) :
    drawEnds b t (e :: rest) = some b ∧ usedUp b t (e :: rest) = 0 ∧
      drawn t (e :: rest) = { e with quantity := e.quantity - t } :: rest := by
  simp only [drawEnds, usedUp, drawn, h₀, h, if_true, if_false, and_self]

theorem draw_skip (h₀ : ¬ 0 < e.quantity) :
    drawEnds false t (e :: rest) = drawEnds true t rest ∧
      usedUp false t (e :: rest) = usedUp true t rest ∧
      drawn t (e :: rest) = e :: drawn t rest := by
  simp [drawEnds, usedUp, drawn, h₀]

end Equations

/-- The draw loop issues the writes `drawWrites` and snapshots of the product, or throws at the
second batch without pieces. -/
theorem Drawing.drawLoop {Q : Final Db Exchange JsError (List Inventory) → Prop}
    (hids : AllFresh db₀) {l : List Inventory} {t : ℚ} {b : Bool} (hl : ∀ e ∈ l, e.product = p)
    (h : Drawing db₀ env p j w (answers b) db x)
    (herr : drawEnds b t l = none → ∀ e w' db' x',
      Underway db₀ env w' (answers true) (snapshotIds db₀.store p (j + usedUp b t l)) db' x' →
      Q ⟨db', x', .error e⟩)
    (next : ∀ b', drawEnds b t l = some b' → ∀ lw db' x',
      Drawing db₀ env p (j + usedUp b t l) (w ++ { inventories := drawWrites t l, lasts := lw })
        (answers b') db' x' →
      Q ⟨db', x', .ok (drawn t l)⟩) :
    (Model.drawLoop t l).Wp sem Q db x := by
  induction l generalizing t w b db x Q j with
  | nil =>
      refine next b rfl [] db x ?_
      exact (Writes.append_empty w).symm ▸ h
  | cons e rest ih =>
      have hrest : ∀ a ∈ rest, a.product = p := fun a ha => hl a (List.mem_cons_of_mem _ ha)
      obtain rfl : e.product = p := hl e List.mem_cons_self
      by_cases h₀ : 0 < e.quantity
      · by_cases hq : e.quantity ≤ t
        · obtain ⟨hends, hused, hdrawn⟩ := draw_used_up (b := b) rest h₀ hq
          have hj : j + (usedUp b (t - e.quantity) rest + 1) =
              j + 1 + usedUp b (t - e.quantity) rest := by omega
          rw [hends, hused, hj] at herr next
          rw [drawWrites_used_up rest h₀ hq, hdrawn] at next
          simp only [Model.drawLoop, h₀, hq, if_true]
          refine Prog.Wp.bind (h.snapshotLast hids fun lw db₁ x₁ h₁ => ?_)
          refine h₁.write (c := .deleteInventory e._id) rfl rfl fun x₂ h₂ => ?_
          -- deleting the batch does not touch the snapshots
          have hlasts : (db₀.store.apply (w ++ { lasts := lw } ++
              { inventories := [.delete e._id] })).lasts =
              db₀.store.lasts.writeAll
                (snapshotWrites db₀.store e.product (j + 1) db₀.nextId) := by
            rw [Store.apply_append]
            exact h₁.lasts
          refine Prog.Wp.bind (ih hrest ⟨h₂, hlasts⟩ herr ?_)
          intro b' hb' lw' db' x' h₃
          rw [append_usedUp] at h₃
          exact next b' hb' _ db' x' h₃
        · obtain ⟨hends, hused, hdrawn⟩ := draw_remainder (b := b) rest h₀ hq
          rw [hends, hused] at next
          rw [drawWrites_remainder rest h₀ hq, hdrawn] at next
          simp only [Model.drawLoop, h₀, hq, if_true, if_false]
          refine h.write (c := .updateQuantity e._id (e.quantity - t)) rfl rfl fun x₂ h₂ => ?_
          refine next b rfl [] db x₂ ⟨h₂, ?_⟩
          rw [Store.apply_append]
          exact h.lasts
      · simp only [Model.drawLoop, h₀, if_false]
        cases b with
        | true =>
            -- express refuses the second answer
            have hends : drawEnds true t (e :: rest) = none := by simp [drawEnds, h₀]
            have hused : usedUp true t (e :: rest) = 0 := by simp [usedUp, h₀]
            rw [hused] at herr
            exact h.send (fun _ e => herr hends e w db x h.toUnderway) fun _ hnil => by
              simp [answers] at hnil
        | false =>
            obtain ⟨hends, hused, hdrawn⟩ := draw_skip (t := t) rest h₀
            rw [hends, hused] at herr next
            rw [drawWrites_skip rest h₀, hdrawn] at next
            refine h.send (fun hne => absurd rfl hne) fun x₁ _ h₁ => ?_
            have h₁' : Drawing db₀ env e.product j w (answers true) db x₁ :=
              ⟨⟨h₁, h.accepted, h.drawn⟩, h.lasts⟩
            exact Prog.Wp.bind (ih hrest h₁' herr next)

/-! ## The handler -/

/-- An error before the commit is logged, and nothing is answered. -/
theorem Underway.throw_silent {k : Nat} (h : Underway db₀ env w sent k db x) (e : JsError) :
    Ends db₀ (.idle k (sent.map Response.status)) (fun _ => pure ()) ⟨db, x, .error e⟩ := by
  refine h.abort fun x' hs hsent => ?_
  exact ⟨h.store, h.drawn, by simp [Prog.run, pure, hsent, Outcome.idle],
    by simp [Prog.run, pure, hs, Outcome.idle]⟩

theorem answers_status (b : Bool) :
    (answers b).map Response.status = if b then [200] else [] := by
  cases b with
  | false => rfl
  | true => rfl

theorem Underway.sellFrom {user : User} {id : ObjectId} {data : SalesInput} {pieces : ℚ}
    (hids : AllFresh db₀) (h : Underway db₀ env {} [] 0 db x) :
    (Model.sellFrom user id data pieces (db₀.store.batches id)).Wp sem
      (Ends db₀ (sellOutcome db₀.store user id data pieces env) fun _ => pure ()) db x := by
  have hproduct : ∀ e ∈ db₀.store.batches id, e.product = id := fun e he => by
    simpa using (List.mem_filter.1 he).2
  have hstart : Drawing db₀ env id 0 {} (answers false) db x := by
    refine ⟨?_, ?_⟩
    · have hzero : snapshotIds db₀.store id 0 = 0 := by
        unfold snapshotIds
        split <;> rfl
      rw [hzero]
      exact h
    · have hnone : snapshotWrites db₀.store id 0 db₀.nextId = [] := by
        unfold snapshotWrites
        split <;> simp
      rw [hnone]
      rfl
  refine Prog.Wp.bind (hstart.drawLoop hids hproduct ?_ ?_)
  · intro hends e w' db' x' h'
    simp only [sellOutcome, hends]
    rw [Nat.zero_add] at h'
    exact h'.throw_silent e
  · intro b hends lw db₁ x₁ h₁
    simp only [sellOutcome, hends]
    rw [Nat.zero_add] at h₁
    rw [Final.elim_ok]
    refine h₁.newId fun db₂ h₂ => ?_
    rw [← answers_status]
    by_cases hvalid : user.createdBy.valid = true
    swap
    · rw [if_neg hvalid]
      exact h₂.refuse (c := .saveSale _) (if_neg hvalid) fun e _ h' => h'.throw_silent e
    rw [if_pos hvalid]
    refine h₂.write (c := .saveSale _) (if_pos hvalid)
      (hids.accepts_sale rfl (Nat.le_add_right _ _)) fun x₃ h₃ => ?_
    refine h₃.commit (r := Msg (.sale _) (.str "sales recorded sucessfully") 201) ?_
    -- the snapshots of the transaction are those of the outcome
    have hlasts : db₀.store.lasts.writeAll lw = db₀.store.lasts.writeAll
        (snapshotWrites db₀.store id (usedUp false pieces (db₀.store.batches id)) db₀.nextId) :=
      h₁.lasts
    simp only [Store.apply, Writes.mk_append, List.nil_append, List.append_nil, hlasts]
    rfl

/-- The aggregation finds a product that was found before. -/
theorem stock_head_ne_none {s : Store} {id : ObjectId} {product : Product}
    (h : s.findProduct id = some product) : (s.stock id).head? ≠ none := by
  obtain ⟨hmem, hid⟩ := Store.mem_of_findProduct h
  intro hnone
  rw [List.head?_eq_none_iff] at hnone
  have hstock : ⟨product, s.batches product._id⟩ ∈ s.stock id := by
    simp only [Store.stock, List.mem_insertionSort, List.mem_map, List.mem_filter]
    exact ⟨product, ⟨hmem, by simpa using hid⟩, rfl⟩
  rw [hnone] at hstock
  cases hstock

theorem recordSales_outcome (hids : AllFresh db) (id : ObjectId) (body : SalesBody)
    (caller : Caller) (env : Env) :
    Served db (recordSalesOutcome db.store id body caller env)
      (serve ⟨.recordSales id body, caller, env⟩ db) := by
  refine served_withTransaction env rfl rfl fun x hx => ?_
  refine hx.read fun x hx => ?_
  cases huser : Query.eval (.user caller._id) db.store with
  | none =>
      change db.store.users.get? caller._id = none at huser
      simp only [recordSalesOutcome, huser]
      exact hx.answer (r := notAuthorized)
  | some user =>
      change db.store.users.get? caller._id = some user at huser
      refine hx.read fun x hx => ?_
      cases hfound : Query.eval (.product id) db.store with
      | none =>
          change db.store.findProduct id = none at hfound
          simp only [recordSalesOutcome, huser, hfound]
          exact hx.answer (r := productNotFound)
      | some product =>
          change db.store.findProduct id = some product at hfound
          cases hv : validateSales body with
          | error e =>
              simp only [recordSalesOutcome, huser, hfound, hv]
              exact hx.throw_silent (.exception e 400)
          | ok data =>
              simp only [recordSalesOutcome, huser, hfound, hv]
              refine hx.read fun x hx => ?_
              -- the aggregation returns the product with all its batches
              change Prog.Wp sem _ (orTypeError (db.store.stock id).head? >>= _) db x
              cases hpop : (db.store.stock id).head? with
              | none => exact absurd hpop (stock_head_ne_none hfound)
              | some populated =>
                  obtain ⟨product', batches⟩ := populated
                  obtain rfl : batches = db.store.batches id := stock_head hpop
                  rw [orTypeError_some, Prog.done_bind]
                  by_cases hempty : (db.store.batches id).length = 0
                  · rw [if_pos hempty, if_pos hempty]
                    exact hx.abortAnswer (r := outOfStock)
                  rw [if_neg hempty, if_neg hempty]
                  by_cases hmore : quantitySum (db.store.batches id) < data.pieces product
                  · rw [if_pos hmore, if_pos hmore]
                    exact hx.abortAnswer (r := quantityExceeded _ _)
                  · rw [if_neg hmore, if_neg hmore]
                    exact hx.sellFrom hids

end InventoryHero.Serial
