import InventoryHero.Interaction.Attempts
import InventoryHero.Serial.Rules
import InventoryHero.Serial.Effect

/-!
# Removing a product

`userDeleteProduct` deletes the product and everything that refers to it in one transaction, and
calls Cloudinary for the images before the commit. A call that went through is not undone by an
abort. `Removing` keeps account of the calls next to the open transaction, and `Removed` says what
the request leaves behind: which images are destroyed, and whether the transaction went through.
-/

set_option autoImplicit false

namespace InventoryHero.Serial

open Interaction Storage Model

variable {db₀ db : Db} {env : Env} {w : Writes} {x : Exchange} {n : Nat}
  {images : List (Option String)} {α : Type} {Q : Final Db Exchange JsError α → Prop}

/-! ## Operations other than calls to Cloudinary -/

/-- The operation is not a call to Cloudinary. -/
def NoDestroy : Op → Prop
  | .destroy _ => False
  | _ => True

theorem noDestroy_sem {o : Op} (ho : NoDestroy o) (db : Db) (x : Exchange) :
    (sem o db x).2.1.destroyCalls = x.destroyCalls ∧ (sem o db x).2.1.destroyed = x.destroyed := by
  cases o with
  | destroy cloudId => cases ho
  | _ =>
      simp only [sem, execInSession, execDirect, execCommit, execAbort, execSend]
      repeat' split
      all_goals simp

/-- Without calls to Cloudinary the account of the calls stays as it is. -/
theorem wp_noDestroy {p : Js α} (hp : p.Only NoDestroy)
    (h : p.Wp sem (fun F => F.loc.destroyCalls = x.destroyCalls ∧ F.loc.destroyed = x.destroyed →
      Q F) db x) : p.Wp sem Q db x := by
  refine Prog.Wp.frame (I := fun _ x' => x'.destroyCalls = x.destroyCalls ∧
    x'.destroyed = x.destroyed) ?_ hp ⟨rfl, rfl⟩ h
  intro o db' x' ho hx'
  obtain ⟨hcalls, hdestroyed⟩ := noDestroy_sem ho db' x'
  exact ⟨hcalls.trans hx'.1, hdestroyed.trans hx'.2⟩

theorem noDestroy_abort : abortTransaction.Only NoDestroy := only_issue trivial

theorem noDestroy_commit : commitTransaction.Only NoDestroy := only_issue trivial

theorem noDestroy_then_send {p : Js Unit} (hp : p.Only NoDestroy) (r : Response) :
    (p >>= fun _ => Model.send r).Only NoDestroy :=
  .bind hp fun _ => only_issue trivial

/-! ## The transaction -/

/-- A removal in its transaction, after `n` calls to Cloudinary of which those for `images` went
through. -/
structure Removing (db₀ : Db) (env : Env) (w : Writes) (n : Nat) (images : List (Option String))
    (db : Db) (x : Exchange) : Prop extends Opened db₀ env w [] db x where
  calls : x.destroyCalls = n
  destroyed : x.destroyed = images

namespace Removing

theorem read (h : Removing db₀ env w n images db x) {q : Query} {f : q.Result → Js α}
    (next : ∀ x', Removing db₀ env w n images db x' → (f (q.eval db₀.store)).Wp sem Q db x') :
    (Model.read q >>= f).Wp sem Q db x := by
  refine Prog.Wp.bind (wp_noDestroy (.op trivial) ?_)
  rw [← Prog.bind_done (Model.read q)]
  refine h.toOpened.read fun x' h' hkept => next x' ?_
  exact ⟨h', hkept.1.trans h.calls, hkept.2.trans h.destroyed⟩

theorem write (h : Removing db₀ env w n images db x) {c : Command} {f : c.Result → Js α}
    {w' : Writes} {r : c.Result} (hplan : c.plan (db₀.store.apply w) = .ok (w', r))
    (hacc : (db₀.store.apply w).accepts w' = true)
    (next : ∀ x', Removing db₀ env (w ++ w') n images db x' → (f r).Wp sem Q db x') :
    (Model.inSession c >>= f).Wp sem Q db x := by
  refine Prog.Wp.bind (wp_noDestroy (only_issue trivial) ?_)
  rw [← Prog.bind_done (Model.inSession c)]
  refine h.toOpened.write hplan hacc fun x' h' hkept => next x' ?_
  exact ⟨h', hkept.1.trans h.calls, hkept.2.trans h.destroyed⟩

/-- A call to Cloudinary fails, or the image is destroyed. -/
theorem destroy (h : Removing db₀ env w n images db x) {cloudId : Option String} {f : Unit → Js α}
    (herr : env.destroyFails n = true → ∀ e x', Removing db₀ env w (n + 1) images db x' →
      Q ⟨db, x', .error e⟩)
    (next : env.destroyFails n = false → ∀ x',
      Removing db₀ env w (n + 1) (images ++ [cloudId]) db x' → (f ()).Wp sem Q db x') :
    (Model.destroy cloudId >>= f).Wp sem Q db x := by
  have hcall : x.env.destroyFails x.destroyCalls = env.destroyFails n := by
    rw [h.env_eq, h.calls]
  have hopened : ∀ images', Opened db₀ env w [] db
      { x with destroyCalls := x.destroyCalls + 1, destroyed := images' } := fun _ =>
    ⟨h.store, h.oplog, h.next, h.session, h.sent_eq, h.env_eq⟩
  have hcalls : x.destroyCalls + 1 = n + 1 := congrArg (· + 1) h.calls
  refine wp_issue ?_
  simp only [sem, execDestroy]
  cases hfails : x.env.destroyFails x.destroyCalls with
  | true => exact herr (hcall ▸ hfails) _ _ ⟨hopened x.destroyed, hcalls, h.destroyed⟩
  | false =>
      exact next (hcall ▸ hfails) _ ⟨hopened _, hcalls, congrArg (· ++ [cloudId]) h.destroyed⟩

/-- The loop over the images. A call that fails ends it, with the transaction still open. -/
theorem destroyAll (h : Removing db₀ env w n images db x) (cloudIds : List (Option String))
    {f : Unit → Js α}
    (herr : completed env.destroyFails n cloudIds ≠ cloudIds → ∀ e n' x',
      Removing db₀ env w n' (images ++ completed env.destroyFails n cloudIds) db x' →
        Q ⟨db, x', .error e⟩)
    (next : completed env.destroyFails n cloudIds = cloudIds → ∀ n' x',
      Removing db₀ env w n' (images ++ completed env.destroyFails n cloudIds) db x' →
        (f ()).Wp sem Q db x') :
    (Model.destroyAll cloudIds >>= f).Wp sem Q db x := by
  refine Prog.Wp.bind ?_
  induction cloudIds generalizing x n images with
  | nil =>
      rw [completed_nil, List.append_nil] at next
      exact next rfl n x h
  | cons cloudId rest ih =>
      refine h.destroy (fun hfails e x' h' => ?_) fun hok x' h' => ?_
      · rw [completed_cons_of_fails hfails, List.append_nil] at herr
        exact herr (by simp) e _ x' h'
      · -- the rest of the loop starts with this image destroyed
        rw [completed_cons_of_ok hok, List.append_cons, Ne, List.cons_inj_right] at herr
        rw [completed_cons_of_ok hok, List.append_cons, List.cons_inj_right] at next
        exact ih h' herr next

end Removing

/-! ## What is left behind -/

/-- The arguments of the calls to Cloudinary: none unless some image has a cloud id. -/
def toDestroy (item : Product) : List (Option String) :=
  if (item.cloudId.filter Option.isSome).length ≠ 0 then item.cloudId else []

/-- The answer of a removal that went through. -/
def productDeleted : Response := Msg (.field "product" "product deleted") requestSuccessful 200

/-- The product is found, no call to Cloudinary fails, and the commit does not fail. -/
def GoesThrough (s : Store) (id : ObjectId) (env : Env) : Prop :=
  ∃ item ∈ s.findProduct id,
    completed env.destroyFails 0 (toDestroy item) = toDestroy item ∧ env.commitFails = false

/-- What `userDeleteProduct` leaves behind: the images up to the first call that fails are
destroyed. The product is gone with everything that refers to it, and the answer says so, or the
store is as it was. -/
structure Removed (db : Db) (id : ObjectId) (env : Env) (db' : Db) (x' : Exchange) : Prop where
  next : db.nextId ≤ db'.nextId
  destroyed : x'.destroyed =
    completed env.destroyFails 0 ((db.store.findProduct id).elim [] toDestroy)
  outcome : GoesThrough db.store id env ∧ db'.store = dropProduct db.store id ∧
      x'.sent = [productDeleted] ∨
    ¬ GoesThrough db.store id env ∧ db'.store = db.store ∧ x'.sent ≠ [productDeleted]

/-- The body of the transaction ends so that this holds after the catch block. -/
def RemovalEnds (db : Db) (id : ObjectId) (env : Env) (F : Final Db Exchange JsError Unit) : Prop :=
  F.elim (fun _ db' x' => Removed db id env db' x')
    (fun e db' x' => (abortTransaction >>= fun _ => Model.send (.next e)).Wp sem
      (fun F => Removed db id env F.shared F.loc) db' x')

/-- The five deletions of `userDeleteProduct`, taken together. -/
theorem writes_dropProduct (s : Store) (id : ObjectId) :
    s.apply
      { products := [.delete id]
        inventories := (s.batches id).map (.delete ·._id)
        sales := (s.sales.docs.filter fun d => d.product = id).map (.delete ·._id)
        costs := (s.costs.docs.filter fun d => d.product = id).map (.delete ·._id)
        lasts := (s.lastsOf id).map (.delete ·._id) } = dropProduct s id := by
  have hi := s.inventories.writeAll_delete_filter fun d => d.product = id
  have hs := s.sales.writeAll_delete_filter fun d => d.product = id
  have hc := s.costs.writeAll_delete_filter fun d => d.product = id
  have hl := s.lasts.writeAll_delete_filter fun d => d.product = id
  simp only [Store.apply, dropProduct, Store.mk.injEq]
  exact ⟨trivial, rfl, hi, hs, hc, hl⟩

section Ends

variable {id : ObjectId}

/-- The catch block answers with the error. -/
theorem removalEnds_error {e : JsError}
    (h : (abortTransaction >>= fun _ => Model.send (.next e)).Wp sem
      (fun F => Removed db₀ id env F.shared F.loc) db x) :
    RemovalEnds db₀ id env ⟨db, x, .error e⟩ := h

/-- A body that throws in its transaction. -/
theorem Removing.throw (h : Removing db₀ env w n images db x)
    (himages : images = completed env.destroyFails 0
      ((db₀.store.findProduct id).elim [] toDestroy))
    (hnot : ¬ GoesThrough db₀.store id env) (e : JsError) :
    RemovalEnds db₀ id env ⟨db, x, .error e⟩ := by
  refine removalEnds_error (wp_noDestroy (noDestroy_then_send noDestroy_abort _) ?_)
  refine h.abort fun x' _ hsent => wp_send fun x'' _ _ hfirst _ hkept => ?_
  refine ⟨h.next, (hkept.2.trans h.destroyed).trans himages, .inr ⟨hnot, h.store, ?_⟩⟩
  rw [(hfirst hsent).1]
  simp [Response.next, productDeleted, Msg]

/-- The end of the transaction. -/
theorem Removing.commit (h : Removing db₀ env w n images db x)
    (himages : images = completed env.destroyFails 0
      ((db₀.store.findProduct id).elim [] toDestroy))
    (hthrough : GoesThrough db₀.store id env ↔ env.commitFails = false)
    (hacc : db₀.store.accepts w = true) (hw : db₀.store.apply w = dropProduct db₀.store id) :
    (commitTransaction >>= fun _ => Model.send productDeleted).Wp sem
      (RemovalEnds db₀ id env) db x := by
  have hdestroyed := h.destroyed.trans himages
  refine wp_noDestroy (noDestroy_then_send noDestroy_commit productDeleted) ?_
  refine h.commit_cases ?_ (fun hno => absurd hno (by simp [hacc])) ?_
  · intro hfails e x' hs hsent hkept
    -- the transaction is over, so the catch block does not come to its answer
    refine removalEnds_error (wp_noDestroy (noDestroy_then_send noDestroy_abort _) ?_)
    refine wp_abort_over (by simp [hs]) fun _ _ => ?_
    exact ⟨h.next, hkept.2.trans hdestroyed,
      .inr ⟨by simp [hthrough, hfails], h.store, by simp [hsent]⟩⟩
  · intro hok _ db' x' hst hn _ hsent
    refine wp_send fun x'' res _ hfirst _ hkept => ?_
    obtain ⟨hx'', rfl⟩ := hfirst hsent
    exact ⟨h.next.trans hn.ge, hkept.2.trans hdestroyed,
      .inl ⟨hthrough.2 hok, hst.trans hw, hx''⟩⟩

/-- The transaction from the first call to Cloudinary on. -/
theorem Removing.finish {item : Product} (h : Removing db₀ env w 0 [] db x)
    (hitem : db₀.store.findProduct id = some item) (hacc : db₀.store.accepts w = true)
    (hw : db₀.store.apply w = dropProduct db₀.store id) :
    (Model.destroyAll (toDestroy item) >>= fun _ => commitTransaction >>= fun _ =>
      Model.send productDeleted).Wp sem (RemovalEnds db₀ id env) db x := by
  have himages : completed env.destroyFails 0 (toDestroy item) =
      completed env.destroyFails 0 ((db₀.store.findProduct id).elim [] toDestroy) := by
    rw [hitem]
    rfl
  refine h.destroyAll _ (fun hstops e n' x' h' => ?_) fun hall n' x' h' => ?_
  · exact h'.throw himages (by simp [GoesThrough, hitem, hstops]) e
  · exact h'.commit himages (by simp [GoesThrough, hitem, hall]) hacc hw

end Ends

/-- The request up to its transaction. -/
theorem removed_withTransaction {id : ObjectId} {body : Js Unit}
    (h : ∀ x, Removing db env {} 0 [] db x → body.Wp sem (RemovalEnds db id env) db x) :
    (withTransaction body fun err => Model.send (.next err)).Wp sem
      (fun F => Removed db id env F.shared F.loc) db (.init env) :=
  Prog.Wp.tryCatch (h _ ⟨opened_start db (.init env), rfl, rfl⟩)

theorem userDeleteProduct_removed (db : Db) (id : ObjectId) (caller : Caller) (env : Env) :
    Removed db id env (serveStep ⟨.userDeleteProduct id, caller, env⟩ db)
      (serve ⟨.userDeleteProduct id, caller, env⟩ db).loc := by
  refine removed_withTransaction fun x hx => hx.read fun x hx => ?_
  cases hfound : Query.eval (.product id) db.store with
  | none =>
      change db.store.findProduct id = none at hfound
      refine wp_noDestroy (p := Model.send productNotFound) (only_issue trivial) ?_
      refine wp_send fun x' res _ hfirst _ hkept => ?_
      obtain ⟨hx', rfl⟩ := hfirst hx.sent_eq
      refine ⟨hx.next, ?_, .inr ⟨by simp [GoesThrough, hfound], hx.store, ?_⟩⟩
      · rw [hfound]
        exact hkept.2.trans hx.destroyed
      · rw [hx']
        decide
  | some item =>
      change db.store.findProduct id = some item at hfound
      -- deletions are never refused
      refine hx.write (c := .deleteSales id) rfl (by simp [Store.accepts_iff]) fun x hx => ?_
      refine hx.write (c := .deleteInventories id) rfl (by simp [Store.accepts_iff]) fun x hx => ?_
      refine hx.write (c := .deleteCosts id) rfl (by simp [Store.accepts_iff]) fun x hx => ?_
      refine hx.write (c := .deleteLasts id) rfl (by simp [Store.accepts_iff]) fun x hx => ?_
      refine hx.write (c := .deleteProduct id) rfl (by simp [Store.accepts_iff]) fun x hx => ?_
      -- the five deletions concern different collections, so each sees the initial documents
      have hdrop := writes_dropProduct db.store id
      simp only [Writes.mk_append, List.nil_append, List.append_nil, Store.batches, Store.lastsOf,
        Store.sales_apply, Store.inventories_apply, Store.costs_apply, Store.lasts_apply,
        Collection.writeAll_nil] at hx hdrop
      have hfinish := hx.finish hfound (by simp [Store.accepts_iff]) hdrop
      extract_lets finish
      by_cases himages : (item.cloudId.filter Option.isSome).length ≠ 0
      · rw [if_pos himages]
        rw [toDestroy, if_pos himages] at hfinish
        exact hfinish
      · rw [if_neg himages]
        rw [toDestroy, if_neg himages] at hfinish
        exact hfinish

/-- The removal without the images: the product is gone with everything that refers to it, and the
answer says so, or the store is as it was. -/
def RemovalServed (db : Db) (id : ObjectId) (db' : Db) (sent : List Response) : Prop :=
  db.nextId ≤ db'.nextId ∧ (db'.store = dropProduct db.store id ∧ sent = [productDeleted] ∨
    db'.store = db.store ∧ sent ≠ [productDeleted])

theorem userDeleteProduct_served (db : Db) (id : ObjectId) (caller : Caller) (env : Env) :
    RemovalServed db id (serveStep ⟨.userDeleteProduct id, caller, env⟩ db)
      (serve ⟨.userDeleteProduct id, caller, env⟩ db).loc.sent := by
  have hremoved := userDeleteProduct_removed db id caller env
  exact ⟨hremoved.next, hremoved.outcome.imp And.right And.right⟩

theorem userDeleteProduct_effect (db : Db) (id : ObjectId) (caller : Caller) (env : Env) :
    Effect db ⟨.userDeleteProduct id, caller, env⟩
      (serveStep ⟨.userDeleteProduct id, caller, env⟩ db) := by
  obtain ⟨next, ⟨store, -⟩ | ⟨store, -⟩⟩ := userDeleteProduct_served db id caller env
  · exact .userDeleteProduct store next
  · exact .unchanged store next

end InventoryHero.Serial
