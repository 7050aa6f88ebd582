import InventoryHero.Serial.Removal

/-!
# Images are destroyed with their product

Cloudinary is not part of the transaction: an image that was destroyed stays so when the
transaction is aborted or its commit fails. `userDeleteProduct` destroys the images first and
commits afterwards. It comes to all or nothing only if nothing fails, or if what fails does so
before the first image was destroyed (`NothingToRestore`).
-/

set_option autoImplicit false

namespace InventoryHero.Removal

open Interaction Storage Model Serial

/-- The product with the id `id` and the documents that refer to it. -/
def documents (s : Store) (id : ObjectId) :
    Option Product × List Inventory × List Sale × List Cost × List Last :=
  (s.products.get? id, s.batches id, s.sales.docs.filter fun d => d.product = id,
    s.costs.docs.filter fun d => d.product = id, s.lastsOf id)

/-- None of them is left. -/
def Gone (s : Store) (id : ObjectId) : Prop := documents s id = (none, [], [], [], [])

/-- From `s` to `s'` the product with the id `id` is gone and every image of `product` with a cloud
id was destroyed, or the documents are as they were and no image was destroyed. -/
def AllOrNothing (id : ObjectId) (product : Product) (s s' : Store)
    (destroyed : List (Option String)) : Prop :=
  Gone s' id ∧ (∀ c, some c ∈ product.cloudId → some c ∈ destroyed) ∨
    documents s' id = documents s id ∧ ∀ c, some c ∈ product.cloudId → some c ∉ destroyed

/-- The product is hidden and not found, it has no images, nothing fails, or a call to Cloudinary
fails before the first image with a cloud id. -/
def NothingToRestore (product : Product) (env : Env) : Prop :=
  product.isDeleted = true ∨ (∀ c ∈ product.cloudId, c = none) ∨
    ((∀ i < product.cloudId.length, env.destroyFails i = false) ∧ env.commitFails = false) ∨
    ∃ i < product.cloudId.length, env.destroyFails i = true ∧
      ∀ c ∈ product.cloudId.take i, c = none

/-! ## The documents -/

theorem gone_dropProduct (s : Store) (id : ObjectId) : Gone (dropProduct s id) id := by
  simp [Gone, documents, dropProduct, Store.batches, Store.lastsOf, Collection.get?_delete,
    List.filter_filter]

section Documents

variable {s s' : Store} {id : ObjectId} {product : Product} {destroyed : List (Option String)}

theorem not_gone (h : s.products.get? id = some product) : ¬ Gone s id := by
  intro hgone
  simp [Gone, documents, h] at hgone

/-- When the documents are gone, all images have to be. -/
theorem allOrNothing_of_drop (h : s.products.get? id = some product)
    (hs : s' = dropProduct s id) :
    AllOrNothing id product s s' destroyed ↔
      ∀ c, some c ∈ product.cloudId → some c ∈ destroyed := by
  have hgone : Gone s' id := hs ▸ gone_dropProduct s id
  constructor
  · rintro (⟨-, hall⟩ | ⟨hkept, -⟩)
    · exact hall
    · exact absurd (hkept.symm.trans hgone) (not_gone h)
  · exact fun hall => .inl ⟨hgone, hall⟩

/-- When the documents are as they were, no image may be destroyed. -/
theorem allOrNothing_of_kept (h : s.products.get? id = some product) (hs : s' = s) :
    AllOrNothing id product s s' destroyed ↔
      ∀ c, some c ∈ product.cloudId → some c ∉ destroyed := by
  subst hs
  constructor
  · rintro (⟨hgone, -⟩ | ⟨-, hnone⟩)
    · exact absurd hgone (not_gone h)
    · exact hnone
  · exact fun hnone => .inr ⟨rfl, hnone⟩

end Documents

/-! ## The calls -/

theorem toDestroy_of_some {product : Product} (h : ¬ ∀ c ∈ product.cloudId, c = none) :
    toDestroy product = product.cloudId := by
  refine if_pos fun hlen => h fun c hc => ?_
  rw [List.length_eq_zero_iff, List.filter_eq_nil_iff] at hlen
  simpa using hlen c hc

/-- No image is destroyed if those that the calls went through for have no cloud id. -/
theorem none_destroyed_iff {cloudId images : List (Option String)} (h : images ⊆ cloudId) :
    (∀ c, some c ∈ cloudId → some c ∉ images) ↔ ∀ c ∈ images, c = none := by
  constructor
  · intro hnone c hc
    cases c with
    | none => rfl
    | some c => exact absurd hc (hnone c (h hc))
  · intro hnone c _ hc
    cases hnone _ hc

/-- Up to the first call that fails: a later one that fails comes after no fewer images. -/
theorem none_before_first {cloudId : List (Option String)} {fails : ℕ → Bool} {i : ℕ}
    (hi : i < cloudId.length) (hfails : fails i = true) (hbefore : ∀ j < i, fails j = false) :
    (∀ c ∈ cloudId.take i, c = none) ↔
      ∃ j < cloudId.length, fails j = true ∧ ∀ c ∈ cloudId.take j, c = none := by
  constructor
  · exact fun hnone => ⟨i, hi, hfails, hnone⟩
  · rintro ⟨j, -, hj, hnone⟩ c hc
    have hij : i ≤ j := by
      by_contra hlt
      rw [hbefore j (by omega)] at hj
      cases hj
    exact hnone c ((List.take_prefix_take_left hij).subset hc)

section Calls

variable {db db' : Db} {id : ObjectId} {product : Product} {env : Env} {x' : Exchange}

/-- What a removal leaves behind, for a product with images. -/
theorem removed_with_images (hfound : db.store.findProduct id = some product)
    (hsome : ¬ ∀ c ∈ product.cloudId, c = none) (hremoved : Removed db id env db' x') :
    x'.destroyed = completed env.destroyFails 0 product.cloudId ∧
      (completed env.destroyFails 0 product.cloudId = product.cloudId ∧
          env.commitFails = false ∧ db'.store = dropProduct db.store id ∨
        (completed env.destroyFails 0 product.cloudId = product.cloudId →
          env.commitFails = true) ∧ db'.store = db.store) := by
  have hcalls := toDestroy_of_some hsome
  have hdestroyed := hremoved.destroyed
  have houtcome := hremoved.outcome
  rw [hfound, Option.elim_some, hcalls] at hdestroyed
  simp only [GoesThrough, hfound, Option.mem_some_iff, exists_eq_left', hcalls] at houtcome
  refine ⟨hdestroyed, ?_⟩
  rcases houtcome with ⟨⟨hall, hcommit⟩, hst, -⟩ | ⟨hnot, hst, -⟩
  · exact .inl ⟨hall, hcommit, hst⟩
  · exact .inr ⟨fun hall => by simpa [hall] using hnot, hst⟩

/-- No call to Cloudinary fails: all images are destroyed, and it is left to the commit. -/
theorem allOrNothing_of_no_failure (h : db.store.products.get? id = some product)
    (hfound : db.store.findProduct id = some product)
    (hsome : ¬ ∀ c ∈ product.cloudId, c = none) (hremoved : Removed db id env db' x')
    (hall : completed env.destroyFails 0 product.cloudId = product.cloudId) :
    AllOrNothing id product db.store db'.store x'.destroyed ↔ env.commitFails = false := by
  obtain ⟨hdestroyed, ⟨-, hcommit, hst⟩ | ⟨hcommit, hst⟩⟩ :=
    removed_with_images hfound hsome hremoved
  · rw [allOrNothing_of_drop h hst, hdestroyed, hall]
    exact iff_of_true (fun _ hc => hc) hcommit
  · rw [allOrNothing_of_kept h hst, hdestroyed, hall, none_destroyed_iff (List.Subset.refl _)]
    exact iff_of_false hsome (by simp [hcommit hall])

/-- A call to Cloudinary fails, the first one after `i` images: these must not have cloud ids. -/
theorem allOrNothing_of_failure {i : ℕ} (h : db.store.products.get? id = some product)
    (hfound : db.store.findProduct id = some product)
    (hsome : ¬ ∀ c ∈ product.cloudId, c = none) (hremoved : Removed db id env db' x')
    (hi : i < product.cloudId.length)
    (htake : completed env.destroyFails 0 product.cloudId = product.cloudId.take i) :
    AllOrNothing id product db.store db'.store x'.destroyed ↔
      ∀ c ∈ product.cloudId.take i, c = none := by
  have hstops : product.cloudId.take i ≠ product.cloudId := by
    intro heq
    have hlen := congrArg List.length heq
    rw [List.length_take] at hlen
    omega
  obtain ⟨hdestroyed, ⟨hall, -⟩ | ⟨-, hst⟩⟩ := removed_with_images hfound hsome hremoved
  · exact absurd (htake.symm.trans hall) hstops
  · rw [allOrNothing_of_kept h hst, hdestroyed, htake, none_destroyed_iff (List.take_subset _ _)]

/-- A removal that finds a product with images. -/
theorem allOrNothing_of_images (h : db.store.products.get? id = some product)
    (hfound : db.store.findProduct id = some product)
    (hsome : ¬ ∀ c ∈ product.cloudId, c = none) (hremoved : Removed db id env db' x') :
    AllOrNothing id product db.store db'.store x'.destroyed ↔
      (∀ i < product.cloudId.length, env.destroyFails i = false) ∧ env.commitFails = false ∨
      ∃ i < product.cloudId.length, env.destroyFails i = true ∧
        ∀ c ∈ product.cloudId.take i, c = none := by
  have hcases := completed_cases env.destroyFails 0 product.cloudId
  simp only [Nat.zero_add] at hcases
  rcases hcases with ⟨heq, hall⟩ | ⟨i, hi, hfails, hbefore, htake⟩
  · have hnofail : ¬ ∃ i < product.cloudId.length, env.destroyFails i = true ∧
        ∀ c ∈ product.cloudId.take i, c = none := by
      rintro ⟨i, hi, hfails, -⟩
      simp [hall i hi] at hfails
    rw [allOrNothing_of_no_failure h hfound hsome hremoved heq, or_iff_left hnofail]
    exact ⟨fun hcommit => ⟨hall, hcommit⟩, And.right⟩
  · have hsomefails : ¬ ∀ i < product.cloudId.length, env.destroyFails i = false := by
      intro hall
      simp [hall i hi] at hfails
    rw [allOrNothing_of_failure h hfound hsome hremoved hi htake,
      none_before_first hi hfails hbefore, or_iff_right fun hall => hsomefails hall.1]

end Calls

/-! ## The request -/

/-- **Images are destroyed with their product** exactly if nothing fails after the first image was
destroyed. -/
theorem images_with_product_iff {db : Db} {id : ObjectId} {product : Product}
    (hproduct : db.store.products.get? id = some product) (caller : Caller) (env : Env) :
    AllOrNothing id product db.store
        (serveStep ⟨.userDeleteProduct id, caller, env⟩ db).store
        (serve ⟨.userDeleteProduct id, caller, env⟩ db).loc.destroyed ↔
      NothingToRestore product env := by
  have hremoved := userDeleteProduct_removed db id caller env
  cases hdeleted : product.isDeleted with
  | true =>
      have hfound : db.store.findProduct id = none := by
        simp [Store.findProduct, hproduct, hdeleted]
      have hdestroyed := hremoved.destroyed
      rw [hfound] at hdestroyed
      refine iff_of_true ?_ (.inl hdeleted)
      rcases hremoved.outcome with ⟨⟨item, hitem, -⟩, -⟩ | ⟨-, hst, -⟩
      · simp [hfound] at hitem
      · rw [allOrNothing_of_kept hproduct hst, hdestroyed]
        simp
  | false =>
      have hfound : db.store.findProduct id = some product := by
        simp [Store.findProduct, hproduct, hdeleted]
      by_cases hnone : ∀ c ∈ product.cloudId, c = none
      · -- without images to destroy either outcome will do
        have hno : ∀ c, some c ∉ product.cloudId := by
          intro c hc
          cases hnone _ hc
        refine iff_of_true ?_ (.inr (.inl hnone))
        rcases hremoved.outcome with ⟨-, hst, -⟩ | ⟨-, hst, -⟩
        · rw [allOrNothing_of_drop hproduct hst]
          exact fun c hc => absurd hc (hno c)
        · rw [allOrNothing_of_kept hproduct hst]
          exact fun c hc => absurd hc (hno c)
      · rw [allOrNothing_of_images hproduct hfound hnone hremoved]
        simp [NothingToRestore, hdeleted, hnone]

/-- A shop whose one product has two images. -/
def illustrated : Db :=
  serveAll [Sample.call (.addProduct { Sample.productBody 10 100 with
    image := some [⟨some "a.png", some "png", some "a"⟩, ⟨some "b.png", some "png", some "b"⟩] })]
    Sample.db

/-- The product is removed, and nothing fails. -/
theorem images_with_product_removed :
    ∃ product ∈ illustrated.store.products.get? 1,
      product.cloudId = [some "a", some "b"] ∧
      AllOrNothing 1 product illustrated.store
        (serveStep (Sample.call (.userDeleteProduct 1)) illustrated).store
        (serve (Sample.call (.userDeleteProduct 1)) illustrated).loc.destroyed := by
  have hfound : ∃ product ∈ illustrated.store.products.get? 1,
      product.cloudId = [some "a", some "b"] := by decide +kernel
  obtain ⟨product, hproduct, himages⟩ := hfound
  refine ⟨product, hproduct, himages, (images_with_product_iff hproduct _ _).2 ?_⟩
  exact .inr (.inr (.inl ⟨fun _ _ => rfl, rfl⟩))

/-- The removal of the product, with a second call to Cloudinary that fails. -/
def secondCallFails : Call :=
  ⟨.userDeleteProduct 1, Sample.admin, { Sample.env with destroyFails := fun i => i = 1 }⟩

/-- The removal of the product, with a commit that fails. -/
def lastCommitFails : Call :=
  ⟨.userDeleteProduct 1, Sample.admin, { Sample.env with commitFails := true }⟩

/-- The second call to Cloudinary fails, or the commit does: the product is still there, without
its first image, or without any. -/
theorem images_lost :
    documents (serveStep secondCallFails illustrated).store 1 = documents illustrated.store 1 ∧
      (serve secondCallFails illustrated).loc.destroyed = [some "a"] ∧
      documents (serveStep lastCommitFails illustrated).store 1 = documents illustrated.store 1 ∧
      (serve lastCommitFails illustrated).loc.destroyed = [some "a", some "b"] := by
  refine ⟨?_, ?_, ?_, ?_⟩ <;> decide +kernel

end InventoryHero.Removal
