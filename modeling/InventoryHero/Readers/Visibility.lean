import InventoryHero.Interaction.History
import InventoryHero.Model.Readers
import InventoryHero.Serial.Catalog

/-!
# Which products the readers show

`adminDeleteProduct` marks a product as deleted and keeps it. Queries by `find` leave out what is
marked; aggregations do not. So the readers that only aggregate show products that were deleted, and
those that use `find` do not (`readers_hide_iff`).
-/

set_option autoImplicit false

namespace InventoryHero.Readers

open Interaction Storage Model Serial

/-- The reader looks for products with `find` or `findById`. -/
def UsesFind : ReaderRequest → Prop
  | .findProduct _ | .fetchProducts _ | .userFetchUnverifiedProducts _ => True
  | .fetchVerifiedProducts | .fetchUnwindVerifiedProducts | .searchProducts _ => False

/-! ## The products of an answer -/

/-- A query is answered from the store. -/
theorem wp_query {α : Type} {q : ReadQuery} {f : q.Result → Reader α} {s : Store}
    {Q : Final Store Unit ReaderError α → Prop} (h : (f (q.eval s)).Wp readSem Q s ()) :
    (query q >>= f).Wp readSem Q s () := h

/-- The reader ends with an answer that has these products. -/
def Answers (l : List Product) (F : Final Store Unit ReaderError ReaderResponse) : Prop :=
  ∃ response, F.result = .ok response ∧ response.body.products = l

theorem shown_of_wp {driver : Driver} {request : ReaderRequest} {s : Store} {l : List Product}
    (h : (reader driver request).Wp readSem (Answers l) s ()) : shown driver request s = l := by
  obtain ⟨response, hresult, rfl⟩ := h
  change (serveReader driver request s).result = .ok response at hresult
  rw [shown, hresult]

section Shown

variable (driver : Driver) (s : Store)

theorem shown_findProduct (id : ObjectId) :
    shown driver (.findProduct id) s =
      if s.findProduct id = none then []
      else (sortDescending (fun d => (d.1.createdAt : WithBot Date))
        (s.lookupInventories (s.products.docs.filter fun p => p._id = id))).map Prod.fst := by
  refine shown_of_wp (Prog.Wp.tryCatch (wp_query ?_))
  cases hfound : ReadQuery.eval (.product id) s with
  | none =>
      change s.findProduct id = none at hfound
      rw [if_pos hfound]
      exact ⟨_, rfl, rfl⟩
  | some found =>
      change s.findProduct id = some found at hfound
      rw [if_neg (by simp [hfound])]
      exact ⟨_, rfl, rfl⟩

theorem shown_fetchProducts (role : Role) :
    shown driver (.fetchProducts role) s =
      if role ≠ .admin ∨ driver.strictPopulate = true ∧ s.liveProducts ≠ [] then []
      else sortDescending (fun p => (p.createdAt : WithBot Date)) s.liveProducts := by
  refine shown_of_wp (Prog.Wp.tryCatch ?_)
  by_cases hrole : role ≠ .admin
  · rw [if_pos hrole, if_pos (.inl hrole)]
    exact ⟨_, rfl, rfl⟩
  · rw [if_neg hrole]
    refine wp_query (wp_query ?_)
    change Prog.Wp readSem _ (populateReviews driver (List.map (Product.listed _)
      (sortDescending (fun p => (p.createdAt : WithBot Date)) s.liveProducts)) >>= _) s ()
    rw [populateReviews]
    simp only [ne_eq, List.map_eq_nil_iff, sortDescending_eq_nil_iff]
    by_cases hstrict : driver.strictPopulate = true ∧ ¬s.liveProducts = []
    · rw [if_pos hstrict, if_pos (.inr hstrict)]
      exact ⟨_, rfl, rfl⟩
    · rw [if_neg hstrict, if_neg (not_or.2 ⟨hrole, hstrict⟩)]
      refine ⟨_, rfl, ?_⟩
      rw [ReaderBody.products, List.map_map]
      exact List.map_id _

theorem shown_fetchVerifiedProducts :
    shown driver .fetchVerifiedProducts s =
      (sortDescending (fun _ => (⊥ : WithBot Date)) (s.lookupInventories s.products.docs)).map
        Prod.fst := rfl

theorem shown_fetchUnwindVerifiedProducts :
    shown driver .fetchUnwindVerifiedProducts s =
      (sortDescending (fun _ => (⊥ : WithBot Date))
        (unwind (s.lookupInventories s.products.docs))).map Prod.fst := rfl

theorem shown_searchProducts (text : Option String) :
    shown driver (.searchProducts text) s =
      (driver.regex (searchPattern text)).elim []
        fun found => (s.products.docs.filter (Product.matched found)).take 10 := by
  simp only [shown, serveReader, reader, Model.searchProducts]
  cases hregex : driver.regex (searchPattern text) with
  | none => rfl
  | some found =>
      change ((s.lookupInventories _).take 10).map Prod.fst = _
      rw [Store.lookupInventories, take_lookup, map_fst_lookup]
      rfl

theorem shown_userFetchUnverifiedProducts (userId : Option ObjectId) :
    shown driver (.userFetchUnverifiedProducts userId) s =
      userId.elim [] fun userId => ReadQuery.eval (.unverified userId) s := by
  cases userId <;> rfl

/-- Readers that use `find` show no product that is marked as deleted. -/
theorem mem_liveProducts_of_shown {request : ReaderRequest} (hfind : UsesFind request) {p : Product}
    (h : p ∈ shown driver request s) : p ∈ s.liveProducts := by
  cases request with
  | findProduct id =>
      rw [shown_findProduct] at h
      cases hfound : s.findProduct id with
      | none => simp [hfound] at h
      | some found =>
          obtain ⟨-, hlive⟩ := Option.filter_eq_some_iff.1 hfound
          obtain ⟨hmem, hid⟩ := Store.mem_of_findProduct hfound
          rw [if_neg (by simp [hfound]), mem_map_sortDescending, Store.lookupInventories,
            map_fst_lookup, List.mem_filter, decide_eq_true_eq] at h
          -- the aggregation finds the same document
          obtain rfl : p = found := Collection.eq_of_key_eq h.1 hmem (h.2.trans hid.symm)
          exact List.mem_filter.2 ⟨h.1, hlive⟩
  | fetchProducts role =>
      rw [shown_fetchProducts] at h
      split at h
      · cases h
      · exact mem_sortDescending.1 h
  | userFetchUnverifiedProducts userId =>
      rw [shown_userFetchUnverifiedProducts] at h
      cases userId with
      | none => cases h
      | some userId => exact List.mem_of_mem_filter h
  | fetchVerifiedProducts => exact hfind.elim
  | fetchUnwindVerifiedProducts => exact hfind.elim
  | searchProducts text => exact hfind.elim

/-- Two of the others show every product there is. -/
theorem mem_shown_fetchVerifiedProducts {p : Product} :
    p ∈ shown driver .fetchVerifiedProducts s ↔ p ∈ s.products.docs := by
  rw [shown_fetchVerifiedProducts, mem_map_sortDescending, Store.lookupInventories, map_fst_lookup]

theorem mem_shown_fetchUnwindVerifiedProducts {p : Product} :
    p ∈ shown driver .fetchUnwindVerifiedProducts s ↔ p ∈ s.products.docs := by
  rw [shown_fetchUnwindVerifiedProducts, mem_map_sortDescending, mem_map_fst_unwind,
    Store.lookupInventories, map_fst_lookup]

end Shown

/-! ## Runs -/

/-- Requests that add products and batches, record sales and hide products. -/
def Trades : CatalogRequest → Prop
  | .stock (.addProduct _) | .stock (.addInventory _ _) | .stock (.recordSales _ _)
  | .adminDeleteProduct _ => True
  | .stock (.deleteSalesRecord _ _) | .stock .deleteAllSales | .stock (.userDeleteProduct _)
  | .stock (.deleteInventory _) | .stock (.editInventory _ _) | .editProduct _ _ => False

instance : DecidablePred Trades
  | .stock (.addProduct _) | .stock (.addInventory _ _) | .stock (.recordSales _ _)
  | .adminDeleteProduct _ => .isTrue trivial
  | .stock (.deleteSalesRecord _ _) | .stock .deleteAllSales | .stock (.userDeleteProduct _)
  | .stock (.deleteInventory _) | .stock (.editInventory _ _) | .editProduct _ _ => .isFalse id

/-- The product that the request is to hide. -/
def hides : CatalogRequest → Option ObjectId
  | .adminDeleteProduct id => some id
  | .stock _ | .editProduct _ _ => none

/-- Product `id` was deleted, and this was answered. -/
def DeletedIn (past : Past CatalogCall Db) (id : ObjectId) : Prop :=
  ∃ e ∈ past, hides e.act.request = some id ∧
    (serveCatalog e.act e.before).loc.sent = [productDeleted]

instance (past : Past CatalogCall Db) (id : ObjectId) : Decidable (DeletedIn past id) :=
  inferInstanceAs (Decidable (∃ e ∈ past, _))

/-- There is a product `id`, and it is marked as deleted. -/
def Marked (s : Store) (id : ObjectId) : Prop :=
  ∃ p ∈ s.products.docs, p._id = id ∧ p.isDeleted = true

theorem Marked.modify {s s' : Store} {id k : ObjectId} {patch : Patch Product} (h : Marked s id)
    (hs : s'.products = s.products.modify k patch)
    (hpatch : ∀ p, p.isDeleted = true → (patch.apply p).isDeleted = true) : Marked s' id := by
  obtain ⟨p, hp, hid, hmarked⟩ := h
  rw [Marked, hs]
  refine ⟨_, Collection.mem_modify.2 ⟨p, hp, rfl⟩, ?_⟩
  by_cases hk : p._id = k
  · simp only [key_product, hk, if_true]
    exact ⟨(patch.key_apply p).trans hid, hpatch p hmarked⟩
  · simp only [key_product, hk, if_false]
    exact ⟨hid, hmarked⟩

/-- A request of the stock leaves the mark. -/
theorem Marked.effect {db db' : Db} {c : Call} {id : ObjectId} (h : Marked db.store id)
    (hc : Trades (.stock c.request)) (e : Effect db c db') : Marked db'.store id := by
  cases e with
  | unchanged store next => exact store ▸ h
  | addProduct product batch cost purchase batch_product product_id quantity upb costPrice commit =>
      obtain ⟨p, hp, hmarked⟩ := h
      rw [commit.store]
      exact ⟨p, Collection.mem_insert_of_mem hp, hmarked⟩
  | addInventory product price batch cost found purchase batch_product quantity costPrice commit =>
      rw [commit.store, Store.apply_restocked]
      exact h.modify rfl fun _ hp => hp
  | recordSales product data sale lasts known found valid enough sale_product sale_quantity sale_id
      snapshot usedUp commit =>
      rw [commit.store]
      exact h
  | deleteSalesRecord may reversed => exact hc.elim
  | deleteAllSales live store next => exact hc.elim
  | userDeleteProduct store next => exact hc.elim
  | deleteInventory admin store next => exact hc.elim
  | editInventory batch quantity initialQuantity q cpq admin found edited castQuantity castCpq
      store next => exact hc.elim

theorem Marked.step {c : CatalogCall} {db : Db} {id : ObjectId} (h : Marked db.store id)
    (hc : Trades c.request) : Marked (catalogStep c db).store id := by
  obtain ⟨request, caller, env⟩ := c
  cases request with
  | stock request => exact h.effect hc (serve_effect ⟨request, caller, env⟩ db)
  | editProduct id data => exact hc.elim
  | adminDeleteProduct k =>
      obtain ⟨-, hst | hst⟩ := adminDeleteProduct_effect db k caller env
      · exact hst ▸ h
      · rw [hst]
        exact h.modify rfl fun _ _ => rfl

/-- A deletion that is answered as done marks the product. -/
theorem marked_of_deleted {c : CatalogCall} {db : Db} {id : ObjectId}
    (hid : hides c.request = some id) (hsent : (serveCatalog c db).loc.sent = [productDeleted]) :
    Marked (catalogStep c db).store id := by
  obtain ⟨request, caller, env⟩ := c
  cases request with
  | stock request => cases hid
  | editProduct k data => cases hid
  | adminDeleteProduct k =>
      obtain rfl : k = id := Option.some.inj hid
      obtain ⟨-, ⟨hfound, hst⟩ | ⟨-, hnot⟩⟩ := adminDeleteProduct_served db k caller env
      · obtain ⟨p, hp⟩ := Option.ne_none_iff_exists'.1 hfound
        obtain ⟨hmem, hk⟩ := Store.mem_of_findProduct hp
        rw [hst]
        refine ⟨_, Collection.mem_modify.2 ⟨p, hmem, rfl⟩, ?_⟩
        rw [key_product, if_pos hk]
        exact ⟨hk, rfl⟩
      · exact absurd hsent hnot

/-- Runs of such requests, from a database with accounts only. -/
abbrev TradingRun : Past CatalogCall Db → Db → Prop :=
  Run Db.IsEmpty (fun _ c _ => Trades c.request) catalogStep

theorem marked_of_deletedIn {past : Past CatalogCall Db} {db : Db} (h : TradingRun past db) :
    ∀ id, DeletedIn past id → Marked db.store id := by
  refine h.invariant (I := fun past db => ∀ id, DeletedIn past id → Marked db.store id) ?_ ?_
  · rintro db - id ⟨e, he, -⟩
    cases he
  · rintro past c db ih hc id ⟨e, he, hid, hsent⟩
    rcases List.mem_cons.1 he with rfl | he
    · exact marked_of_deleted hid hsent
    · exact (ih id ⟨e, he, hid, hsent⟩).step hc

/-- When the reader shows none of the products that are gone: always, if it uses `find`; if none is
gone, where it shows every product; and for a search, if none of its first ten matches is gone. -/
def Hides (driver : Driver) (s : Store) (gone : ObjectId → Prop) : ReaderRequest → Prop
  | .findProduct _ | .fetchProducts _ | .userFetchUnverifiedProducts _ => True
  | .fetchVerifiedProducts | .fetchUnwindVerifiedProducts => ∀ id, ¬gone id
  | .searchProducts text => ∀ found ∈ driver.regex (searchPattern text),
      ∀ p ∈ (s.products.docs.filter (Product.matched found)).take 10, ¬gone p._id

/-- Which readers show no deleted product, after every run. -/
theorem readers_hide_iff {past : Past CatalogCall Db} {db : Db} (h : TradingRun past db)
    (driver : Driver) (request : ReaderRequest) :
    (∀ p ∈ shown driver request db.store, ¬DeletedIn past p._id) ↔
      Hides driver db.store (DeletedIn past) request := by
  have hmarked := marked_of_deletedIn h
  have hfind (hfind : UsesFind request) :
      ∀ p ∈ shown driver request db.store, ¬DeletedIn past p._id := by
    intro p hp hdeleted
    obtain ⟨hmem, hlive⟩ := List.mem_filter.1 (mem_liveProducts_of_shown driver db.store hfind hp)
    obtain ⟨q, hq, hid, hmark⟩ := hmarked p._id hdeleted
    obtain rfl : q = p := Collection.eq_of_key_eq hq hmem hid
    simp [hmark] at hlive
  -- a product that was deleted is still among all products
  have hall : (∀ p ∈ db.store.products.docs, ¬DeletedIn past p._id) ↔ ∀ id, ¬DeletedIn past id := by
    constructor
    · intro hnone id hdeleted
      obtain ⟨p, hp, hid, -⟩ := hmarked id hdeleted
      exact hnone p hp (hid ▸ hdeleted)
    · intro hnone p _
      exact hnone p._id
  cases request with
  | findProduct id => exact iff_of_true (hfind trivial) trivial
  | fetchProducts role => exact iff_of_true (hfind trivial) trivial
  | userFetchUnverifiedProducts userId => exact iff_of_true (hfind trivial) trivial
  | fetchVerifiedProducts =>
      simp only [mem_shown_fetchVerifiedProducts]
      exact hall
  | fetchUnwindVerifiedProducts =>
      simp only [mem_shown_fetchUnwindVerifiedProducts]
      exact hall
  | searchProducts text =>
      rw [shown_searchProducts, Hides]
      cases driver.regex (searchPattern text) with
      | none => simp
      | some found => simp

/-- A product that was added and deleted. -/
def deletedCalls : List CatalogCall :=
  [⟨.stock (.addProduct (Sample.productBody 10 100)), Sample.admin, Sample.env⟩,
    ⟨.adminDeleteProduct 1, Sample.admin, Sample.env⟩]

theorem run_deletedCalls :
    TradingRun (replay catalogStep deletedCalls [] Sample.db).1
      (replay catalogStep deletedCalls [] Sample.db).2 :=
  (Run.start Sample.isEmpty).replay deletedCalls (by decide +kernel)

/-- A driver whose patterns match everything. -/
def anyDriver : Driver := ⟨true, fun _ => some fun _ => true⟩

/-- The product was deleted, and cannot be found by its id. -/
theorem deleted_product_not_found :
    DeletedIn (replay catalogStep deletedCalls [] Sample.db).1 1 ∧
      ∀ p ∈ shown anyDriver (.findProduct 1) (replay catalogStep deletedCalls [] Sample.db).2.store,
        ¬DeletedIn (replay catalogStep deletedCalls [] Sample.db).1 p._id :=
  ⟨by decide +kernel, (readers_hide_iff run_deletedCalls anyDriver (.findProduct 1)).2 trivial⟩

/-- It is in three other answers. -/
theorem deleted_product_shown :
    let past := (replay catalogStep deletedCalls [] Sample.db).1
    let s := (replay catalogStep deletedCalls [] Sample.db).2.store
    DeletedIn past 1 ∧
      (shown anyDriver .fetchVerifiedProducts s).map Product._id = [1] ∧
      (shown anyDriver .fetchUnwindVerifiedProducts s).map Product._id = [1] ∧
      (shown anyDriver (.searchProducts "rice") s).map Product._id = [1] := by
  decide +kernel

end InventoryHero.Readers
