import InventoryHero.Serial.Commits

/-!
# A sale draws what it says

A sale of `t` pieces is refused, or it takes exactly `t` pieces from the front of the product's
batches and records the stock before and after (`sale_draws`). Since draws add up, a sale can be
split in two without a difference to the batches (`sale_splits`). Both hold whatever the quantities
of the batches are, zero and negative ones included: these are passed over, and make the sale fail
only as the second of their kind.
-/

set_option autoImplicit false

namespace InventoryHero.Sales

open Interaction Storage Model Stock Serial Lots

/-- The pieces that a sale with this body takes, if the product exists and the body is valid. -/
def piecesAsked (s : Store) (id : ObjectId) (body : SalesBody) : Option ℚ :=
  match s.products.get? id, validateSales body with
  | some product, .ok data => some (data.pieces product)
  | _, _ => none

theorem piecesAsked_eq_some {s : Store} {id : ObjectId} {body : SalesBody} {t : ℚ}
    (h : piecesAsked s id body = some t) :
    ∃ product data, s.products.get? id = some product ∧ validateSales body = .ok data ∧
      data.pieces product = t := by
  unfold piecesAsked at h
  split at h
  · rename_i product data hproduct hdata
    exact ⟨product, data, hproduct, hdata, Option.some.inj h⟩
  · cases h

variable {db : Db} {id : ObjectId} {body : SalesBody} {caller : Caller} {env : Env} {user : User}
  {product : Product} {data : SalesInput} {t : ℚ}

/-- The product that a sale finds is the one that is asked for. -/
theorem pieces_of_sells (h : Sells db id body caller env user product data)
    (hasks : piecesAsked db.store id body = some t) : data.pieces product = t := by
  obtain ⟨product', data', hproduct, hdata, ht⟩ := piecesAsked_eq_some hasks
  have hget := Store.get?_of_findProduct h.found
  obtain rfl : product = product' := Option.some.inj (hget.symm.trans hproduct)
  obtain rfl : data = data' := Except.ok.inj (h.valid.symm.trans hdata)
  exact ht

/-! ## One sale -/

/-- The in-memory batches hold what the stored ones hold. -/
theorem stock_drawn (t : ℚ) (l : List Inventory) : stock (drawn t l) = stock (draw t l) := by
  induction l generalizing t with
  | nil => rfl
  | cons e rest ih =>
      by_cases h₀ : 0 < e.quantity
      · by_cases hq : e.quantity ≤ t
        · rw [(Serial.draw_used_up (b := false) rest h₀ hq).2.2, Lots.draw_used_up rest h₀ hq,
            stock_cons, ih]
          simp
        · rw [(Serial.draw_remainder (b := false) rest h₀ hq).2.2, Lots.draw_remainder rest h₀ hq]
          rfl
      · rw [(Serial.draw_skip rest h₀).2.2, Lots.draw_skip rest h₀, stock_cons, stock_cons, ih]

/-- `t` pieces of product `id` were taken, from the front, and recorded. -/
structure TookPieces (s s' : Store) (id : ObjectId) (t : ℚ) : Prop where
  batches : Drawn (s.batches id) (s'.batches id)
  others : ∀ p, p ≠ id → s'.batches p = s.batches p
  left : stock (s'.batches id) = stock (s.batches id) - t
  sale : ∃ sale : Sale, s'.sales.docs = s.sales.docs ++ [sale] ∧ sale.product = id ∧
    sale.quantity = t ∧ sale.bQuantity = stock (s.batches id) ∧
    sale.aQuantity = stock (s.batches id) - t

theorem tookPieces (hids : AllFresh db) (h : Sells db id body caller env user product data)
    (ht : 0 ≤ data.pieces product) :
    TookPieces db.store (serveStep ⟨.recordSales id body, caller, env⟩ db).store id
      (data.pieces product) := by
  have hsupply : data.pieces product ≤ supply (db.store.batches id) :=
    h.enough.trans (stock_le_supply _)
  have hleft := stock_draw ht hsupply
  constructor
  · rw [h.batches hids]
    exact drawn_draw ht _
  · intro p hp
    exact h.batches_of_ne hids (Ne.symm hp)
  · rw [h.batches hids, hleft]
  · refine ⟨_, h.sales hids, rfl, rfl, quantitySum_eq_stock _, ?_⟩
    calc quantitySum (drawn (data.pieces product) (db.store.batches id))
        = stock (drawn (data.pieces product) (db.store.batches id)) := quantitySum_eq_stock _
      _ = stock (draw (data.pieces product) (db.store.batches id)) := stock_drawn _ _
      _ = stock (db.store.batches id) - data.pieces product := hleft

/-- A sale of more than there is, or of a product without batches, changes nothing. A sale that is
committed takes exactly its pieces. -/
theorem sale_draws (hids : AllFresh db) (hasks : piecesAsked db.store id body = some t)
    (ht : 0 ≤ t) (caller : Caller) (env : Env) :
    (db.store.batches id = [] ∨ stock (db.store.batches id) < t →
      (serveStep ⟨.recordSales id body, caller, env⟩ db).store = db.store) ∧
    (Commits ⟨.recordSales id body, caller, env⟩ db →
      TookPieces db.store (serveStep ⟨.recordSales id body, caller, env⟩ db).store id t) := by
  constructor
  · intro hrefused
    apply store_of_not_commits hids
    intro hcommits
    obtain ⟨user, product, data, h⟩ := (commits_recordSales_iff hids).1 hcommits
    obtain rfl := pieces_of_sells h hasks
    rcases hrefused with hnone | hless
    · exact h.stocked hnone
    · exact not_lt.2 h.enough hless
  · intro hcommits
    obtain ⟨user, product, data, h⟩ := (commits_recordSales_iff hids).1 hcommits
    obtain rfl := pieces_of_sells h hasks
    exact tookPieces hids h ht

/-- Two batches of ten and five pieces. -/
def twoBatches : Db :=
  serveAll [Sample.call (.addProduct (Sample.productBody 10 100)),
    Sample.call (.addInventory 1 (Sample.inventoryBody 5 50))] Sample.db

theorem allFresh_twoBatches : AllFresh twoBatches :=
  (allFresh_of_isEmpty Sample.isEmpty).serveAll _

/-- A sale of twelve pieces uses up the first batch and leaves three pieces of the second. -/
theorem sale_draws_twelve :
    TookPieces twoBatches.store
      (serveStep (Sample.call (.recordSales 1 (Sample.salesBody 12))) twoBatches).store 1 12 :=
  (sale_draws allFresh_twoBatches (by decide +kernel) (by decide +kernel) Sample.admin
    Sample.env).2 (by decide +kernel)

/-! ## A sale in two parts -/

/-- The sale is recorded and the caller is told so. -/
def Confirmed (c : Call) (db : Db) : Prop := (serve c db).loc.sent.map Response.status = [201]

/-- A sale of `t` pieces can go through, and passes over `n` batches without pieces at most. -/
structure Ready (s : Store) (id : ObjectId) (caller : Caller) (t : ℚ) (n : Nat) : Prop where
  named : ∃ user ∈ s.users.get? caller._id, user.createdBy.valid = true
  found : s.findProduct id ≠ none
  stocked : s.batches id ≠ []
  enough : t ≤ stock (s.batches id)
  passes : passed t (s.batches id) ≤ n

theorem ready_of_sells (h : Sells db id body caller env user product data) {n : Nat}
    (hn : passed (data.pieces product) (db.store.batches id) ≤ n) :
    Ready db.store id caller (data.pieces product) n :=
  ⟨⟨user, h.known, h.named⟩, by simp [h.found], h.stocked, h.enough, hn⟩

theorem Ready.sells {n : Nat} (h : Ready db.store id caller t n) (hn : n ≤ 1)
    (hasks : piecesAsked db.store id body = some t) (hok : env.commitFails = false) :
    ∃ user product data, Sells db id body caller env user product data ∧
      data.pieces product = t := by
  obtain ⟨user, huser, hnamed⟩ := h.named
  obtain ⟨product, hproduct⟩ := Option.ne_none_iff_exists'.1 h.found
  obtain ⟨product', data, hget, hdata, rfl⟩ := piecesAsked_eq_some hasks
  have hget' := Store.get?_of_findProduct hproduct
  obtain rfl : product = product' := Option.some.inj (hget'.symm.trans hget)
  exact ⟨user, product, data,
    ⟨huser, hproduct, hdata, h.stocked, h.enough, h.passes.trans hn, hnamed, hok⟩, rfl⟩

theorem commits_iff_ready (hids : AllFresh db) (hasks : piecesAsked db.store id body = some t)
    (hok : env.commitFails = false) :
    Commits ⟨.recordSales id body, caller, env⟩ db ↔ Ready db.store id caller t 1 := by
  rw [commits_recordSales_iff hids]
  constructor
  · rintro ⟨user, product, data, h⟩
    obtain rfl := pieces_of_sells h hasks
    exact ready_of_sells h h.passes
  · intro h
    obtain ⟨user, product, data, hs, -⟩ := h.sells le_rfl hasks hok
    exact ⟨user, product, data, hs⟩

theorem confirmed_iff_ready (hids : AllFresh db) (hasks : piecesAsked db.store id body = some t)
    (hok : env.commitFails = false) :
    Confirmed ⟨.recordSales id body, caller, env⟩ db ↔ Ready db.store id caller t 0 := by
  have hserved := recordSales_outcome hids id body caller env
  rw [Confirmed, hserved.statuses]
  constructor
  · intro h
    rcases recordSalesOutcome_cases db id body caller env with ⟨k, statuses, hidle, hnone⟩ | hsells
    · rw [hidle] at h
      change statuses = [201] at h
      simp [h] at hnone
    · obtain ⟨user, product, data, hs⟩ := hsells
      obtain rfl := pieces_of_sells hs hasks
      refine ready_of_sells hs ?_
      by_contra hp
      rw [hs.outcome, if_neg (by omega)] at h
      cases h
  · intro h
    obtain ⟨user, product, data, hs, ht⟩ := h.sells (Nat.zero_le 1) hasks hok
    rw [hs.outcome, ht, if_pos (Nat.le_zero.1 h.passes)]

namespace Ready

variable {s s' : Store} {a b : ℚ} {n : Nat}

/-- What allows a sale of both parts allows one of the first. -/
theorem first (h : Ready s id caller (a + b) n) (hb : 0 < b) : Ready s id caller a n where
  named := h.named
  found := h.found
  stocked := h.stocked
  enough := (le_add_of_nonneg_right hb.le).trans h.enough
  passes := (passed_mono (le_add_of_nonneg_right hb.le) _).trans h.passes

/-- After the first part, the second can be sold exactly if both could be sold at once. -/
theorem second_iff (h : Ready s id caller a n) (ha : 0 < a) (hb : 0 < b)
    (husers : s'.users = s.users) (hproducts : s'.products = s.products)
    (hbatches : s'.batches id = draw a (s.batches id)) :
    Ready s' id caller b n ↔ Ready s id caller (a + b) n := by
  have hleft : stock (draw a (s.batches id)) = stock (s.batches id) - a :=
    stock_draw ha.le (h.enough.trans (stock_le_supply _))
  have hpassed : passed b (draw a (s.batches id)) = passed (a + b) (s.batches id) :=
    (draw_draw ha.le hb.le _).2
  constructor
  · intro h'
    have henough := h'.enough
    rw [hbatches, hleft] at henough
    have hpasses := h'.passes
    rw [hbatches, hpassed] at hpasses
    exact ⟨h.named, h.found, h.stocked, by linarith, hpasses⟩
  · intro h'
    have henough : b ≤ stock (draw a (s.batches id)) := by
      rw [hleft]
      linarith [h'.enough]
    refine ⟨husers ▸ h.named, ?_, ?_, hbatches ▸ henough, ?_⟩
    · rw [Store.findProduct, hproducts]
      exact h.found
    · -- something is left for the second part
      intro hnil
      rw [← hbatches, hnil, stock_nil] at henough
      linarith
    · rw [hbatches, hpassed]
      exact h'.passes

end Ready

/-- Sales of `a` pieces, of `b` pieces and of both. -/
structure Parts (s : Store) (id : ObjectId) (first second whole : SalesBody) (a b : ℚ) :
    Prop where
  first : piecesAsked s id first = some a
  second : piecesAsked s id second = some b
  whole : piecesAsked s id whole = some (a + b)
  first_pos : 0 < a
  second_pos : 0 < b

/-- A sale in two parts goes through exactly if the sale of both goes through, is confirmed exactly
if that one is, and leaves the same batches. -/
theorem sale_splits {first second whole : SalesBody} {a b : ℚ} {env₁ env₂ : Env}
    (hids : AllFresh db) (h : Parts db.store id first second whole a b) (caller : Caller)
    (h₁ : env₁.commitFails = false) (h₂ : env₂.commitFails = false)
    (hok : env.commitFails = false) :
    let c₁ : Call := ⟨.recordSales id first, caller, env₁⟩
    let c₂ : Call := ⟨.recordSales id second, caller, env₂⟩
    let c : Call := ⟨.recordSales id whole, caller, env⟩
    (Commits c₁ db ∧ Commits c₂ (serveStep c₁ db) ↔ Commits c db) ∧
      (Confirmed c₁ db ∧ Confirmed c₂ (serveStep c₁ db) ↔ Confirmed c db) ∧
      (Commits c db → ∀ p, (serveStep c₂ (serveStep c₁ db)).store.batches p =
        (serveStep c db).store.batches p) := by
  intro c₁ c₂ c
  have hids₁ : AllFresh (serveStep c₁ db) := hids.effect (serve_effect c₁ db)
  -- the state between the two parts, once the first has gone through
  have hbetween {n : Nat} (hn : n ≤ 1) (hready : Ready db.store id caller a n) :
      piecesAsked (serveStep c₁ db).store id second = some b ∧
        (Ready (serveStep c₁ db).store id caller b n ↔ Ready db.store id caller (a + b) n) := by
    obtain ⟨user, product, data, hs, ht⟩ := hready.sells hn h.first h₁
    have hbatches := hs.batches hids
    rw [ht] at hbatches
    constructor
    · rw [← h.second, hs.store hids]
      rfl
    · refine hready.second_iff h.first_pos h.second_pos ?_ ?_ hbatches
      · rw [hs.store hids]
        rfl
      · rw [hs.store hids]
        rfl
  refine ⟨?_, ?_, ?_⟩
  · rw [commits_iff_ready hids h.first h₁, commits_iff_ready hids h.whole hok]
    refine Iff.trans (and_congr_right ?_) (and_iff_right_of_imp (fun hw => hw.first h.second_pos))
    intro hready
    obtain ⟨hsecond, hiff⟩ := hbetween le_rfl hready
    rw [commits_iff_ready hids₁ hsecond h₂, hiff]
  · rw [confirmed_iff_ready hids h.first h₁, confirmed_iff_ready hids h.whole hok]
    refine Iff.trans (and_congr_right ?_) (and_iff_right_of_imp (fun hw => hw.first h.second_pos))
    intro hready
    obtain ⟨hsecond, hiff⟩ := hbetween (Nat.zero_le 1) hready
    rw [confirmed_iff_ready hids₁ hsecond h₂, hiff]
  · intro hcommits p
    have hwhole := (commits_iff_ready hids h.whole hok).1 hcommits
    have hfirst := hwhole.first h.second_pos
    obtain ⟨hsecond, hiff⟩ := hbetween le_rfl hfirst
    obtain ⟨_, _, _, hs, ht⟩ := hwhole.sells le_rfl h.whole hok
    obtain ⟨_, _, _, hs₁, ht₁⟩ := hfirst.sells le_rfl h.first h₁
    obtain ⟨_, _, _, hs₂, ht₂⟩ := (hiff.2 hwhole).sells le_rfl hsecond h₂
    by_cases hp : id = p
    · subst hp
      rw [hs₂.batches hids₁, hs₁.batches hids, hs.batches hids, ht, ht₁, ht₂]
      exact (draw_draw h.first_pos.le h.second_pos.le _).1
    · rw [hs₂.batches_of_ne hids₁ hp, hs₁.batches_of_ne hids hp, hs.batches_of_ne hids hp]

/-- Twelve pieces of two batches, as seven and five: the first part leaves three pieces of the first
batch, the second uses them up. -/
theorem sale_splits_twelve :
    let c₁ := Sample.call (.recordSales 1 (Sample.salesBody 7))
    let c₂ := Sample.call (.recordSales 1 (Sample.salesBody 5))
    let c := Sample.call (.recordSales 1 (Sample.salesBody 12))
    (Commits c₁ twoBatches ∧ Commits c₂ (serveStep c₁ twoBatches)) ∧
      ∀ p, (serveStep c₂ (serveStep c₁ twoBatches)).store.batches p =
        (serveStep c twoBatches).store.batches p := by
  have hparts : Parts twoBatches.store 1 (Sample.salesBody 7) (Sample.salesBody 5)
      (Sample.salesBody 12) 7 5 := by
    constructor <;> decide +kernel
  have hok : Sample.env.commitFails = false := rfl
  obtain ⟨hiff, -, hsame⟩ := sale_splits allFresh_twoBatches hparts Sample.admin hok hok hok
  have hcommits : Commits (Sample.call (.recordSales 1 (Sample.salesBody 12))) twoBatches := by
    decide +kernel
  exact ⟨hiff.2 hcommits, hsame hcommits⟩

end InventoryHero.Sales
