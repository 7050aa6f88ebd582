import InventoryHero.Serial.Selling
import InventoryHero.Stock.Lots

/-!
# Sales that are committed

`Sells` lists what a sale needs in order to be committed (`commits_recordSales_iff`). A committed
sale leaves the product with the batches that a draw of its pieces leaves, records itself, and
touches no other product (`Sells.batches`, `Sells.sales`, `Sells.batches_of_ne`).
-/

set_option autoImplicit false

namespace InventoryHero.Serial

open Interaction Storage Model Stock Lots

/-- The transaction of the session is committed. -/
def isCommitted : Session → Bool
  | .committed _ => true
  | .idle => false
  | .inProgress _ => false
  | .aborted => false

/-- The request, served alone, commits its transaction. -/
def Commits (c : Call) (db : Db) : Prop := isCommitted (serve c db).loc.session = true

instance (c : Call) (db : Db) : Decidable (Commits c db) := inferInstanceAs (Decidable (_ = true))

theorem commits_iff {db : Db} {c : Call} {o : Outcome} (h : Served db o (serve c db)) :
    Commits c db ↔ o.committed = true := by
  rw [← h.committed, Commits]
  cases (serve c db).loc.session with
  | idle => simp [isCommitted]
  | inProgress t => simp [isCommitted]
  | committed w => simp [isCommitted]
  | aborted => simp [isCommitted]

/-! ## The end of the draw loop -/

theorem drawEnds_true {t : ℚ} {l : List Inventory} :
    drawEnds true t l = if passed t l = 0 then some true else none := by
  induction l generalizing t with
  | nil => rfl
  | cons e rest ih =>
      by_cases h₀ : 0 < e.quantity
      · by_cases hq : e.quantity ≤ t
        · rw [(Serial.draw_used_up rest h₀ hq).1, ih, passed_used_up rest h₀ hq]
          rfl
        · rw [(Serial.draw_remainder rest h₀ hq).1, passed_remainder rest h₀ hq, if_pos rfl]
      · rw [passed_skip rest h₀]
        simp [drawEnds, h₀]

/-- The loop comes to its end if it passes over one batch without pieces at most; it has answered
by then if it passes over one. -/
theorem drawEnds_false {t : ℚ} {l : List Inventory} :
    drawEnds false t l =
      if passed t l = 0 then some false else if passed t l = 1 then some true else none := by
  induction l generalizing t with
  | nil => rfl
  | cons e rest ih =>
      by_cases h₀ : 0 < e.quantity
      · by_cases hq : e.quantity ≤ t
        · rw [(Serial.draw_used_up rest h₀ hq).1, ih, passed_used_up rest h₀ hq]
          rfl
        · rw [(Serial.draw_remainder rest h₀ hq).1, passed_remainder rest h₀ hq, if_pos rfl]
      · rw [(Serial.draw_skip rest h₀).1, drawEnds_true, passed_skip rest h₀]
        simp

theorem drawEnds_eq_none_iff {t : ℚ} {l : List Inventory} :
    drawEnds false t l = none ↔ 1 < passed t l := by
  rw [drawEnds_false]
  split_ifs with h₀ h₁
  · simp [h₀]
  · simp [h₁]
  · simp only [true_iff]
    omega

/-- A loop that comes to its end has passed over one batch without pieces at most. -/
theorem passed_le_of_drawEnds {t : ℚ} {l : List Inventory} {answered : Bool}
    (h : drawEnds false t l = some answered) : passed t l ≤ 1 := by
  by_contra hmany
  rw [drawEnds_eq_none_iff.2 (Nat.not_le.1 hmany)] at h
  cases h

/-! ## Sales -/

/-- The caller, the product and the data of a sale that goes through. -/
structure Sells (db : Db) (id : ObjectId) (body : SalesBody) (caller : Caller) (env : Env)
    (user : User) (product : Product) (data : SalesInput) : Prop where
  known : db.store.users.get? caller._id = some user
  found : db.store.findProduct id = some product
  valid : validateSales body = .ok data
  stocked : db.store.batches id ≠ []
  enough : data.pieces product ≤ stock (db.store.batches id)
  passes : passed (data.pieces product) (db.store.batches id) ≤ 1
  named : user.createdBy.valid = true
  commits : env.commitFails = false

theorem quantitySum_eq_stock (l : List Inventory) : quantitySum l = stock l := by
  rw [stock_eq, quantitySum_eq]

/-- The writes of a sale, given the first new id. -/
def saleWrites (s : Store) (user : User) (id : ObjectId) (data : SalesInput) (pieces : ℚ)
    (n : ObjectId) : Writes :=
  let j := usedUp false pieces (s.batches id)
  { inventories := drawWrites pieces (s.batches id)
    sales := [.insert (soldAs user id data pieces (s.batches id) (n + snapshotIds s id j))]
    lasts := snapshotWrites s id j n }

variable {db : Db} {id : ObjectId} {body : SalesBody} {caller : Caller} {env : Env} {user : User}
  {product : Product} {data : SalesInput}

/-- What a sale comes to when it goes through. -/
theorem Sells.outcome (h : Sells db id body caller env user product data) :
    recordSalesOutcome db.store id body caller env =
      ⟨saleWrites db.store user id data (data.pieces product),
        snapshotIds db.store id (usedUp false (data.pieces product) (db.store.batches id)) + 1,
        if passed (data.pieces product) (db.store.batches id) = 0 then [201] else [200], true⟩ := by
  have hlength : ¬(db.store.batches id).length = 0 := by simpa using h.stocked
  have henough : ¬quantitySum (db.store.batches id) < data.pieces product := by
    rw [quantitySum_eq_stock]
    exact not_lt.2 h.enough
  simp only [recordSalesOutcome, h.known, h.found, h.valid, h.named, hlength, henough, if_false,
    if_true, sellOutcome, drawEnds_false]
  rcases Nat.le_one_iff_eq_zero_or_eq_one.1 h.passes with hp | hp
  · simp only [hp, Outcome.commit, h.commits, if_true, Bool.false_eq_true, if_false]
    rfl
  · simp only [hp, Outcome.commit, h.commits, Nat.one_ne_zero, if_true, Bool.false_eq_true,
      if_false, List.cons_ne_nil]
    rfl

/-- From the draw loop on, a sale goes through, or nothing is written and no success is answered. -/
theorem sellOutcome_cases (s : Store) (user : User) (id : ObjectId) (data : SalesInput) (t : ℚ)
    (env : Env) :
    (∃ k statuses, sellOutcome s user id data t env = .idle k statuses ∧ 201 ∉ statuses) ∨
      passed t (s.batches id) ≤ 1 ∧ user.createdBy.valid = true ∧ env.commitFails = false := by
  cases hends : drawEnds false t (s.batches id) with
  | none =>
      -- the second batch without pieces makes the loop throw
      left
      simp only [sellOutcome, hends]
      exact ⟨_, [200], rfl, by decide⟩
  | some answered =>
      have hbefore : 201 ∉ if answered then [200] else [] := by cases answered <;> decide
      by_cases hnamed : user.createdBy.valid = true
      · cases hfails : env.commitFails with
        | true =>
            left
            simp only [sellOutcome, hends, hnamed, Outcome.commit, hfails, if_true]
            exact ⟨_, _, rfl, hbefore⟩
        | false => exact .inr ⟨passed_le_of_drawEnds hends, hnamed, rfl⟩
      · -- the sale is refused by the schema
        left
        simp only [sellOutcome, hends, if_neg hnamed]
        exact ⟨_, _, rfl, hbefore⟩

/-- A sale goes through, or nothing is written and no success is answered. -/
theorem recordSalesOutcome_cases (db : Db) (id : ObjectId) (body : SalesBody) (caller : Caller)
    (env : Env) :
    (∃ k statuses, recordSalesOutcome db.store id body caller env = .idle k statuses ∧
      201 ∉ statuses) ∨
      ∃ user product data, Sells db id body caller env user product data := by
  cases hknown : db.store.users.get? caller._id with
  | none => exact .inl ⟨0, [404], by simp only [recordSalesOutcome, hknown], by decide⟩
  | some user =>
      cases hfound : db.store.findProduct id with
      | none =>
          exact .inl ⟨0, [404], by simp only [recordSalesOutcome, hknown, hfound], by decide⟩
      | some product =>
          cases hvalid : validateSales body with
          | error e =>
              exact .inl ⟨0, [], by simp only [recordSalesOutcome, hknown, hfound, hvalid],
                by decide⟩
          | ok data =>
              simp only [recordSalesOutcome, hknown, hfound, hvalid, quantitySum_eq_stock]
              by_cases hstocked : (db.store.batches id).length = 0
              · exact .inl ⟨0, [400], if_pos hstocked, by decide⟩
              rw [if_neg hstocked]
              by_cases henough : stock (db.store.batches id) < data.pieces product
              · exact .inl ⟨0, [400], if_pos henough, by decide⟩
              rw [if_neg henough]
              rcases sellOutcome_cases db.store user id data (data.pieces product) env with
                hidle | ⟨hpasses, hnamed, hcommits⟩
              · exact .inl hidle
              · exact .inr ⟨user, product, data, hknown, hfound, hvalid, by simpa using hstocked,
                  not_lt.1 henough, hpasses, hnamed, hcommits⟩

theorem commits_recordSales_iff (hids : AllFresh db) :
    Commits ⟨.recordSales id body, caller, env⟩ db ↔
      ∃ user product data, Sells db id body caller env user product data := by
  rw [commits_iff (recordSales_outcome hids id body caller env)]
  constructor
  · intro h
    rcases recordSalesOutcome_cases db id body caller env with ⟨k, statuses, hidle, -⟩ | hsells
    · rw [hidle] at h
      cases h
    · exact hsells
  · rintro ⟨user, product, data, h⟩
    rw [h.outcome]

/-- A sale that is not committed leaves the store as it was. -/
theorem store_of_not_commits (hids : AllFresh db)
    (h : ¬Commits ⟨.recordSales id body, caller, env⟩ db) :
    (serveStep ⟨.recordSales id body, caller, env⟩ db).store = db.store := by
  rw [commits_recordSales_iff hids] at h
  have hserved := (recordSales_outcome hids id body caller env).store
  rcases recordSalesOutcome_cases db id body caller env with ⟨k, statuses, hidle, -⟩ | hsells
  · rw [hidle] at hserved
    exact hserved
  · exact absurd hsells h

namespace Sells

variable (hids : AllFresh db) (h : Sells db id body caller env user product data)

include hids h

theorem store :
    (serveStep ⟨.recordSales id body, caller, env⟩ db).store =
      db.store.apply (saleWrites db.store user id data (data.pieces product) db.nextId) := by
  have hserved := (recordSales_outcome hids id body caller env).store
  rw [h.outcome] at hserved
  exact hserved

/-- The product is left with the batches that a draw of the pieces leaves. -/
theorem batches :
    (serveStep ⟨.recordSales id body, caller, env⟩ db).store.batches id =
      draw (data.pieces product) (db.store.batches id) :=
  batches_drawWrites (by rw [h.store hids]; rfl)

theorem batches_of_ne {p : ObjectId} (hp : id ≠ p) :
    (serveStep ⟨.recordSales id body, caller, env⟩ db).store.batches p = db.store.batches p :=
  batches_drawWrites_of_ne (t := data.pieces product) (by rw [h.store hids]; rfl) hp

theorem sales :
    (serveStep ⟨.recordSales id body, caller, env⟩ db).store.sales.docs =
      db.store.sales.docs ++ [soldAs user id data (data.pieces product) (db.store.batches id)
        (db.nextId + snapshotIds db.store id
          (usedUp false (data.pieces product) (db.store.batches id)))] := by
  rw [h.store hids]
  have hacc : db.store.sales.accepts (.insert (soldAs user id data (data.pieces product)
      (db.store.batches id) (db.nextId + snapshotIds db.store id
        (usedUp false (data.pieces product) (db.store.batches id))))) = true :=
    accepts_new hids.sale (Nat.le_add_right _ _)
  exact Collection.docs_insert hacc

end Sells

end InventoryHero.Serial
