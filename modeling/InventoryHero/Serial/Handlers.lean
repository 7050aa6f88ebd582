import InventoryHero.Serial.Rules
import InventoryHero.Serial.Effect
import Mathlib.Tactic.Order

/-!
# The handlers that add and delete

Each lemma executes one handler symbolically with the rules of `Opened` and reads off its `Effect`:
`addProduct`, `addInventory` and `deleteInventory`. Every exit before the commit leaves the store as
it was.
-/

set_option autoImplicit false

namespace InventoryHero.Serial

open Interaction Storage Model Stock

variable {db₀ db : Db} {env : Env} {w : Writes} {sent : List Response} {x : Exchange}

/-- A request that ends before its commit has no effect. -/
theorem Opened.unchanged (h : Opened db₀ env w sent db x) {c : Call} : Effect db₀ c db :=
  .unchanged h.store h.next

theorem addProduct_effect (db : Db) (body : ProductBody) (caller : Caller) (env : Env) :
    Effect db ⟨.addProduct body, caller, env⟩ (serveStep ⟨.addProduct body, caller, env⟩ db) := by
  refine wp_withTransaction_shared (P := Effect db _) ?_ ?_
  · intro e
    by_cases he : e.name = "MongoError" ∧ e.code = some 11000
    · rw [if_pos he]
      exact quiet_send _
    · rw [if_neg he]
      exact quiet_send _
  -- up to the commit, every exit leaves the store as it was
  intro x hx
  refine hx.read fun x hx => ?_
  cases Query.eval (.user caller._id) db.store with
  | none => exact wp_send fun _ _ _ _ _ => hx.unchanged
  | some user =>
      refine hx.now ?_
      cases hv : validateProduct { body with
          brand := orNotAvailable body.brand, description := orNotAvailable body.description } with
      | error e => exact hx.unchanged
      | ok data =>
          obtain ⟨hq, hu, hcost⟩ := validateProduct_ok hv
          refine hx.newId fun n₁ db₁ hn₁ hn₁' hx => ?_
          cases Status.ofString? data.status with
          | none => exact hx.unchanged
          | some status =>
              refine hx.inSession (fun _ _ _ h => h.unchanged) fun w₁ _ x hp₁ _ hx => ?_
              refine hx.newId fun n₂ db₂ hn₂ hn₂' hx => ?_
              refine hx.inSession (fun _ _ _ h => h.unchanged) fun w₂ _ x hp₂ _ hx => ?_
              refine hx.newId fun n₃ db₃ hn₃ hn₃' hx => ?_
              refine hx.inSession (fun _ _ _ h => h.unchanged) fun w₃ _ x hp₃ _ hx => ?_
              refine hx.commit (fun _ _ _ _ => hx.unchanged) fun db' x' _ ha hs hn _ _ => ?_
              refine wp_send fun _ _ _ _ _ => ?_
              obtain ⟨-, rfl⟩ := plan_saveProduct hp₁
              obtain ⟨hvalid, rfl⟩ := plan_saveInventory hp₂
              obtain ⟨-, rfl⟩ := plan_saveCost hp₃
              -- ids were drawn in this order: product, batch, cost record
              have hids : db.nextId ≤ n₁ ∧ n₁ < n₂ ∧ n₂ < n₃ ∧ n₃ < db'.nextId := by
                rw [hn]
                exact ⟨hn₁, hn₁'.trans_le hn₂, hn₂'.trans_le hn₃, hn₃'⟩
              refine .addProduct (data.toProduct n₁ status user.createdBy _) _ _
                ⟨?_, ?_, rfl, rfl, rfl, rfl, rfl, rfl, hvalid, rfl, rfl⟩ rfl ?_ hq hu hcost
                ⟨hs, ha, ?_⟩
              · show db.nextId ≤ n₂ ∧ n₂ < db'.nextId
                constructor <;> order
              · show db.nextId ≤ n₃ ∧ n₃ < db'.nextId
                constructor <;> order
              · show db.nextId ≤ n₁ ∧ n₁ < db'.nextId
                constructor <;> order
              · order

theorem addInventory_effect (db : Db) (id : ObjectId) (body : InventoryBody) (caller : Caller)
    (env : Env) :
    Effect db ⟨.addInventory id body, caller, env⟩
      (serveStep ⟨.addInventory id body, caller, env⟩ db) := by
  refine wp_withTransaction_shared (P := Effect db _) (fun _ => quiet_send _) ?_
  intro x hx
  refine hx.read fun x hx => ?_
  cases Query.eval (.user caller._id) db.store with
  | none => exact wp_send fun _ _ _ _ _ => hx.unchanged
  | some user =>
      refine hx.now ?_
      cases hv : validateInventory body with
      | error e => exact hx.unchanged
      | ok data =>
          obtain ⟨hq, hcost⟩ := validateInventory_ok hv
          refine hx.read fun x hx => ?_
          cases hfound : Query.eval (.product id) db.store with
          | none => exact wp_send fun _ _ _ _ _ => hx.unchanged
          | some product =>
              refine hx.inSession (fun _ _ _ h => h.unchanged) fun w₁ r x hp₁ _ hx => ?_
              cases hp₁
              -- the product is there, so the update returns it, under the same id
              have hget := Store.get?_of_findProduct hfound
              obtain ⟨-, hid⟩ := Store.mem_of_findProduct hfound
              simp only [Store.apply_empty, hget, Option.map_some]
              refine hx.newId fun n₂ db₂ hn₂ hn₂' hx => ?_
              refine hx.inSession (fun _ _ _ h => h.unchanged) fun w₂ _ x hp₂ _ hx => ?_
              refine hx.newId fun n₃ db₃ hn₃ hn₃' hx => ?_
              refine hx.inSession (fun _ _ _ h => h.unchanged) fun w₃ _ x hp₃ _ hx => ?_
              refine hx.commit (fun _ _ _ _ => hx.unchanged) fun db' x' _ ha hs hn _ _ => ?_
              refine wp_send fun _ _ _ _ _ => ?_
              obtain ⟨hvalid, rfl⟩ := plan_saveInventory hp₂
              obtain ⟨-, rfl⟩ := plan_saveCost hp₃
              simp only [Writes.mk_append, List.nil_append, List.append_nil] at ha hs
              -- ids were drawn in this order: batch, cost record
              have hids : db.nextId ≤ n₂ ∧ n₂ < n₃ ∧ n₃ < db'.nextId := by
                rw [hn]
                exact ⟨hn₂, hn₂'.trans_le hn₃, hn₃'⟩
              refine .addInventory product data.price _ _ hfound
                ⟨?_, ?_, rfl, rfl, rfl, rfl, rfl, rfl, hvalid, rfl, rfl⟩ hid hq hcost ⟨hs, ha, ?_⟩
              · show db.nextId ≤ n₂ ∧ n₂ < db'.nextId
                constructor <;> order
              · show db.nextId ≤ n₃ ∧ n₃ < db'.nextId
                constructor <;> order
              · order

/-! ## Deleting -/

theorem deleteInventory_effect (db : Db) (id : ObjectId) (caller : Caller) (env : Env) :
    Effect db ⟨.deleteInventory id, caller, env⟩
      (serveStep ⟨.deleteInventory id, caller, env⟩ db) := by
  refine wp_read (Q := fun F => Effect db _ F.shared) ?_
  cases hadmin : isAdmin (Query.eval (.user caller._id) db.store) with
  | false => exact wp_send fun _ _ _ _ _ => .unchanged rfl le_rfl
  | true =>
      refine wp_withTransaction_shared (P := Effect db _) (fun _ => quiet_send _) ?_
      intro x hx
      refine hx.inSession (fun _ _ _ h => h.unchanged) fun w₁ _ x hp₁ _ hx => ?_
      cases hp₁
      refine hx.inSession (fun _ _ _ h => h.unchanged) fun w₂ _ x hp₂ _ hx => ?_
      refine hx.commit (fun _ _ _ _ => hx.unchanged) fun db' x' _ ha hs hn _ _ => ?_
      refine wp_send fun _ _ _ _ _ => .deleteInventory hadmin ?_ hn.ge
      rw [hs]
      unfold costsWithout
      rcases plan_deleteCostOf hp₂ with ⟨hcost, rfl⟩ | ⟨cost, hcost, rfl⟩
      · change db.store.costOf id = none at hcost
        rw [hcost]
        rfl
      · change db.store.costOf id = some cost at hcost
        rw [hcost]
        rfl

end InventoryHero.Serial
