import InventoryHero.Serial.Sales
import InventoryHero.Serial.Reversals
import InventoryHero.Serial.Edits
import InventoryHero.Serial.Removal

/-!
# The effect of a served request

`serve_effect` collects the handlers: whatever is requested, by whomever and under whatever
circumstances, a request served alone has one of the effects listed in `Effect`.
-/

set_option autoImplicit false

namespace InventoryHero.Serial

open Interaction Storage Model Stock

/-- **Inversion of `serveStep`.** -/
theorem serve_effect (c : Call) (db : Db) : Effect db c (serveStep c db) := by
  obtain ⟨request, caller, env⟩ := c
  cases request with
  | addProduct body => exact addProduct_effect db body caller env
  | addInventory id body => exact addInventory_effect db id body caller env
  | recordSales id body => exact (recordSales_served db id body caller env).1
  | deleteSalesRecord id prd =>
      rcases deleteSalesRecord_served db id prd caller env with
        ⟨⟨may, h⟩, -⟩ | ⟨store, next, -⟩
      · exact .deleteSalesRecord may h
      · exact .unchanged store next
  | deleteAllSales =>
      rcases deleteAllSales_served db caller env with ⟨h, store, next, -⟩ | ⟨-, store, next, -⟩
      · exact .deleteAllSales h.1 store next
      · exact .unchanged store next
  | userDeleteProduct id => exact userDeleteProduct_effect db id caller env
  | deleteInventory id => exact deleteInventory_effect db id caller env
  | editInventory id data => exact editInventory_effect db id data caller env

end InventoryHero.Serial
