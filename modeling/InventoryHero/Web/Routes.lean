import InventoryHero.Routing.Symbolic

/-!
# The routes of the server

The four routers of `routes/`, layer by layer. `routes/product.routes.js` registers some of its
routes with `isLoggedIn` of their own and the others after a `use(isLoggedIn)`; `GET /:id` stands
between the two and would take the requests of any later route of its shape.

`routes_reached`: no route hides another. `guards_of_reached`: a handler is run behind the same
middleware whichever path leads to it.
-/

set_option autoImplicit false

namespace InventoryHero.Web

open Routing

inductive Middleware
  | isLoggedIn
  | uploadMiddleWare
  deriving DecidableEq, Repr

/-- The handlers that the routers name. -/
inductive Handler
  | HomePage
  | signUpEmailPassword
  | signUpMagicLink
  | completeSignup
  | Login
  | verifySignUpEmail
  | forgotPassWord
  | verifyPassWordResetMail
  | userLogOut
  | myAccout
  | updateUser
  | changePassWord
  | findAll
  | searchUser
  | findOne
  | deleteUser
  | verifyUser
  | fetchProducts
  | fetchSeller
  | updateProductStatus
  | adminDeleteProduct
  | addProduct
  | deleteAllSales
  | uploadCloudinary
  | userFetchUnverifiedProducts
  | fetchVerifiedProducts
  | fetchUnwindVerifiedProducts
  | searchProducts
  | findProduct
  | addInventory
  | recordSales
  | deleteSalesRecord
  | deleteInventory
  | fetchSalesRecord
  | fetchCostsRecord
  | updateProduct
  | editProduct
  | editInventory
  | userDeleteProduct
  deriving DecidableEq, Repr

/-! ## The tables -/

/-- `routes/user.routes.js`. -/
def userRouter : Router Middleware Handler :=
  .route .post [] [] .signUpEmailPassword <|
  .route .post [.lit "signup-link"] [] .signUpMagicLink <|
  .route .post [.lit "complete-signup"] [] .completeSignup <|
  .route .post [.lit "login"] [] .Login <|
  .route .get [.lit "verify-email", .param] [] .verifySignUpEmail <|
  .route .post [.lit "forgot-password-email"] [] .forgotPassWord <|
  .route .patch [.lit "reset-password", .param] [] .verifyPassWordResetMail <|
  .use .isLoggedIn <|
  .route .post [.lit "log-out"] [] .userLogOut <|
  .route .get [.lit "my-profile"] [] .myAccout <|
  .route .patch [.lit "update-profile"] [] .updateUser <|
  .route .patch [.lit "change-password"] [] .changePassWord
  .done

/-- `routes/admin.routes.js`. -/
def admin : Router Middleware Handler :=
  .use .isLoggedIn <|
  .route .get [.lit "users"] [] .findAll <|
  .route .get [.lit "products"] [] .fetchProducts <|
  .route .get [.lit "users", .lit "search"] [] .searchUser <|
  .route .get [.lit "products", .lit "sellers"] [] .fetchSeller <|
  .route .get [.lit "users", .param] [] .findOne <|
  .route .patch [.lit "products", .param, .lit "status"] [] .updateProductStatus <|
  .route .delete [.lit "products", .param] [] .adminDeleteProduct <|
  .route .delete [.lit "users", .param] [] .deleteUser <|
  .route .patch [.lit "verify-users", .param] [] .verifyUser
  .done

/-- `routes/product.routes.js`. -/
def pRouter : Router Middleware Handler :=
  .route .post [] [.isLoggedIn] .addProduct <|
  .route .delete [.lit "delete-all-sales"] [.isLoggedIn] .deleteAllSales <|
  .route .post [.lit "upload-cloudinary"] [.isLoggedIn, .uploadMiddleWare] .uploadCloudinary <|
  .route .get [.lit "unverified"] [.isLoggedIn] .userFetchUnverifiedProducts <|
  .route .get [.lit "verified"] [.isLoggedIn] .fetchVerifiedProducts <|
  .route .get [.lit "unwind-verified"] [.isLoggedIn] .fetchUnwindVerifiedProducts <|
  .route .get [.lit "search"] [] .searchProducts <|
  .route .get [.param] [] .findProduct <|
  .use .isLoggedIn <|
  .route .post [.lit "add-inventory", .param] [] .addInventory <|
  .route .post [.lit "record-sales", .param] [] .recordSales <|
  .route .delete [.lit "delete-sales", .param, .param] [] .deleteSalesRecord <|
  .route .delete [.lit "delete-inventory", .param] [] .deleteInventory <|
  .route .get [.lit "fetch-sales", .param, .param] [] .fetchSalesRecord <|
  .route .get [.lit "fetch-costs", .param, .param] [] .fetchCostsRecord <|
  .route .patch [.param] [] .updateProduct <|
  .route .patch [.lit "edit-product", .param] [] .editProduct <|
  .route .patch [.lit "edit-inventory", .param] [] .editInventory <|
  .route .patch [.param, .lit "status"] [] .updateProductStatus <|
  .route .delete [.param] [] .userDeleteProduct
  .done

/-- `routes/index.js`. -/
def router : Router Middleware Handler :=
  .route .get [] [] .HomePage <|
  .mount "users" userRouter <|
  .mount "admin" admin <|
  .mount "products" pRouter
  .done

theorem plainLiteral_router : ∀ s ∈ literals router, PlainLiteral s := by
  decide +kernel

/-! ## The middleware before a handler -/

/-- The middleware that a handler is meant to run behind. -/
def Handler.guards : Handler → List Middleware
  | .HomePage | .signUpEmailPassword | .signUpMagicLink | .completeSignup | .Login
  | .verifySignUpEmail | .forgotPassWord | .verifyPassWordResetMail | .searchProducts
  | .findProduct => []
  | .uploadCloudinary => [.isLoggedIn, .uploadMiddleWare]
  | _ => [.isLoggedIn]

/-- The method of the routes that lead to a handler. -/
def Handler.method : Handler → Method
  | .HomePage | .verifySignUpEmail | .myAccout | .findAll | .searchUser | .findOne | .fetchProducts
  | .fetchSeller | .userFetchUnverifiedProducts | .fetchVerifiedProducts
  | .fetchUnwindVerifiedProducts | .searchProducts | .findProduct | .fetchSalesRecord
  | .fetchCostsRecord => .get
  | .signUpEmailPassword | .signUpMagicLink | .completeSignup | .Login | .forgotPassWord
  | .userLogOut | .addProduct | .uploadCloudinary | .addInventory | .recordSales => .post
  | .verifyPassWordResetMail | .updateUser | .changePassWord | .verifyUser | .updateProductStatus
  | .updateProduct | .editProduct | .editInventory => .patch
  | .deleteUser | .adminDeleteProduct | .deleteAllSales | .deleteSalesRecord | .deleteInventory
  | .userDeleteProduct => .delete

/-- The number of parameters in the paths that lead to a handler. -/
def Handler.arity : Handler → ℕ
  | .deleteSalesRecord | .fetchSalesRecord | .fetchCostsRecord => 2
  | .verifySignUpEmail | .verifyPassWordResetMail | .findOne | .deleteUser | .verifyUser
  | .updateProductStatus | .adminDeleteProduct | .findProduct | .addInventory | .recordSales
  | .deleteInventory | .updateProduct | .editProduct | .editInventory | .userDeleteProduct => 1
  | _ => 0

/-- The entry says of its handler what is expected. -/
def Expected (e : Entry Middleware Handler) : Prop :=
  match e.endpoint with
  | some h => e.guards = h.guards ∧ e.method = h.method ∧ e.arity = h.arity
  | none => e.guards = [] ∨ e.guards = [.isLoggedIn]

instance (e : Entry Middleware Handler) : Decidable (Expected e) := by
  unfold Expected
  split <;> infer_instance

theorem expected_entries : ∀ e ∈ entries none router, Expected e := by
  decide +kernel

theorem falls_router : ∀ gs ∈ falls none router, gs = [] ∨ gs = [.isLoggedIn] := by
  decide +kernel

section Passages

variable {d : Decoder} {m : Method} {path : List String}

theorem foreseen_router (d : Decoder) (m : Method) (path : List String) :
    (walk (text d) router m path).Foreseen none router m :=
  walk_foreseen (separates_text plainLiteral_router) (List.Subset.refl _) (by simp)
    (by simp [Begins]) m

/-- Whichever path leads to a handler, the request comes by the same middleware, has the handler's
method and as many parameters as the handler reads. -/
theorem guards_of_reached {h : Handler} {params : List String}
    (hreached : (walk (text d) router m path).target = .endpoint h params) :
    (walk (text d) router m path).guards = h.guards ∧ m.takenBy h.method = true ∧
      params.length = h.arity := by
  have hforeseen := foreseen_router d m path
  unfold Passage.Foreseen at hforeseen
  rw [hreached] at hforeseen
  obtain ⟨e, he, hendpoint, hguards, harity, hmethod⟩ := hforeseen
  have hexpected := expected_entries e he
  unfold Expected at hexpected
  rw [hendpoint] at hexpected
  obtain ⟨hguards', hmethod', harity'⟩ := hexpected
  exact ⟨hguards.symm.trans hguards', hmethod' ▸ hmethod, harity.trans harity'⟩

/-- A request that reaches no handler meets `isLoggedIn` at most once. -/
theorem guards_of_lost
    (hlost : ∀ h params, (walk (text d) router m path).target ≠ .endpoint h params) :
    (walk (text d) router m path).guards = [] ∨
      (walk (text d) router m path).guards = [.isLoggedIn] := by
  have hforeseen := foreseen_router d m path
  unfold Passage.Foreseen at hforeseen
  cases htarget : (walk (text d) router m path).target with
  | endpoint h params => exact absurd htarget (hlost h params)
  | notFound =>
      rw [htarget] at hforeseen
      exact falls_router _ hforeseen
  | malformed =>
      rw [htarget] at hforeseen
      obtain ⟨e, he, hendpoint, hguards⟩ := hforeseen
      have hexpected := expected_entries e he
      unfold Expected at hexpected
      rw [hendpoint] at hexpected
      rwa [← hguards]

end Passages

/-! ## Every route is reached -/

theorem unshadowed_router : Unshadowed router := by
  decide +kernel

/-- A long text without escapes, such as an id or the token of a link, is no literal. -/
theorem plain_of_long {x : String} (hlong : 24 ≤ x.toList.length) (hplain : '%' ∉ x.toList) :
    Plain router x where
  nonempty := by
    rintro rfl
    exact absurd hlong (by decide)
  unescaped := hplain
  no_literal s hs hfold := by
    have hshort : ∀ s ∈ literals router, s.toList.length < 24 := by decide +kernel
    have hlength := congrArg List.length hfold
    rw [fold, fold, List.length_map, List.length_map] at hlength
    exact absurd (hshort s hs) (by omega)

/-- **No route hides another.** A request with the method and the path of a route is taken by that
route and comes by the middleware of its handler, whatever its parameters are, unless one of them is
a literal of the routes. -/
theorem routes_reached (d : Decoder) (ρ : Route Handler) (hρ : ρ ∈ routes router)
    (values : ℕ → String) (hvalues : ∀ i, Plain router (values i)) :
    walk (text d) router ρ.method (ρ.path values) =
      ⟨ρ.endpoint.guards, .endpoint ρ.endpoint ((List.range ρ.arity).map values)⟩ := by
  have htarget := target_of_unshadowed (d := d) unshadowed_router plainLiteral_router hρ hvalues
  cases hwalk : walk (text d) router ρ.method (ρ.path values) with
  | mk guards target =>
      have hguards := (guards_of_reached htarget).1
      rw [hwalk] at htarget hguards
      cases htarget
      cases hguards
      rfl

/-- Decoding that fails never. -/
def anyDecoder : Decoder := ⟨some, fun _ _ => rfl⟩

/-- `PATCH /products/edit-inventory/:id` comes after two routes that begin with a parameter. -/
theorem routes_reached_editInventory :
    walk (text anyDecoder) router .patch
        ["products", "edit-inventory", "65a1f0c2d4e6b8a0c2e4f6a8"] =
      ⟨[.isLoggedIn], .endpoint .editInventory ["65a1f0c2d4e6b8a0c2e4f6a8"]⟩ :=
  routes_reached anyDecoder
    ⟨.patch, [.lit "products", .lit "edit-inventory", .param], .editInventory⟩ (by decide +kernel)
    (fun _ => "65a1f0c2d4e6b8a0c2e4f6a8")
    fun _ => plain_of_long (by decide +kernel) (by decide +kernel)

end InventoryHero.Web
