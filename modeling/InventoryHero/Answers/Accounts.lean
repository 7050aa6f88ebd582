import InventoryHero.Answers.Truthful
import InventoryHero.Accounts.Effect

/-!
# The answers of the account routes

`forgotPassWord`, `verifyPassWordResetMail` and `verifyUser` write outside of any transaction, so a
write that is followed by an error stays.
-/

set_option autoImplicit false

namespace InventoryHero.Answers

open Interaction Accounts
open Model (ObjectId Date)

/-- The run answers truthfully: success is a write that took effect. -/
def TruthfulWeb (F : Final Site Exchange Failure Unit) : Prop :=
  Truthful (F.loc.sent.map Answer.status) (F.loc.wrote ≠ [])

/-- The run answers truthfully exactly if `P`. -/
def TruthfulWebIff (P : Prop) (F : Final Site Exchange Failure Unit) : Prop := TruthfulWeb F ↔ P

variable {s : Site} {x : Exchange} {P : Prop} {r : Failure → Answer}

/-- The postcondition of the body of a handler whose catch block answers `r`. -/
def Guarded (P : Prop) (r : Failure → Answer) (F : Final Site Exchange Failure Unit) : Prop :=
  F.elim (fun u s' x' => TruthfulWebIff P ⟨s', x', .ok u⟩)
    (fun e s' x' => (send (r e)).Wp sem (TruthfulWebIff P) s' x')

theorem wp_guarded {body : Web Unit} (h : body.Wp sem (Guarded P r) s x) :
    (body.tryCatch fun e => send (r e)).Wp sem (TruthfulWebIff P) s x := Prog.Wp.tryCatch h

/-- The handler answers and is done. -/
theorem wp_answer {a : Answer} (hs : x.sent = [])
    (h : (IsSuccess a.status ↔ x.wrote ≠ []) ↔ P) : (send a).Wp sem (TruthfulWebIff P) s x :=
  wp_send_last hs (by simpa [TruthfulWebIff, TruthfulWeb, truthful_singleton] using h)

theorem wp_answer_guarded {a : Answer} (hs : x.sent = [])
    (h : (IsSuccess a.status ↔ x.wrote ≠ []) ↔ P) : (send a).Wp sem (Guarded P r) s x :=
  wp_send_last hs (by simpa [Guarded, TruthfulWebIff, TruthfulWeb, truthful_singleton] using h)

/-- The handler throws, and the catch block answers. -/
theorem guarded_error {e : Failure} (hs : x.sent = [])
    (h : (IsSuccess (r e).status ↔ x.wrote ≠ []) ↔ P) : Guarded P r ⟨s, x, .error e⟩ :=
  wp_answer hs h

/-- The handler throws after it has answered: the answer of the catch block throws as well. -/
theorem guarded_error_again {a : Answer} {e : Failure} (hs : x.sent = [a])
    (h : (IsSuccess a.status ↔ x.wrote ≠ []) ↔ P) : Guarded P r ⟨s, x, .error e⟩ := by
  show (send (r e)).Wp sem (TruthfulWebIff P) s x
  rw [← Prog.bind_done (send (r e))]
  refine wp_send_again (by simp [hs]) ?_
  simpa [TruthfulWebIff, TruthfulWeb, hs, truthful_singleton] using h

theorem wp_answer_again {a b : Answer} (hs : x.sent = [a])
    (h : (IsSuccess a.status ↔ x.wrote ≠ []) ↔ P) : (send b).Wp sem (Guarded P r) s x := by
  rw [← Prog.bind_done (send b)]
  exact wp_send_again (by simp [hs]) (guarded_error_again hs h)

/-- The link of an unknown email is stored, and so is a link that could not be posted. -/
theorem forgotPassWord_truthful_iff (s : Site) (email : Option String) (env : Env) :
    TruthfulWeb ((forgotPassWord email).run sem s (.init env)) ↔
      s.users.byEmail email ≠ none ∧ env.mailFails = false := by
  refine wp_guarded (P := s.users.byEmail email ≠ none ∧ env.mailFails = false) (wp_findUser ?_)
  change (if (s.users.byEmail email).isNone = true then _ else _ : Web Unit).Wp _ _ _ _
  cases hfound : s.users.byEmail email with
  | none =>
      -- the answer is out, and the record is stored all the same
      refine wp_send rfl (wp_setCache (wp_postMail (fun _ => ?_) fun _ => ?_))
      · exact wp_answer_again rfl (by simp [Exchange.init, IsSuccess])
      · exact guarded_error_again rfl (by simp [Exchange.init, IsSuccess])
  | some user =>
      refine wp_setCache (wp_postMail (fun hmail => ?_) fun hmail => ?_)
      · change env.mailFails = false at hmail
        exact wp_answer_guarded rfl (by simp [Exchange.init, IsSuccess, hmail, Msg])
      · change env.mailFails = true at hmail
        exact guarded_error rfl (by simp [Exchange.init, IsSuccess, hmail])

/-- If the token has a record, the email of the record an account and the account a password, then a
new password is given only to an account that passes the schema. -/
def ResetsValid (s : Site) (token : String) (new : Option String) (now : Date) : Prop :=
  ∀ ticket, s.getCache token now = some ticket → ∀ user, s.users.byEmail ticket.email = some user →
    s.authOf user._id ≠ none → new ≠ none → user.valid = true

/-- The password is stored before `save` checks the account. -/
theorem verifyPassWordResetMail_truthful_iff (pk : Packages) (s : Site) (token : String)
    (new : Option String) (env : Env) :
    TruthfulWeb ((verifyPassWordResetMail pk token new).run sem s (.init env)) ↔
      ResetsValid s token new env.now := by
  have hfailure {a : Answer} (ha : ¬IsSuccess a.status) (hvalid : ResetsValid s token new env.now) :
      (IsSuccess a.status ↔ (Exchange.init env).wrote ≠ []) ↔ ResetsValid s token new env.now := by
    simp [Exchange.init, ha, hvalid]
  refine wp_guarded (P := ResetsValid s token new env.now) (wp_getCache ?_)
  cases hticket : s.getCache token (Exchange.init env).env.now with
  | none =>
      change s.getCache token env.now = none at hticket
      exact wp_send rfl
        (guarded_error_again rfl (hfailure (by decide) (by simp [ResetsValid, hticket])))
  | some ticket =>
      change s.getCache token env.now = some ticket at hticket
      refine wp_findUser ?_
      cases huser : UserQuery.eval s (Exchange.init env).env (.email ticket.email) with
      | none =>
          change s.users.byEmail ticket.email = none at huser
          exact wp_answer_guarded rfl (hfailure (by decide) (by simp [ResetsValid, hticket, huser]))
      | some user =>
          change s.users.byEmail ticket.email = some user at huser
          refine wp_findAuth ?_
          cases hauth : s.authOf user._id with
          | none =>
              exact wp_answer_guarded rfl
                (hfailure (by decide) (by simp [ResetsValid, hticket, huser, hauth]))
          | some auth =>
              cases new with
              | none => exact guarded_error rfl (hfailure (by decide) (by simp [ResetsValid]))
              | some w =>
                  have hvalid : ResetsValid s token (some w) env.now ↔ user.valid = true := by
                    simp [ResetsValid, hticket, huser, hauth]
                  rw [hvalid]
                  refine wp_hash (wp_updateSecret (wp_saveUser (fun hok => ?_) fun hno => ?_))
                  · exact wp_answer_guarded rfl (by simp [IsSuccess, hok])
                  · exact guarded_error rfl (by simp [IsSuccess, hno])

/-- Nothing is stored for an account that is not found: the update finds none either. An update
without fields of an account that is found stores nothing and is answered with success. -/
theorem verifyUser_truthful_iff (s : Site) (id : ObjectId) (data : AccountUpdate) (env : Env) :
    TruthfulWeb ((verifyUser id data).run sem s (.init env)) ↔
      s.users.get? id = none ∨ data ≠ {} := by
  refine wp_guarded (P := s.users.get? id = none ∨ data ≠ {}) (wp_findUser ?_)
  change (if (s.users.get? id).isNone = true then _ else _ : Web Unit).Wp _ _ _ _
  cases hfound : s.users.get? id with
  | none =>
      refine wp_send rfl (wp_findByIdAndUpdate (fun _ => ?_) (fun user hget => ?_) (fun _ _ _ => ?_)
        fun _ _ _ _ hget => ?_)
      · exact wp_answer_again rfl (by simp [Exchange.init, IsSuccess])
      · simp [hfound] at hget
      · exact guarded_error_again rfl (by simp [Exchange.init, IsSuccess])
      · exact absurd hfound hget
  | some user =>
      refine wp_findByIdAndUpdate (fun hget => ?_) (fun _ _ hempty => ?_) (fun _ _ hdata => ?_)
        fun _ _ _ hdata _ => ?_
      · simp [hfound] at hget
      · exact wp_answer_guarded rfl (by simp [Exchange.init, IsSuccess, hempty])
      · exact guarded_error rfl (by simp [Exchange.init, IsSuccess, hdata])
      · exact wp_answer_guarded rfl (by simp [IsSuccess, hdata])

/-! ## All handlers -/

/-- When each handler answers once and truthfully. The ids that the database generates are new. -/
theorem answers_truthful_iff {db : Model.Db} (hids : Serial.AllFresh db) (s : Site)
    (pk : Packages) :
    (∀ id body caller env, TruthfulRun (Model.serve ⟨.recordSales id body, caller, env⟩ db) ↔
      SaleAnswered db.store id body caller env) ∧
    (∀ id data caller env,
      Truthful ((Model.serveCatalog ⟨.editProduct id data, caller, env⟩ db).loc.sent.map
          Model.Response.status)
        (Edited db id (Model.catalogStep ⟨.editProduct id data, caller, env⟩ db)) ↔
      EditAnswered db.store id data) ∧
    (∀ id body caller env, TruthfulRun (Model.serve ⟨.addInventory id body, caller, env⟩ db) ↔
      ¬(PurchaseReady db.store id body caller ∧ env.commitFails = true)) ∧
    (∀ id prd caller env,
      TruthfulRun (Model.serve ⟨.deleteSalesRecord id prd, caller, env⟩ db) ↔
      ¬(Serial.MayReverse db caller ∧ Serial.Reversible db id prd ∧ env.commitFails = true)) ∧
    (∀ caller env, TruthfulRun (Model.serve ⟨.deleteAllSales, caller, env⟩ db) ↔
      ¬(Serial.AllLive db.store ∧ env.commitFails = true)) ∧
    (∀ email env, TruthfulWeb ((forgotPassWord email).run sem s (.init env)) ↔
      s.users.byEmail email ≠ none ∧ env.mailFails = false) ∧
    (∀ token new env, TruthfulWeb ((verifyPassWordResetMail pk token new).run sem s (.init env)) ↔
      ResetsValid s token new env.now) ∧
    ∀ id data env, TruthfulWeb ((verifyUser id data).run sem s (.init env)) ↔
      s.users.get? id = none ∨ data ≠ {} :=
  ⟨recordSales_truthful_iff hids, editProduct_truthful_iff db, addInventory_truthful_iff hids,
    deleteSalesRecord_truthful_iff hids, deleteAllSales_truthful_iff db,
    forgotPassWord_truthful_iff s, verifyPassWordResetMail_truthful_iff pk s,
    verifyUser_truthful_iff s⟩

theorem allFresh_shop : Serial.AllFresh Model.Sample.shop :=
  (Serial.allFresh_of_isEmpty Model.Sample.isEmpty).serveAll _

/-- Two of the six pieces left are sold. -/
theorem answers_truthful_shop :
    Serial.AllFresh Model.Sample.shop ∧
    TruthfulRun (Model.serve (Model.Sample.call (.recordSales 1 (Model.Sample.salesBody 2)))
      Model.Sample.shop) := by
  have hfound : (Model.Sample.shop.store.findProduct 1).isSome = true := by decide +kernel
  obtain ⟨product, hproduct⟩ := Option.isSome_iff_exists.1 hfound
  have hpassed : Lots.passed (2 : ℚ) (Model.Sample.shop.store.batches 1) ≤ 1 := by decide +kernel
  have huser : Model.Sample.shop.store.users.get? 0 = some ⟨0, "shop", "keeper", .admin⟩ := by
    decide +kernel
  have hsettled : SaleAnswered Model.Sample.shop.store 1 (Model.Sample.salesBody 2)
      Model.Sample.admin Model.Sample.env :=
    .inr (.inr ⟨_, product, _, huser, hproduct, rfl, .inr (.inr ⟨hpassed, by decide, rfl⟩)⟩)
  exact ⟨allFresh_shop, ((answers_truthful_iff allFresh_shop Sample.site Sample.packages).1 1
    (Model.Sample.salesBody 2) Model.Sample.admin Model.Sample.env).2 hsettled⟩

/-- A user whose first name was set to `null` asks for a new password. -/
def namelessReset : Site :=
  [Sample.userCall (.updateUser { firstName := some none }) 0,
      ⟨.forgotPassWord (some "u@shop"), {}, Sample.env 0 "reset"⟩].foldl
    (fun s c => serveStep Sample.packages c s)
    (Sample.verifiedUser.foldl (fun s c => serveStep Sample.packages c s) Sample.site)

/-- The shop with its product hidden. -/
def hiddenShop : Model.Db :=
  Model.catalogStep ⟨.adminDeleteProduct 1, Model.Sample.admin, Model.Sample.env⟩ Model.Sample.shop

/-- The shop after its keeper's account has lost the first name. -/
def namelessShop : Model.Db :=
  { Model.Sample.shop with
    store := { Model.Sample.shop.store with
      users := ⟨[⟨0, "", "keeper", .admin⟩], List.nodup_singleton _⟩ } }

/-- A sale without a quantity is not answered, nor is one by a seller without a first name; the
update of a hidden product takes effect and is answered with `404`; one without fields stores
nothing and is answered with `200`; a commit that fails is not answered; an unknown email is
answered with `400`, and a link is stored; the password of an account without a first name changes
with `500`; and an account is said to be updated with no fields. -/
theorem answers_untruthful :
    let rename : Model.ProductUpdate := { brand := some "other" }
    ¬TruthfulRun (Model.serve (Model.Sample.call (.recordSales 1
      { Model.Sample.salesBody 2 with quantity := none })) Model.Sample.shop) ∧
    ¬TruthfulRun (Model.serve (Model.Sample.call (.recordSales 1 (Model.Sample.salesBody 2)))
      namelessShop) ∧
    ¬Truthful ((Model.serveCatalog ⟨.editProduct 1 rename, Model.Sample.admin,
        Model.Sample.env⟩ hiddenShop).loc.sent.map Model.Response.status)
      (Edited hiddenShop 1 (Model.catalogStep ⟨.editProduct 1 rename, Model.Sample.admin,
        Model.Sample.env⟩ hiddenShop)) ∧
    ¬Truthful ((Model.serveCatalog ⟨.editProduct 1 {}, Model.Sample.admin,
        Model.Sample.env⟩ Model.Sample.shop).loc.sent.map Model.Response.status)
      (Edited Model.Sample.shop 1 (Model.catalogStep ⟨.editProduct 1 {}, Model.Sample.admin,
        Model.Sample.env⟩ Model.Sample.shop)) ∧
    ¬TruthfulRun (Model.serve ⟨.deleteSalesRecord 4 1, Model.Sample.admin,
      { Model.Sample.env with commitFails := true }⟩ Model.Sample.shop) ∧
    ¬TruthfulWeb ((forgotPassWord (some "nobody@shop")).run sem Sample.site
      (.init (Sample.env 0 "link"))) ∧
    ¬TruthfulWeb ((verifyPassWordResetMail Sample.packages "reset" (some "password1")).run sem
      namelessReset (.init (Sample.env 0 "link"))) ∧
    ¬TruthfulWeb ((verifyUser 1 {}).run sem Sample.adminSite (.init (Sample.env 0 "link"))) := by
  intro rename
  refine ⟨?_, ?_, ?_, ?_, ?_, ?_, ?_, ?_⟩
  · exact not_truthful_of_nil (by decide +kernel)
  · exact not_truthful_of_nil (by decide +kernel)
  · have hedited : (Model.catalogStep ⟨.editProduct 1 rename, Model.Sample.admin,
        Model.Sample.env⟩ hiddenShop).oplog = hiddenShop.oplog ++ [[.product 1]] := by
      decide +kernel
    exact not_truthful_of_failure 404 (by decide +kernel) (by decide) hedited
  · have hsame : (Model.catalogStep ⟨.editProduct 1 {}, Model.Sample.admin,
        Model.Sample.env⟩ Model.Sample.shop).oplog ≠ Model.Sample.shop.oplog ++ [[.product 1]] := by
      decide +kernel
    exact not_truthful_of_success 200 (by decide +kernel) (by decide) hsame
  · exact not_truthful_of_nil (by decide +kernel)
  · exact not_truthful_of_failure 400 (by decide +kernel) (by decide) (by decide +kernel)
  · exact not_truthful_of_failure 500 (by decide +kernel) (by decide) (by decide +kernel)
  · exact not_truthful_of_success 200 (by decide +kernel) (by decide) (by decide +kernel)

end InventoryHero.Answers
