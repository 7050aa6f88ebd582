import InventoryHero.Serial.Serve
import InventoryHero.Model.Catalog

/-!
# Hiding a product

`adminDeleteProduct` issues its one write outside a transaction; nothing after it changes the
database again.
-/

set_option autoImplicit false

namespace InventoryHero.Serial

open Interaction Storage Model

variable {db : Db} {x : Exchange} {α β : Type}

theorem quiet_bind {p : Js α} {f : α → Js β} (hp : Quiet p) (hf : ∀ a, Quiet (f a)) :
    Quiet (p >>= f) := by
  intro db x
  rw [Prog.run_bind]
  have hdb := hp db x
  rcases hr : p.run sem db x with ⟨db', x', r⟩
  rw [hr] at hdb
  obtain rfl : db' = db := hdb
  cases r with
  | ok a => exact hf a db' x'
  | error e => rfl

theorem quiet_destroy (cloudId : Option String) : Quiet (destroy cloudId) := by
  intro db x
  unfold destroy
  rw [Prog.run_op_bind]
  simp only [sem, execDestroy]
  split <;> rfl

theorem quiet_destroyAll (cloudIds : List (Option String)) : Quiet (destroyAll cloudIds) := by
  induction cloudIds with
  | nil => exact fun _ _ => rfl
  | cons cloudId rest ih => exact quiet_bind (quiet_destroy cloudId) fun _ => ih

theorem wp_quiet {p : Js α} {P : Db → Prop} (hp : Quiet p) (h : P db) :
    p.Wp sem (fun F => P F.shared) db x := by
  show P _
  rw [hp]
  exact h

/-- What `adminDeleteProduct` leaves behind: the product is hidden, or nothing has changed. -/
def Hidden (db : Db) (id : ObjectId) (db' : Db) : Prop :=
  db'.nextId = db.nextId ∧ (db'.store = db.store ∨
    db'.store = { db.store with products := db.store.products.modify id softDelete })

/-- What it leaves behind and answers: a product that was found is hidden, whatever is then
answered, or nothing has changed and the answer does not say otherwise. -/
def HidingServed (db : Db) (id : ObjectId) (db' : Db) (sent : List Response) : Prop :=
  db'.nextId = db.nextId ∧
    (db.store.findProduct id ≠ none ∧
        db'.store = { db.store with products := db.store.products.modify id softDelete } ∨
      db'.store = db.store ∧ sent ≠ [productDeleted])

theorem adminDeleteProduct_served (db : Db) (id : ObjectId) (caller : Caller) (env : Env) :
    HidingServed db id (catalogStep ⟨.adminDeleteProduct id, caller, env⟩ db)
      (serveCatalog ⟨.adminDeleteProduct id, caller, env⟩ db).loc.sent := by
  -- an error before the write
  have hfailed : ∀ (e : JsError) (x : Exchange), x.sent = [] →
      (Model.send (.next e)).Wp sem (fun F => HidingServed db id F.shared F.loc.sent) db x := by
    intro e x hx
    refine wp_send fun x' _ _ hfirst _ => ⟨rfl, .inr ⟨rfl, ?_⟩⟩
    rw [(hfirst hx).1]
    simp [Response.next, productDeleted, Msg]
  refine Prog.Wp.tryCatch
    (Q := fun F : Final Db Exchange JsError Unit => HidingServed db id F.shared F.loc.sent) ?_
  refine wp_read ?_
  cases hfound : Query.eval (.product id) db.store with
  | none => exact hfailed .typeError _ rfl
  | some item =>
      rw [orTypeError_some, Prog.done_bind]
      refine wp_direct (fun e _ => hfailed _ _ rfl) fun w r db' hplan hst hn _ => ?_
      cases hplan
      have hdone : ∀ sent, HidingServed db id db' sent := by
        intro sent
        refine ⟨hn, .inl ⟨?_, hst⟩⟩
        change db.store.findProduct id = some item at hfound
        rw [hfound]
        exact Option.some_ne_none _
      -- the images are destroyed and the answer is sent after the write
      refine (wp_quiet (P := fun d => d = db') ?_ rfl).mono ?_
      · extract_lets finish
        split
        · exact quiet_bind (quiet_destroyAll _) fun _ => quiet_send _
        · exact quiet_send _
      · rintro ⟨db₁, x₁, res⟩ (rfl : db₁ = db')
        cases res with
        | ok a => exact hdone _
        | error e =>
            show HidingServed db id _ _
            rw [quiet_send]
            exact hdone _

theorem adminDeleteProduct_effect (db : Db) (id : ObjectId) (caller : Caller) (env : Env) :
    Hidden db id (catalogStep ⟨.adminDeleteProduct id, caller, env⟩ db) := by
  obtain ⟨hn, ⟨-, hst⟩ | ⟨hst, -⟩⟩ := adminDeleteProduct_served db id caller env
  · exact ⟨hn, .inr hst⟩
  · exact ⟨hn, .inl hst⟩

end InventoryHero.Serial
