import InventoryHero.Storage.Collection
import Mathlib.Data.List.Forall2
import Mathlib.Data.Option.Basic

/-!
# Collections side by side

Two collections whose documents correspond one to one, in order, with the same keys, stay so when
the same is done to both: what an observer learns by looking documents up is what the correspondence
says of the two that are found.
-/

set_option autoImplicit false

namespace InventoryHero.Storage

open Keyed

namespace Collection

variable {α κ : Type} [Keyed α κ]

/-- The documents correspond one to one. -/
def Related (R : α → α → Prop) (c c' : Collection α) : Prop := List.Forall₂ R c.docs c'.docs

variable {R : α → α → Prop} {c c' : Collection α}

theorem Related.map_key (hkey : ∀ a b, R a b → key a = key b) (h : c.Related R c') :
    c.docs.map key = c'.docs.map key := by
  rw [← List.forall₂_eq_eq_eq, List.forall₂_map_left_iff, List.forall₂_map_right_iff]
  exact h.imp hkey

/-- Looking for a document that the correspondence cannot tell from its partner finds two that
correspond, or nothing twice. -/
theorem Related.find? (h : c.Related R c') {q : α → Bool} (hq : ∀ a b, R a b → q a = q b) :
    Option.Rel R (c.docs.find? q) (c'.docs.find? q) := by
  have hfind {l l' : List α} (hl : List.Forall₂ R l l') :
      Option.Rel R (l.find? q) (l'.find? q) := by
    induction hl with
    | nil => exact .none
    | @cons a b l l' hab hl ih =>
        rw [List.find?_cons, List.find?_cons, ← hq a b hab]
        cases q a with
        | true => exact .some hab
        | false => exact ih
  exact hfind h

variable [DecidableEq κ]

theorem Related.insert (hkey : ∀ a b, R a b → key a = key b) (h : c.Related R c') {a b : α}
    (hab : R a b) : (c.insert a).Related R (c'.insert b) := by
  have htaken : key b ∈ c'.docs.map key ↔ key a ∈ c.docs.map key := by
    rw [h.map_key hkey, hkey a b hab]
  unfold Collection.insert
  by_cases ha : key a ∈ c.docs.map key
  · rw [dif_pos ha, dif_pos (htaken.2 ha)]
    exact h
  · rw [dif_neg ha, dif_neg fun hb => ha (htaken.1 hb)]
    exact List.rel_append h (.cons hab .nil)

theorem Related.modify (hkey : ∀ a b, R a b → key a = key b) (h : c.Related R c') (k : κ)
    {p : Patch α} (hp : ∀ a b, R a b → R (p.apply a) (p.apply b)) :
    (c.modify k p).Related R (c'.modify k p) := by
  refine List.rel_map (fun a b hab => ?_) h
  rw [hkey a b hab]
  split
  · exact hp a b hab
  · exact hab

end Collection

end InventoryHero.Storage
