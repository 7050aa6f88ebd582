import InventoryHero.Storage.Locality

/-!
# The documents that a list of writes adds

Keys only come into a collection by insertions (`key_mem_writeAll`). A list of writes is accepted as
a whole if it inserts distinct keys of which none is in use (`acceptsAll_of_inserted`), whatever it
changes and deletes in between.
-/

set_option autoImplicit false

namespace InventoryHero.Storage

open Keyed (key)

variable {α κ : Type} [Keyed α κ]

/-- The document that a write inserts. -/
def DocWrite.inserted? : DocWrite α → Option α
  | insert a => some a
  | _ => none

/-- The documents that a list of writes inserts, in order. -/
def inserted (ws : List (DocWrite α)) : List α := ws.filterMap DocWrite.inserted?

@[simp] theorem inserted_append (ws ws' : List (DocWrite α)) :
    inserted (ws ++ ws') = inserted ws ++ inserted ws' :=
  List.filterMap_append

theorem mem_inserted {ws : List (DocWrite α)} {a : α} : a ∈ inserted ws ↔ .insert a ∈ ws := by
  constructor
  · intro h
    obtain ⟨w, hw, ha⟩ := List.mem_filterMap.1 h
    cases w with
    | insert b =>
        cases ha
        exact hw
    | _ => cases ha
  · intro h
    exact List.mem_filterMap.2 ⟨_, h, rfl⟩

namespace Collection

variable [DecidableEq κ] {c : Collection α} {ws : List (DocWrite α)}

/-- A key in the end was there before, or was inserted. -/
theorem key_mem_writeAll {a : α} (h : a ∈ (c.writeAll ws).docs) :
    key a ∈ c.docs.map key ∨ key a ∈ (inserted ws).map key := by
  refine forall_writeAll (Q := fun a => key a ∈ c.docs.map key ∨ key a ∈ (inserted ws).map key)
    (fun a ha => .inl (List.mem_map_of_mem ha)) ?_ a h
  intro w hw
  cases w with
  | insert b => exact .inr (List.mem_map_of_mem (mem_inserted.2 hw))
  | modify k p =>
      intro b _ hb
      rwa [p.key_apply]
  | delete k => trivial

theorem acceptsAll_of_inserted (hnew : ∀ k ∈ (inserted ws).map key, k ∉ c.docs.map key)
    (hnodup : ((inserted ws).map key).Nodup) : c.acceptsAll ws = true := by
  induction ws generalizing c with
  | nil => rfl
  | cons w ws ih =>
      rw [acceptsAll_cons, Bool.and_eq_true]
      cases w with
      | insert a =>
          change (key a :: (inserted ws).map key).Nodup at hnodup
          change ∀ k ∈ key a :: (inserted ws).map key, k ∉ c.docs.map key at hnew
          rw [List.nodup_cons] at hnodup
          refine ⟨(c.accepts_insert_iff a).2 ?_, ih ?_ hnodup.2⟩
          · intro b hb hba
            exact hnew _ List.mem_cons_self (hba ▸ List.mem_map_of_mem hb)
          · -- the new document is the only one whose key came in
            intro k hk hin
            obtain ⟨b, hb, rfl⟩ := List.mem_map.1 hin
            rcases mem_of_mem_insert hb with hb | rfl
            · exact hnew _ (List.mem_cons_of_mem _ hk) (List.mem_map_of_mem hb)
            · exact hnodup.1 hk
      | modify k p =>
          refine ⟨rfl, ih ?_ hnodup⟩
          rw [write_modify, keys_modify]
          exact hnew
      | delete k =>
          refine ⟨rfl, ih ?_ hnodup⟩
          intro k' hk' hin
          obtain ⟨b, hb, rfl⟩ := List.mem_map.1 hin
          exact hnew _ hk' (List.mem_map_of_mem (mem_delete.1 hb).1)

end Collection

end InventoryHero.Storage
