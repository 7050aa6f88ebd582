import InventoryHero.Storage.Locality

/-!
# Renaming keys

The keys of new documents are generated, so two runs that differ in the order of their requests can
give the same document different keys. A `Renaming` maps keys injectively and documents along with
them. Writes that are renamed one by one lead to the renamed collection.
-/

set_option autoImplicit false

namespace InventoryHero.Storage

open Keyed (key)

variable {α κ : Type} [Keyed α κ]

/-- A renaming of keys, and of the documents that have them. -/
structure Renaming (α : Type) {κ : Type} [Keyed α κ] where
  keys : κ → κ
  doc : α → α
  injective : Function.Injective keys
  key_doc : ∀ a, key (doc a) = keys (key a)

namespace Renaming

variable {R : Renaming α}

/-- The second write is the first one renamed. A patch must not depend on the names. -/
inductive Renames (R : Renaming α) : DocWrite α → DocWrite α → Prop
  | insert (a : α) : Renames R (.insert a) (.insert (R.doc a))
  | modify (k : κ) (p : Patch α) (unnamed : ∀ a, p.apply (R.doc a) = R.doc (p.apply a)) :
      Renames R (.modify k p) (.modify (R.keys k) p)
  | delete (k : κ) : Renames R (.delete k) (.delete (R.keys k))

theorem Renames.insert_eq {a a' : α} (h : a' = R.doc a) : R.Renames (.insert a) (.insert a') := by
  subst h
  exact .insert a

theorem Renames.modify_old {k : κ} {p : Patch α} (hk : R.keys k = k)
    (unnamed : ∀ a, p.apply (R.doc a) = R.doc (p.apply a)) :
    R.Renames (.modify k p) (.modify k p) := by
  have h := Renames.modify (R := R) k p unnamed
  rwa [hk] at h

theorem Renames.delete_old {k : κ} (hk : R.keys k = k) : R.Renames (.delete k) (.delete k) := by
  have h := Renames.delete (R := R) k
  rwa [hk] at h

variable {c c' : Collection α} {ω : Type} [DecidableEq ω] {owner : α → ω}

theorem ownedBy_map (howner : ∀ a, owner (R.doc a) = owner a) (hc : c'.docs = c.docs.map R.doc)
    (r : ω) : c'.ownedBy owner r = (c.ownedBy owner r).map R.doc := by
  unfold Collection.ownedBy
  rw [hc, List.filter_map]
  congr 1
  apply List.filter_congr
  intro a _
  simp [howner]

variable [DecidableEq κ] {ws ws' : List (DocWrite α)}

theorem docs_write {w w' : DocWrite α} (hc : c'.docs = c.docs.map R.doc) (h : R.Renames w w') :
    (c'.write w').docs = (c.write w).docs.map R.doc := by
  cases h with
  | insert a =>
      have hmem : key (R.doc a) ∈ c'.docs.map key ↔ key a ∈ c.docs.map key := by
        rw [hc, List.map_map, R.key_doc]
        have hkeys : key ∘ R.doc = R.keys ∘ key := funext R.key_doc
        rw [hkeys, ← List.map_map]
        exact List.mem_map_of_injective R.injective
      by_cases hin : key a ∈ c.docs.map key
      · rw [Collection.write_insert, Collection.write_insert,
          Collection.insert_of_mem (hmem.2 hin), Collection.insert_of_mem hin, hc]
      · have hin' : key (R.doc a) ∉ c'.docs.map key := fun h => hin (hmem.1 h)
        rw [Collection.write_insert, Collection.write_insert,
          Collection.docs_insert_of_not_mem hin', Collection.docs_insert_of_not_mem hin, hc,
          List.map_append, List.map_singleton]
  | modify k p unnamed =>
      simp only [Collection.write_modify, Collection.docs_modify, hc, List.map_map]
      apply List.map_congr_left
      intro a _
      by_cases ha : key a = k
      · simp [R.key_doc, ha, unnamed]
      · simp [R.key_doc, ha, R.injective.eq_iff]
  | delete k =>
      simp only [Collection.write_delete, Collection.docs_delete, hc, List.filter_map]
      congr 1
      apply List.filter_congr
      intro a _
      simp [R.key_doc, R.injective.eq_iff]

/-- Renamed writes to the renamed collection. -/
theorem docs_writeAll (hc : c'.docs = c.docs.map R.doc) (h : List.Forall₂ R.Renames ws ws') :
    (c'.writeAll ws').docs = (c.writeAll ws).docs.map R.doc := by
  induction h generalizing c c' with
  | nil => exact hc
  | cons hw _ ih => exact ih (docs_write hc hw)

/-- Two lists of writes `ws`, `vs`, renamed `ws'`, `vs'`, that commute on the documents of `r`: the
other order leads to the same documents renamed, if the keys in use keep their names. -/
theorem ownedBy_swap {vs vs' : List (DocWrite α)} (howner : ∀ a, owner (R.doc a) = owner a)
    (hold : ∀ a ∈ c.docs, R.doc a = a) (hws : List.Forall₂ R.Renames ws ws')
    (hvs : List.Forall₂ R.Renames vs vs') {r : ω}
    (hcomm : ((c.writeAll ws').writeAll vs').ownedBy owner r =
      ((c.writeAll vs').writeAll ws').ownedBy owner r) :
    ((c.writeAll vs').writeAll ws').ownedBy owner r =
      (((c.writeAll ws).writeAll vs).ownedBy owner r).map R.doc := by
  have hc : c.docs = c.docs.map R.doc := by
    conv_lhs => rw [← List.map_id c.docs]
    apply List.map_congr_left
    intro a ha
    exact (hold a ha).symm
  rw [← hcomm]
  exact ownedBy_map howner (docs_writeAll (docs_writeAll hc hws) hvs) r

end Renaming

end InventoryHero.Storage
