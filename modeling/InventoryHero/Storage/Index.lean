import InventoryHero.Storage.Collection

/-!
# Unique indexes

A unique index on `f` keeps the values of `f` distinct among the documents of a collection. The
writes of a collection keep the index when the value they add is not taken.
-/

set_option autoImplicit false

namespace InventoryHero.Storage.Collection

open Keyed (key)

variable {α κ β : Type} [Keyed α κ] {f : α → β} {c : Collection α}

/-- The documents have distinct values of `f`. -/
def Unique (f : α → β) (c : Collection α) : Prop := (c.docs.map f).Nodup

theorem Unique.eq (h : c.Unique f) {a b : α} (ha : a ∈ c.docs) (hb : b ∈ c.docs)
    (hf : f a = f b) : a = b := List.inj_on_of_nodup_map h ha hb hf

/-- A value is held by one document at most. -/
theorem Unique.length_filter_le_one [DecidableEq β] (h : c.Unique f) (v : β) :
    (c.docs.filter fun a => f a = v).length ≤ 1 := by
  have hcount : (c.docs.map f).count v ≤ 1 := List.nodup_iff_count_le_one.1 h v
  rw [List.count, List.countP_map, List.countP_eq_length_filter] at hcount
  exact hcount

variable [DecidableEq κ]

theorem Unique.delete (h : c.Unique f) (k : κ) : (c.delete k).Unique f :=
  h.sublist (List.filter_sublist.map f)

theorem Unique.insert (h : c.Unique f) {a : α} (ha : ∀ b ∈ c.docs, f b ≠ f a) :
    (c.insert a).Unique f := by
  unfold Unique Collection.insert
  split
  · exact h
  · rw [List.map_append, List.nodup_append]
    refine ⟨h, by simp, ?_⟩
    intro x hx y hy hxy
    obtain ⟨b, hb, rfl⟩ := List.mem_map.1 hx
    simp only [List.map_cons, List.map_nil, List.mem_singleton] at hy
    exact ha b hb (hxy.trans hy)

/-- The document that changes may take a value that no other document has. -/
theorem Unique.modify (h : c.Unique f) {k : κ} {p : Patch α}
    (hp : ∀ a ∈ c.docs, key a = k → ∀ b ∈ c.docs, key b ≠ k → f b ≠ f (p.apply a)) :
    (c.modify k p).Unique f := by
  unfold Unique
  rw [docs_modify, List.map_map, List.Nodup, List.pairwise_map]
  have hdocs : c.docs.Pairwise fun a b => f a ≠ f b ∧ key a ≠ key b :=
    (List.pairwise_map.1 h).and (List.pairwise_map.1 c.nodup)
  refine hdocs.imp_of_mem ?_
  rintro a b ha hb ⟨hf, hkey⟩
  -- at most one of the two is the document that changes
  by_cases hak : key a = k
  · have hbk : key b ≠ k := fun hb => hkey (hak.trans hb.symm)
    simpa [hak, hbk] using (hp a ha hak b hb hbk).symm
  · by_cases hbk : key b = k
    · simpa [hak, hbk] using hp b hb hbk a ha hak
    · simpa [hak, hbk] using hf

omit [DecidableEq κ] in
/-- A search by the index finds the one document with the value. -/
theorem Unique.find?_eq_some_iff [DecidableEq β] (h : c.Unique f) {v : β} {a : α} :
    (c.docs.find? fun b => f b = v) = some a ↔ a ∈ c.docs ∧ f a = v := by
  constructor
  · intro hfind
    exact ⟨List.mem_of_find?_eq_some hfind, by simpa using List.find?_some hfind⟩
  · rintro ⟨ha, hv⟩
    cases hfind : c.docs.find? fun b => f b = v with
    | none =>
        have := List.find?_eq_none.1 hfind a ha
        simp [hv] at this
    | some b =>
        have hb : f b = v := by simpa using List.find?_some hfind
        rw [h.eq (List.mem_of_find?_eq_some hfind) ha (hb.trans hv.symm)]

end InventoryHero.Storage.Collection
