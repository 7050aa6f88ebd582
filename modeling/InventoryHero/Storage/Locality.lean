import InventoryHero.Storage.Collection

/-!
# Writes that do not meet

When do two lists of writes to a collection commute? Writes to different keys do, unless both insert
a document: insertions show in the storage order. So the order is lost only between new documents,
and a part of the collection to which at most one of the lists adds documents comes out the same.

The parts of interest are given by an owner of each document. Writes that are confined to one owner
(`Confined`) leave the documents of every other owner as they are (`Confined.frame`) and commute
with the writes confined to another (`Confined.comm`). The proofs go over keys, which no write
changes: to look at a part of the collection is to apply the writes about its keys (`restrict`).
-/

set_option autoImplicit false

namespace InventoryHero.Storage

open Keyed (key)

variable {α κ : Type} [Keyed α κ]

namespace DocWrite

/-- The write adds a document. -/
def Inserts : DocWrite α → Prop
  | insert _ => True
  | modify _ _ => False
  | delete _ => False

/-- The write leaves `Q` true of every document. -/
def Keeps (Q : α → Prop) : DocWrite α → Prop
  | insert a => Q a
  | modify k p => ∀ a, Keyed.key a = k → Q a → Q (p.apply a)
  | delete _ => True

end DocWrite

namespace Collection

/-- The documents whose keys are in `K`. -/
def restrict (c : Collection α) (K : κ → Bool) : Collection α := c.filter fun a => K (key a)

@[simp] theorem docs_restrict (c : Collection α) (K : κ → Bool) :
    (c.restrict K).docs = c.docs.filter fun a => K (key a) := rfl

/-- The documents of one owner. -/
def ownedBy {ω : Type} [DecidableEq ω] (c : Collection α) (owner : α → ω) (r : ω) : List α :=
  c.docs.filter fun a => owner a = r

theorem ownedBy_eq_restrict {ω : Type} [DecidableEq ω] {c : Collection α} {owner : α → ω}
    {τ : κ → ω} (h : ∀ a ∈ c.docs, owner a = τ (key a)) (r : ω) :
    c.ownedBy owner r = (c.restrict fun k => τ k = r).docs := by
  apply List.filter_congr
  intro a ha
  rw [h a ha]

variable [DecidableEq κ] {c : Collection α} {ws ws' : List (DocWrite α)}

theorem forall_write {w : DocWrite α} {Q : α → Prop} (h : ∀ a ∈ c.docs, Q a) (hw : w.Keeps Q) :
    ∀ a ∈ (c.write w).docs, Q a := by
  intro a ha
  cases w with
  | insert d =>
      rcases mem_of_mem_insert ha with ha | rfl
      · exact h a ha
      · exact hw
  | modify k p =>
      obtain ⟨b, hb, rfl⟩ := mem_modify.1 ha
      by_cases hk : key b = k
      · rw [if_pos hk]
        exact hw b hk (h b hb)
      · rw [if_neg hk]
        exact h b hb
  | delete k => exact h a (mem_delete.1 ha).1

/-- What is true of all documents and kept by each write is true of all documents in the end. -/
theorem forall_writeAll {Q : α → Prop} (h : ∀ a ∈ c.docs, Q a) (hws : ∀ w ∈ ws, w.Keeps Q) :
    ∀ a ∈ (c.writeAll ws).docs, Q a := by
  induction ws generalizing c with
  | nil => exact h
  | cons w ws ih =>
      refine ih (forall_write h (hws w List.mem_cons_self)) fun w' hw' => ?_
      exact hws w' (List.mem_cons_of_mem w hw')

/-! ## Parts of a collection -/

theorem insert_of_mem {a : α} (h : key a ∈ c.docs.map key) : c.insert a = c := dif_pos h

theorem docs_insert_of_not_mem {a : α} (h : key a ∉ c.docs.map key) :
    (c.insert a).docs = c.docs ++ [a] := by
  simp [insert, h]

theorem restrict_insert (c : Collection α) (a : α) (K : κ → Bool) :
    (c.insert a).restrict K = if K (key a) then (c.restrict K).insert a else c.restrict K := by
  have hmem : K (key a) = true →
      (key a ∈ (c.restrict K).docs.map key ↔ key a ∈ c.docs.map key) := by
    intro hK
    simp only [docs_restrict, List.mem_map, List.mem_filter]
    constructor
    · rintro ⟨b, ⟨hb, -⟩, hba⟩
      exact ⟨b, hb, hba⟩
    · rintro ⟨b, hb, hba⟩
      exact ⟨b, ⟨hb, hba ▸ hK⟩, hba⟩
  apply ext
  by_cases hin : key a ∈ c.docs.map key
  · rw [insert_of_mem hin]
    by_cases hK : K (key a) = true
    · rw [if_pos hK, insert_of_mem ((hmem hK).2 hin)]
    · rw [if_neg hK]
  · rw [docs_restrict, docs_insert_of_not_mem hin, List.filter_append]
    by_cases hK : K (key a) = true
    · have hnin : key a ∉ (c.restrict K).docs.map key := fun h => hin ((hmem hK).1 h)
      rw [if_pos hK, docs_insert_of_not_mem hnin, docs_restrict]
      simp [hK]
    · simp [hK]

theorem restrict_modify (c : Collection α) (k : κ) (p : Patch α) (K : κ → Bool) :
    (c.modify k p).restrict K = if K k then (c.restrict K).modify k p else c.restrict K := by
  have hkey : ∀ a : α, key (if key a = k then p.apply a else a) = key a := by
    intro a
    by_cases ha : key a = k <;> simp [ha, p.key_apply]
  apply ext
  rw [docs_restrict, docs_modify, List.filter_map]
  have hfilter : c.docs.filter ((fun a => K (key a)) ∘ fun a => if key a = k then p.apply a else a)
      = c.docs.filter fun a => K (key a) := by
    apply List.filter_congr
    intro a _
    simp [hkey]
  rw [hfilter]
  by_cases hK : K k = true
  · rw [if_pos hK, docs_modify, docs_restrict]
  · rw [if_neg hK, docs_restrict]
    conv_rhs => rw [← List.map_id (c.docs.filter fun a => K (key a))]
    apply List.map_congr_left
    intro a ha
    have hne : key a ≠ k := by
      rintro rfl
      exact hK (List.mem_filter.1 ha).2
    simp [hne]

theorem restrict_delete (c : Collection α) (k : κ) (K : κ → Bool) :
    (c.delete k).restrict K = if K k then (c.restrict K).delete k else c.restrict K := by
  apply ext
  by_cases hK : K k = true
  · rw [if_pos hK, docs_restrict, docs_delete, docs_delete, docs_restrict, List.filter_comm]
  · rw [if_neg hK, docs_restrict, docs_delete, List.filter_filter, docs_restrict]
    apply List.filter_congr
    intro a _
    by_cases ha : key a = k
    · simp [ha, hK]
    · simp [ha]

theorem restrict_write (c : Collection α) (w : DocWrite α) (K : κ → Bool) :
    (c.write w).restrict K = if K w.key then (c.restrict K).write w else c.restrict K := by
  cases w with
  | insert a => exact c.restrict_insert a K
  | modify k p => exact c.restrict_modify k p K
  | delete k => exact c.restrict_delete k K

/-- A part of the collection sees the writes about its keys, and no others. -/
theorem restrict_writeAll (c : Collection α) (ws : List (DocWrite α)) (K : κ → Bool) :
    (c.writeAll ws).restrict K = (c.restrict K).writeAll (ws.filter fun w => K w.key) := by
  induction ws generalizing c with
  | nil => rfl
  | cons w ws ih =>
      rw [writeAll_cons, ih, restrict_write]
      by_cases hK : K w.key = true <;> simp [hK]

/-! ## Writes to different keys -/

theorem keys_modify (c : Collection α) (k : κ) (p : Patch α) :
    (c.modify k p).docs.map key = c.docs.map key := by
  rw [docs_modify, List.map_map]
  apply List.map_congr_left
  intro a _
  by_cases ha : key a = k <;> simp [ha, p.key_apply]

theorem modify_insert_comm {a : α} {k : κ} {p : Patch α} (h : key a ≠ k) :
    (c.modify k p).insert a = (c.insert a).modify k p := by
  apply ext
  by_cases hin : key a ∈ c.docs.map key
  · have hin' : key a ∈ (c.modify k p).docs.map key := by rwa [keys_modify]
    rw [insert_of_mem hin, insert_of_mem hin']
  · have hin' : key a ∉ (c.modify k p).docs.map key := by rwa [keys_modify]
    rw [docs_insert_of_not_mem hin', docs_modify, docs_modify, docs_insert_of_not_mem hin]
    simp [h]

theorem modify_modify_comm {k k' : κ} {p p' : Patch α} (h : k ≠ k') :
    (c.modify k p).modify k' p' = (c.modify k' p').modify k p := by
  apply ext
  simp only [docs_modify, List.map_map]
  apply List.map_congr_left
  intro a _
  by_cases ha : key a = k
  · have hk' : key a ≠ k' := fun h' => h (ha.symm.trans h')
    simp [ha, h, p.key_apply]
  · by_cases ha' : key a = k'
    · simp [ha', Ne.symm h, p'.key_apply]
    · simp [ha, ha']

theorem modify_delete_comm (c : Collection α) (k k' : κ) (p : Patch α) :
    (c.modify k p).delete k' = (c.delete k').modify k p := by
  apply ext
  rw [docs_delete, docs_modify, docs_modify, docs_delete, List.filter_map]
  congr 1
  apply List.filter_congr
  intro a _
  by_cases ha : key a = k <;> simp [ha, p.key_apply]

theorem delete_insert_comm {a : α} {k : κ} (h : key a ≠ k) :
    (c.delete k).insert a = (c.insert a).delete k := by
  have hmem : key a ∈ (c.delete k).docs.map key ↔ key a ∈ c.docs.map key := by
    simp only [docs_delete, List.mem_map, List.mem_filter]
    constructor
    · rintro ⟨b, ⟨hb, -⟩, hba⟩
      exact ⟨b, hb, hba⟩
    · rintro ⟨b, hb, hba⟩
      exact ⟨b, ⟨hb, by simpa [hba] using h⟩, hba⟩
  apply ext
  by_cases hin : key a ∈ c.docs.map key
  · rw [insert_of_mem hin, insert_of_mem (hmem.2 hin)]
  · have hin' : key a ∉ (c.delete k).docs.map key := fun h' => hin (hmem.1 h')
    rw [docs_insert_of_not_mem hin', docs_delete, docs_delete, docs_insert_of_not_mem hin]
    simp [h]

theorem delete_delete_comm (c : Collection α) (k k' : κ) :
    (c.delete k).delete k' = (c.delete k').delete k := by
  apply ext
  simp only [docs_delete]
  exact List.filter_comm _ _ _

/-- A write that adds nothing commutes with every write to another key. -/
theorem write_comm {w w' : DocWrite α} (hk : w.key ≠ w'.key) (hw : ¬w.Inserts) :
    (c.write w).write w' = (c.write w').write w := by
  cases w with
  | insert a => exact absurd trivial hw
  | modify k p =>
      cases w' with
      | insert a => exact modify_insert_comm (Ne.symm hk)
      | modify k' p' => exact modify_modify_comm hk
      | delete k' => exact c.modify_delete_comm k k' p
  | delete k =>
      cases w' with
      | insert a => exact delete_insert_comm (Ne.symm hk)
      | modify k' p' => exact (c.modify_delete_comm k' k p').symm
      | delete k' => exact c.delete_delete_comm k k'

theorem write_writeAll_comm {w : DocWrite α} (hk : ∀ w' ∈ ws, w.key ≠ w'.key)
    (hi : ¬w.Inserts ∨ ∀ w' ∈ ws, ¬w'.Inserts) :
    (c.write w).writeAll ws = (c.writeAll ws).write w := by
  induction ws generalizing c with
  | nil => rfl
  | cons w' ws ih =>
      have hswap : (c.write w).write w' = (c.write w').write w := by
        rcases hi with hw | hws
        · exact write_comm (hk w' List.mem_cons_self) hw
        · exact (write_comm (Ne.symm (hk w' List.mem_cons_self)) (hws w' List.mem_cons_self)).symm
      rw [writeAll_cons, writeAll_cons, hswap]
      exact ih (fun v hv => hk v (List.mem_cons_of_mem w' hv))
        (hi.imp id fun hws v hv => hws v (List.mem_cons_of_mem w' hv))

/-- Lists of writes to different keys commute if one of them adds nothing. -/
theorem writeAll_comm (hk : ∀ w ∈ ws, ∀ w' ∈ ws', w.key ≠ w'.key)
    (hi : (∀ w ∈ ws, ¬w.Inserts) ∨ ∀ w' ∈ ws', ¬w'.Inserts) :
    (c.writeAll ws).writeAll ws' = (c.writeAll ws').writeAll ws := by
  induction ws generalizing c with
  | nil => rfl
  | cons w ws ih =>
      have hw : (c.write w).writeAll ws' = (c.writeAll ws').write w :=
        write_writeAll_comm (hk w List.mem_cons_self) (hi.imp (· w List.mem_cons_self) id)
      rw [writeAll_cons, writeAll_cons, ← hw]
      exact ih (fun v hv => hk v (List.mem_cons_of_mem w hv))
        (hi.imp (fun hws v hv => hws v (List.mem_cons_of_mem w hv)) id)

/-! ## Owners -/

variable {ω : Type} [DecidableEq ω] {owner : α → ω} {τ : κ → ω}

/-- Two lists of writes, of which at most one adds documents of the owner `r`. -/
theorem ownedBy_comm (hc : ∀ a ∈ c.docs, owner a = τ (key a))
    (hws : ∀ w ∈ ws, w.Keeps fun a => owner a = τ (key a))
    (hws' : ∀ w ∈ ws', w.Keeps fun a => owner a = τ (key a))
    (hk : ∀ w ∈ ws, ∀ w' ∈ ws', w.key ≠ w'.key) {r : ω}
    (hr : (∀ w ∈ ws, w.Inserts → τ w.key ≠ r) ∨ ∀ w' ∈ ws', w'.Inserts → τ w'.key ≠ r) :
    ((c.writeAll ws).writeAll ws').ownedBy owner r =
      ((c.writeAll ws').writeAll ws).ownedBy owner r := by
  rw [ownedBy_eq_restrict (forall_writeAll (forall_writeAll hc hws) hws'),
    ownedBy_eq_restrict (forall_writeAll (forall_writeAll hc hws') hws)]
  simp only [restrict_writeAll]
  rw [writeAll_comm]
  · intro w hw w' hw'
    exact hk w (List.mem_of_mem_filter hw) w' (List.mem_of_mem_filter hw')
  · refine hr.imp (fun h w hw hin => ?_) fun h w hw hin => ?_ <;>
    · obtain ⟨hw, hτ⟩ := List.mem_filter.1 hw
      exact h w hw hin (by simpa using hτ)

/-- Writes about other owners' keys. -/
theorem ownedBy_frame (hc : ∀ a ∈ c.docs, owner a = τ (key a))
    (hws : ∀ w ∈ ws, w.Keeps fun a => owner a = τ (key a)) {r : ω}
    (hr : ∀ w ∈ ws, τ w.key ≠ r) :
    (c.writeAll ws).ownedBy owner r = c.ownedBy owner r := by
  have hnone : ws.filter (fun w => τ w.key = r) = [] := by
    rw [List.filter_eq_nil_iff]
    intro w hw
    simpa using hr w hw
  rw [ownedBy_eq_restrict (forall_writeAll hc hws), ownedBy_eq_restrict hc, restrict_writeAll,
    hnone, writeAll_nil]

end Collection

/-! ## Writes confined to one owner -/

/-- A write about a document of `p` that leaves it with `p`, or a new document for `p`. -/
inductive Confined {ω : Type} (owner : α → ω) (c : Collection α) (p : ω) (new : κ → Prop) :
    DocWrite α → Prop
  | insert {a : α} (owned : owner a = p) (isNew : new (key a)) : Confined owner c p new (.insert a)
  | modify {a : α} {patch : Patch α} (mem : a ∈ c.docs) (owned : owner a = p)
      (keeps : ∀ b, owner b = p → owner (patch.apply b) = p) :
      Confined owner c p new (.modify (key a) patch)
  | delete {a : α} (mem : a ∈ c.docs) (owned : owner a = p) :
      Confined owner c p new (.delete (key a))

namespace Confined

variable {ω : Type} {owner : α → ω} {c : Collection α} {p q : ω} {new new' : κ → Prop}
  {w w' : DocWrite α} {ws ws' : List (DocWrite α)} {τ : κ → ω}

theorem owner_key (h : Confined owner c p new w) (hc : ∀ a ∈ c.docs, owner a = τ (key a))
    (hnew : ∀ k, new k → τ k = p) : τ w.key = p := by
  cases h with
  | insert owned isNew => exact hnew _ isNew
  | modify mem owned keeps => exact (hc _ mem).symm.trans owned
  | delete mem owned => exact (hc _ mem).symm.trans owned

theorem keeps (h : Confined owner c p new w) (hc : ∀ a ∈ c.docs, owner a = τ (key a))
    (hnew : ∀ k, new k → τ k = p) : w.Keeps fun a => owner a = τ (key a) := by
  have hkey := h.owner_key hc hnew
  cases h with
  | insert owned isNew => exact owned.trans hkey.symm
  | modify mem owned keeps =>
      intro b hb hown
      have hτ : τ (key b) = p := hb ▸ hkey
      show owner _ = τ (key _)
      rw [Patch.key_apply, hτ]
      exact keeps b (hown.trans hτ)
  | delete mem owned => trivial

variable [DecidableEq κ]

theorem modify_get {k : κ} {a : α} {patch : Patch α} (h : c.get? k = some a) (owned : owner a = p)
    (keeps : ∀ b, owner b = p → owner (patch.apply b) = p) :
    Confined owner c p new (.modify k patch) := by
  obtain ⟨mem, rfl⟩ := Collection.get?_eq_some_iff.1 h
  exact .modify mem owned keeps

/-- The owner of each key: of new keys `p`, and `q` for those that neither list uses. -/
def ownerOf (owner : α → ω) (c : Collection α) (p q : ω) (new : κ → Prop) [DecidablePred new]
    (k : κ) : ω := (c.get? k).elim (if new k then p else q) owner

section

variable [DecidablePred new]

theorem ownerOf_key : ∀ a ∈ c.docs, owner a = ownerOf owner c p q new (key a) := by
  intro a ha
  simp [ownerOf, Collection.get?_of_mem ha]

theorem ownerOf_new (hnew : ∀ a ∈ c.docs, ¬new (key a)) {k : κ} (hk : new k) :
    ownerOf owner c p q new k = p := by
  have hnone : c.get? k = none := by
    rw [Collection.get?_eq_none_iff]
    rintro a ha rfl
    exact hnew a ha hk
  simp [ownerOf, hnone, hk]

theorem ownerOf_not_new (hnew : ∀ a ∈ c.docs, ¬new' (key a)) {k : κ} (hk : new' k)
    (hnk : ¬new k) : ownerOf owner c p q new k = q := by
  have hnone : c.get? k = none := by
    rw [Collection.get?_eq_none_iff]
    rintro a ha rfl
    exact hnew a ha hk
  simp [ownerOf, hnone, hnk]

variable (hnew : ∀ a ∈ c.docs, ¬new (key a)) (hnew' : ∀ a ∈ c.docs, ¬new' (key a))
  (hdisj : ∀ k, new' k → ¬new k) (hpq : p ≠ q)

include hnew hnew' hdisj hpq

theorem key_ne (h : Confined owner c p new w) (h' : Confined owner c q new' w') :
    w.key ≠ w'.key := by
  intro hk
  have hp : ownerOf owner c p q new w.key = p :=
    h.owner_key ownerOf_key fun _ => ownerOf_new hnew
  have hq : ownerOf owner c p q new w'.key = q :=
    h'.owner_key ownerOf_key fun k hk' => ownerOf_not_new hnew' hk' (hdisj k hk')
  exact hpq (hp.symm.trans (hk ▸ hq))

/-- Writes confined to different owners commute on the documents of each owner. -/
theorem comm [DecidableEq ω] (h : ∀ w ∈ ws, Confined owner c p new w)
    (h' : ∀ w ∈ ws', Confined owner c q new' w) (r : ω) :
    ((c.writeAll ws).writeAll ws').ownedBy owner r =
      ((c.writeAll ws').writeAll ws).ownedBy owner r := by
  have hτ k : new k → ownerOf owner c p q new k = p := ownerOf_new hnew
  have hτ' k (hk : new' k) : ownerOf owner c p q new k = q :=
    ownerOf_not_new hnew' hk (hdisj k hk)
  refine Collection.ownedBy_comm ownerOf_key (fun w hw => (h w hw).keeps ownerOf_key hτ)
    (fun w hw => (h' w hw).keeps ownerOf_key hτ')
    (fun w hw w' hw' => (h w hw).key_ne hnew hnew' hdisj hpq (h' w' hw')) ?_
  by_cases hr : p = r
  · right
    intro w hw _
    rw [(h' w hw).owner_key ownerOf_key hτ', ← hr]
    exact Ne.symm hpq
  · left
    intro w hw _
    rw [(h w hw).owner_key ownerOf_key hτ]
    exact hr

end

/-- Writes confined to one owner leave the documents of the others as they are. -/
theorem frame [DecidableEq ω] [DecidablePred new] (hnew : ∀ a ∈ c.docs, ¬new (key a))
    (h : ∀ w ∈ ws, Confined owner c p new w) {r : ω} (hr : p ≠ r) :
    (c.writeAll ws).ownedBy owner r = c.ownedBy owner r := by
  have hτ k : new k → ownerOf owner c p p new k = p := ownerOf_new hnew
  refine Collection.ownedBy_frame ownerOf_key (fun w hw => (h w hw).keeps ownerOf_key hτ) ?_
  intro w hw
  rw [(h w hw).owner_key ownerOf_key hτ]
  exact hr

end Confined

end InventoryHero.Storage
