import Mathlib.Algebra.BigOperators.Group.List.Basic
import Mathlib.Data.List.Nodup
import Mathlib.Tactic.Abel

/-!
# Collections of documents with unique keys

A `Collection` is a list of documents, in storage order, whose keys are distinct; the invariant is
a field, so a collection with two documents of one key cannot be built. Single-document writes
(`DocWrite`) insert at the end, change a document in place or delete it, and a list of them is
applied in order. A write never moves another document.

`total f` adds `f` over the documents. One lemma per write says how the total changes; together
with the membership lemmas they are the interface the rest of the development uses.
-/

set_option autoImplicit false

namespace InventoryHero.Storage

/-- Documents of type `α` are identified by keys of type `κ`. -/
class Keyed (α : Type) (κ : outParam Type) where
  key : α → κ

open Keyed (key)

/-- Documents in storage order, with distinct keys. -/
structure Collection (α : Type) {κ : Type} [Keyed α κ] where
  docs : List α
  nodup : (docs.map key).Nodup

/-- A change of a document that keeps its key. -/
structure Patch (α : Type) {κ : Type} [Keyed α κ] where
  apply : α → α
  key_apply : ∀ a, key (apply a) = key a

/-- A write of one document. -/
inductive DocWrite (α : Type) {κ : Type} [Keyed α κ]
  | insert (a : α)
  | modify (k : κ) (p : Patch α)
  | delete (k : κ)

variable {α κ : Type} [Keyed α κ]

/-- The key of the document a write is about. -/
def DocWrite.key : DocWrite α → κ
  | .insert a => Keyed.key a
  | .modify k _ => k
  | .delete k => k

/-- The key of the document that a write changes or deletes. -/
def DocWrite.overwritten? : DocWrite α → Option κ
  | insert _ => none
  | modify k _ => some k
  | delete k => some k

namespace Collection

@[ext] theorem ext {c d : Collection α} (h : c.docs = d.docs) : c = d := by
  cases c
  cases d
  simpa using h

/-- The collection with no document. -/
def empty : Collection α := ⟨[], List.nodup_nil⟩

/-- Two documents of one key are one document. -/
theorem eq_of_key_eq {c : Collection α} {a b : α} (ha : a ∈ c.docs) (hb : b ∈ c.docs)
    (h : key a = key b) : a = b :=
  List.inj_on_of_nodup_map c.nodup ha hb h

theorem nodup_docs (c : Collection α) : c.docs.Nodup := c.nodup.of_map _

/-- The sum of `f` over the documents. -/
def total {M : Type} [AddCommGroup M] (f : α → M) (c : Collection α) : M := (c.docs.map f).sum

/-- The documents that satisfy `P`. -/
def filter (c : Collection α) (P : α → Bool) : Collection α :=
  ⟨c.docs.filter P, c.nodup.sublist (List.filter_sublist.map _)⟩

@[simp] theorem docs_filter (c : Collection α) (P : α → Bool) :
    (c.filter P).docs = c.docs.filter P := rfl

/-- A sum over the documents that satisfy `P`. -/
theorem sum_filter_eq_total {M : Type} [AddCommGroup M] (c : Collection α) (P : α → Prop)
    [DecidablePred P] (f : α → M) :
    ((c.docs.filter fun a => P a).map f).sum = c.total fun a => if P a then f a else 0 := by
  unfold total
  induction c.docs with
  | nil => rfl
  | cons a rest ih => by_cases ha : P a <;> simp [ha, ih]

variable [DecidableEq κ]

/-- The document with key `k`. -/
def get? (c : Collection α) (k : κ) : Option α := c.docs.find? fun a => key a = k

/-- Deletes the document with key `k`, if there is one. -/
def delete (c : Collection α) (k : κ) : Collection α := c.filter fun a => key a ≠ k

/-- Changes the document with key `k`, if there is one. -/
def modify (c : Collection α) (k : κ) (p : Patch α) : Collection α :=
  ⟨c.docs.map fun a => if key a = k then p.apply a else a, by
    have hkeys : key ∘ (fun a => if key a = k then p.apply a else a) = (key : α → κ) := by
      funext a
      by_cases ha : key a = k <;> simp [ha, p.key_apply]
    rw [List.map_map, hkeys]
    exact c.nodup⟩

/-- Inserts a document at the end; a taken key leaves the collection as it is. -/
def insert (c : Collection α) (a : α) : Collection α :=
  if h : key a ∈ c.docs.map key then c
  else ⟨c.docs ++ [a], by
    rw [List.map_append, List.nodup_append]
    refine ⟨c.nodup, by simp, ?_⟩
    intro x hx y hy hxy
    simp only [List.map_cons, List.map_nil, List.mem_singleton] at hy
    exact h (hy ▸ hxy ▸ hx)⟩

/-- One write. -/
def write (c : Collection α) : DocWrite α → Collection α
  | .insert a => c.insert a
  | .modify k p => c.modify k p
  | .delete k => c.delete k

/-- A list of writes, applied in order. -/
def writeAll (c : Collection α) (ws : List (DocWrite α)) : Collection α := ws.foldl write c

/-- The storage takes a write unless it inserts a document whose key is in use. -/
def accepts (c : Collection α) : DocWrite α → Bool
  | .insert a => c.docs.all fun b => key b ≠ key a
  | _ => true

/-- Every write of the list is taken when its turn comes. -/
def acceptsAll : Collection α → List (DocWrite α) → Bool
  | _, [] => true
  | c, w :: ws => c.accepts w && (c.write w).acceptsAll ws

@[simp] theorem writeAll_nil (c : Collection α) : c.writeAll [] = c := rfl

@[simp] theorem writeAll_cons (c : Collection α) (w : DocWrite α) (ws : List (DocWrite α)) :
    c.writeAll (w :: ws) = (c.write w).writeAll ws := rfl

theorem writeAll_append (c : Collection α) (ws ws' : List (DocWrite α)) :
    c.writeAll (ws ++ ws') = (c.writeAll ws).writeAll ws' :=
  List.foldl_append

@[simp] theorem write_insert (c : Collection α) (a : α) : c.write (.insert a) = c.insert a := rfl

@[simp] theorem write_modify (c : Collection α) (k : κ) (p : Patch α) :
    c.write (.modify k p) = c.modify k p := rfl

@[simp] theorem write_delete (c : Collection α) (k : κ) : c.write (.delete k) = c.delete k := rfl

@[simp] theorem acceptsAll_nil (c : Collection α) : c.acceptsAll [] = true := rfl

@[simp] theorem acceptsAll_cons (c : Collection α) (w : DocWrite α) (ws : List (DocWrite α)) :
    c.acceptsAll (w :: ws) = (c.accepts w && (c.write w).acceptsAll ws) := rfl

theorem acceptsAll_singleton (c : Collection α) (w : DocWrite α) :
    c.acceptsAll [w] = c.accepts w := Bool.and_true _

theorem acceptsAll_append (c : Collection α) (ws ws' : List (DocWrite α)) :
    c.acceptsAll (ws ++ ws') = (c.acceptsAll ws && (c.writeAll ws).acceptsAll ws') := by
  induction ws generalizing c with
  | nil => simp
  | cons w ws ih => simp [ih, Bool.and_assoc]

theorem accepts_insert_iff (c : Collection α) (a : α) :
    c.accepts (.insert a) = true ↔ ∀ b ∈ c.docs, key b ≠ key a := by
  simp [accepts]

@[simp] theorem accepts_modify (c : Collection α) (k : κ) (p : Patch α) :
    c.accepts (.modify k p) = true := rfl

@[simp] theorem accepts_delete (c : Collection α) (k : κ) : c.accepts (.delete k) = true := rfl

/-- Deletions are never refused. -/
@[simp] theorem acceptsAll_delete {ι : Type*} (c : Collection α) (f : ι → κ) (l : List ι) :
    c.acceptsAll (l.map fun i => .delete (f i)) = true := by
  induction l generalizing c with
  | nil => rfl
  | cons i rest ih => exact ih (c.delete (f i))

/-! ## Documents after a write -/

theorem docs_insert {c : Collection α} {a : α} (h : c.accepts (.insert a) = true) :
    (c.insert a).docs = c.docs ++ [a] := by
  rw [accepts_insert_iff] at h
  have hmem : key a ∉ c.docs.map key := by
    intro hin
    obtain ⟨b, hb, hba⟩ := List.mem_map.1 hin
    exact h b hb hba
  simp [insert, hmem]

/-- Insertions leave the documents before them as they are. -/
theorem prefix_insert (c : Collection α) (a : α) : c.docs <+: (c.insert a).docs := by
  unfold insert
  split
  · exact List.prefix_rfl
  · exact List.prefix_append _ _

theorem prefix_writeAll_insert {ι : Type} (c : Collection α) (f : ι → α) (l : List ι) :
    c.docs <+: (c.writeAll (l.map fun i => .insert (f i))).docs := by
  induction l generalizing c with
  | nil => exact List.prefix_rfl
  | cons i rest ih => exact (c.prefix_insert (f i)).trans (ih _)

theorem mem_of_mem_insert {c : Collection α} {a b : α} (h : b ∈ (c.insert a).docs) :
    b ∈ c.docs ∨ b = a := by
  unfold insert at h
  split at h
  · exact .inl h
  · simpa using h

theorem mem_insert_of_mem {c : Collection α} {a b : α} (h : b ∈ c.docs) :
    b ∈ (c.insert a).docs := by
  unfold insert
  split
  · exact h
  · exact List.mem_append_left _ h

@[simp] theorem docs_delete (c : Collection α) (k : κ) :
    (c.delete k).docs = c.docs.filter fun a => key a ≠ k := rfl

theorem mem_delete {c : Collection α} {k : κ} {a : α} :
    a ∈ (c.delete k).docs ↔ a ∈ c.docs ∧ key a ≠ k := by
  simp

@[simp] theorem docs_modify (c : Collection α) (k : κ) (p : Patch α) :
    (c.modify k p).docs = c.docs.map fun a => if key a = k then p.apply a else a := rfl

theorem mem_modify {c : Collection α} {k : κ} {p : Patch α} {b : α} :
    b ∈ (c.modify k p).docs ↔ ∃ a ∈ c.docs, (if key a = k then p.apply a else a) = b := by
  simp

theorem get?_eq_some_iff {c : Collection α} {k : κ} {a : α} :
    c.get? k = some a ↔ a ∈ c.docs ∧ key a = k := by
  constructor
  · intro h
    exact ⟨List.mem_of_find?_eq_some h, by simpa using List.find?_some h⟩
  · rintro ⟨ha, hk⟩
    cases hf : c.get? k with
    | none =>
        have := List.find?_eq_none.1 hf a ha
        simp [hk] at this
    | some b =>
        have hb : b ∈ c.docs := List.mem_of_find?_eq_some hf
        have hbk : key b = k := by simpa using List.find?_some hf
        rw [eq_of_key_eq hb ha (hbk.trans hk.symm)]

theorem get?_of_mem {c : Collection α} {a : α} (h : a ∈ c.docs) : c.get? (key a) = some a :=
  get?_eq_some_iff.2 ⟨h, rfl⟩

theorem get?_eq_none_iff {c : Collection α} {k : κ} :
    c.get? k = none ↔ ∀ a ∈ c.docs, key a ≠ k := by
  simp [get?, List.find?_eq_none]

theorem delete_eq_self {c : Collection α} {k : κ} (h : c.get? k = none) : c.delete k = c := by
  apply ext
  rw [docs_delete, List.filter_eq_self]
  intro a ha
  simpa using get?_eq_none_iff.1 h a ha

theorem get?_delete (c : Collection α) (k k' : κ) :
    (c.delete k).get? k' = if k' = k then none else c.get? k' := by
  by_cases hk : k' = k
  · simp only [hk, if_true, get?_eq_none_iff, mem_delete]
    exact fun a ha => ha.2
  · rw [if_neg hk]
    cases h : c.get? k' with
    | none =>
        rw [get?_eq_none_iff] at h ⊢
        exact fun a ha => h a (mem_delete.1 ha).1
    | some a =>
        rw [get?_eq_some_iff] at h ⊢
        exact ⟨mem_delete.2 ⟨h.1, h.2 ▸ hk⟩, h.2⟩

theorem get?_modify (c : Collection α) (k k' : κ) (p : Patch α) :
    (c.modify k p).get? k' = if k' = k then (c.get? k').map p.apply else c.get? k' := by
  cases h : c.get? k' with
  | none =>
      -- a patch keeps the key, so no document gets the key `k'`
      have hnone : (c.modify k p).get? k' = none := by
        rw [get?_eq_none_iff] at h ⊢
        intro b hb
        obtain ⟨a, ha, rfl⟩ := mem_modify.1 hb
        by_cases hak : key a = k
        · rw [if_pos hak, p.key_apply]
          exact h a ha
        · rw [if_neg hak]
          exact h a ha
      simp [hnone]
  | some a =>
      obtain ⟨ha, hak⟩ := get?_eq_some_iff.1 h
      subst hak
      by_cases hk : key a = k
      · rw [if_pos hk, Option.map_some, get?_eq_some_iff]
        exact ⟨mem_modify.2 ⟨a, ha, by simp [hk]⟩, p.key_apply a⟩
      · rw [if_neg hk, get?_eq_some_iff]
        exact ⟨mem_modify.2 ⟨a, ha, by simp [hk]⟩, rfl⟩

/-- A change is none if the document stays as it is. -/
theorem modify_eq_self_iff {c : Collection α} {k : κ} {a : α} (h : c.get? k = some a)
    (p : Patch α) : c.modify k p = c ↔ p.apply a = a := by
  constructor
  · intro hsame
    have hget : (c.modify k p).get? k = some (p.apply a) := by
      rw [get?_modify, if_pos rfl, h, Option.map_some]
    rw [hsame, h, Option.some.injEq] at hget
    exact hget.symm
  · intro hkeep
    obtain ⟨hmem, rfl⟩ := get?_eq_some_iff.1 h
    apply Collection.ext
    rw [docs_modify]
    conv_rhs => rw [← List.map_id c.docs]
    apply List.map_congr_left
    intro b hb
    by_cases hk : key b = key a
    · obtain rfl := eq_of_key_eq hb hmem hk
      simp [hkeep]
    · simp [hk]

/-- A write about another key leaves the document of key `k` alone. -/
theorem get?_write_of_ne {c : Collection α} {w : DocWrite α} {k : κ} (h : w.key ≠ k) :
    (c.write w).get? k = c.get? k := by
  cases w with
  | insert a =>
      have ha : key a ≠ k := h
      cases hg : c.get? k with
      | none =>
          rw [get?_eq_none_iff] at hg ⊢
          intro b hb
          rcases mem_of_mem_insert hb with hb | rfl
          · exact hg b hb
          · exact ha
      | some b =>
          obtain ⟨hb, rfl⟩ := get?_eq_some_iff.1 hg
          apply get?_of_mem
          by_cases hin : key a ∈ c.docs.map key <;> simp [insert, hin, hb]
  | modify k' p =>
      have hk : k ≠ k' := fun e => h e.symm
      simp [get?_modify, hk]
  | delete k' =>
      have hk : k ≠ k' := fun e => h e.symm
      simp [get?_delete, hk]

/-- Deleting documents one by one leaves those with other keys. -/
theorem docs_writeAll_delete (c : Collection α) (l : List α) :
    (c.writeAll (l.map fun a => .delete (key a))).docs =
      c.docs.filter fun a => key a ∉ l.map key := by
  induction l generalizing c with
  | nil => simp
  | cons x l ih =>
      rw [List.map_cons, writeAll_cons, ih, write_delete, docs_delete, List.filter_filter]
      apply List.filter_congr
      intro a _
      simp only [List.map_cons, List.mem_cons, not_or, Bool.decide_and]
      exact Bool.and_comm _ _

/-- Deleting the documents that satisfy `P` one by one leaves the others. -/
theorem writeAll_delete_filter (c : Collection α) (P : α → Bool) :
    c.writeAll ((c.docs.filter P).map fun a => .delete (key a)) = c.filter fun a => !P a := by
  apply ext
  rw [docs_writeAll_delete, docs_filter]
  apply List.filter_congr
  intro a ha
  -- keys are unique, so only the documents of the filter go
  have hiff : key a ∈ (c.docs.filter P).map key ↔ P a = true := by
    constructor
    · intro h
      obtain ⟨b, hb, hba⟩ := List.mem_map.1 h
      obtain ⟨hb, hPb⟩ := List.mem_filter.1 hb
      rwa [← eq_of_key_eq hb ha hba]
    · intro h
      exact List.mem_map.2 ⟨a, List.mem_filter.2 ⟨ha, h⟩, rfl⟩
  by_cases hP : P a = true <;> simp [hiff, hP]

/-! ## Totals -/

section Total

variable {M : Type} [AddCommGroup M] (f : α → M)

theorem total_insert {c : Collection α} {a : α} (h : c.accepts (.insert a) = true) :
    (c.insert a).total f = c.total f + f a := by
  simp [total, docs_insert h]

theorem total_writeAll_insert {c : Collection α} {a : α} (h : c.acceptsAll [.insert a] = true) :
    (c.writeAll [.insert a]).total f = c.total f + f a :=
  total_insert f (c.acceptsAll_singleton (.insert a) ▸ h)

/-- Removing the one element with a given image under an injective key. -/
private theorem sum_filter_key {l : List α} (hl : (l.map key).Nodup) {a : α} (ha : a ∈ l) :
    ((l.filter fun b => key b ≠ key a).map f).sum = (l.map f).sum - f a := by
  induction l with
  | nil => simp at ha
  | cons x l ih =>
      rw [List.map_cons, List.nodup_cons] at hl
      rcases List.mem_cons.1 ha with rfl | hal
      · have hrest : (l.filter fun b => key b ≠ key a) = l := by
          rw [List.filter_eq_self]
          intro b hb
          have : key b ≠ key a := fun e => hl.1 (e ▸ List.mem_map_of_mem hb)
          simpa using this
        rw [List.filter_cons_of_neg (by simp), hrest, List.map_cons, List.sum_cons]
        abel
      · have hx : key x ≠ key a := fun e => hl.1 (e ▸ List.mem_map_of_mem hal)
        rw [List.filter_cons_of_pos (by simpa using hx), List.map_cons, List.sum_cons,
          List.map_cons, List.sum_cons, ih hl.2 hal]
        abel

theorem total_delete {c : Collection α} {k : κ} {a : α} (h : c.get? k = some a) :
    (c.delete k).total f = c.total f - f a := by
  obtain ⟨ha, rfl⟩ := get?_eq_some_iff.1 h
  exact sum_filter_key f c.nodup ha

private theorem sum_modify_key {l : List α} (hl : (l.map key).Nodup) {a : α} (ha : a ∈ l)
    (p : Patch α) :
    ((l.map fun b => if key b = key a then p.apply b else b).map f).sum =
      (l.map f).sum - f a + f (p.apply a) := by
  induction l with
  | nil => simp at ha
  | cons x l ih =>
      rw [List.map_cons, List.nodup_cons] at hl
      rcases List.mem_cons.1 ha with rfl | hal
      · have hrest : (l.map fun b => if key b = key a then p.apply b else b) = l := by
          conv_rhs => rw [← List.map_id l]
          apply List.map_congr_left
          intro b hb
          have : key b ≠ key a := fun e => hl.1 (e ▸ List.mem_map_of_mem hb)
          simp [this]
        simp only [List.map_cons, if_true, hrest, List.sum_cons]
        abel
      · have hx : key x ≠ key a := fun e => hl.1 (e ▸ List.mem_map_of_mem hal)
        have hih := ih hl.2 hal
        simp only [List.map_cons, hx, if_false, List.sum_cons, hih]
        abel

theorem total_modify {c : Collection α} {k : κ} {a : α} (h : c.get? k = some a) (p : Patch α) :
    (c.modify k p).total f = c.total f - f a + f (p.apply a) := by
  obtain ⟨ha, rfl⟩ := get?_eq_some_iff.1 h
  exact sum_modify_key f c.nodup ha p

/-- A change that keeps `f` keeps the total. -/
theorem total_modify_of_eq {c : Collection α} (k : κ) {p : Patch α}
    (h : ∀ a, f (p.apply a) = f a) : (c.modify k p).total f = c.total f := by
  unfold total
  rw [docs_modify, List.map_map]
  congr 1
  apply List.map_congr_left
  intro a _
  by_cases ha : key a = k <;> simp [ha, h]

end Total

end Collection

end InventoryHero.Storage
