import Mathlib.Data.List.Sort
import Mathlib.Order.WithBot

/-!
# Aggregation pipelines

Stages of an aggregation pipeline as functions on lists of documents. A document that was joined to
others is a pair. Of the stages here only `$limit`, and `$unwind` without
`preserveNullAndEmptyArrays`, remove documents: after the others, the documents that were put in are
those that come out (`map_fst_lookup`, `mem_map_fst_unwind`, `mem_sortDescending`).

A `$lookup` that is unwound is a join. Each document of the source is in it once, if it has a
partner at all (`nodup_join`, `mem_join`).
-/

set_option autoImplicit false

namespace InventoryHero.Storage

variable {α β κ ι : Type}

/-- `$lookup`: each document with the documents of `source` whose foreign field is its local one. -/
def lookup [DecidableEq κ] (source : List β) (localField : α → κ) (foreignField : β → κ)
    (l : List α) : List (α × List β) :=
  l.map fun a => (a, source.filter fun b => foreignField b = localField a)

/-- `$unwind` with `preserveNullAndEmptyArrays`: one document for each element of the array, and one
without an element for an empty array. -/
def unwind (l : List (α × List β)) : List (α × Option β) :=
  l.flatMap fun d =>
    match d.2 with
    | [] => [(d.1, none)]
    | b :: rest => (b :: rest).map fun b => (d.1, some b)

/-- `$unwind`: one document for each element of the array, none for an empty array. -/
def unwindElements (l : List (α × List β)) : List (α × β) :=
  l.flatMap fun d => d.2.map fun b => (d.1, b)

/-- `$sort: { key: -1 }`. A missing field is below every value. -/
def sortDescending [LinearOrder ι] (key : α → WithBot ι) (l : List α) : List α :=
  l.insertionSort fun a b => key b ≤ key a

@[simp] theorem map_fst_lookup [DecidableEq κ] (source : List β) (localField : α → κ)
    (foreignField : β → κ) (l : List α) :
    (lookup source localField foreignField l).map Prod.fst = l := by
  rw [lookup, List.map_map]
  exact List.map_id l

theorem take_lookup [DecidableEq κ] (source : List β) (localField : α → κ) (foreignField : β → κ)
    (l : List α) (n : Nat) :
    (lookup source localField foreignField l).take n =
      lookup source localField foreignField (l.take n) := by
  simp [lookup]

@[simp] theorem mem_map_fst_unwind {l : List (α × List β)} {a : α} :
    a ∈ (unwind l).map Prod.fst ↔ a ∈ l.map Prod.fst := by
  induction l with
  | nil => rfl
  | cons d rest ih =>
      have hcons : (unwind (d :: rest)).map Prod.fst =
          (unwind [d]).map Prod.fst ++ (unwind rest).map Prod.fst := by
        simp [unwind]
      have hone : a ∈ (unwind [d]).map Prod.fst ↔ a = d.1 := by
        obtain ⟨a', bs⟩ := d
        cases bs with
        | nil => simp [unwind]
        | cons b bs => simp [unwind, eq_comm]
      rw [hcons, List.mem_append, ih, hone, List.map_cons, List.mem_cons]

@[simp] theorem mem_sortDescending [LinearOrder ι] {key : α → WithBot ι} {l : List α} {a : α} :
    a ∈ sortDescending key l ↔ a ∈ l := List.mem_insertionSort _

@[simp] theorem mem_map_sortDescending [LinearOrder ι] {key : α → WithBot ι} {f : α → β}
    {l : List α} {b : β} : b ∈ (sortDescending key l).map f ↔ b ∈ l.map f := by
  simp only [List.mem_map, mem_sortDescending]

@[simp] theorem sortDescending_eq_nil_iff [LinearOrder ι] {key : α → WithBot ι} {l : List α} :
    sortDescending key l = [] ↔ l = [] := by
  rw [← List.length_eq_zero_iff, ← List.length_eq_zero_iff, sortDescending,
    List.length_insertionSort]

theorem perm_sortDescending [LinearOrder ι] (key : α → WithBot ι) (l : List α) :
    (sortDescending key l).Perm l := List.perm_insertionSort _ l

/-! ## Joins -/

section Join

variable [DecidableEq κ] {source : List β} {localField : α → κ} {foreignField : β → κ} {l : List α}

theorem map_snd_join :
    (unwindElements (lookup source localField foreignField l)).map Prod.snd =
      l.flatMap fun a => source.filter fun b => foreignField b = localField a := by
  simp only [unwindElements, lookup, List.flatMap_map, List.map_flatMap, List.map_map]
  exact List.flatMap_congr fun a _ => List.map_id _

theorem mem_join {b : β} :
    b ∈ (unwindElements (lookup source localField foreignField l)).map Prod.snd ↔
      b ∈ source ∧ ∃ a ∈ l, foreignField b = localField a := by
  simp only [map_snd_join, List.mem_flatMap, List.mem_filter, decide_eq_true_eq]
  constructor
  · rintro ⟨a, ha, hb, hab⟩
    exact ⟨hb, a, ha, hab⟩
  · rintro ⟨hb, a, ha, hab⟩
    exact ⟨a, ha, hb, hab⟩

/-- Local fields are different, so a document has at most one partner. -/
theorem nodup_join (hsource : source.Nodup) (hlocal : (l.map localField).Nodup) :
    ((unwindElements (lookup source localField foreignField l)).map Prod.snd).Nodup := by
  rw [map_snd_join, List.nodup_flatMap]
  refine ⟨fun a _ => hsource.filter _, (List.pairwise_map.1 hlocal).imp ?_⟩
  intro a a' hne b hb hb'
  simp only [List.mem_filter, decide_eq_true_eq] at hb hb'
  exact hne (hb.2.symm.trans hb'.2)

end Join

end InventoryHero.Storage
