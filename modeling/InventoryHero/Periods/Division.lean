import Mathlib.Algebra.Order.Group.Int
import Mathlib.Data.Int.ConditionallyCompleteOrder
import Mathlib.Data.Int.SuccPred
import Mathlib.Data.List.Nodup
import Mathlib.Order.GaloisConnection.Basic
import Mathlib.Order.SuccPred.Basic
import Mathlib.Tactic.Ring

/-!
# Adjacent periods

A `Division` cuts the integers into numbered periods without gaps or overlaps: the period `n` lasts
from `start n` to the integer before `start (n + 1)`. That `number` finds the period of an integer
is a Galois connection with `start`. Periods of fixed length are divisions (`uniform`), and so are
periods that are made of whole periods of another division (`group`).
-/

set_option autoImplicit false

namespace InventoryHero.Periods

/-- Numbered periods, each adjacent to the next and none of them empty. -/
structure Division where
  start : ℤ → ℤ
  number : ℤ → ℤ
  gc : GaloisConnection start number
  start_lt (n : ℤ) : start n < start (n + 1)

namespace Division

variable (D E : Division) {n t u : ℤ}

/-- The first integer of the period that `t` is in. -/
def first (t : ℤ) : ℤ := D.start (D.number t)

/-- The last integer of the period that `t` is in. -/
def last (t : ℤ) : ℤ := D.start (D.number t + 1) - 1

theorem strictMono_start : StrictMono D.start := strictMono_int_of_lt_succ D.start_lt

theorem start_le_iff : D.start n ≤ t ↔ n ≤ D.number t := D.gc n t

theorem lt_start_iff : t < D.start n ↔ D.number t < n := D.gc.lt_iff_lt

theorem first_le (t : ℤ) : D.first t ≤ t := D.start_le_iff.2 le_rfl

theorem lt_start_succ (t : ℤ) : t < D.start (D.number t + 1) := D.lt_start_iff.2 (lt_add_one _)

theorem le_last (t : ℤ) : t ≤ D.last t := Int.le_sub_one_of_lt (D.lt_start_succ t)

/-- The integers of the period `n`. -/
theorem number_eq_iff : D.number t = n ↔ D.start n ≤ t ∧ t < D.start (n + 1) := by
  rw [D.start_le_iff, D.lt_start_iff]
  omega

@[simp] theorem number_start (n : ℤ) : D.number (D.start n) = n :=
  D.number_eq_iff.2 ⟨le_rfl, D.start_lt n⟩

@[simp] theorem number_first (t : ℤ) : D.number (D.first t) = D.number t := D.number_start _

theorem last_eq_of_number_eq (h : D.number t = D.number u) : D.last t = D.last u := by
  unfold last
  rw [h]

/-- The integers from the first to the last of a period, without the last. -/
theorem mem_window_iff :
    D.first u ≤ t ∧ t < D.last u ↔ D.number t = D.number u ∧ t ≠ D.last t := by
  constructor
  · rintro ⟨hfirst, hlast⟩
    have hnumber : D.number t = D.number u := by
      refine D.number_eq_iff.2 ⟨hfirst, ?_⟩
      unfold last at hlast
      omega
    exact ⟨hnumber, D.last_eq_of_number_eq hnumber ▸ hlast.ne⟩
  · rintro ⟨hnumber, hne⟩
    have hle := (D.le_last t).lt_of_ne hne
    rw [D.last_eq_of_number_eq hnumber] at hle
    exact ⟨(D.number_eq_iff.1 hnumber).1, hle⟩

/-! ## The periods of an interval -/

/-- The first integers of the periods from that of `a` to that of `b`. -/
def starts (a b : ℤ) : List ℤ :=
  (List.range (D.number b + 1 - D.number a).toNat).map fun (i : ℕ) => D.start (D.number a + i)

theorem mem_starts {a b e : ℤ} :
    e ∈ D.starts a b ↔ ∃ n, D.number a ≤ n ∧ n ≤ D.number b ∧ e = D.start n := by
  simp only [starts, List.mem_map, List.mem_range]
  constructor
  · rintro ⟨i, hi, rfl⟩
    exact ⟨D.number a + i, by omega, by omega, rfl⟩
  · rintro ⟨n, ha, hb, rfl⟩
    refine ⟨(n - D.number a).toNat, by omega, ?_⟩
    congr 1
    omega

theorem nodup_starts (a b : ℤ) : (D.starts a b).Nodup := by
  refine List.Nodup.map ?_ List.nodup_range
  intro i j hij
  have hstart := D.strictMono_start.injective hij
  omega

/-- The periods of `D` within one of `E`, when those of `E` start with one of `D`. -/
theorem number_eq_iff_within (hED : ∀ n, ∃ k, E.start n = D.start k) :
    E.number t = E.number u ↔
      D.number (E.first u) ≤ D.number t ∧ D.number t ≤ D.number (E.last u) := by
  obtain ⟨k, hk⟩ := hED (E.number u)
  obtain ⟨k', hk'⟩ := hED (E.number u + 1)
  have hfirst : D.number (E.first u) = k := by
    unfold first
    rw [hk, D.number_start]
  -- the day before the next period starts is the last one
  have hlast : D.number (E.last u) = k' - 1 := by
    have hlt := D.start_lt (k' - 1)
    rw [D.number_eq_iff, last, hk']
    rw [sub_add_cancel] at hlt ⊢
    omega
  rw [E.number_eq_iff, hk, hk', D.start_le_iff, D.lt_start_iff, hfirst, hlast]
  omega

/-- The end of a period of `E` is the end of one of `D`. -/
theorem last_eq_last_of_last (hED : ∀ n, ∃ k, E.start n = D.start k) (h : t = E.last t) :
    t = D.last t := by
  obtain ⟨k, hk⟩ := hED (E.number t + 1)
  have hstart : D.start k = t + 1 := by
    rw [← hk]
    unfold last at h
    omega
  have hnumber : D.number t = k - 1 := by
    have hlt := D.start_lt (k - 1)
    rw [D.number_eq_iff]
    rw [sub_add_cancel] at hlt ⊢
    omega
  rw [last, hnumber, sub_add_cancel, hstart]
  ring

/-! ## Constructions -/

/-- Periods of the length `len`, one of which starts at `offset`. -/
def uniform (len : ℤ) (hlen : 0 < len) (offset : ℤ) : Division where
  start n := offset + len * n
  number t := (t - offset) / len
  gc n t := by
    show offset + len * n ≤ t ↔ _
    rw [Int.le_ediv_iff_mul_le hlen, mul_comm n len]
    omega
  start_lt n := by
    rw [mul_add]
    omega

/-- Periods of periods: `E` counts the periods of `D`. -/
def group : Division where
  start n := D.start (E.start n)
  number t := E.number (D.number t)
  gc := E.gc.compose D.gc
  start_lt n := D.strictMono_start (E.start_lt n)

section Split

variable (P : Division) (k : ℤ)

/-- The first integer of the `m`-th part, when every period of `D` is split into `k` parts at the
distances from its start that `P` gives. The last part takes what is left of the period. -/
def splitStart (m : ℤ) : ℤ := D.start (m / k) + P.start (m % k)

/-- The part that `t` is in. -/
def splitNumber (t : ℤ) : ℤ := k * D.number t + min (k - 1) (P.number (t - D.first t))

variable {D P k} (hk : 0 < k) (hzero : P.start 0 = 0)
  (hroom : ∀ n, D.start n + P.start (k - 1) < D.start (n + 1))

include hk hzero hroom

theorem splitStart_le_iff {m t : ℤ} : D.splitStart P k m ≤ t ↔ m ≤ D.splitNumber P k t := by
  have hm := Int.mul_ediv_add_emod m k
  have hi := Int.emod_nonneg m hk.ne'
  have hik := Int.emod_lt_of_pos m hk
  unfold splitStart splitNumber
  generalize m / k = n at hm ⊢
  generalize m % k = i at hm hi hik ⊢
  have hstart : 0 ≤ P.start i := hzero ▸ P.strictMono_start.monotone hi
  have hnumber : 0 ≤ P.number (t - D.first t) := by
    have hfirst := D.first_le t
    rw [← P.start_le_iff, hzero]
    omega
  -- `t` is in a later period, in the same one, or in an earlier one
  rcases lt_trichotomy n (D.number t) with hlt | rfl | hgt
  · have hlater : D.start (n + 1) ≤ t := D.start_le_iff.2 (Int.add_one_le_of_lt hlt)
    have hpart : P.start i ≤ P.start (k - 1) := P.strictMono_start.monotone (by omega)
    have hmul : k * (n + 1) ≤ k * D.number t :=
      mul_le_mul_of_nonneg_left (Int.add_one_le_of_lt hlt) hk.le
    have hn := hroom n
    rw [mul_add] at hmul
    refine iff_of_true (by omega) ?_
    have hmin : 0 ≤ min (k - 1) (P.number (t - D.first t)) := le_min (by omega) hnumber
    omega
  · have hpart : P.start i ≤ t - D.first t ↔ i ≤ P.number (t - D.first t) := P.start_le_iff
    change D.first t + P.start i ≤ t ↔ _
    rw [← hm, add_le_add_iff_left, le_min_iff, ← hpart]
    omega
  · have hearlier : t < D.start n := D.lt_start_iff.2 hgt
    have hmul : k * (D.number t + 1) ≤ k * n :=
      mul_le_mul_of_nonneg_left (Int.add_one_le_of_lt hgt) hk.le
    rw [mul_add] at hmul
    refine iff_of_false (by omega) ?_
    have hmin : min (k - 1) (P.number (t - D.first t)) ≤ k - 1 := min_le_left _ _
    omega

theorem splitStart_lt (m : ℤ) : D.splitStart P k m < D.splitStart P k (m + 1) := by
  have hm := Int.mul_ediv_add_emod m k
  have hi := Int.emod_nonneg m hk.ne'
  have hik := Int.emod_lt_of_pos m hk
  unfold splitStart
  by_cases hlast : m % k = k - 1
  · -- the next part is the first one of the next period
    have hnext : (m + 1) / k = m / k + 1 ∧ (m + 1) % k = 0 := by
      rw [Int.ediv_emod_unique hk, mul_add]
      omega
    rw [hnext.1, hnext.2, hlast, hzero, add_zero]
    exact hroom (m / k)
  · have hnext : (m + 1) / k = m / k ∧ (m + 1) % k = m % k + 1 := by
      rw [Int.ediv_emod_unique hk]
      omega
    rw [hnext.1, hnext.2]
    exact add_lt_add_right (P.start_lt _) _

end Split

/-- Every period in `k` parts. -/
def split (P : Division) (k : ℤ) (hk : 0 < k) (hzero : P.start 0 = 0)
    (hroom : ∀ n, D.start n + P.start (k - 1) < D.start (n + 1)) : Division where
  start := D.splitStart P k
  number := D.splitNumber P k
  gc _ _ := splitStart_le_iff hk hzero hroom
  start_lt := splitStart_lt hk hzero hroom

end Division

end InventoryHero.Periods
