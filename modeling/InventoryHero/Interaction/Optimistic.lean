import InventoryHero.Interaction.Pool
import Mathlib.Algebra.BigOperators.Group.Finset.Piecewise

/-!
# Participants that read freely and commit once

The abstract machine behind programs that compute their writes from reads of a shared state, which
others may change in the meantime, and then commit these writes in one step. A participant is
described by its reads, each with the state it saw, and by what it committed. `Interleaving` is the
set of states of all interleavings; `Interleaving.kept` and `Interleaving.balance` are the two rules
for them.
-/

set_option autoImplicit false

namespace InventoryHero.Interaction

/-- What a participant has done so far. -/
structure Progress (σ Q W : Type) where
  reads : List (Q × σ)
  committed : Option W

/-- The shared state and the progress of each participant. -/
structure Interleaved (ι σ Q W : Type) where
  state : σ
  progress : ι → Progress σ Q W

variable {ι σ Q W : Type} [DecidableEq ι]

namespace Interleaved

/-- Before the first step. -/
def init (s : σ) : Interleaved ι σ Q W := ⟨s, fun _ => ⟨[], none⟩⟩

/-- Participant `j` reads the state. -/
def read (j : ι) (q : Q) (m : Interleaved ι σ Q W) : Interleaved ι σ Q W :=
  ⟨m.state, Function.update m.progress j
    ⟨(m.progress j).reads ++ [(q, m.state)], (m.progress j).committed⟩⟩

/-- Participant `j` commits `w`. -/
def commit (apply : σ → W → σ) (j : ι) (w : W) (m : Interleaved ι σ Q W) : Interleaved ι σ Q W :=
  ⟨apply m.state w, Function.update m.progress j ⟨(m.progress j).reads, some w⟩⟩

end Interleaved

/-- The states reached when participants that have not committed read the state, or commit what
`may` allows. -/
inductive Interleaving (apply : σ → W → σ) (may : ι → W → Interleaved ι σ Q W → Prop) (s₀ : σ) :
    Interleaved ι σ Q W → Prop
  | init : Interleaving apply may s₀ (.init s₀)
  | read {m : Interleaved ι σ Q W} (j : ι) (q : Q) : Interleaving apply may s₀ m →
      (m.progress j).committed = none → Interleaving apply may s₀ (m.read j q)
  | commit {m : Interleaved ι σ Q W} (j : ι) (w : W) : Interleaving apply may s₀ m →
      (m.progress j).committed = none → may j w m → Interleaving apply may s₀ (m.commit apply j w)

variable {apply : σ → W → σ} {may : ι → W → Interleaved ι σ Q W → Prop} {s₀ : σ}
  {m : Interleaved ι σ Q W}

/-- What holds initially and is kept by the commits of the others, a participant that has not
committed finds in the state and has found in all its reads. -/
theorem Interleaving.kept {K : ι → σ → Prop} (hinit : ∀ i, K i s₀)
    (hcommit : ∀ m i j w, i ≠ j → (m.progress i).committed = none → may j w m → K i m.state →
      K i (apply m.state w))
    (h : Interleaving apply may s₀ m) (i : ι) (hi : (m.progress i).committed = none) :
    K i m.state ∧ ∀ r ∈ (m.progress i).reads, K i r.2 := by
  induction h with
  | init => exact ⟨hinit i, fun r hr => nomatch hr⟩
  | @read m j q h hj ih =>
      by_cases hij : i = j
      · subst hij
        -- the new read saw the current state
        obtain ⟨hs, hr⟩ := ih hj
        refine ⟨hs, fun r hmem => ?_⟩
        simp only [Interleaved.read, Function.update_self, List.mem_append,
          List.mem_singleton] at hmem
        rcases hmem with hmem | rfl
        · exact hr r hmem
        · exact hs
      · simp only [Interleaved.read, Function.update_of_ne hij] at hi ⊢
        exact ih hi
  | @commit m j w h hj hmay ih =>
      by_cases hij : i = j
      · subst hij
        -- its own commit: then it has committed
        simp [Interleaved.commit] at hi
      · simp only [Interleaved.commit, Function.update_of_ne hij] at hi ⊢
        obtain ⟨hs, hr⟩ := ih hi
        exact ⟨hcommit m i j w hij hi hmay hs, hr⟩

/-- **Balance.** If every commit moves the measure `φ` by the contribution of its participant, then
`φ` is its initial value and the contributions of those that have committed. -/
theorem Interleaving.balance [Fintype ι] {M : Type} [AddCommGroup M] {φ : σ → M}
    {f : ι → Progress σ Q W → M} (hf : ∀ i reads, f i ⟨reads, none⟩ = 0)
    (hcommit : ∀ m j w, Interleaving apply may s₀ m → (m.progress j).committed = none →
      may j w m → φ (apply m.state w) = φ m.state + f j ⟨(m.progress j).reads, some w⟩)
    (h : Interleaving apply may s₀ m) : φ m.state = φ s₀ + ∑ i, f i (m.progress i) := by
  have hnone : ∀ i (pr : Progress σ Q W), pr.committed = none → f i pr = 0 := by
    rintro i ⟨reads, committed⟩ rfl
    exact hf i reads
  -- a change of one participant changes one term of the sum
  have hsum : ∀ (g : ι → Progress σ Q W) (j : ι) (pr : Progress σ Q W), (g j).committed = none →
      ∑ i, f i (Function.update g j pr i) = ∑ i, f i (g i) + f j pr := by
    intro g j pr hg
    have hupdate : (fun i => f i (Function.update g j pr i)) =
        Function.update (fun i => f i (g i)) j (f j pr) :=
      funext fun i => Function.apply_update f g j pr i
    rw [hupdate, Finset.sum_update_of_mem (Finset.mem_univ j),
      ← Finset.add_sum_erase Finset.univ _ (Finset.mem_univ j), hnone j _ hg, zero_add,
      Finset.sdiff_singleton_eq_erase, add_comm]
  induction h with
  | init => simp [Interleaved.init, hf]
  | @read m j q h hj ih =>
      simp only [Interleaved.read]
      rw [ih, hsum _ _ _ hj, hj, hf, add_zero]
  | @commit m j w h hj hmay ih =>
      simp only [Interleaved.commit]
      rw [hcommit m j w h hj hmay, ih, hsum _ _ _ hj, add_assoc]

end InventoryHero.Interaction
