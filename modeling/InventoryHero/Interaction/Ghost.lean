import InventoryHero.Interaction.Pool

/-!
# Auxiliary state

What a program has done is not always visible in its local state. `Sem.ghost` keeps an auxiliary
state beside it, which every operation and its reply update and which nothing else depends on. A run
of a pool is then the erasure of a run with auxiliary state (`Reach.ghost`), so an invariant that
mentions the auxiliary state says something about every run without it.

If every program keeps to some conduct, whatever the others do, then what the operations keep that
this conduct allows holds after every interleaving (`Reach.conducted`).
-/

set_option autoImplicit false

namespace InventoryHero.Interaction

variable {S : Signature} {ι σ τ η ε α : Type}

/-- The operations with an auxiliary state, which `log` updates. -/
def Sem.ghost (sem : Sem S σ τ) (log : η → (o : S.Op) → S.Reply o → η) : Sem S σ (τ × η) :=
  fun o s x =>
    ((sem o s x.1).1, ((sem o s x.1).2.1, log x.2 o (sem o s x.1).2.2), (sem o s x.1).2.2)

/-- A run does not depend on the auxiliary state. -/
theorem Prog.loc_run_ghost {sem : Sem S σ τ} {log : η → (o : S.Op) → S.Reply o → η}
    (x : Prog S ε α) (s : σ) (t : τ × η) :
    (x.run (Sem.ghost sem log) s t).loc.1 = (x.run sem s t.1).loc := by
  induction x generalizing s t with
  | done a => rfl
  | fail e => rfl
  | call o next ih => exact ih _ _ _

namespace Pool

/-- The pool without the auxiliary state. -/
def erase (q : Pool S ι σ (τ × η) ε α) : Pool S ι σ τ ε α where
  shared := q.shared
  procs i := ⟨(q.procs i).loc.1, (q.procs i).prog⟩

/-- The pool with the same auxiliary state for every program. -/
def withGhost (p : Pool S ι σ τ ε α) (h : η) : Pool S ι σ (τ × η) ε α where
  shared := p.shared
  procs i := ⟨((p.procs i).loc, h), (p.procs i).prog⟩

variable [DecidableEq ι] {sem : Sem S σ τ} {log : η → (o : S.Op) → S.Reply o → η}

/-- Steps do not depend on the auxiliary state. -/
theorem erase_step (q : Pool S ι σ (τ × η) ε α) (i : ι) :
    (q.step (Sem.ghost sem log) i).erase = q.erase.step sem i := by
  cases hq : (q.procs i).prog with
  | done a => simp only [step, erase, hq]
  | fail e => simp only [step, erase, hq]
  | call o next =>
      have herase : (q.erase.procs i).prog = .call o next := hq
      rw [step_of_call hq, step_of_call herase]
      simp only [erase, Sem.ghost, Pool.mk.injEq, true_and]
      funext j
      by_cases hj : j = i
      · subst hj
        simp
      · simp [Function.update_of_ne hj]

end Pool

variable [DecidableEq ι] {sem : Sem S σ τ}

/-- **Auxiliary state is harmless.** Every run is the erasure of a run with it. -/
theorem Reach.ghost (log : η → (o : S.Op) → S.Reply o → η) {ok : ι → Pool S ι σ τ ε α → Prop}
    {q₀ : Pool S ι σ (τ × η) ε α} {p : Pool S ι σ τ ε α}
    (h : Reach (· = q₀.erase) ok (Pool.step sem) p) :
    ∃ q, Reach (· = q₀) (fun i q => ok i q.erase) (Pool.step (Sem.ghost sem log)) q ∧
      q.erase = p := by
  induction h with
  | start h₀ => exact ⟨q₀, .start rfl, h₀.symm⟩
  | next i _ hok ih =>
      obtain ⟨q, hq, rfl⟩ := ih
      exact ⟨_, .next i hq hok, q.erase_step i⟩

/-! ## Conduct -/

namespace Pool

/-- The local state of each program. -/
def locals (p : Pool S ι σ τ ε α) (i : ι) : τ := (p.procs i).loc

theorem locals_step {p : Pool S ι σ τ ε α} {i : ι} {o : S.Op} {next : S.Reply o → Prog S ε α}
    (h : (p.procs i).prog = .call o next) :
    (p.step sem i).locals = Function.update p.locals i (sem o p.shared (p.locals i)).2.1 := by
  rw [step_of_call h]
  funext j
  by_cases hj : j = i
  · subst hj
    simp [locals]
  · simp [locals, Function.update_of_ne hj]

end Pool

/-- A property of every program after a step of program `i`. -/
theorem forall_locals {P : ι → τ → Prop} {loc : ι → τ} {i : ι} {x : τ} (hi : P i x)
    (hj : ∀ j, j ≠ i → P j (loc j)) : ∀ j, P j (Function.update loc i x j) :=
  (Function.forall_update_iff loc fun j x => P j x).2 ⟨hi, hj⟩

/-- **Invariants of interleavings.** What the operations keep that the programs may issue holds
after every interleaving. -/
theorem Reach.conducted {log : η → (o : S.Op) → S.Reply o → η} {may : ι → S.Op → τ × η → Prop}
    {Q : ι → Except ε α → τ × η → Prop} {q₀ : Pool S ι σ (τ × η) ε α}
    (hq₀ : q₀.Ensures (Sem.ghost sem log) (fun i o _ x _ _ => may i o x) Q)
    {I : σ → (ι → τ × η) → Prop} (h₀ : I q₀.shared q₀.locals)
    (hstep : ∀ s loc i o, may i o (loc i) → I s loc →
      I (Sem.ghost sem log o s (loc i)).1
        (Function.update loc i (Sem.ghost sem log o s (loc i)).2.1))
    {p : Pool S ι σ τ ε α} (h : Reach (· = q₀.erase) (fun _ _ => True) (Pool.step sem) p) :
    ∃ q : Pool S ι σ (τ × η) ε α, q.erase = p ∧
      q.Ensures (Sem.ghost sem log) (fun i o _ x _ _ => may i o x) Q ∧ I q.shared q.locals := by
  obtain ⟨q, hreach, rfl⟩ := Reach.ghost log h
  refine ⟨q, rfl, hreach.invariant (I := fun q : Pool S ι σ (τ × η) ε α =>
    q.Ensures (Sem.ghost sem log) (fun i o _ x _ _ => may i o x) Q ∧ I q.shared q.locals) ?_ ?_⟩
  · rintro _ rfl
    exact ⟨hq₀, h₀⟩
  · rintro i q ⟨hq, hI⟩ -
    refine ⟨hq.step i, ?_⟩
    rcases q.step_cases (Sem.ghost sem log) i with hs | ⟨o, next, hc⟩
    · rw [hs]
      exact hI
    · have hi := hq i
      rw [hc] at hi
      rw [Pool.locals_step hc, Pool.step_of_call hc]
      exact hstep q.shared q.locals i o (hi q.shared).1 hI

end InventoryHero.Interaction
