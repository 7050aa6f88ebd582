import InventoryHero.Interaction.Program
import Mathlib.Logic.Function.Basic

/-!
# Runs, and pools of interleaved programs

`Reach` is the set of states reached by steps that each meet a condition in the state before
them. A `Pool` holds a shared state and, for each index, a program with its local state; one step
lets one program issue its next operation, so a run of a pool is an arbitrary interleaving of the
programs. `Pool.invariant` turns guarantees of the single programs (`Prog.Ensures`) into an
invariant of all interleavings.
-/

set_option autoImplicit false

namespace InventoryHero.Interaction

/-! ## Runs -/

section Runs

variable {σ ι : Type} (init : σ → Prop) (ok : ι → σ → Prop) (step : ι → σ → σ)

/-- States reached from an initial state by steps that meet `ok` in the state before them. -/
inductive Reach : σ → Prop
  | start {s : σ} : init s → Reach s
  | next {s : σ} (i : ι) : Reach s → ok i s → Reach (step i s)

/-- The steps of a list, in order, each meet `ok` in the state before it. -/
def Admissible : List ι → σ → Prop
  | [], _ => True
  | i :: rest, s => ok i s ∧ Admissible rest (step i s)

variable {init ok step}

/-- What holds initially and is kept by every admissible step holds in every reached state. -/
theorem Reach.invariant {I : σ → Prop} (hinit : ∀ s, init s → I s)
    (hstep : ∀ i s, I s → ok i s → I (step i s)) {s : σ} (h : Reach init ok step s) : I s := by
  induction h with
  | start h0 => exact hinit _ h0
  | next i _ hok ih => exact hstep i _ ih hok

/-- The same with the help of an invariant `J` that is known already. -/
theorem Reach.invariant_with {I J : σ → Prop} (hJ : ∀ s, Reach init ok step s → J s)
    (hinit : ∀ s, init s → I s) (hstep : ∀ i s, J s → I s → ok i s → I (step i s)) {s : σ}
    (h : Reach init ok step s) : I s := by
  induction h with
  | start h0 => exact hinit _ h0
  | next i hs hok ih => exact hstep i _ (hJ _ hs) ih hok

/-- A run under a stronger step condition is a run under a weaker one. -/
theorem Reach.mono {ok' : ι → σ → Prop} (hok : ∀ i s, ok i s → ok' i s) {s : σ}
    (h : Reach init ok step s) : Reach init ok' step s := by
  induction h with
  | start h0 => exact .start h0
  | next i _ hi ih => exact .next i ih (hok _ _ hi)

/-- A run seen through a map that commutes with the steps is a run. -/
theorem Reach.map {σ' : Type} {init' : σ' → Prop} {ok' : ι → σ' → Prop} {step' : ι → σ' → σ'}
    (f : σ → σ') (hinit : ∀ s, init s → init' (f s)) (hok : ∀ i s, ok i s → ok' i (f s))
    (hstep : ∀ i s, f (step i s) = step' i (f s)) {s : σ} (h : Reach init ok step s) :
    Reach init' ok' step' (f s) := by
  induction h with
  | start h0 => exact .start (hinit _ h0)
  | next i _ hi ih =>
      rw [hstep]
      exact .next i ih (hok _ _ hi)

/-- An admissible list of steps leads to a reached state. -/
theorem Reach.foldl {is : List ι} {s : σ} (h : Reach init ok step s)
    (his : Admissible ok step is s) : Reach init ok step (is.foldl (fun s i => step i s) s) := by
  induction is generalizing s with
  | nil => exact h
  | cons i rest ih => exact ih (.next i h his.1) his.2

instance Admissible.decidable [∀ i s, Decidable (ok i s)] :
    ∀ (is : List ι) (s : σ), Decidable (Admissible ok step is s)
  | [], _ => .isTrue trivial
  | i :: rest, s =>
      have := Admissible.decidable rest (step i s)
      inferInstanceAs (Decidable (ok i s ∧ Admissible ok step rest (step i s)))

end Runs

/-! ## Pools -/

/-- A program together with its local state. -/
structure Proc (S : Signature) (τ ε α : Type) where
  loc : τ
  prog : Prog S ε α

/-- Programs that share one state. -/
structure Pool (S : Signature) (ι σ τ ε α : Type) where
  shared : σ
  procs : ι → Proc S τ ε α

namespace Pool

variable {S : Signature} {ι σ τ ε α : Type} [DecidableEq ι] (sem : Sem S σ τ)

/-- Program `i` issues its next operation; a program that has ended does nothing. -/
def step (i : ι) (p : Pool S ι σ τ ε α) : Pool S ι σ τ ε α :=
  match (p.procs i).prog with
  | .done _ => p
  | .fail _ => p
  | .call o next =>
      let r := sem o p.shared (p.procs i).loc
      ⟨r.1, Function.update p.procs i ⟨r.2.1, next r.2.2⟩⟩

variable {sem}

theorem step_of_call {p : Pool S ι σ τ ε α} {i : ι} {o : S.Op} {next : S.Reply o → Prog S ε α}
    (h : (p.procs i).prog = .call o next) :
    p.step sem i = ⟨(sem o p.shared (p.procs i).loc).1, Function.update p.procs i
      ⟨(sem o p.shared (p.procs i).loc).2.1, next (sem o p.shared (p.procs i).loc).2.2⟩⟩ := by
  simp only [step, h]

/-- A step does nothing, or issues the operation at the head of the program. -/
theorem step_cases (sem : Sem S σ τ) (p : Pool S ι σ τ ε α) (i : ι) :
    p.step sem i = p ∨ ∃ (o : S.Op) (next : S.Reply o → Prog S ε α),
      (p.procs i).prog = .call o next := by
  cases h : (p.procs i).prog with
  | done a => exact .inl (by simp only [step, h])
  | fail e => exact .inl (by simp only [step, h])
  | call o next => exact .inr ⟨o, next, rfl⟩

variable {G : ι → S.Op → σ → τ → σ → τ → Prop} {Q : ι → Except ε α → τ → Prop}

/-- Every program of the pool keeps its guarantee from here on. -/
def Ensures (sem : Sem S σ τ) (G : ι → S.Op → σ → τ → σ → τ → Prop)
    (Q : ι → Except ε α → τ → Prop) (p : Pool S ι σ τ ε α) : Prop :=
  ∀ i, (p.procs i).prog.Ensures sem (G i) (Q i) (p.procs i).loc

theorem Ensures.step {p : Pool S ι σ τ ε α} (h : p.Ensures sem G Q) (j : ι) :
    (p.step sem j).Ensures sem G Q := by
  rcases p.step_cases sem j with hp | ⟨o, next, hc⟩
  · rw [hp]
    exact h
  · intro i
    rw [step_of_call hc]
    -- the program that moved has its guarantee for every shared state, so for this one
    by_cases hij : i = j
    · subst hij
      have hi := h i
      rw [hc] at hi
      simpa using (hi p.shared).2
    · simpa [Function.update_of_ne hij] using h i

/-- **Invariants of interleavings.** Programs that keep their guarantees keep every property of
the pool that a single guaranteed operation keeps. -/
theorem invariant {ok : ι → Pool S ι σ τ ε α → Prop} {I : Pool S ι σ τ ε α → Prop}
    {p₀ p : Pool S ι σ τ ε α} (h₀ : I p₀) (hG : p₀.Ensures sem G Q)
    (hstep : ∀ (p : Pool S ι σ τ ε α) (i : ι) (o : S.Op) (next : S.Reply o → Prog S ε α),
      (p.procs i).prog = .call o next → ok i p → I p →
      G i o p.shared (p.procs i).loc (sem o p.shared (p.procs i).loc).1
        (sem o p.shared (p.procs i).loc).2.1 → I (p.step sem i))
    (h : Reach (· = p₀) ok (Pool.step sem) p) : I p := by
  -- the guarantees of all programs are part of the invariant
  refine (h.invariant (I := fun p => I p ∧ p.Ensures sem G Q) ?_ ?_).1
  · rintro s rfl
    exact ⟨h₀, hG⟩
  · rintro i s ⟨hI, hE⟩ hok
    refine ⟨?_, hE.step i⟩
    rcases s.step_cases sem i with hs | ⟨o, next, hc⟩
    · rw [hs]
      exact hI
    · have hi := hE i
      rw [hc] at hi
      exact hstep s i o next hc hok hI (hi s.shared).1

variable (sem) in
/-- The programs issue one operation each, in the given order. -/
def follow (is : List ι) (p : Pool S ι σ τ ε α) : Pool S ι σ τ ε α :=
  is.foldl (fun p i => p.step sem i) p

theorem follow_follow (is js : List ι) (p : Pool S ι σ τ ε α) :
    (p.follow sem is).follow sem js = p.follow sem (is ++ js) := List.foldl_append.symm

theorem reach_follow (is : List ι) (p : Pool S ι σ τ ε α) :
    Reach (· = p) (fun _ _ => True) (Pool.step sem) (p.follow sem is) := by
  refine Reach.foldl (.start rfl) ?_
  induction is generalizing p with
  | nil => trivial
  | cons i rest ih => exact ⟨trivial, ih _⟩

end Pool

end InventoryHero.Interaction
