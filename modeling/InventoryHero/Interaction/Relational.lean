import InventoryHero.Interaction.Program

/-!
# Two runs side by side

`Prog.Agrees` compares the uninterrupted runs of two programs from shared states that a relation `I`
ties together: they end alike, with the same local state and the same result, in shared states that
`I` still ties together. What a client sees of a run is its local state, so such a client cannot
tell the two shared states apart.
-/

set_option autoImplicit false

namespace InventoryHero.Interaction

namespace Prog

variable {S : Signature} {ε α β σ τ : Type}

/-- The ends of two runs cannot be told apart. -/
structure SameEnd (I : σ → σ → Prop) (F F' : Final σ τ ε α) : Prop where
  loc : F.loc = F'.loc
  result : F.result = F'.result
  shared : I F.shared F'.shared

section Agrees

variable (sem : Sem S σ τ) (I : σ → σ → Prop)

/-- From states that `I` relates, the programs run alike. -/
def Agrees (x y : Prog S ε α) : Prop :=
  ∀ s s' t, I s s' → SameEnd I (x.run sem s t) (y.run sem s' t)

variable {sem I}

theorem Agrees.done (a : α) : (done a : Prog S ε α).Agrees sem I (Prog.done a) :=
  fun _ _ _ h => ⟨rfl, rfl, h⟩

theorem Agrees.fail (e : ε) : (fail e : Prog S ε α).Agrees sem I (Prog.fail e) :=
  fun _ _ _ h => ⟨rfl, rfl, h⟩

/-- The two programs may issue different operations, and go on in different ways with the
replies. -/
theorem Agrees.op_bind {o o' : S.Op} {f : S.Reply o → Prog S ε α} {f' : S.Reply o' → Prog S ε α}
    (h : ∀ s s' t, I s s' → (sem o s t).2.1 = (sem o' s' t).2.1 ∧
      I (sem o s t).1 (sem o' s' t).1 ∧ (f (sem o s t).2.2).Agrees sem I (f' (sem o' s' t).2.2)) :
    (op o >>= f).Agrees sem I (op o' >>= f') := by
  intro s s' t hI
  obtain ⟨hloc, hshared, hnext⟩ := h s s' t hI
  rw [run_op_bind, run_op_bind, hloc]
  exact hnext _ _ _ hshared

/-- Sequencing rule. -/
theorem Agrees.bind {x y : Prog S ε α} {f g : α → Prog S ε β} (h : x.Agrees sem I y)
    (hf : ∀ a, (f a).Agrees sem I (g a)) : (x >>= f).Agrees sem I (y >>= g) := by
  intro s s' t hI
  obtain ⟨hloc, hresult, hshared⟩ := h s s' t hI
  rw [run_bind, run_bind]
  rcases hx : x.run sem s t with ⟨s₁, t₁, r⟩
  rcases hy : y.run sem s' t with ⟨s₂, t₂, r'⟩
  rw [hx, hy] at hloc hresult hshared
  cases hloc
  cases hresult
  cases r with
  | ok a => exact hf a _ _ _ hshared
  | error e => exact ⟨rfl, rfl, hshared⟩

/-- Rule for guarded programs. -/
theorem Agrees.tryCatch {x y : Prog S ε α} {f g : ε → Prog S ε α} (h : x.Agrees sem I y)
    (hf : ∀ e, (f e).Agrees sem I (g e)) : (x.tryCatch f).Agrees sem I (y.tryCatch g) := by
  intro s s' t hI
  obtain ⟨hloc, hresult, hshared⟩ := h s s' t hI
  rw [run_tryCatch, run_tryCatch]
  rcases hx : x.run sem s t with ⟨s₁, t₁, r⟩
  rcases hy : y.run sem s' t with ⟨s₂, t₂, r'⟩
  rw [hx, hy] at hloc hresult hshared
  cases hloc
  cases hresult
  cases r with
  | ok a => exact ⟨rfl, rfl, hshared⟩
  | error e => exact hf e _ _ _ hshared

theorem Only.of_forall {P : S.Op → Prop} (h : ∀ o, P o) (x : Prog S ε α) : x.Only P := by
  induction x with
  | done a => trivial
  | fail e => trivial
  | call o next ih => exact ⟨h o, ih⟩

/-- A program that issues only operations which do not tell the states apart. -/
theorem Only.agrees {P : S.Op → Prop}
    (hP : ∀ o s s' t, P o → I s s' → (sem o s t).2 = (sem o s' t).2 ∧
      I (sem o s t).1 (sem o s' t).1) {x : Prog S ε α} (hx : x.Only P) : x.Agrees sem I x := by
  intro s s' t hI
  induction x generalizing s s' t with
  | done a => exact ⟨rfl, rfl, hI⟩
  | fail e => exact ⟨rfl, rfl, hI⟩
  | call o next ih =>
      obtain ⟨hlocal, hshared⟩ := hP o s s' t hx.1 hI
      simp only [run]
      rw [hlocal]
      exact ih _ (hx.2 _) _ _ _ hshared

end Agrees

end Prog

end InventoryHero.Interaction
