import Mathlib.Logic.Relation

/-!
# Programs that issue operations one at a time

A `Signature` lists operations and the type of the reply to each. A program over it is a finite
tree: it ends with a value, ends with an error, or issues one operation and continues with the
reply. Programs form a monad with `throw` and `catch`, so a handler written with `do` is such a
tree.

Operations act on a state shared by all programs and on a state local to the program that issues
them (`Sem`). `Prog.run` executes a program without interruption. `Prog.Ensures` is the
verification condition of a program whose operations may be separated by arbitrary changes of the
shared state: only the local state survives from one operation to the next.
-/

set_option autoImplicit false

namespace InventoryHero.Interaction

/-- Operations, and the type of the reply to each. -/
structure Signature where
  Op : Type
  Reply : Op → Type

/-- A program over `S` that throws errors in `ε` and returns a value in `α`. -/
inductive Prog (S : Signature) (ε α : Type) : Type
  | done (a : α)
  | fail (e : ε)
  | call (o : S.Op) (next : S.Reply o → Prog S ε α)

/-- Meaning of the operations on a shared state `σ` and a local state `τ`. -/
abbrev Sem (S : Signature) (σ τ : Type) : Type :=
  (o : S.Op) → σ → τ → σ × τ × S.Reply o

/-- What a program that has run to its end leaves behind. -/
structure Final (σ τ ε α : Type*) where
  shared : σ
  loc : τ
  result : Except ε α

/-- Case distinction on how a program ended. -/
def Final.elim {σ τ ε α β : Type*} (F : Final σ τ ε α) (ok : α → σ → τ → β)
    (err : ε → σ → τ → β) : β :=
  match F with
  | ⟨s, t, .ok a⟩ => ok a s t
  | ⟨s, t, .error e⟩ => err e s t

@[simp] theorem Final.elim_ok {σ τ ε α β : Type*} (s : σ) (t : τ) (a : α) (ok : α → σ → τ → β)
    (err : ε → σ → τ → β) : (⟨s, t, .ok a⟩ : Final σ τ ε α).elim ok err = ok a s t := rfl

namespace Prog

variable {S : Signature} {ε α β σ τ : Type}

/-- Sequencing: an error skips the continuation. -/
def bind : Prog S ε α → (α → Prog S ε β) → Prog S ε β
  | done a, f => f a
  | fail e, _ => fail e
  | call o next, f => call o fun r => (next r).bind f

instance : Monad (Prog S ε) where
  pure := done
  bind := bind

/-- `try x catch h`: an error of `x` continues with the handler. -/
def tryCatch : Prog S ε α → (ε → Prog S ε α) → Prog S ε α
  | done a, _ => done a
  | fail e, h => h e
  | call o next, h => call o fun r => (next r).tryCatch h

/-- The program that issues one operation and returns its reply. -/
def op (o : S.Op) : Prog S ε (S.Reply o) := call o done

@[simp] theorem done_bind (a : α) (f : α → Prog S ε β) : (done a >>= f) = f a := rfl

@[simp] theorem call_bind (o : S.Op) (next : S.Reply o → Prog S ε α) (f : α → Prog S ε β) :
    (call o next >>= f) = call o fun r => next r >>= f := rfl

/-- Returning what was computed adds nothing. -/
theorem bind_done (x : Prog S ε α) : (x >>= done) = x := by
  induction x with
  | done a => rfl
  | fail e => rfl
  | call o next ih =>
      rw [call_bind]
      exact congrArg _ (funext ih)

/-! ## Uninterrupted execution -/

section Run

variable (sem : Sem S σ τ)

/-- Execution with no other program in between. -/
def run : Prog S ε α → σ → τ → Final σ τ ε α
  | done a, s, t => ⟨s, t, .ok a⟩
  | fail e, s, t => ⟨s, t, .error e⟩
  | call o next, s, t => (next (sem o s t).2.2).run (sem o s t).1 (sem o s t).2.1

/-- A program that issues one operation and goes on. -/
@[simp] theorem run_op_bind (o : S.Op) (f : S.Reply o → Prog S ε β) (s : σ) (t : τ) :
    (op o >>= f).run sem s t =
      (f (sem o s t).2.2).run sem (sem o s t).1 (sem o s t).2.1 := rfl

/-- A sequence runs its first part and, unless that failed, its second. -/
theorem run_bind (x : Prog S ε α) (f : α → Prog S ε β) (s : σ) (t : τ) :
    (x >>= f).run sem s t = (x.run sem s t).elim
      (fun a s' t' => (f a).run sem s' t') (fun e s' t' => ⟨s', t', .error e⟩) := by
  induction x generalizing s t with
  | done a => rfl
  | fail e => rfl
  | call o next ih => exact ih _ _ _

/-- A guarded program runs its body and, if that failed, the handler. -/
theorem run_tryCatch (x : Prog S ε α) (h : ε → Prog S ε α) (s : σ) (t : τ) :
    (x.tryCatch h).run sem s t = (x.run sem s t).elim
      (fun a s' t' => ⟨s', t', .ok a⟩) (fun e s' t' => (h e).run sem s' t') := by
  induction x generalizing s t with
  | done a => rfl
  | fail e => rfl
  | call o next ih => exact ih _ _ _

/-- Weakest precondition of an uninterrupted execution. -/
def Wp (Q : Final σ τ ε α → Prop) (x : Prog S ε α) (s : σ) (t : τ) : Prop := Q (x.run sem s t)

variable {sem}

/-- Sequencing rule. -/
theorem Wp.bind {Q : Final σ τ ε β → Prop} {x : Prog S ε α} {f : α → Prog S ε β} {s : σ} {t : τ}
    (h : x.Wp sem (fun F => F.elim (fun a s' t' => (f a).Wp sem Q s' t')
      (fun e s' t' => Q ⟨s', t', .error e⟩)) s t) : (x >>= f).Wp sem Q s t := by
  unfold Wp at h ⊢
  rw [run_bind]
  rcases hx : x.run sem s t with ⟨s', t', r⟩
  rw [hx] at h
  cases r with
  | ok a => exact h
  | error e => exact h

/-- Rule for a guarded program. -/
theorem Wp.tryCatch {Q : Final σ τ ε α → Prop} {x : Prog S ε α} {h : ε → Prog S ε α} {s : σ}
    {t : τ} (hx : x.Wp sem (fun F => F.elim (fun a s' t' => Q ⟨s', t', .ok a⟩)
      (fun e s' t' => (h e).Wp sem Q s' t')) s t) : (x.tryCatch h).Wp sem Q s t := by
  unfold Wp at hx ⊢
  rw [run_tryCatch]
  rcases hr : x.run sem s t with ⟨s', t', r⟩
  rw [hr] at hx
  cases r with
  | ok a => exact hx
  | error e => exact hx

theorem Wp.mono {Q Q' : Final σ τ ε α → Prop} (hQ : ∀ F, Q F → Q' F) {x : Prog S ε α} {s : σ}
    {t : τ} (h : x.Wp sem Q s t) : x.Wp sem Q' s t := hQ _ h

end Run

/-! ## The operations of a program -/

section Only

/-- Every operation that the program can issue, whatever the replies are, meets `P`. -/
def Only (P : S.Op → Prop) : Prog S ε α → Prop
  | done _ => True
  | fail _ => True
  | call o next => P o ∧ ∀ r, (next r).Only P

variable {P : S.Op → Prop}

theorem Only.op {o : S.Op} (h : P o) : (op o : Prog S ε (S.Reply o)).Only P :=
  ⟨h, fun _ => trivial⟩

theorem Only.bind {x : Prog S ε α} {f : α → Prog S ε β} (hx : x.Only P)
    (hf : ∀ a, (f a).Only P) : (x >>= f).Only P := by
  induction x with
  | done a => exact hf a
  | fail e => trivial
  | call o next ih => exact ⟨hx.1, fun r => ih r (hx.2 r)⟩

theorem Only.tryCatch {x : Prog S ε α} {h : ε → Prog S ε α} (hx : x.Only P)
    (hh : ∀ e, (h e).Only P) : (x.tryCatch h).Only P := by
  induction x with
  | done a => trivial
  | fail e => exact hh e
  | call o next ih => exact ⟨hx.1, fun r => ih r (hx.2 r)⟩

theorem Only.mono {P' : S.Op → Prop} (hP : ∀ o, P o → P' o) {x : Prog S ε α} (hx : x.Only P) :
    x.Only P' := by
  induction x with
  | done a => trivial
  | fail e => trivial
  | call o next ih => exact ⟨hP o hx.1, fun r => ih r (hx.2 r)⟩

/-- What every operation of the program keeps holds in the end. -/
theorem Only.run_inv {sem : Sem S σ τ} {I : σ → τ → Prop}
    (hP : ∀ o s t, P o → I s t → I (sem o s t).1 (sem o s t).2.1) {x : Prog S ε α}
    (hx : x.Only P) {s : σ} {t : τ} (h : I s t) :
    I (x.run sem s t).shared (x.run sem s t).loc := by
  induction x generalizing s t with
  | done a => exact h
  | fail e => exact h
  | call o next ih => exact ih _ (hx.2 _) (hP o s t hx.1 h)

/-- Frame rule: what every operation of the program keeps may be used in the postcondition. -/
theorem Wp.frame {sem : Sem S σ τ} {I : σ → τ → Prop}
    (hP : ∀ o s t, P o → I s t → I (sem o s t).1 (sem o s t).2.1) {Q : Final σ τ ε α → Prop}
    {x : Prog S ε α} (hx : x.Only P) {s : σ} {t : τ} (hI : I s t)
    (h : x.Wp sem (fun F => I F.shared F.loc → Q F) s t) : x.Wp sem Q s t :=
  h (hx.run_inv hP hI)

end Only

/-! ## Execution under interference -/

section Ensures

variable (sem : Sem S σ τ)

/-- `x.Ensures sem G Q t`: started with local state `t`, every operation of `x` satisfies the
guarantee `G` (operation, states before, states after) whatever shared state it meets, and the end
satisfies `Q`. -/
def Ensures (G : S.Op → σ → τ → σ → τ → Prop) (Q : Except ε α → τ → Prop) :
    Prog S ε α → τ → Prop
  | done a, t => Q (.ok a) t
  | fail e, t => Q (.error e) t
  | call o next, t => ∀ s : σ, G o s t (sem o s t).1 (sem o s t).2.1 ∧
      (next (sem o s t).2.2).Ensures G Q (sem o s t).2.1

variable {sem} {G : S.Op → σ → τ → σ → τ → Prop}

/-- Sequencing rule. -/
theorem Ensures.bind {Q : Except ε α → τ → Prop} {Q' : Except ε β → τ → Prop}
    {x : Prog S ε α} {f : α → Prog S ε β} {t : τ} (h : x.Ensures sem G Q t)
    (hok : ∀ a t', Q (.ok a) t' → (f a).Ensures sem G Q' t')
    (herr : ∀ e t', Q (.error e) t' → Q' (.error e) t') :
    (x >>= f).Ensures sem G Q' t := by
  induction x generalizing t with
  | done a => exact hok a t h
  | fail e => exact herr e t h
  | call o next ih => exact fun s => ⟨(h s).1, ih _ (h s).2⟩

/-- Rule for a guarded program. -/
theorem Ensures.tryCatch {Q Q' : Except ε α → τ → Prop} {x : Prog S ε α}
    {h : ε → Prog S ε α} {t : τ} (hx : x.Ensures sem G Q t)
    (hok : ∀ a t', Q (.ok a) t' → Q' (.ok a) t')
    (herr : ∀ e t', Q (.error e) t' → (h e).Ensures sem G Q' t') :
    (x.tryCatch h).Ensures sem G Q' t := by
  induction x generalizing t with
  | done a => exact hok a t hx
  | fail e => exact herr e t hx
  | call o next ih => exact fun s => ⟨(hx s).1, ih _ (hx s).2⟩

/-- A program that issues only operations which always keep the guarantee. -/
theorem Only.ensures {P : S.Op → Prop} (hP : ∀ o s t, P o → G o s t (sem o s t).1 (sem o s t).2.1)
    {x : Prog S ε α} (hx : x.Only P) (t : τ) : x.Ensures sem G (fun _ _ => True) t := by
  induction x generalizing t with
  | done a => trivial
  | fail e => trivial
  | call o next ih => exact fun s => ⟨hP o s t hx.1, ih _ (hx.2 _) _⟩

/-- What the guarantee keeps holds in the end. -/
theorem Ensures.run_inv {Q : Except ε α → τ → Prop} {I : σ → τ → Prop}
    (hG : ∀ o s t, G o s t (sem o s t).1 (sem o s t).2.1 → I s t → I (sem o s t).1 (sem o s t).2.1)
    {x : Prog S ε α} {s : σ} {t : τ} (hx : x.Ensures sem G Q t) (h : I s t) :
    I (x.run sem s t).shared (x.run sem s t).loc := by
  induction x generalizing s t with
  | done a => exact h
  | fail e => exact h
  | call o next ih => exact ih _ (hx s).2 (hG o s t (hx s).1 h)

end Ensures

end Prog

end InventoryHero.Interaction
