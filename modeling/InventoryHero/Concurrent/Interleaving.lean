import InventoryHero.Concurrent.Rules
import InventoryHero.Interaction.Optimistic

/-!
# The server as a machine of reads and commits

A pool of requests whose handlers follow their plans refines the abstract machine of
`Interaction.Optimistic` (`interleaving_of_reach`): seen through `observe`, a step of the pool is a
read, a commit of planned writes, or nothing. Conditions on a run only concern the commits in it
(`AtCommit`).
-/

set_option autoImplicit false

namespace InventoryHero.Concurrent

open Interaction Storage Model

variable {ι : Type}

/-- Requests being served. -/
abbrev Requests (ι : Type) := Pool mongo ι Db Exchange JsError Unit

/-- The committed store, with what each request has read and committed. -/
abbrev Board (ι : Type) := Interleaved ι Store Query Writes

def observe (p : Requests ι) : Board ι :=
  ⟨p.shared.store, fun i => ⟨(p.procs i).loc.reads, committed? (p.procs i).loc⟩⟩

/-- The transaction that the next operation of request `i` commits, unless there is a write
conflict. -/
def committing (p : Requests ι) (i : ι) : Option Txn :=
  match (p.procs i).prog, (p.procs i).loc.session with
  | .call .commitTransaction _, .inProgress t => if t.conflicts p.shared then none else some t
  | _, _ => none

theorem committing_of_commit {p : Requests ι} {i : ι} {t : Txn}
    {next : Except MongoError Unit → Js Unit}
    (hprog : (p.procs i).prog = .call .commitTransaction next)
    (hopen : (p.procs i).loc.session = .inProgress t) (hconf : t.conflicts p.shared = false) :
    committing p i = some t := by
  simp [committing, hprog, hopen, hconf]

/-- If the next step of request `i` commits the writes `w`, they meet the condition `C`. -/
def AtCommit (C : ι → Writes → Board ι → Prop) (i : ι) (p : Requests ι) : Prop :=
  ∀ t ∈ committing p i, C i t.writes (observe p)

instance (C : ι → Writes → Board ι → Prop) [∀ i w m, Decidable (C i w m)] (i : ι)
    (p : Requests ι) : Decidable (AtCommit C i p) :=
  inferInstanceAs (Decidable (∀ t ∈ committing p i, C i t.writes (observe p)))

variable [DecidableEq ι]

/-- A commit that is planned, accepted by the store and meets the condition `C`. -/
def Allowed (P : ι → Reads → Writes → Prop) (C : ι → Writes → Board ι → Prop) (j : ι) (w : Writes)
    (m : Board ι) : Prop :=
  P j (m.progress j).reads w ∧ m.state.accepts w = true ∧ C j w m

/-- A request whose local state changes is seen in its reads and its commit only. -/
theorem observe_update {p : Requests ι} {j : ι} {db' : Db} {x' : Exchange} {prog : Js Unit} :
    observe ⟨db', Function.update p.procs j ⟨x', prog⟩⟩ =
      ⟨db'.store, Function.update (observe p).progress j ⟨x'.reads, committed? x'⟩⟩ := by
  simp only [observe, Interleaved.mk.injEq, true_and]
  funext i
  by_cases hij : i = j
  · subst hij
    simp
  · simp [Function.update_of_ne hij]

/-- **Refinement.** Every run of the handlers is a run of the machine of reads and commits. -/
theorem interleaving_of_reach {P : ι → Reads → Writes → Prop}
    {C : ι → Writes → Board ι → Prop} {db₀ : Db} {calls : ι → Call} {p : Requests ι}
    (hfollows : ∀ i, Follows (P i) (handler (calls i).request (calls i).caller)
      (.init (calls i).env))
    (h : Reach (· = arrivals db₀ calls) (AtCommit C) (Pool.step sem) p) :
    Interleaving Store.apply (Allowed P C) db₀.store (observe p) := by
  have hpool : (arrivals db₀ calls).Ensures sem (fun i => Acts (P i)) fun _ _ _ => True := hfollows
  refine Pool.invariant (I := fun p => Interleaving Store.apply (Allowed P C) db₀.store (observe p))
    ?_ hpool ?_ h
  · exact .init
  · intro p i o next hprog hok hI hacts
    rw [Pool.step_of_call hprog, observe_update]
    cases hacts with
    | quiet store session reads =>
        rw [store, session]
        rcases reads with reads | ⟨hopen, q, reads⟩
        · -- nothing to be seen
          have hsame : Function.update (observe p).progress i
              ⟨(p.procs i).loc.reads, committed? (p.procs i).loc⟩ = (observe p).progress :=
            Function.update_eq_self i (observe p).progress
          rw [reads, hsame]
          exact hI
        · rw [reads]
          exact hI.read i q hopen
    | commits t commit open_ planned conflicts accepted store session reads =>
        subst commit
        rw [store, session, reads]
        refine hI.commit i t.writes (by simp [observe, committed?, open_]) ⟨planned, accepted, ?_⟩
        exact hok t (committing_of_commit hprog open_ conflicts)

end InventoryHero.Concurrent
