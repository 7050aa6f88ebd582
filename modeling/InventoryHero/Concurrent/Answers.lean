import InventoryHero.Concurrent.Runs

/-!
# Answers under concurrency

A client learns from the status of the answer whether its transaction has committed. This stays so
when requests are interleaved, though the handlers compute their answers from reads that other
requests may have made obsolete: at every moment, an answer that was sent is a success if and only
if the transaction has committed (`answers_honest`). So a request that was told of an error commits
nothing afterwards, and one that was told of a success has its writes in the store at once. The
exception is `recordSales`, which answers that a batch is empty and goes on.
-/

set_option autoImplicit false

namespace InventoryHero.Concurrent

open Interaction Model

section Step

variable {o : Op} {x : Exchange × Notes}

/-- An answer is sent by `send`, and is the only one. -/
theorem sent_step (o : Op) (db : Db) (x : Exchange × Notes) :
    (notedSem o db x).2.1.1.sent = x.1.sent ∨
      ∃ a, o = .send a ∧ (notedSem o db x).2.1.1.sent = [a] := by
  cases o with
  | send a =>
      simp only [notedSem, Sem.ghost, sem, execSend]
      split
      · exact .inr ⟨a, rfl, rfl⟩
      · exact .inl rfl
  | _ =>
      refine .inl ?_
      simp only [notedSem, Sem.ghost, sem, execInSession, execDirect, execCommit, execAbort,
        execDestroy]
      repeat' split
      all_goals rfl

/-- Only a commit changes whether the request has committed, and the answers of before do not tell
of it. -/
theorem Honest.step {request : Request} {caller : Caller} {a : Response}
    (h : Honest request x.1 a) (db : Db) (hmay : May (.stock request) caller o x)
    (ha : a ∈ x.1.sent) : Honest request (notedSem o db x).2.1.1 a := by
  rcases committed_step db hmay with hsame | ⟨rfl, -⟩
  · rwa [Honest, hsame]
  · obtain ⟨r, hr, hempty⟩ := hmay
    cases hr
    exact .inl (hempty a ha)

theorem honest_send {request : Request} {caller : Caller} {a : Response} (db : Db)
    (hmay : May (.stock request) caller (.send a) x) :
    Honest request (notedSem (.send a) db x).2.1.1 a := by
  rcases committed_step db hmay with hsame | ⟨hcommit, -⟩
  · rw [Honest, hsame]
    exact hmay request rfl
  · cases hcommit

end Step

section Interleavings

variable {ι : Type} [DecidableEq ι] {calls : ι → WriteCall}

/-- **Answers tell the truth in every interleaving.** At every moment, the status of an answer that
a request has sent is below 300 if and only if its transaction has committed, unless it is the
answer of a sale that a batch is empty. -/
theorem answers_honest {db₀ : Db} {p : Requests ι} (h : Interleaves (writers db₀ calls) p) :
    ∀ i r, (calls i).request = .stock r →
      ∀ a ∈ (p.procs i).loc.sent, Honest r (p.procs i).loc a := by
  obtain ⟨q, rfl, -, hq⟩ := (conducted_writers db₀ calls).invariant
    (I := fun _ loc => ∀ i r, (calls i).request = .stock r →
      ∀ a ∈ (loc i).1.sent, Honest r (loc i).1 a) (fun i r _ => List.forall_mem_nil _) (by
      intro db loc i o hmay hI
      refine forall_locals (P := fun i (x : Exchange × Notes) => ∀ r, (calls i).request = .stock r →
        ∀ a ∈ x.1.sent, Honest r x.1 a) (fun r hr a ha => ?_) fun j _ => hI j
      rw [hr] at hmay
      rcases sent_step o db (loc i) with hsent | ⟨a', rfl, hsent⟩
      · rw [hsent] at ha
        exact (hI i r hr a ha).step db hmay ha
      · rw [hsent, List.mem_singleton] at ha
        subst ha
        exact honest_send db hmay) h
  exact hq

end Interleavings

theorem answers_honest_busyRun :
    (∀ i r, (busyCalls i).request = .stock r →
      ∀ a ∈ (busyRun.procs i).loc.sent, Honest r (busyRun.procs i).loc a) ∧
    ((busyRun.procs 1).loc.sent.map Response.status = [201] ∧ (busyRun.procs 2).loc.sent = []) :=
  ⟨answers_honest interleaves_busyRun, by decide +kernel⟩

end InventoryHero.Concurrent
