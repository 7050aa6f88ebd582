import InventoryHero.Interaction.Pool

/-!
# Runs that remember their past

`Run` is `Reach` with the past as data: the list of steps taken, latest first, each with the state
it was taken in. Whether a step may be taken can depend on the past, and so can what is claimed of a
state. Every earlier step was itself taken in a run (`Run.of_mem`).
-/

set_option autoImplicit false

namespace InventoryHero.Interaction

variable {σ ι : Type}

/-- A step that was taken, with the state before it. -/
structure Event (ι σ : Type) where
  act : ι
  before : σ

/-- The steps taken so far, latest first. -/
abbrev Past (ι σ : Type) : Type := List (Event ι σ)

/-- Pasts and the states they lead to: every step meets `ok` in the past and the state before it. -/
inductive Run (init : σ → Prop) (ok : Past ι σ → ι → σ → Prop) (step : ι → σ → σ) :
    Past ι σ → σ → Prop
  | start {s : σ} : init s → Run init ok step [] s
  | next {past : Past ι σ} {s : σ} (i : ι) : Run init ok step past s → ok past i s →
      Run init ok step (⟨i, s⟩ :: past) (step i s)

/-- The past and the state after further steps. -/
def replay (step : ι → σ → σ) : List ι → Past ι σ → σ → Past ι σ × σ
  | [], past, s => (past, s)
  | i :: rest, past, s => replay step rest (⟨i, s⟩ :: past) (step i s)

/-- The steps of a list, in order, each meet `ok` in the past and the state before it. -/
def Replayable (ok : Past ι σ → ι → σ → Prop) (step : ι → σ → σ) : List ι → Past ι σ → σ → Prop
  | [], _, _ => True
  | i :: rest, past, s => ok past i s ∧ Replayable ok step rest (⟨i, s⟩ :: past) (step i s)

instance Replayable.decidable {ok : Past ι σ → ι → σ → Prop} {step : ι → σ → σ}
    [∀ past i s, Decidable (ok past i s)] :
    ∀ (is : List ι) (past : Past ι σ) (s : σ), Decidable (Replayable ok step is past s)
  | [], _, _ => .isTrue trivial
  | i :: rest, past, s =>
      have : Decidable (Replayable ok step rest (⟨i, s⟩ :: past) (step i s)) :=
        Replayable.decidable rest _ _
      inferInstanceAs (Decidable (ok past i s ∧ Replayable ok step rest _ _))

variable {init : σ → Prop} {ok : Past ι σ → ι → σ → Prop} {step : ι → σ → σ} {past : Past ι σ}
  {s : σ}

namespace Run

/-- What holds initially and is kept by every step holds along every run. -/
theorem invariant {I : Past ι σ → σ → Prop} (hinit : ∀ s, init s → I [] s)
    (hstep : ∀ past i s, I past s → ok past i s → I (⟨i, s⟩ :: past) (step i s))
    (h : Run init ok step past s) : I past s := by
  induction h with
  | start h0 => exact hinit _ h0
  | next i _ hok ih => exact hstep _ i _ ih hok

/-- An earlier step was taken in a run, whose past is what lies before it. -/
theorem of_mem (h : Run init ok step past s) {e : Event ι σ} (he : e ∈ past) :
    ∃ newer older, past = newer ++ e :: older ∧ Run init ok step older e.before ∧
      ok older e.act e.before := by
  induction h with
  | start _ => cases he
  | @next past s i hs hi ih =>
      rcases List.mem_cons.1 he with rfl | he
      · exact ⟨[], past, rfl, hs, hi⟩
      · obtain ⟨newer, older, rfl, hrun, hok⟩ := ih he
        exact ⟨⟨i, s⟩ :: newer, older, rfl, hrun, hok⟩

/-- A run goes on with every list of steps that may be taken. -/
theorem replay (h : Run init ok step past s) (is : List ι) (his : Replayable ok step is past s) :
    Run init ok step (replay step is past s).1 (replay step is past s).2 := by
  induction is generalizing past s with
  | nil => exact h
  | cons i rest ih => exact ih (.next i h his.1) his.2

end Run

/-- There is an event in the past for which `P` holds, given what lies before it. -/
def Happened (P : Past ι σ → Event ι σ → Prop) (past : Past ι σ) : Prop :=
  ∃ newer e older, past = newer ++ e :: older ∧ P older e

theorem Happened.now {P : Past ι σ → Event ι σ → Prop} {e : Event ι σ} (h : P past e) :
    Happened P (e :: past) := ⟨[], e, past, rfl, h⟩

theorem Happened.later {P : Past ι σ → Event ι σ → Prop} (h : Happened P past) (e : Event ι σ) :
    Happened P (e :: past) := by
  obtain ⟨newer, e', older, rfl, he'⟩ := h
  exact ⟨e :: newer, e', older, rfl, he'⟩

end InventoryHero.Interaction
