import Mathlib.Logic.Basic

/-!
Runs of a state machine that takes one operation after another: the state after
a list of operations, conditions that every operation meets in the state it
finds, and the two rules by which a fact is carried along a run. Nothing here
mentions the homeserver.
-/

namespace Merovingian.OperationRuns

variable {State Operation : Type}

def run (step : State → Operation → State) (state : State) (operations : List Operation) : State :=
  operations.foldl step state

/-- Every operation meets the condition in the state that it finds. -/
def Along (step : State → Operation → State) (Condition : State → Operation → Prop) :
    State → List Operation → Prop
  | _, [] => True
  | state, operation :: rest =>
    Condition state operation ∧ Along step Condition (step state operation) rest

instance decidableAlong (step : State → Operation → State)
    (Condition : State → Operation → Prop) [∀ state, DecidablePred (Condition state)] :
    (state : State) → (operations : List Operation) →
      Decidable (Along step Condition state operations)
  | _, [] => isTrue trivial
  | state, operation :: rest =>
    have := decidableAlong step Condition (step state operation) rest
    inferInstanceAs (Decidable (_ ∧ _))

variable {step : State → Operation → State} {Condition : State → Operation → Prop}

@[simp] theorem run_nil (state : State) : run step state [] = state :=
  rfl

@[simp] theorem run_cons (state : State) (operation : Operation) (rest : List Operation) :
    run step state (operation :: rest) = run step (step state operation) rest :=
  rfl

theorem run_append (state : State) (first second : List Operation) :
    run step state (first ++ second) = run step (run step state first) second :=
  List.foldl_append

variable {motive : State → Prop} {operations : List Operation} {state : State}

theorem along_append {first second : List Operation} :
    Along step Condition state (first ++ second) ↔ Along step Condition state first ∧
        Along step Condition (run step state first) second := by
  induction first generalizing state with
  | nil => simp [Along]
  | cons operation rest ih =>
    rw [List.cons_append]
    simp only [Along, run_cons, ih, and_assoc]

theorem Along.and {Other : State → Operation → Prop}
    (halong : Along step Condition state operations) (hother : Along step Other state operations) :
    Along step (fun state operation => Condition state operation ∧ Other state operation) state
      operations := by
  induction operations generalizing state with
  | nil => trivial
  | cons operation rest ih => exact ⟨⟨halong.1, hother.1⟩, ih halong.2 hother.2⟩

/-- Where an operation keeps a fact exactly when it meets the condition, a run keeps the
fact in every state that it reaches exactly when all its operations meet the condition. -/
theorem along_congr (hstep : ∀ state operation, motive state →
      (motive (step state operation) ↔ Condition state operation)) (hinitial : motive state) :
    Along step (fun state operation => motive (step state operation)) state operations ↔
      Along step Condition state operations := by
  induction operations generalizing state with
  | nil => exact Iff.rfl
  | cons operation rest ih =>
    have hstep := hstep state operation hinitial
    constructor
    · rintro ⟨hkept, hrest⟩
      exact ⟨hstep.mp hkept, (ih hkept).mp hrest⟩
    · rintro ⟨hcondition, hrest⟩
      have hkept := hstep.mpr hcondition
      exact ⟨hkept, (ih hkept).mpr hrest⟩

/-- A fact that every admitted operation keeps holds after a whole run. -/
theorem Along.invariant (halong : Along step Condition state operations)
    (hstep : ∀ state operation, motive state → Condition state operation →
      motive (step state operation)) (hinitial : motive state) :
    motive (run step state operations) := by
  induction operations generalizing state with
  | nil => exact hinitial
  | cons operation rest ih =>
    exact ih halong.2 (hstep state operation hinitial halong.1)

theorem run_invariant
    (hstep : ∀ state operation, motive state → motive (step state operation))
    (hinitial : motive state) (operations : List Operation) :
    motive (run step state operations) := by
  induction operations generalizing state with
  | nil => exact hinitial
  | cons operation rest ih => exact ih (hstep state operation hinitial)

end Merovingian.OperationRuns
