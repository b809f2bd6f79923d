import Mathlib.Data.Set.Insert
import Mathlib.Logic.Relation

/-!
Doing a job at most once. A task is for a job; it may start when its job is not
on record and no other task for it is under way, it acts while it is under way,
and it ends with its job put on record. Then one task at most acts for a job.
-/

namespace Merovingian.ReplayLedger

variable {Task Job : Type*}

/-- The tasks that are under way, the jobs on record, the tasks that have acted. -/
structure Ledger (Task Job : Type*) where
  underWay : Set Task
  recorded : Set Job
  acted : Set Task

namespace Ledger

variable (job : Task → Job)

inductive Step : Ledger Task Job → Ledger Task Job → Prop where
  | start {ledger : Ledger Task Job} (task : Task) (hnew : job task ∉ ledger.recorded)
      (halone : ∀ other ∈ ledger.underWay, job other ≠ job task) :
      Step ledger { ledger with underWay := insert task ledger.underWay }
  | act {ledger : Ledger Task Job} (task : Task) (hunder : task ∈ ledger.underWay) :
      Step ledger { ledger with acted := insert task ledger.acted }
  | finish {ledger : Ledger Task Job} (task : Task) (hunder : task ∈ ledger.underWay) : Step ledger
        { ledger with
          underWay := ledger.underWay \ {task}
          recorded := insert (job task) ledger.recorded }

def empty : Ledger Task Job := ⟨∅, ∅, ∅⟩

/-- A task that has acted is still under way or its job is on record, and the
tasks that are under way or have acted are for jobs of their own. -/
structure Valid (ledger : Ledger Task Job) : Prop where
  settled : ∀ task ∈ ledger.acted, task ∈ ledger.underWay ∨ job task ∈ ledger.recorded
  once : ∀ task ∈ ledger.underWay ∪ ledger.acted, ∀ other ∈ ledger.underWay ∪ ledger.acted,
    job task = job other → task = other

variable {job}

theorem valid_empty : Valid job (empty : Ledger Task Job) :=
  ⟨fun _ h => h.elim, fun _ h => h.elim (fun h => h.elim) fun h => h.elim⟩

theorem Step.valid {before after : Ledger Task Job} (hstep : Step job before after)
    (hvalid : Valid job before) : Valid job after := by
  obtain ⟨hsettled, honce⟩ := hvalid
  cases hstep with
  | start task hnew halone =>
    -- The job of the task that starts belongs to no task so far.
    have hfresh : ∀ other ∈ before.underWay ∪ before.acted, job other ≠ job task := by
      rintro other (hunder | hacted)
      · exact halone other hunder
      · rcases hsettled other hacted with hunder | hrecorded
        · exact halone other hunder
        · rintro heq
          rw [heq] at hrecorded
          exact hnew hrecorded
    refine ⟨fun other hacted => (hsettled other hacted).imp_left .inr, ?_⟩
    rw [Set.insert_union]
    rintro first (rfl | hfirst) second (rfl | hsecond) heq
    · rfl
    · exact absurd heq.symm (hfresh second hsecond)
    · exact absurd heq (hfresh first hfirst)
    · exact honce first hfirst second hsecond heq
  | act task hunder =>
    have hsame : before.underWay ∪ insert task before.acted = before.underWay ∪ before.acted := by
      rw [Set.union_insert]
      exact Set.insert_eq_of_mem (.inl hunder)
    refine ⟨?_, ?_⟩
    · rintro other (rfl | hacted)
      · exact .inl hunder
      · exact hsettled other hacted
    · rw [hsame]
      exact honce
  | finish task hunder =>
    refine ⟨?_, ?_⟩
    · intro other hacted
      rcases hsettled other hacted with hother | hrecorded
      · rcases eq_or_ne other task with rfl | hne
        · exact .inr (.inl rfl)
        · exact .inl ⟨hother, hne⟩
      · exact .inr (.inr hrecorded)
    · rintro first hfirst second hsecond heq
      exact honce first (hfirst.imp_left And.left) second (hsecond.imp_left And.left) heq

theorem valid_of_steps {before after : Ledger Task Job}
    (hsteps : Relation.ReflTransGen (Step job) before after) (hvalid : Valid job before) :
    Valid job after := by
  induction hsteps with
  | refl => exact hvalid
  | tail _ hstep ih => exact hstep.valid ih

end Ledger

end Merovingian.ReplayLedger
