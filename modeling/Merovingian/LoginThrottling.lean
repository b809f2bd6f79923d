import Mathlib.Data.List.Perm.Basic
import Merovingian.AuthService
import Merovingian.OperationRuns

/-!
Concurrent password logins. The throttle is checked in one critical section and
a failure is recorded in another, with the password hash between them. The check knows
the failures that are recorded, but not the logins that it has admitted and that are
still verifying.
-/

namespace Merovingian.LoginThrottling

open ByteString AuthService OperationRuns List

/-- The record to which a failure is added, unless it starts a new one. -/
def openRecord (records : FailedLogins) (now : Int) (userId : Bytes) : Option FailedLoginRecord :=
  ((expireFailedLogins records now).lookup userId).filter fun record =>
    now - record.firstFailure ≤ failedLoginWindow

/-- The records, the logins that the check admitted and that are still
verifying, and each user's failed ones since the last reset. -/
structure ThrottleRun where
  records : FailedLogins := []
  admitted : List Bytes := []
  failures : Bytes → Nat := fun _ => 0

/-- The critical sections, with the clock as it is read before locking. -/
inductive ThrottleAction where
  | check (now : Int) (userId : Bytes)
  | fail (now : Int) (index : Nat)
  | succeed (index : Nat)

namespace ThrottleRun

/-- Only failures of users with a record are since the last reset. -/
def keep (run : ThrottleRun) (records : FailedLogins) (admitted : List Bytes) : ThrottleRun :=
  ⟨records, admitted, fun user => if records.any (·.1 = user) then run.failures user else 0⟩

def act (run : ThrottleRun) : ThrottleAction → ThrottleRun
  | .check now userId =>
    let (retryAfterMs, records) := failedLoginLockoutRemainingMs run.records now userId
    run.keep records (if 0 < retryAfterMs then run.admitted else run.admitted ++ [userId])
  | .fail now index =>
    match run.admitted[index]? with
    | none => run
    | some userId =>
      let kept := run.keep (expireFailedLogins run.records now) (run.admitted.eraseIdx index)
      { kept with
        records := recordFailedLogin run.records now userId
        failures user :=
          if user = userId then
            (openRecord run.records now userId).elim 0 (fun _ => run.failures user) + 1
          else kept.failures user }
  | .succeed index =>
    match run.admitted[index]? with
    | none => run
    | some userId =>
      run.keep (eraseFailedLogin run.records userId) (run.admitted.eraseIdx index)

structure Counted (run : ThrottleRun) : Prop where
  counted : ∀ entry ∈ run.records, entry.2.count = run.failures entry.1
  unrecorded : ∀ user, (∀ entry ∈ run.records, entry.1 ≠ user) → run.failures user = 0

variable {run : ThrottleRun} {now : Int} {userId : Bytes} {records : FailedLogins}

namespace Counted

theorem keep (h : run.Counted) (hsubset : records ⊆ run.records) (admitted : List Bytes) :
    (run.keep records admitted).Counted where
  counted entry hmem := (h.counted entry (hsubset hmem)).trans
    (if_pos (any_eq_true.mpr ⟨entry, hmem, by simp⟩)).symm
  unrecorded user hnone := by
    refine if_neg fun hany => ?_
    obtain ⟨entry, hmem, hname⟩ := any_eq_true.mp hany
    exact hnone entry hmem (of_decide_eq_true hname)

theorem openRecord (h : run.Counted) {record : FailedLoginRecord}
    (hopen : openRecord run.records now userId = some record) :
    record.count = run.failures userId := by
  obtain ⟨before, after, hkept, -⟩ :=
    lookup_eq_some_iff.mp (Option.filter_eq_some_iff.mp hopen).1
  have hmem : (userId, record) ∈ expireFailedLogins run.records now := by simp [hkept]
  exact h.counted _ (mem_filter.mp hmem).1

end Counted

theorem recordFailedLogin_eq (records : FailedLogins) (now : Int) (userId : Bytes) :
    ∃ record, recordFailedLogin records now userId =
        (userId, record) :: eraseFailedLogin (expireFailedLogins records now) userId ∧
      record.count = (openRecord records now userId).elim 0 FailedLoginRecord.count + 1 := by
  refine ⟨_, rfl, ?_⟩
  rw [LoginThrottling.openRecord]
  rcases (expireFailedLogins records now).lookup userId with - | record
  · rfl
  · by_cases hover : failedLoginWindow < now - record.firstFailure
    · simp [hover, not_le.mpr hover, Option.filter]
    · by_cases hzero : record.count = 0 <;> simp [hover, hzero, not_lt.mp hover, Option.filter]

theorem act_counted (run : ThrottleRun) (action : ThrottleAction) (h : run.Counted) :
    (run.act action).Counted := by
  cases action with
  | check now userId =>
    rw [act]
    fun_cases failedLoginLockoutRemainingMs run.records now userId
    case case3 => exact h.keep filter_sublist.subset _
    all_goals exact h.keep (Subset.refl _) _
  | succeed index =>
    rw [act]
    split
    · exact h
    · exact h.keep filter_sublist.subset _
  | fail now index =>
    rw [act]
    rcases run.admitted[index]? with - | userId
    · exact h
    · have hkept : (run.keep (expireFailedLogins run.records now)
          (run.admitted.eraseIdx index)).Counted := h.keep filter_sublist.subset _
      obtain ⟨record, hrecords, hcount⟩ := recordFailedLogin_eq run.records now userId
      refine ⟨?_, fun user hnone => ?_⟩
      · simp only [hrecords]
        refine forall_mem_cons.mpr ⟨?_, fun entry hmem => ?_⟩
        · rw [if_pos rfl, hcount]
          rcases hopen : openRecord run.records now userId with - | opened
          · rfl
          · exact congrArg (· + 1) (h.openRecord hopen)
        · obtain ⟨hmem, hother⟩ := mem_filter.mp hmem
          exact (hkept.counted entry hmem).trans (if_neg (of_decide_eq_true hother)).symm
      · simp only [hrecords] at hnone
        obtain ⟨hother, hnone⟩ := forall_mem_cons.mp hnone
        refine (if_neg (Ne.symm hother)).trans ?_
        refine hkept.unrecorded user fun entry hmem heq => ?_
        refine hnone entry (mem_filter.mpr ⟨hmem, decide_eq_true ?_⟩) heq
        exact heq ▸ Ne.symm hother

end ThrottleRun

end Merovingian.LoginThrottling
