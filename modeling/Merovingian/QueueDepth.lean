import Merovingian.DurableDispatch

/-!
The bound on the dispatch worker's queue and the count of what is pending, when an
attempt gives up its lock and other threads enqueue in between. The slot that an attempt
frees may be filled before the attempt puts its transaction back, and putting back does
not look at the bound.
-/

namespace Merovingian.QueueDepth

open DispatchWorker DurableDispatch OperationRuns TableMirror List

/-- How far an attempt is: its transaction is off the queue, and then off the count. -/
inductive AttemptStage where
  | idle
  | taken (transaction : OutboundTransaction)
  | counted (transaction : OutboundTransaction)

def AttemptStage.uncounted : AttemptStage → Nat
  | .taken _ => 1
  | _ => 0

structure CountedWorker where
  worker : Worker
  pending : Nat := 0
  stage : AttemptStage := .idle

/-- What happens under one lock. An attempt takes, counts and concludes, the last with any
answer of the client, or with none of the resolver. -/
inductive LockedSection where
  | enqueue (transaction : OutboundTransaction)
  | replay
  | take (now : UInt64)
  | count
  | conclude (destination : FederationDestination) (result : Option OutboundTransactionResult)
      (now : UInt64)

section Sections

variable (config : DispatchWorkerConfig)

def replayedRows (worker : Worker) : Nat :=
  worker.tables.federationTransactions.countP
      (fun row => transactionIsWellFormed (toOutboundTransaction row)) -
    ((replayPending config worker).pendingReplay.length - worker.pendingReplay.length)

def CountedWorker.act (state : CountedWorker) : LockedSection → CountedWorker
  | .enqueue transaction =>
    let enqueued := enqueue config state.worker transaction
    { state with worker := enqueued.2, pending := state.pending + enqueued.1.toNat }
  | .replay =>
    { state with
      worker := replayPending config state.worker
      pending := state.pending + replayedRows config state.worker }
  | .take now =>
    match state.stage, takeNext config state.worker now with
    | .idle, some (transaction, taken) =>
      -- what is no longer parked has been counted
      { worker := taken
        pending := state.pending +
          (state.worker.pendingReplay.length - taken.pendingReplay.length)
        stage := .taken transaction }
    | _, _ => state
  | .count =>
    match state.stage with
    | .taken transaction =>
      { state with pending := state.pending - 1, stage := .counted transaction }
    | _ => state
  | .conclude destination result now =>
    match state.stage with
    | .counted transaction =>
      let after := conclude config state.worker transaction destination result now
      { worker := after.2, pending := state.pending + if after.1 = .requeued then 1 else 0 }
    | _ => state

def PutsBackWithRoom (state : CountedWorker) : LockedSection → Prop
  | .conclude destination result now => ∀ transaction, state.stage = .counted transaction →
      (conclude config state.worker transaction destination result now).1 = .requeued →
        state.worker.queue.length < config.maxQueueDepth
  | _ => True

end Sections

variable {config : DispatchWorkerConfig} {worker : Worker} {transaction : OutboundTransaction}
  {now : UInt64}

variable (config worker transaction now) in
theorem conclude_length (destination : FederationDestination)
    (result : Option OutboundTransactionResult) :
    let after := conclude config worker transaction destination result now
    after.2.queue.length = worker.queue.length + if after.1 = .requeued then 1 else 0 := by
  refine conclude_induction (motive := fun after => after.2.queue.length =
    worker.queue.length + if after.1 = .requeued then 1 else 0) _ rfl (fun new _ => ?_) ?_
    (fun _ => rfl)
  · unfold requeue
    split
    · rfl
    · exact length_append
  · rintro new _ tables - (rfl | rfl) - <;> rfl

section Pushing

def Pushes (config : DispatchWorkerConfig) (before after : List OutboundTransaction)
    (count : Nat) : Prop :=
  after.length = before.length + count ∧ after.length ≤ max before.length config.maxQueueDepth

variable (hdepth : 0 < config.maxQueueDepth)
include hdepth

variable (transaction) in
theorem pushes_singleton {queue : List OutboundTransaction}
    (hroom : ¬ queueIsFull config queue = true) :
    Pushes config queue (queue ++ [transaction]) 1 := by
  simp only [queueIsFull, hdepth.ne', ne_eq, not_false_eq_true, decide_true, Bool.true_and,
    decide_eq_true_eq, not_le] at hroom
  exact ⟨length_append, by rw [length_append]; exact le_max_of_le_right hroom⟩

theorem enqueue_pushes : Pushes config worker.queue (enqueue config worker transaction).2.queue
    (enqueue config worker transaction).1.toNat := by
  fun_cases enqueue config worker transaction
  case case5 hfull _ _ => exact pushes_singleton _ hdepth hfull
  all_goals exact ⟨rfl, le_max_left _ _⟩

theorem topUpReplay_pushes (queue parked : List OutboundTransaction) :
    Pushes config queue (topUpReplay config queue parked).1
      (parked.length - (topUpReplay config queue parked).2.length) := by
  induction parked generalizing queue with
  | nil => exact ⟨rfl, le_max_left _ _⟩
  | cons front rest ih =>
    rw [topUpReplay]
    split_ifs with hfull
    · exact ⟨by simp, le_max_left _ _⟩
    · obtain ⟨hlength, hbound⟩ := pushes_singleton front hdepth hfull
      obtain ⟨hrest, hrestBound⟩ := ih (queue ++ [front])
      have hparked := congrArg length (topUpReplay_append config (queue ++ [front]) rest)
      simp only [length_append, length_cons] at *
      exact ⟨by omega, by omega⟩

variable (worker) in
theorem foldl_replayTransaction_pushes (rows : List PersistentFederationTransaction) :
    let after := rows.foldl (replayTransaction config) worker
    let formed := rows.countP fun row => transactionIsWellFormed (toOutboundTransaction row)
    worker.pendingReplay.length ≤ after.pendingReplay.length ∧
      after.pendingReplay.length ≤ worker.pendingReplay.length + formed ∧
      Pushes config worker.queue after.queue
        (formed - (after.pendingReplay.length - worker.pendingReplay.length)) := by
  induction rows generalizing worker with
  | nil => exact ⟨le_rfl, le_rfl, by simp, le_max_left _ _⟩
  | cons row rest ih =>
    have hrest := ih (replayTransaction config worker row)
    rw [foldl_cons, countP_cons]
    unfold Pushes at hrest ⊢
    rcases hrow : transactionIsWellFormed (toOutboundTransaction row) with - | -
    · simpa [replayTransaction, hrow] using hrest
    · by_cases hfull : queueIsFull config worker.queue = true
      · simp only [replayTransaction, hrow, hfull, Bool.not_true, Bool.false_eq_true, if_false,
          if_true, length_append, length_singleton] at hrest ⊢
        omega
      · have hroom := (pushes_singleton (toOutboundTransaction row) hdepth hfull).2
        simp only [replayTransaction, hrow, hfull, Bool.not_true, Bool.false_eq_true, if_false,
          if_true, length_append, length_singleton] at hrest hroom ⊢
        omega

def Counted (state : CountedWorker) : Prop :=
  state.pending = state.worker.queue.length + state.stage.uncounted

theorem act_counted (state : CountedWorker) (next : LockedSection) :
    (Counted state → Counted (state.act config next)) ∧
      (state.worker.queue.length ≤ config.maxQueueDepth →
        ((state.act config next).worker.queue.length ≤ config.maxQueueDepth ↔
          PutsBackWithRoom config state next)) := by
  obtain ⟨worker, pending, stage⟩ := state
  have hkeeps : ∀ {after count}, Pushes config worker.queue after.queue count →
      (Counted ⟨worker, pending, stage⟩ → Counted ⟨after, pending + count, stage⟩) ∧
        (worker.queue.length ≤ config.maxQueueDepth →
          (after.queue.length ≤ config.maxQueueDepth ↔ True)) := by
    rintro after count ⟨hlength, hbound⟩
    refine ⟨fun h => ?_, fun hle => iff_of_true (hbound.trans (max_le hle le_rfl)) trivial⟩
    unfold Counted at h ⊢
    dsimp only at h ⊢
    omega
  cases next with
  | enqueue transaction => exact hkeeps (enqueue_pushes hdepth)
  | replay => exact hkeeps (foldl_replayTransaction_pushes _ hdepth _).2.2
  | take now =>
    unfold CountedWorker.act
    dsimp only
    split
    next transaction taken htaken =>
      unfold takeNext at htaken
      split at htaken
      · cases htaken
      next ready hfound =>
        cases htaken
        have hready := (perm_eraseP_of_find? hfound).length_eq
        obtain ⟨hlength, hbound⟩ := topUpReplay_pushes hdepth
          (worker.queue.eraseP fun candidate => candidate.nextRetryTs ≤ now) worker.pendingReplay
        rw [length_cons] at hready
        refine ⟨fun h => ?_, fun hle => iff_of_true ?_ trivial⟩
        · dsimp only [Counted, AttemptStage.uncounted] at h ⊢
          omega
        · dsimp only at hle ⊢
          omega
    · exact ⟨id, fun hle => iff_of_true hle trivial⟩
  | count =>
    refine ⟨fun h => ?_, fun hle => ?_⟩
    · cases stage with
      | taken transaction => exact (congrArg (· - 1) h :)
      | _ => exact h
    · cases stage <;> exact iff_of_true hle trivial
  | conclude destination result now =>
    cases stage with
    | counted transaction =>
      have hlength := conclude_length config worker transaction now destination result
      refine ⟨fun h => ?_, fun hle => ?_⟩
      · exact (congrArg (· + _) h).trans hlength.symm
      · dsimp only [CountedWorker.act]
        rw [hlength]
        split_ifs with hrequeued
        · exact ⟨fun hroom _ _ _ => hroom, fun hroom => hroom transaction rfl hrequeued⟩
        · refine iff_of_true hle ?_
          rintro _ ⟨⟩ hagain
          exact absurd hagain hrequeued
    | _ => exact ⟨id, fun hle => iff_of_true hle (by rintro _ ⟨⟩)⟩

end Pushing

/-- A run from an empty queue keeps within the bound exactly when no transaction is put
back into a full queue, and between attempts the count is the length of the queue. -/
theorem depth_kept_iff (config : DispatchWorkerConfig) (hdepth : 0 < config.maxQueueDepth)
    (tables : FederationTables) (sections : List LockedSection) :
    let start : CountedWorker := { worker := { tables } }
    let after := run (CountedWorker.act config) start sections
    (Along (CountedWorker.act config) (fun state next =>
        (state.act config next).worker.queue.length ≤ config.maxQueueDepth) start sections ↔
      Along (CountedWorker.act config) (PutsBackWithRoom config) start sections) ∧
    (after.stage = .idle → after.pending = after.worker.queue.length) := by
  intro start after
  have hempty : start.worker.queue.length ≤ config.maxQueueDepth := Nat.zero_le _
  have hstart : Counted start := rfl
  constructor
  · exact along_congr (motive := (·.worker.queue.length ≤ config.maxQueueDepth))
      (fun state next => (act_counted hdepth state next).2) hempty
  · intro hidle
    have hcounted : Counted after :=
      run_invariant (fun state next => (act_counted hdepth state next).1) hstart sections
    rwa [Counted, hidle] at hcounted

/-- With room for one, a transaction is taken, another comes, and the first is put back. -/
theorem freed_slot_is_filled_before_putting_back :
    (run (CountedWorker.act { maxQueueDepth := 1 }) { worker := {} }
      [.enqueue (sampleTransaction "t1" "b.org"), .take 0, .count,
        .enqueue (sampleTransaction "t2" "b.org"), .conclude {} none 5]).worker.queue.length =
      2 := by
  decide +kernel

theorem retried_transaction_is_put_back_with_room :
    let sections := [.enqueue (sampleTransaction "t1" "b.org"), .take 0, .count,
      .conclude {} none 5]
    let after := run (CountedWorker.act { maxQueueDepth := 1 }) { worker := {} } sections
    Along (CountedWorker.act { maxQueueDepth := 1 }) (fun state next =>
      (state.act { maxQueueDepth := 1 } next).worker.queue.length ≤ 1) { worker := {} } sections ∧
    after.pending = after.worker.queue.length := by
  intro sections after
  have h := depth_kept_iff { maxQueueDepth := 1 } Nat.one_pos {} sections
  refine ⟨h.1.mpr ⟨trivial, trivial, trivial, fun _ _ _ => ?_, trivial⟩, h.2 ?_⟩
  · decide +kernel
  · rfl

end Merovingian.QueueDepth
