import Merovingian.DispatchWorker
import Merovingian.OperationRuns

/-!
Whole runs of the dispatch worker. A transaction that the worker accepted is
unsettled until a server answers it with success or its retries are exhausted.
While no transaction is accepted under the id of one that the worker still
holds, the table has a row for each of the worker's transactions, and what is
unsettled goes out again after a restart. An attempt is one step of a run.
-/

namespace Merovingian.DurableDispatch

open ByteString CanonicalParser KeyedFold TableMirror DispatchWorker OperationRuns List

variable {config : DispatchWorkerConfig} {worker : Worker}

def unscheduled (transaction : OutboundTransaction) : OutboundTransaction :=
  { transaction with retryCount := 0, nextRetryTs := 0 }

structure SameDelivery (row : PersistentFederationTransaction)
    (transaction : OutboundTransaction) : Prop where
  transactionId : row.transactionId = transaction.transactionId
  destination : row.serverName = transaction.destination
  target : row.target = transaction.target
  body : row.body = transaction.body

variable (serverName : Bytes) (destination : FederationDestination) {now : UInt64}
  {transaction : OutboundTransaction}

theorem sameDelivery_of_unscheduled {held : OutboundTransaction}
    (h : unscheduled held = unscheduled transaction) :
    SameDelivery (toPersistentTransaction held) transaction := by
  simp only [unscheduled, OutboundTransaction.mk.injEq] at h
  obtain ⟨hid, hdestination, -, htarget, -, -, hbody, -⟩ := h
  exact ⟨hid, hdestination, htarget, hbody⟩

theorem wellFormed_of_unscheduled {taken new : OutboundTransaction}
    (hnew : unscheduled new = unscheduled taken) (hformed : transactionIsWellFormed taken = true) :
    transactionIsWellFormed new = true :=
  (congrArg transactionIsWellFormed hnew).trans hformed

def settle (transaction : OutboundTransaction) (unsettled : List OutboundTransaction) :
    List OutboundTransaction :=
  unsettled.filter fun other =>
    (other.transactionId, other.destination) ≠ (transaction.transactionId, transaction.destination)

/-- The table has the rows of the worker's transactions, and the unsettled ones
are among these. -/
structure Durable (rows : List PersistentFederationTransaction)
    (live unsettled : List OutboundTransaction) : Prop where
  wellFormed : ∀ transaction ∈ live, transactionIsWellFormed transaction = true
  mirrors : Mirrors PersistentFederationTransaction.transactionId toPersistentTransaction rows live
  held : ∀ transaction ∈ unsettled, ∃ held ∈ live, unscheduled held = unscheduled transaction

namespace Durable

variable {rows : List PersistentFederationTransaction} {live unsettled : List OutboundTransaction}
  {old new : OutboundTransaction}

theorem empty : Durable [] [] [] := by
  refine ⟨?_, Mirrors.nil, ?_⟩ <;>
  · intro transaction hmem
    cases hmem

theorem relive (h : Durable rows live unsettled) {loaded : List PersistentFederationTransaction}
    {others : List OutboundTransaction}
    (hmirrors : Mirrors PersistentFederationTransaction.transactionId toPersistentTransaction loaded
      others) (hothers : ∀ transaction, transaction ∈ others ↔ transaction ∈ live) :
    Durable loaded others unsettled := by
  refine ⟨?_, hmirrors, ?_⟩
  · intro transaction hmem
    exact h.wellFormed transaction ((hothers transaction).mp hmem)
  · intro transaction hmem
    obtain ⟨held, hheld, heq⟩ := h.held transaction hmem
    exact ⟨held, (hothers held).mpr hheld, heq⟩

theorem perm (h : Durable rows live unsettled) {others : List OutboundTransaction}
    (hperm : others.Perm live) : Durable rows others unsettled :=
  h.relive (h.mirrors.perm hperm) fun _ => hperm.mem_iff

theorem accept (h : Durable rows live unsettled) (hnew : transactionIsWellFormed new = true)
    (hfresh : ∀ transaction ∈ live, transaction.transactionId ≠ new.transactionId) :
    Durable
      (putRow PersistentFederationTransaction.transactionId (toPersistentTransaction new) rows)
      (new :: live) (unsettled ++ [new]) := by
  refine ⟨?_, h.mirrors.insert hfresh, ?_⟩
  · exact forall_mem_cons.mpr ⟨hnew, h.wellFormed⟩
  · intro transaction hmem
    rcases mem_append.mp hmem with hmem | hmem
    · obtain ⟨held, hheld, heq⟩ := h.held transaction hmem
      exact ⟨held, mem_cons_of_mem _ hheld, heq⟩
    · exact ⟨new, mem_cons_self, by rw [mem_singleton.mp hmem]⟩

section

variable (h : Durable rows (old :: live) unsettled) (hnew : unscheduled new = unscheduled old)
include h hnew

theorem reschedule :
    Durable
      (putRow PersistentFederationTransaction.transactionId (toPersistentTransaction new) rows)
      (new :: live) unsettled := by
  refine ⟨?_, h.mirrors.replace (sameDelivery_of_unscheduled hnew).transactionId, ?_⟩
  · intro transaction hmem
    rcases mem_cons.mp hmem with rfl | hmem
    · exact wellFormed_of_unscheduled hnew (h.wellFormed old mem_cons_self)
    · exact h.wellFormed transaction (mem_cons_of_mem _ hmem)
  · intro transaction hmem
    obtain ⟨held, hheld, heq⟩ := h.held transaction hmem
    rcases mem_cons.mp hheld with rfl | hheld
    · exact ⟨new, mem_cons_self, hnew.trans heq⟩
    · exact ⟨held, mem_cons_of_mem _ hheld, heq⟩

theorem settled :
    Durable (deleteKey PersistentFederationTransaction.transactionId new.transactionId rows) live
      (settle new unsettled) := by
  have hid : new.transactionId = old.transactionId :=
    (sameDelivery_of_unscheduled hnew).transactionId
  refine ⟨?_, hid ▸ h.mirrors.remove, ?_⟩
  · intro transaction hmem
    exact h.wellFormed transaction (mem_cons_of_mem _ hmem)
  · intro transaction hmem
    obtain ⟨hmem, hpair⟩ := mem_filter.mp hmem
    obtain ⟨held, hheld, heq⟩ := h.held transaction hmem
    rcases mem_cons.mp hheld with rfl | hheld
    · -- the settled transaction is not what holds another pair
      have hsame := sameDelivery_of_unscheduled (hnew.trans heq)
      exact absurd (Prod.ext hsame.transactionId.symm hsame.destination.symm)
        (of_decide_eq_true hpair)
    · exact ⟨held, hheld, heq⟩

end

theorem reload (h : Durable rows live unsettled) {loaded : List PersistentFederationTransaction}
    (hperm : loaded.Perm rows) : Durable loaded (loaded.map toOutboundTransaction) unsettled := by
  refine h.relive (h.mirrors.reload (fun _ => rfl) hperm) fun transaction => ?_
  rw [mem_map]
  constructor
  · rintro ⟨row, hrow, rfl⟩
    obtain ⟨held, hheld, rfl⟩ := mem_map.mp ((h.mirrors.mem row).mp (hperm.mem_iff.mp hrow))
    exact hheld
  · intro hmem
    refine ⟨toPersistentTransaction transaction, hperm.mem_iff.mpr ?_, rfl⟩
    exact (h.mirrors.mem _).mpr (mem_map_of_mem hmem)

theorem stored (h : Durable rows live unsettled) (hmem : transaction ∈ unsettled) :
    ∃ row ∈ rows, SameDelivery row transaction := by
  obtain ⟨held, hheld, heq⟩ := h.held transaction hmem
  exact ⟨_, (h.mirrors.mem _).mpr (mem_map_of_mem hheld), sameDelivery_of_unscheduled heq⟩

end Durable

variable (queue pending : List OutboundTransaction)

section Steps

section

variable (h : transactionIsWellFormed transaction = true) (tables : FederationTables)
include h

theorem storeFederationTransaction_of_wellFormed :
    storeFederationTransaction tables (toPersistentTransaction transaction) = some { tables with
        federationTransactions := putRow PersistentFederationTransaction.transactionId
          (toPersistentTransaction transaction) tables.federationTransactions } := by
  have hvalid : federationTransactionIsValid (toPersistentTransaction transaction) = true := h
  rw [storeFederationTransaction, hvalid]
  rfl

theorem deleteFederationTransaction_of_wellFormed :
    deleteFederationTransaction tables transaction.transactionId = some { tables with
        federationTransactions := deleteKey PersistentFederationTransaction.transactionId
          transaction.transactionId tables.federationTransactions } := by
  have hid : transaction.transactionId.isEmpty = false := by
    simp only [transactionIsWellFormed, Bool.and_eq_true, Bool.not_eq_true'] at h
    exact h.1.1.1.1.1
  rw [deleteFederationTransaction, hid]
  rfl

end

variable (config worker) in
theorem enqueue_cases (transaction : OutboundTransaction) :
    enqueue config worker transaction = (false, worker) ∨
      transactionIsWellFormed transaction = true ∧ enqueue config worker transaction =
          (true, { worker with
            tables := { worker.tables with
              federationTransactions := putRow PersistentFederationTransaction.transactionId
                (toPersistentTransaction transaction) worker.tables.federationTransactions }
            queue := worker.queue ++ [transaction] }) := by
  unfold enqueue
  cases hformed : transactionIsWellFormed transaction with
  | false => exact .inl rfl
  | true =>
    rw [storeFederationTransaction_of_wellFormed hformed]
    cases worker.shutdownRequested with
    | true => exact .inl rfl
    | false =>
      cases queueIsFull config worker.queue with
      | true => exact .inl rfl
      | false => exact .inr ⟨rfl, rfl⟩

theorem live_push (transaction : OutboundTransaction) :
    (queue ++ [transaction] ++ pending).Perm (transaction :: (queue ++ pending)) := by
  rw [append_assoc]
  exact perm_middle

variable (config) in
theorem topUpReplay_append :
    (topUpReplay config queue pending).1 ++ (topUpReplay config queue pending).2 =
      queue ++ pending := by
  induction pending generalizing queue with
  | nil => rfl
  | cons front rest ih =>
    rw [topUpReplay]
    split_ifs with hfull
    · rfl
    · rw [ih, append_assoc]
      rfl

theorem takeNext_live {taken : Worker}
    (h : takeNext config worker now = some (transaction, taken)) :
    worker.live.Perm (transaction :: taken.live) ∧ taken.tables = worker.tables := by
  unfold takeNext at h
  split at h
  · cases h
  next ready hfound =>
    cases h
    refine ⟨?_, rfl⟩
    simp only [Worker.live]
    rw [topUpReplay_append]
    exact (perm_eraseP_of_find? hfound).append_right _

def conclude (config : DispatchWorkerConfig) (worker : Worker) (transaction : OutboundTransaction)
    (destination : FederationDestination) (result : Option OutboundTransactionResult)
    (now : UInt64) : AttemptOutcome × Worker :=
  let worker := worker.putDestination transaction.destination destination
  match result with
  | none => reEnqueueWithBackoff config worker transaction now
  | some result => finishAttempt config worker transaction result destination now

theorem runOnce_eq_conclude {attempt : Attempt} {taken : Worker}
    (h : takeNext config worker attempt.takenAt = some (transaction, taken)) :
    ∃ destination result, ((runOnce config worker attempt).outcome,
        (runOnce config worker attempt).worker) =
      conclude config taken transaction destination result attempt.now := by
  unfold runOnce
  rw [h]
  dsimp only
  cases (attempt.resolver transaction.destination).filter (·.discoveryAllowed) with
  | none => exact ⟨_, none, rfl⟩
  | some resolution => exact ⟨_, some _, rfl⟩

inductive Concludes (worker : Worker) (taken : OutboundTransaction) : AttemptOutcome × Worker → Prop
  | settled (outcome : AttemptOutcome) (after : Worker) (new : OutboundTransaction)
      (houtcome : outcome = .delivered new ∨ outcome = .dropped new)
      (hnew : unscheduled new = unscheduled taken) (hlive : after.live = worker.live)
      (hrows : after.tables.federationTransactions =
        deleteKey PersistentFederationTransaction.transactionId new.transactionId
          worker.tables.federationTransactions) :
      Concludes worker taken (outcome, after)
  | requeued (after : Worker) (new : OutboundTransaction)
      (hnew : unscheduled new = unscheduled taken) (hlive : after.live.Perm (new :: worker.live))
      (hrows : after.tables.federationTransactions =
        putRow PersistentFederationTransaction.transactionId (toPersistentTransaction new)
          worker.tables.federationTransactions) :
      Concludes worker taken (.requeued, after)

variable {taken : OutboundTransaction}

@[simp] theorem rows_putDestination :
    (worker.putDestination serverName destination).tables.federationTransactions =
      worker.tables.federationTransactions := by
  simp only [Worker.putDestination, storeFederationDestination]
  split_ifs <;> rfl

/-- A taken transaction is put back for another time, or its row is deleted. -/
theorem conclude_induction {motive : AttemptOutcome × Worker → Prop} {put : Worker}
    {result : Option OutboundTransactionResult}
    (hput : worker.putDestination taken.destination destination = put)
    (hrequeue : ∀ new, unscheduled new = unscheduled taken → motive (requeue put new))
    (hdeleted : ∀ new outcome tables, unscheduled new = unscheduled taken →
      outcome = .delivered new ∨ outcome = .dropped new →
      deleteFederationTransaction put.tables new.transactionId = some tables →
      motive (outcome, { put with tables }))
    (hfailed : deleteFederationTransaction put.tables taken.transactionId = none →
      motive (.failed, put)) :
    motive (conclude config worker taken destination result now) := by
  have hbackoff : motive (reEnqueueWithBackoff config put taken now) := by
    unfold reEnqueueWithBackoff
    dsimp only
    split_ifs
    · split
      next hnone => exact hfailed hnone
      next tables hsome =>
        exact hdeleted { taken with retryCount := taken.retryCount + 1 } _ tables rfl (.inr rfl)
          hsome
    · exact hrequeue _ rfl
  unfold conclude finishAttempt
  rw [hput]
  cases result with
  | none => exact hbackoff
  | some result =>
    dsimp only
    split_ifs
    · split
      · exact hbackoff
      next tables hsome => exact hdeleted taken _ tables rfl (.inl rfl) hsome
    · exact hrequeue _ rfl
    · exact hrequeue _ rfl
    · exact hbackoff

variable (config worker now) in
theorem conclude_concludes (hformed : transactionIsWellFormed taken = true)
    (result : Option OutboundTransactionResult) :
    Concludes worker taken (conclude config worker taken destination result now) := by
  refine conclude_induction _ rfl (fun new hnew => ?_)
    (fun new outcome tables hnew houtcome hdeleted => ?_) (fun hfailed => ?_)
  · rw [requeue, storeFederationTransaction_of_wellFormed (wellFormed_of_unscheduled hnew hformed)]
    exact .requeued _ new hnew (live_push _ _ _) (by rw [rows_putDestination])
  · rw [deleteFederationTransaction_of_wellFormed (wellFormed_of_unscheduled hnew hformed)]
      at hdeleted
    cases hdeleted
    exact .settled _ _ new houtcome hnew rfl (by rw [rows_putDestination])
  · rw [deleteFederationTransaction_of_wellFormed hformed] at hfailed
    cases hfailed

/-- Parked transactions wait behind a full queue. -/
def Filled (config : DispatchWorkerConfig) (worker : Worker) : Prop :=
  worker.pendingReplay = [] ∨ queueIsFull config worker.queue = true

theorem replayTransaction_spec {row : PersistentFederationTransaction}
    (hformed : transactionIsWellFormed (toOutboundTransaction row) = true)
    (hfilled : Filled config worker) :
    (replayTransaction config worker row).live.Perm (toOutboundTransaction row :: worker.live) ∧
      (replayTransaction config worker row).tables = worker.tables ∧
        Filled config (replayTransaction config worker row) := by
  simp only [replayTransaction, hformed, Bool.not_true, Bool.false_eq_true, if_false]
  split_ifs with hfull
  · refine ⟨?_, rfl, .inr hfull⟩
    simp only [Worker.live]
    rw [← append_assoc]
    exact perm_append_singleton _ _
  · -- a queue with room has nothing parked behind it
    refine ⟨live_push _ _ _, rfl, .inl ?_⟩
    exact hfilled.resolve_right hfull

theorem foldl_replayTransaction_spec {rows : List PersistentFederationTransaction}
    (hformed : ∀ row ∈ rows, transactionIsWellFormed (toOutboundTransaction row) = true)
    (hfilled : Filled config worker) :
    let replayed := rows.foldl (replayTransaction config) worker
    replayed.live.Perm (rows.map toOutboundTransaction ++ worker.live) ∧
      replayed.tables = worker.tables ∧ Filled config replayed := by
  induction rows generalizing worker with
  | nil => exact ⟨List.Perm.refl _, rfl, hfilled⟩
  | cons row rest ih =>
    obtain ⟨hlive, htables, hnext⟩ :=
      replayTransaction_spec (hformed row mem_cons_self) hfilled
    obtain ⟨hrest, hkept, hlast⟩ :=
      ih (fun other hmem => hformed other (mem_cons_of_mem _ hmem)) hnext
    refine ⟨?_, hkept.trans htables, hlast⟩
    exact hrest.trans ((hlive.append_left _).trans perm_middle)

variable (config worker) in
theorem replayPending_spec (hqueue : worker.queue = []) (hpending : worker.pendingReplay = [])
    (hformed : ∀ row ∈ worker.tables.federationTransactions,
      transactionIsWellFormed (toOutboundTransaction row) = true) :
    (replayPending config worker).live.Perm
        (worker.tables.federationTransactions.map toOutboundTransaction) ∧
      (replayPending config worker).tables = worker.tables ∧
        Filled config (replayPending config worker) := by
  obtain ⟨hlive, htables, hfilled⟩ := foldl_replayTransaction_spec hformed
    (show Filled config { worker with
      destinations := replayDestinations worker.destinations
        worker.tables.federationDestinations } from .inl hpending)
  refine ⟨?_, htables, hfilled⟩
  have hempty : worker.live = [] := by rw [Worker.live, hqueue, hpending, append_nil]
  have hreplayed : (replayPending config worker).live.Perm
      (worker.tables.federationTransactions.map toOutboundTransaction ++ worker.live) := hlive
  rwa [hempty, append_nil] at hreplayed

variable (config) in
theorem restart_durable {unsettled : List OutboundTransaction}
    (h : Durable worker.tables.federationTransactions worker.live unsettled)
    (destinationOrder : LoadOrder PersistentFederationDestination)
    (transactionOrder : LoadOrder PersistentFederationTransaction) :
    let restarted := restart config destinationOrder transactionOrder worker
    Durable restarted.tables.federationTransactions restarted.live unsettled ∧
      Filled config restarted := by
  intro restarted
  have hloaded := h.reload (transactionOrder.perm worker.tables.federationTransactions)
  obtain ⟨hlive, htables, hfilled⟩ := replayPending_spec config
    { tables :=
        { federationDestinations := destinationOrder.rows worker.tables.federationDestinations
          federationTransactions := transactionOrder.rows worker.tables.federationTransactions } }
    rfl rfl (fun row hrow => hloaded.wellFormed _ (mem_map_of_mem hrow))
  have hrows : restarted.tables.federationTransactions =
      transactionOrder.rows worker.tables.federationTransactions :=
    congrArg FederationTables.federationTransactions htables
  refine ⟨?_, hfilled⟩
  rw [hrows]
  exact hloaded.perm hlive

end Steps

structure DispatchRun where
  worker : Worker := {}
  unsettled : List OutboundTransaction := []

inductive DispatchAction where
  | enqueue (transaction : OutboundTransaction)
  | dispatchOutboundEdu (edu : RoomEdu)
  | runOnce (attempt : Attempt)
  | requestShutdown
  | restart (destinationOrder : LoadOrder PersistentFederationDestination)
      (transactionOrder : LoadOrder PersistentFederationTransaction)

section Runs

variable (config : DispatchWorkerConfig) (origin : EduOrigin)

section

variable (run : DispatchRun) (transaction : OutboundTransaction)

def DispatchRun.enqueue : DispatchRun :=
  let enqueued := DispatchWorker.enqueue config run.worker transaction
  { worker := enqueued.2
    unsettled := if enqueued.1 then run.unsettled ++ [transaction] else run.unsettled }

def DispatchRun.act : DispatchAction → DispatchRun
  | .enqueue transaction => run.enqueue config transaction
  | .dispatchOutboundEdu edu => (eduTransactions origin edu).foldl (DispatchRun.enqueue config) run
  | .runOnce attempt =>
    let attempted := DispatchWorker.runOnce config run.worker attempt
    { worker := attempted.worker
      unsettled :=
        match attempted.outcome with
        | .delivered transaction | .dropped transaction => settle transaction run.unsettled
        | .idle | .requeued | .failed => run.unsettled }
  | .requestShutdown => { run with worker := DispatchWorker.requestShutdown run.worker }
  | .restart destinationOrder transactionOrder =>
    { run with
      worker := DispatchWorker.restart config destinationOrder transactionOrder run.worker }

def FreshEnqueue : Prop :=
  (enqueue config run.worker transaction).1 = true →
    ∀ held ∈ run.worker.live, held.transactionId ≠ transaction.transactionId

def Fresh : DispatchAction → Prop
  | .enqueue transaction => FreshEnqueue config run transaction
  | .dispatchOutboundEdu edu =>
    Along (DispatchRun.enqueue config) (FreshEnqueue config) run (eduTransactions origin edu)
  | .runOnce _ | .requestShutdown | .restart _ _ => True

end

def DispatchRun.Stored (run : DispatchRun) : Prop :=
  ∀ transaction ∈ run.unsettled, ∃ row ∈ run.worker.tables.federationTransactions,
    SameDelivery row transaction

instance (run : DispatchRun) : DecidablePred (FreshEnqueue config run) :=
  fun _ => inferInstanceAs (Decidable (_ → ∀ held ∈ run.worker.live, _))

instance (run : DispatchRun) : DecidablePred (Fresh config origin run)
  | .enqueue transaction => inferInstanceAs (Decidable (FreshEnqueue config run transaction))
  | .dispatchOutboundEdu edu => inferInstanceAs (Decidable (Along (DispatchRun.enqueue config)
      (FreshEnqueue config) run (eduTransactions origin edu)))
  | .runOnce _ => inferInstanceAs (Decidable True)
  | .requestShutdown => inferInstanceAs (Decidable True)
  | .restart _ _ => inferInstanceAs (Decidable True)

instance (row : PersistentFederationTransaction) (transaction : OutboundTransaction) :
    Decidable (SameDelivery row transaction) :=
  decidable_of_iff (row.transactionId = transaction.transactionId ∧
    row.serverName = transaction.destination ∧ row.target = transaction.target ∧
      row.body = transaction.body)
    ⟨fun h => ⟨h.1, h.2.1, h.2.2.1, h.2.2.2⟩, fun h => ⟨h.1, h.2, h.3, h.4⟩⟩

instance (run : DispatchRun) : Decidable run.Stored :=
  inferInstanceAs (Decidable (∀ transaction ∈ run.unsettled, _))

def callsOf (worker : Worker) : List Attempt → List OutboundCall
  | [] => []
  | attempt :: rest =>
    let attempted := runOnce config worker attempt
    attempted.calls ++ callsOf attempted.worker rest

structure Late (worker : Worker) (attempt : Attempt) : Prop where
  ready : ∀ transaction ∈ worker.live, transaction.nextRetryTs ≤ attempt.takenAt
  closed : ∀ snapshot ∈ worker.destinations, snapshot.state.retryAfterTs ≤ attempt.now

structure Answers (attempt : Attempt) : Prop where
  resolves : ∀ serverName, ∃ resolution, attempt.resolver serverName = some resolution ∧
    resolution.discoveryAllowed = true
  succeeds : ∀ call, (attempt.client call).ok = true ∧
    statusIsSuccess (attempt.client call).status = true

end Runs

section Invariant

variable {origin : EduOrigin} {run : DispatchRun}

def DispatchRun.Durable (run : DispatchRun) : Prop :=
  DurableDispatch.Durable run.worker.tables.federationTransactions run.worker.live run.unsettled

/-- What the source returns for an EDU is how many transactions became unsettled. -/
theorem act_dispatchOutboundEdu (edu : RoomEdu) :
    let after := run.act config origin (.dispatchOutboundEdu edu)
    let dispatched := dispatchOutboundEdu config origin run.worker edu
    (run.unsettled.length + dispatched.1, dispatched.2) =
      (after.unsettled.length, after.worker) := by
  have hshift (progress : Nat × Worker) (transaction : OutboundTransaction) :
      enqueueCounting config (run.unsettled.length + progress.1, progress.2) transaction =
        (run.unsettled.length + (enqueueCounting config progress transaction).1,
          (enqueueCounting config progress transaction).2) := by
    rw [enqueueCounting, enqueueCounting]
    split_ifs <;> rfl
  refine (foldl_hom _ hshift).symm.trans
    (foldl_hom (fun run : DispatchRun => (run.unsettled.length, run.worker)) fun run _ => ?_)
  · rw [enqueueCounting, DispatchRun.enqueue]
    split_ifs <;> simp

theorem enqueue_durable (h : run.Durable) (hfresh : FreshEnqueue config run transaction) :
    (run.enqueue config transaction).Durable := by
  rcases enqueue_cases config run.worker transaction with
    hrejected | ⟨hformed, haccepted⟩
  · rw [DispatchRun.Durable, DispatchRun.enqueue, hrejected]
    exact h
  · have hnone := hfresh (by rw [haccepted])
    rw [DispatchRun.Durable, DispatchRun.enqueue, haccepted]
    exact (h.accept hformed hnone).perm (live_push _ _ _)

theorem runOnce_durable (h : run.Durable) (attempt : Attempt) :
    (run.act config origin (.runOnce attempt)).Durable := by
  rw [DispatchRun.Durable, DispatchRun.act]
  rcases htaken : takeNext config run.worker attempt.takenAt with _ | ⟨transaction, taken⟩
  · simp only [runOnce, htaken]
    exact h
  · obtain ⟨hlive, htables⟩ := takeNext_live htaken
    have htook := h.perm hlive.symm
    rw [← htables] at htook
    obtain ⟨destination, result, hconclude⟩ := runOnce_eq_conclude htaken
    have hconcludes := conclude_concludes config taken destination attempt.now
      (htook.wellFormed _ mem_cons_self) result
    rw [← hconclude] at hconcludes
    generalize runOnce config run.worker attempt = attempted at hconcludes
    obtain ⟨outcome, after, calls⟩ := attempted
    cases hconcludes with
    | settled _ _ new houtcome hnew hafter hrows =>
      have hsettled := htook.settled hnew
      rw [← hrows, ← hafter] at hsettled
      rcases houtcome with rfl | rfl <;> exact hsettled
    | requeued _ new hnew hafter hrows =>
      have hwritten := htook.reschedule hnew
      rw [← hrows] at hwritten
      exact hwritten.perm hafter

theorem act_durable (h : run.Durable) {action : DispatchAction}
    (hfresh : Fresh config origin run action) : (run.act config origin action).Durable := by
  cases action with
  | enqueue transaction => exact enqueue_durable h hfresh
  | dispatchOutboundEdu edu =>
    exact Along.invariant hfresh (fun _ _ => enqueue_durable) h
  | runOnce attempt => exact runOnce_durable h attempt
  | requestShutdown => exact h
  | restart destinationOrder transactionOrder =>
    exact (restart_durable _ h destinationOrder transactionOrder).1

end Invariant

section Draining

variable {attempt : Attempt}

theorem topUpReplay_filled :
    (topUpReplay config queue pending).2 = [] ∨
      queueIsFull config (topUpReplay config queue pending).1 = true := by
  induction pending generalizing queue with
  | nil => exact .inl rfl
  | cons front rest ih =>
    rw [topUpReplay]
    split_ifs with hfull
    · exact .inr hfull
    · exact ih _

theorem takeNext_front (hfilled : Filled config worker) {front : OutboundTransaction}
    {rest : List OutboundTransaction} (hlive : worker.live = front :: rest)
    (hready : front.nextRetryTs ≤ now) :
    ∃ taken, takeNext config worker now = some (front, taken) ∧ taken.live = rest ∧
      Filled config taken ∧ taken.destinations = worker.destinations := by
  obtain ⟨queue, hqueue, hrest⟩ : ∃ queue, worker.queue = front :: queue ∧
      queue ++ worker.pendingReplay = rest := by
    rcases hcases : worker.queue with _ | ⟨first, queue⟩
    · -- an empty queue is not full, so nothing is parked
      rcases hfilled with hnone | hfull
      · rw [Worker.live, hcases, hnone] at hlive
        cases hlive
      · rw [hcases] at hfull
        simp [queueIsFull] at hfull
    · rw [Worker.live, hcases] at hlive
      obtain ⟨rfl, hrest⟩ := cons.inj hlive
      exact ⟨queue, rfl, hrest⟩
  have htaken : takeNext config worker now = some (front, { worker with
        queue := (topUpReplay config queue worker.pendingReplay).1
        pendingReplay := (topUpReplay config queue worker.pendingReplay).2 }) := by
    simp [takeNext, hqueue, hready]
  exact ⟨_, htaken, (topUpReplay_append _ _ _).trans hrest, topUpReplay_filled _ _, rfl⟩

theorem findOrCreateDestination_closed {destinations : List DispatchDestinationSnapshot}
    (hclosed : ∀ snapshot ∈ destinations, snapshot.state.retryAfterTs ≤ now) (serverName : Bytes) :
    destinationShouldRetry (findOrCreateDestination destinations serverName) now = true := by
  have hle : (findOrCreateDestination destinations serverName).retryAfterTs ≤ now := by
    unfold findOrCreateDestination
    split
    next existing hfound => exact hclosed existing (mem_of_find?_eq_some hfound)
    next => exact UInt64.zero_le
  simp [destinationShouldRetry, UInt64.not_lt.mpr hle]

theorem performOutboundTransaction_answered {destination : FederationDestination}
    (call : OutboundCall) (hretry : destinationShouldRetry destination attempt.now = true)
    (hanswers : Answers attempt) :
    ∃ result closed, performOutboundTransaction attempt.client call destination attempt.now =
        ⟨result, closed, [call]⟩ ∧
      (result.sent && statusIsSuccess result.httpStatus) = true ∧ closed.retryAfterTs = 0 := by
  obtain ⟨hok, hstatus⟩ := hanswers.succeeds call
  have hsuccess : ((attempt.client call).ok && statusIsSuccess (attempt.client call).status) =
      true := by rw [hok, hstatus]; rfl
  simp only [performOutboundTransaction, hretry, Bool.not_true, Bool.false_eq_true, if_false]
  exact ⟨_, _, rfl, hsuccess, by rw [applyOutboundResult, if_pos hsuccess]⟩

variable (hformed : ∀ transaction ∈ worker.live, transactionIsWellFormed transaction = true)
  (hfilled : Filled config worker)
include hformed hfilled

theorem runOnce_answered (hanswers : Answers attempt) (hlate : Late worker attempt)
    {front : OutboundTransaction} {rest : List OutboundTransaction}
    (hlive : worker.live = front :: rest) :
    ∃ call after, runOnce config worker attempt = ⟨.delivered front, after, [call]⟩ ∧
      call.transaction = front ∧ after.live = rest ∧ Filled config after ∧
        ∀ snapshot ∈ after.destinations,
          snapshot ∈ worker.destinations ∨ snapshot.state.retryAfterTs = 0 := by
  have hfront : front ∈ worker.live := hlive ▸ mem_cons_self
  obtain ⟨taken, htaken, hrest, htakenFilled, hdestinations⟩ :=
    takeNext_front hfilled hlive (hlate.ready front hfront)
  obtain ⟨resolution, hresolver, hallowed⟩ := hanswers.resolves front.destination
  have hretry := findOrCreateDestination_closed hlate.closed front.destination
  rw [← hdestinations] at hretry
  obtain ⟨result, closed, hperformed, hsuccess, hzero⟩ :=
    performOutboundTransaction_answered (outboundCall front resolution) hretry hanswers
  obtain ⟨tables, hdeleted⟩ : ∃ tables, deleteFederationTransaction
      (taken.putDestination front.destination closed).tables front.transactionId = some tables :=
    ⟨_, deleteFederationTransaction_of_wellFormed (hformed front hfront) _⟩
  refine ⟨outboundCall front resolution,
    { taken.putDestination front.destination closed with tables }, ?_, rfl, hrest, htakenFilled, ?_⟩
  · simp only [runOnce, htaken, hresolver, Option.filter, hallowed, if_true, hperformed,
      finishAttempt, hsuccess, hdeleted]
  · intro snapshot hmem
    rcases mem_of_mem_putRow hmem with hold | hnew
    · exact .inl (hdestinations ▸ hold)
    · rw [hnew]
      exact .inr hzero

theorem callsOf_answered {attempts : List Attempt} (hlength : worker.live.length ≤ attempts.length)
    (hanswers : ∀ attempt ∈ attempts, Answers attempt ∧ Late worker attempt)
    (hmem : transaction ∈ worker.live) :
    ∃ call ∈ callsOf config worker attempts, call.transaction = transaction := by
  induction attempts generalizing worker with
  | nil =>
    rw [eq_nil_of_length_eq_zero (Nat.le_zero.mp hlength)] at hmem
    cases hmem
  | cons attempt attempts ih =>
    obtain ⟨front, rest, hlive⟩ := exists_cons_of_ne_nil (ne_nil_of_mem hmem)
    obtain ⟨hanswer, hlate⟩ := hanswers attempt mem_cons_self
    obtain ⟨call, after, hrun, hcall, hafter, hnext, hclosed⟩ :=
      runOnce_answered hformed hfilled hanswer hlate hlive
    simp only [callsOf, hrun]
    rw [hlive] at hmem hformed hlength
    rcases mem_cons.mp hmem with rfl | hmem
    · exact ⟨call, mem_cons_self, hcall⟩
    · -- what is left is still late for the other attempts
      have hothers : ∀ other ∈ attempts, Answers other ∧ Late after other := by
        intro other hother
        obtain ⟨hanswers, hready, hopen⟩ := hanswers other (mem_cons_of_mem _ hother)
        refine ⟨hanswers, ?_, ?_⟩
        · intro held hheld
          exact hready held (hlive ▸ mem_cons_of_mem _ (hafter ▸ hheld))
        · intro snapshot hsnapshot
          rcases hclosed snapshot hsnapshot with hold | hzero
          · exact hopen snapshot hold
          · rw [hzero]
            exact UInt64.zero_le
      obtain ⟨later, hlater, hsent⟩ := ih
        (fun held hheld => hformed held (mem_cons_of_mem _ (hafter ▸ hheld))) hnext
        (hafter ▸ Nat.le_of_succ_le_succ hlength) hothers (hafter ▸ hmem)
      exact ⟨later, mem_cons_of_mem _ hlater, hsent⟩

end Draining

/-- While ids are fresh where they are accepted, every unsettled transaction has
its row between operations and is sent again after a restart, as soon as the
worker has been run once for each of its transactions with servers that answer. -/
theorem unsettled_is_stored_and_sent_again (config : DispatchWorkerConfig) (origin : EduOrigin)
    (actions : List DispatchAction)
    (hfresh : Along (DispatchRun.act config origin) (Fresh config origin) {} actions) :
    let reached := run (DispatchRun.act config origin) {} actions
    reached.Stored ∧
      ∀ transaction ∈ reached.unsettled, ∀ destinationOrder transactionOrder attempts,
        let restarted := restart config destinationOrder transactionOrder reached.worker
        restarted.live.length ≤ attempts.length →
        (∀ attempt ∈ attempts, Answers attempt ∧ Late restarted attempt) →
        ∃ call ∈ callsOf config restarted attempts,
          SameDelivery (toPersistentTransaction call.transaction) transaction := by
  intro reached
  have hempty : DispatchRun.Durable {} := Durable.empty
  have hdurable : reached.Durable :=
    hfresh.invariant (fun _ _ hbefore => act_durable hbefore) hempty
  refine ⟨fun transaction hmem => hdurable.stored hmem, ?_⟩
  intro transaction hmem destinationOrder transactionOrder attempts restarted hlength hanswers
  obtain ⟨hrestarted, hfilled⟩ :=
    restart_durable config hdurable destinationOrder transactionOrder
  obtain ⟨held, hheld, hsame⟩ := hrestarted.held transaction hmem
  obtain ⟨call, hcall, heq⟩ :=
    callsOf_answered hrestarted.wellFormed hfilled hlength hanswers hheld
  exact ⟨call, hcall, heq ▸ sameDelivery_of_unscheduled hsame⟩

def DispatchRun.Keyed (run : DispatchRun) : Prop :=
  (run.worker.tables.federationTransactions.map
    PersistentFederationTransaction.transactionId).Nodup

/-- After an EDU that two servers are still to get under one id, one of them has no row. -/
theorem room_edu_loses_rows {config : DispatchWorkerConfig} {origin : EduOrigin}
    (actions : List DispatchAction)
    (hfresh : Along (DispatchRun.act config origin) (Fresh config origin) {} actions)
    (edu : RoomEdu) (first second : OutboundTransaction) :
    let after := (run (DispatchRun.act config origin) {} actions).act config origin
      (.dispatchOutboundEdu edu)
    first ∈ after.unsettled → second ∈ after.unsettled →
      first.transactionId = second.transactionId → first.destination ≠ second.destination →
      ¬ after.Stored := by
  intro after hfirst hsecond hid hdestination hstored
  have hempty : DispatchRun.Durable {} := Durable.empty
  have hdurable := hfresh.invariant (fun _ _ hbefore => act_durable hbefore) hempty
  have hkeyed : after.Keyed := by
    refine foldlRecOn (eduTransactions origin edu) _ hdurable.mirrors.keyed ?_
    intro run hkeyed transaction _
    rw [DispatchRun.enqueue]
    rcases enqueue_cases config run.worker transaction with hrejected | ⟨-, haccepted⟩
    · rw [hrejected]
      exact hkeyed
    · rw [haccepted]
      exact nodup_keys_putRow hkeyed
  obtain ⟨row, hrow, hsame⟩ := hstored first hfirst
  obtain ⟨other, hother, hothers⟩ := hstored second hsecond
  -- one id, so one row, and it is for one server
  have hone : row = other := inj_on_of_nodup_map hkeyed hrow hother
    (hsame.transactionId.trans (hid.trans hothers.transactionId.symm))
  exact hdestination (hsame.destination.symm.trans (hone ▸ hothers.destination))

def sampleOrigin : EduOrigin :=
  ⟨"a.org", readerOf [.object []]⟩

def sampleTransaction (transactionId destination : Bytes) : OutboundTransaction :=
  { makeOutboundTransaction destination "PUT"
      (utf8 "/_matrix/federation/v1/send/" ++ transactionId) "a.org" "\x7b\x7d" with transactionId }

def unresolvedAttempt : Attempt :=
  ⟨0, 0, fun _ => none, fun _ => {}⟩

def answeredAttempt : Attempt :=
  ⟨10000, 10000, fun _ => some { discoveryAllowed := true }, fun _ => { ok := true, status := 200 }⟩

def reversedOrder (Row : Type) : LoadOrder Row :=
  ⟨List.reverse, List.reverse_perm⟩

def retriedActions : List DispatchAction :=
  [.enqueue (sampleTransaction "t1" "b.org"), .runOnce unresolvedAttempt,
    .enqueue (sampleTransaction "t2" "b.org")]

theorem retried_transaction_is_sent_again :
    let reached := run (DispatchRun.act {} sampleOrigin) {} retriedActions
    let restarted := restart {} (reversedOrder _) (reversedOrder _) reached.worker
    reached.Stored ∧ ∃ call ∈ callsOf {} restarted [answeredAttempt, answeredAttempt],
      SameDelivery (toPersistentTransaction call.transaction) (sampleTransaction "t1" "b.org") := by
  obtain ⟨hstored, hsent⟩ := unsettled_is_stored_and_sent_again {} sampleOrigin retriedActions
    (by decide +kernel)
  refine ⟨hstored, hsent _ (by decide +kernel) _ _ _ (by decide +kernel) ?_⟩
  have hanswers : Answers answeredAttempt := ⟨fun _ => ⟨_, rfl, rfl⟩, fun _ => ⟨rfl, rfl⟩⟩
  simp only [forall_mem_cons, not_mem_nil, false_implies, implies_true, and_true, and_self]
  exact ⟨hanswers, by decide +kernel, by decide +kernel⟩

def typingEdu : RoomEdu where
  members := ["@x:b.org", "@y:c.org", "@z:a.org"]
  eduType := "m.typing"
  contentJson := "\x7b\x7d"
  transactionId := "t1"
  nowMs := 0

theorem typing_edu_loses_a_row :
    ¬ ((run (DispatchRun.act {} sampleOrigin) {} retriedActions).act {} sampleOrigin
      (.dispatchOutboundEdu { typingEdu with transactionId := "t3" })).Stored := by
  have hfresh : Along (DispatchRun.act {} sampleOrigin) (Fresh {} sampleOrigin) {}
      retriedActions := by
    decide +kernel
  exact room_edu_loses_rows retriedActions hfresh _ _ _
    (getElem_mem (n := 2) (by decide +kernel)) (getElem_mem (n := 3) (by decide +kernel))
    (by decide +kernel) (by decide +kernel)

/-- Both servers are accepted, and only the second has a row: after a restart
nothing is sent to the first. -/
theorem room_edu_loses_a_destination :
    let reached := run (DispatchRun.act {} sampleOrigin) {} [.dispatchOutboundEdu typingEdu]
    let restarted := restart {} (reversedOrder _) (reversedOrder _) reached.worker
    reached.unsettled.map OutboundTransaction.destination = ["b.org", "c.org"] ∧ ¬ reached.Stored ∧
        restarted.live.map OutboundTransaction.destination = ["c.org"] := by
  decide +kernel

end Merovingian.DurableDispatch
