import Merovingian.DurableDispatch

/-!
The order in which the dispatch worker sends. Transactions stand in one queue, an
attempt takes the first that waits for no retry, and what fails goes back to the
end. So transactions are tried in the order in which they were accepted, but one
whose attempt failed can be overtaken. A run is followed here with a mark for each
accepted transaction, its number among them.
-/

namespace Merovingian.DispatchOrder

open DispatchWorker DurableDispatch OperationRuns List

variable {config : DispatchWorkerConfig} {taken : OutboundTransaction} {attempt : Attempt}

/-- A worker with the marks of what its queue holds, the transactions accepted so far
and the attempts made so far. -/
structure OrderedRun where
  worker : Worker := {}
  entries : List (Nat × OutboundTransaction) := []
  accepted : List OutboundTransaction := []
  tried : List (Nat × AttemptOutcome) := []

inductive OrderAction where
  | enqueue (transaction : OutboundTransaction)
  | runOnce (attempt : Attempt)

namespace OrderedRun

def isReady (attempt : Attempt) (entry : Nat × OutboundTransaction) : Bool :=
  entry.2.nextRetryTs ≤ attempt.takenAt

def next (run : OrderedRun) (attempt : Attempt) : Option (Nat × OutboundTransaction) :=
  run.entries.find? (isReady attempt)

section

variable (config : DispatchWorkerConfig) (run : OrderedRun) (mark : Nat)

def act : OrderAction → OrderedRun
  | .enqueue transaction =>
    let enqueued := DispatchWorker.enqueue config run.worker transaction
    if enqueued.1 then
      { run with
        worker := enqueued.2
        entries := run.entries ++ [(run.accepted.length, transaction)]
        accepted := run.accepted ++ [transaction] }
    else run
  | .runOnce attempt =>
    let attempted := DispatchWorker.runOnce config run.worker attempt
    match run.next attempt with
    | none => { run with worker := attempted.worker }
    | some (mark, _) =>
      let rest := run.entries.eraseP (isReady attempt)
      { run with
        worker := attempted.worker
        -- what the queue holds behind the rest is the transaction put back
        entries := rest ++ (attempted.worker.queue.drop rest.length).map fun again =>
          (mark, again)
        tried := run.tried ++ [(mark, attempted.outcome)] }

def Untried : Prop :=
  mark ∉ run.tried.map Prod.fst

def Settled : Prop :=
  ∃ transaction, (mark, .delivered transaction) ∈ run.tried ∨
    (mark, .dropped transaction) ∈ run.tried

def Performs (attempt : Attempt) (mark : Nat) : Prop :=
  (run.next attempt).map Prod.fst = some mark ∧
    (DispatchWorker.runOnce config run.worker attempt).calls ≠ []

end

/-- An attempt of the transaction failed, and now it waits for its retry or stands
behind what the attempt takes. -/
structure Postponed (run : OrderedRun) (attempt : Attempt) (mark : Nat) : Prop where
  failed : (mark, .requeued) ∈ run.tried
  behind : ∃ transaction, (mark, transaction) ∈ run.entries ∧
    (attempt.takenAt < transaction.nextRetryTs ∨
      (mark, transaction) ∈ (run.entries.dropWhile fun entry => !isReady attempt entry).tail)

end OrderedRun

def Unscheduled (_ : OrderedRun) : OrderAction → Prop
  | .enqueue transaction => transaction.nextRetryTs = 0
  | .runOnce _ => True

instance (run : OrderedRun) : DecidablePred (Unscheduled run)
  | .enqueue transaction => inferInstanceAs (Decidable (transaction.nextRetryTs = 0))
  | .runOnce _ => inferInstanceAs (Decidable True)

section Attempts

variable {worker : Worker}

inductive Leaves (queue : List OutboundTransaction) (taken : OutboundTransaction) :
    AttemptOutcome × Worker → Prop
  | settled (outcome : AttemptOutcome) (after : Worker) (new : OutboundTransaction)
      (houtcome : outcome = .delivered new ∨ outcome = .dropped new)
      (hqueue : after.queue = queue) (hpending : after.pendingReplay = []) :
      Leaves queue taken (outcome, after)
  | requeued (after : Worker) (new : OutboundTransaction)
      (hnew : unscheduled new = unscheduled taken) (hqueue : after.queue = queue ++ [new])
      (hpending : after.pendingReplay = []) :
      Leaves queue taken (.requeued, after)

variable {queue : List OutboundTransaction}

theorem conclude_leaves (hformed : transactionIsWellFormed taken = true)
    (hqueue : worker.queue = queue) (hpending : worker.pendingReplay = [])
    (destination : FederationDestination) (result : Option OutboundTransactionResult)
    (now : UInt64) : Leaves queue taken (conclude config worker taken destination result now) := by
  refine conclude_induction _ rfl (fun new hnew => ?_)
    (fun new outcome tables hnew houtcome hdeleted => ?_) (fun hfailed => ?_)
  · rw [requeue, storeFederationTransaction_of_wellFormed (wellFormed_of_unscheduled hnew hformed)]
    exact .requeued _ new hnew (by rw [← hqueue]; rfl) hpending
  · exact .settled _ _ new houtcome hqueue hpending
  · rw [deleteFederationTransaction_of_wellFormed hformed] at hfailed
    cases hfailed

variable {mark : Nat}

theorem retryAfterTs_of_calls (hcalls : (runOnce config worker attempt).calls ≠ [])
    (hfound : worker.queue.find? (fun candidate => candidate.nextRetryTs ≤ attempt.takenAt) =
      some taken) :
    (findOrCreateDestination worker.destinations taken.destination).retryAfterTs ≤ attempt.now := by
  unfold runOnce takeNext at hcalls
  rw [hfound] at hcalls
  dsimp only at hcalls
  cases hresolved : (attempt.resolver taken.destination).filter (·.discoveryAllowed) with
  | none => simp [hresolved] at hcalls
  | some resolution =>
    rw [hresolved] at hcalls
    dsimp only [performOutboundTransaction] at hcalls
    split at hcalls
    · exact absurd rfl hcalls
    · next hretry =>
        simp only [destinationShouldRetry, Bool.not_eq_true', Bool.not_eq_false] at hretry
        split_ifs at hretry with hfailures hearly
        exact UInt64.not_lt.mp hearly

end Attempts

/-- The queue in the order of arrival: only what has been tried stands out of it. -/
structure Ordered (run : OrderedRun) : Prop where
  pending : run.worker.pendingReplay = []
  queue : run.worker.queue = run.entries.map Prod.snd
  formed : ∀ entry ∈ run.entries, transactionIsWellFormed entry.2 = true
  known : ∀ entry ∈ run.entries, ∃ transaction, run.accepted[entry.1]? = some transaction ∧
    unscheduled entry.2 = unscheduled transaction ∧ (run.Untried entry.1 → entry.2 = transaction)
  arrival : run.entries.Pairwise fun first second =>
    run.Untried second.1 → first.1 < second.1
  held : ∀ mark < run.accepted.length,
    (∃ transaction, (mark, transaction) ∈ run.entries) ∨ run.Settled mark
  outcomes : ∀ attempt ∈ run.tried, attempt.2 = .requeued ∨ run.Settled attempt.1
  unscheduled : ∀ transaction ∈ run.accepted, transaction.nextRetryTs = 0

section Runs

variable {run : OrderedRun} {mark : Nat}

open OrderedRun

theorem ordered_start {worker : Worker} (hqueue : worker.queue = [])
    (hpending : worker.pendingReplay = []) : Ordered { worker := worker } := by
  refine ⟨hpending, hqueue, ?_, ?_, List.Pairwise.nil, ?_, ?_, ?_⟩
  all_goals
    intro entry hentry
    cases hentry

theorem enqueue_ordered (h : Ordered run) {transaction : OutboundTransaction}
    (hunscheduled : transaction.nextRetryTs = 0) :
    Ordered (run.act config (.enqueue transaction)) := by
  rcases enqueue_cases config run.worker transaction with hrejected | ⟨hformed, haccepted⟩
  · simp only [act, hrejected]
    exact h
  · simp only [act, haccepted, if_true]
    -- a new mark is greater than those in the queue
    have hlt : ∀ entry ∈ run.entries, entry.1 < run.accepted.length := by
      intro entry hentry
      obtain ⟨known, hknown, -⟩ := h.known entry hentry
      exact (List.getElem?_eq_some_iff.mp hknown).1
    refine ⟨h.pending, ?_, ?_, ?_, ?_, ?_, h.outcomes, ?_⟩
    · simp [h.queue]
    · exact forall_mem_append.mpr ⟨h.formed, forall_mem_singleton.mpr hformed⟩
    · intro entry hentry
      rcases mem_append.mp hentry with hentry | hentry
      · obtain ⟨known, hknown, hsame⟩ := h.known entry hentry
        refine ⟨known, ?_, hsame⟩
        rw [getElem?_append_left (hlt entry hentry)]
        exact hknown
      · rw [mem_singleton.mp hentry]
        exact ⟨transaction, by simp, rfl, fun _ => rfl⟩
    · refine pairwise_append.mpr ⟨h.arrival, pairwise_singleton _ _, ?_⟩
      intro first hfirst second hsecond _
      rw [mem_singleton.mp hsecond]
      exact hlt first hfirst
    · intro mark hmark
      rw [length_append, length_singleton, Nat.lt_succ_iff] at hmark
      rcases Nat.lt_or_eq_of_le hmark with hlt | rfl
      · rcases h.held mark hlt with ⟨held, hheld⟩ | hsettled
        · exact .inl ⟨held, mem_append_left _ hheld⟩
        · exact .inr hsettled
      · exact .inl ⟨transaction, by simp⟩
    · exact forall_mem_append.mpr ⟨h.unscheduled, forall_mem_singleton.mpr hunscheduled⟩

theorem Ordered.find?_queue (h : Ordered run) (attempt : Attempt) :
    run.worker.queue.find? (fun candidate => candidate.nextRetryTs ≤ attempt.takenAt) =
      (run.next attempt).map Prod.snd := by
  rw [h.queue, find?_map]
  rfl

variable (config) in
theorem entries_runOnce (h : Ordered run) (attempt : Attempt)
    (hnext : run.next attempt = some (mark, taken)) :
    let rest := run.entries.eraseP (isReady attempt)
    let attempted := DispatchWorker.runOnce config run.worker attempt
    attempted.worker.pendingReplay = [] ∧ ∃ again,
      attempted.worker.queue = rest.map Prod.snd ++ again ∧
        (∀ new ∈ again, unscheduled new = unscheduled taken) ∧
        ((∃ new, attempted.outcome = .delivered new ∨ attempted.outcome = .dropped new) ∨
          attempted.outcome = .requeued ∧ again ≠ []) := by
  intro rest attempted
  have hfound := h.find?_queue attempt
  rw [hnext] at hfound
  have hrest : run.worker.queue.eraseP (fun candidate =>
      candidate.nextRetryTs ≤ attempt.takenAt) = rest.map Prod.snd := by
    rw [h.queue, eraseP_map]
    rfl
  have htaken : takeNext config run.worker attempt.takenAt = some (taken,
      { run.worker with queue := rest.map Prod.snd, pendingReplay := [] }) := by
    rw [takeNext, hfound, h.pending, ← hrest]
    rfl
  obtain ⟨destination, result, hconclude⟩ := runOnce_eq_conclude htaken
  have hleaves : Leaves (rest.map Prod.snd) taken (attempted.outcome, attempted.worker) := by
    rw [hconclude]
    apply conclude_leaves (h.formed _ (mem_of_find?_eq_some hnext)) <;> rfl
  clear_value attempted
  obtain ⟨outcome, after, calls⟩ := attempted
  cases hleaves with
  | settled _ _ new houtcome hqueue hpending =>
    exact ⟨hpending, [], hqueue.trans (append_nil _).symm, forall_mem_nil _, .inl ⟨new, houtcome⟩⟩
  | requeued _ new hnew hqueue hpending =>
    exact ⟨hpending, [new], hqueue, forall_mem_singleton.mpr hnew, .inr ⟨rfl, cons_ne_nil _ _⟩⟩

def OrderedRun.concluded (run : OrderedRun) (attempt : Attempt) (mark : Nat)
    (attempted : Attempted) (again : List OutboundTransaction) : OrderedRun :=
  { run with
    worker := attempted.worker
    entries := run.entries.eraseP (isReady attempt) ++ again.map fun again => (mark, again)
    tried := run.tried ++ [(mark, attempted.outcome)] }

theorem concluded_ordered (h : Ordered run) (hnext : run.next attempt = some (mark, taken))
    {attempted : Attempted} {again : List OutboundTransaction}
    (hpending : attempted.worker.pendingReplay = [])
    (hqueue : attempted.worker.queue = (run.entries.eraseP (isReady attempt)).map Prod.snd ++ again)
    (hagain : ∀ new ∈ again, unscheduled new = unscheduled taken)
    (houtcome : (∃ new, attempted.outcome = .delivered new ∨ attempted.outcome = .dropped new) ∨
      attempted.outcome = .requeued ∧ again ≠ []) :
    Ordered (run.concluded attempt mark attempted again) := by
  have hperm : run.entries.Perm _ := TableMirror.perm_eraseP_of_find? hnext
  have hmem := mem_of_find?_eq_some hnext
  have hrest : ∀ entry ∈ run.entries.eraseP (isReady attempt), entry ∈ run.entries :=
    fun _ => mem_of_mem_eraseP
  have huntried : ∀ other, (run.concluded attempt mark attempted again).Untried other →
      run.Untried other ∧ other ≠ mark := by
    simp [Untried, concluded, not_or]
  have hsettled : ∀ other, run.Settled other →
      (run.concluded attempt mark attempted again).Settled other := by
    rintro other ⟨transaction, hdelivered | hdropped⟩
    · exact ⟨transaction, .inl (mem_append_left _ hdelivered)⟩
    · exact ⟨transaction, .inr (mem_append_left _ hdropped)⟩
  have hconcluded : attempted.outcome = .requeued ∧ again ≠ [] ∨
      (run.concluded attempt mark attempted again).Settled mark := by
    rcases houtcome with ⟨new, hdelivered | hdropped⟩ | hrequeued
    · exact .inr ⟨new, .inl (by simp [concluded, hdelivered])⟩
    · exact .inr ⟨new, .inr (by simp [concluded, hdropped])⟩
    · exact .inl hrequeued
  refine ⟨hpending, ?_, ?_, ?_, ?_, ?_, ?_, h.unscheduled⟩
  · rw [concluded, hqueue]
    simp
  · refine forall_mem_append.mpr ⟨fun entry hentry => h.formed entry (hrest entry hentry), ?_⟩
    exact forall_mem_map.mpr fun new hnew =>
      wellFormed_of_unscheduled (hagain new hnew) (h.formed _ hmem)
  · intro entry hentry
    rcases mem_append.mp hentry with hentry | hentry
    · obtain ⟨known, hknown, hsame, hfirst⟩ := h.known entry (hrest entry hentry)
      exact ⟨known, hknown, hsame, fun hother => hfirst (huntried _ hother).1⟩
    · obtain ⟨new, hnew, rfl⟩ := mem_map.mp hentry
      obtain ⟨known, hknown, hsame, -⟩ := h.known _ hmem
      exact ⟨known, hknown, (hagain new hnew).trans hsame,
        fun hother => absurd rfl (huntried mark hother).2⟩
  · -- what is put back has been tried, so it may stand anywhere
    refine pairwise_append.mpr ⟨?_, ?_, ?_⟩
    · exact (h.arrival.sublist eraseP_sublist).imp
        fun hbefore hother => hbefore (huntried _ hother).1
    · rw [pairwise_map]
      exact pairwise_of_forall fun _ _ hother => absurd rfl (huntried mark hother).2
    · intro first _ second hsecond hother
      obtain ⟨new, -, rfl⟩ := mem_map.mp hsecond
      exact absurd rfl (huntried mark hother).2
  · intro other hother
    rcases h.held other hother with ⟨held, hheld⟩ | hdone
    · rcases mem_cons.mp (hperm.mem_iff.mp hheld) with heq | hkept
      · obtain ⟨rfl, rfl⟩ := Prod.mk.inj heq
        rcases hconcluded with ⟨-, hnonempty⟩ | hdone
        · obtain ⟨new, hnew⟩ := exists_mem_of_ne_nil _ hnonempty
          exact .inl ⟨new, mem_append_right _ (mem_map_of_mem hnew)⟩
        · exact .inr hdone
      · exact .inl ⟨held, mem_append_left _ hkept⟩
    · exact .inr (hsettled other hdone)
  · intro tried htried
    rcases mem_append.mp htried with htried | htried
    · exact (h.outcomes tried htried).imp_right (hsettled _)
    · rw [mem_singleton.mp htried]
      exact hconcluded.imp_left And.left

theorem runOnce_ordered (h : Ordered run) (attempt : Attempt) :
    Ordered (run.act config (.runOnce attempt)) := by
  rcases hnext : run.next attempt with _ | ⟨mark, taken⟩
  · have hidle : (DispatchWorker.runOnce config run.worker attempt).worker = run.worker := by
      unfold DispatchWorker.runOnce takeNext
      rw [h.find?_queue, hnext]
      rfl
    simp only [act, hnext, hidle]
    exact h
  · obtain ⟨hpending, again, hqueue, hagain, houtcome⟩ :=
      entries_runOnce config h attempt hnext
    have hordered := concluded_ordered h hnext hpending hqueue hagain houtcome
    simpa [act, hnext, concluded, hqueue] using hordered

theorem run_ordered {worker : Worker} (hqueue : worker.queue = [])
    (hpending : worker.pendingReplay = []) {actions : List OrderAction}
    (halong : Along (act config) Unscheduled { worker := worker } actions) :
    Ordered (OperationRuns.run (act config) { worker := worker } actions) := by
  have hstep : ∀ run action, Ordered run → Unscheduled run action →
      Ordered (OrderedRun.act config run action) := by
    intro run action hordered hunscheduled
    cases action with
    | enqueue transaction => exact enqueue_ordered hordered hunscheduled
    | runOnce attempt => exact runOnce_ordered hordered attempt
  exact halong.invariant hstep (ordered_start hqueue hpending)

variable (h : Ordered run) (hnext : run.next attempt = some (mark, taken)) {earlier : Nat}
  (hlt : earlier < mark)
include h hnext hlt

theorem tried_of_taken {held : OutboundTransaction} (hheld : (earlier, held) ∈ run.entries) :
    ¬run.Untried earlier := by
  intro huntried
  obtain ⟨hready, front, back, hentries, hfront⟩ := find?_eq_some_iff_append.mp hnext
  have harrival := h.arrival
  rw [hentries] at hheld harrival
  obtain ⟨-, hafter, -⟩ := pairwise_append.mp harrival
  rcases mem_append.mp hheld with hbefore | hbehind
  · -- an untried transaction waits for no retry, so it would have been taken
    obtain ⟨known, hknown, -, hsame⟩ := h.known (earlier, held) (by rw [hentries]; exact hheld)
    have hzero := h.unscheduled known (mem_of_getElem? hknown)
    have hunready := hfront (earlier, held) hbefore
    rw [isReady, hsame huntried, hzero] at hunready
    simp at hunready
  · rcases mem_cons.mp hbehind with heq | hback
    · exact absurd (congrArg Prod.fst heq) (Nat.ne_of_lt hlt)
    · exact absurd ((pairwise_cons.mp hafter).1 _ hback huntried) (Nat.lt_asymm hlt)

theorem postponed_of_taken (hunsettled : ¬run.Settled earlier)
    (haccepted : earlier < run.accepted.length) : run.Postponed attempt earlier := by
  obtain ⟨held, hheld⟩ := (h.held earlier haccepted).resolve_right hunsettled
  have htried := not_not.mp (tried_of_taken h hnext hlt hheld)
  obtain ⟨⟨_, outcome⟩, hmem, rfl⟩ := mem_map.mp htried
  refine ⟨?_, held, hheld, ?_⟩
  · have hrequeued := (h.outcomes _ hmem).resolve_right hunsettled
    exact hrequeued ▸ hmem
  · obtain ⟨hready, front, back, hentries, hfront⟩ := find?_eq_some_iff_append.mp hnext
    have hdrop : run.entries.dropWhile (fun entry => !isReady attempt entry) =
        (mark, taken) :: back := by
      rw [hentries, dropWhile_append_of_pos (by simpa using hfront),
        dropWhile_cons_of_neg (by simp [hready])]
    rw [hdrop, tail_cons]
    rw [hentries] at hheld
    rcases mem_append.mp hheld with hbefore | hbehind
    · left
      simpa [isReady] using hfront _ hbefore
    · rcases mem_cons.mp hbehind with heq | hback
      · exact absurd (congrArg Prod.fst heq) (Nat.ne_of_lt hlt)
      · exact .inr hback

end Runs

open OrderedRun in
/-- In every run from an idle worker: a request that carries a transaction goes out
before an older one for the same destination is settled only if an attempt of the older
one has failed and been put back, and not before the destination's retry time. -/
theorem request_overtakes_only_postponed {config : DispatchWorkerConfig} {worker : Worker}
    (hqueue : worker.queue = []) (hpending : worker.pendingReplay = []) {actions : List OrderAction}
    (halong : Along (act config) Unscheduled { worker := worker } actions)
    {state : OrderedRun} (hstate : state = run (act config) { worker := worker } actions)
    {earlier later : Nat} (hlt : earlier < later) {first second : OutboundTransaction}
    (hfirst : state.accepted[earlier]? = some first)
    (hsecond : state.accepted[later]? = some second)
    (hsame : first.destination = second.destination) {attempt : Attempt}
    (hperforms : state.Performs config attempt later) :
    state.Settled earlier ∨ state.Postponed attempt earlier ∧
        (findOrCreateDestination state.worker.destinations first.destination).retryAfterTs ≤
          attempt.now := by
  have hordered : Ordered state := hstate ▸ run_ordered hqueue hpending halong
  obtain ⟨⟨mark, taken⟩, hnext, rfl⟩ := Option.map_eq_some_iff.mp hperforms.1
  by_cases hsettled : state.Settled earlier
  · exact .inl hsettled
  · refine .inr ⟨postponed_of_taken hordered hnext hlt hsettled
      (List.getElem?_eq_some_iff.mp hfirst).1, ?_⟩
    obtain ⟨known, hknown, hdelivery, -⟩ :=
      hordered.known _ (mem_of_find?_eq_some hnext)
    have hdestination : first.destination = taken.destination := by
      rw [hsecond, Option.some.injEq] at hknown
      subst hknown
      rw [hsame]
      exact (sameDelivery_of_unscheduled hdelivery).destination.symm
    rw [hdestination]
    refine retryAfterTs_of_calls hperforms.2 ?_
    rw [hordered.find?_queue, hnext]
    rfl

def refusedAttempt : Attempt :=
  ⟨0, 0, fun _ => some { discoveryAllowed := true }, fun _ => {}⟩

def retryAttempt : Attempt :=
  ⟨4000, 4000, fun _ => some { discoveryAllowed := true }, fun _ => { ok := true, status := 200 }⟩

/-- Two transactions for one server, and an attempt of the first that fails. -/
def overtakenActions : List OrderAction :=
  [.enqueue (sampleTransaction "t1" "b.org"), .enqueue (sampleTransaction "t2" "b.org"),
    .runOnce refusedAttempt]

theorem retried_transaction_is_postponed : let state := run (OrderedRun.act {}) {} overtakenActions
    state.Settled 0 ∨ state.Postponed retryAttempt 0 ∧
      (findOrCreateDestination state.worker.destinations "b.org").retryAfterTs ≤ 4000 := by
  intro state
  have halong : Along (OrderedRun.act {}) Unscheduled {} overtakenActions := by decide +kernel
  have hperforms : state.Performs {} retryAttempt 1 := ⟨by decide +kernel, by decide +kernel⟩
  have hfirst : state.accepted[0]? = some (sampleTransaction "t1" "b.org") := by decide +kernel
  exact request_overtakes_only_postponed rfl rfl halong rfl Nat.zero_lt_one hfirst
    (by decide +kernel : _ = some (sampleTransaction "t2" "b.org")) rfl hperforms

/-- The second transaction goes out while the first has neither been answered nor
dropped. -/
theorem second_transaction_overtakes_first :
    let state := run (OrderedRun.act {}) {} overtakenActions
    state.accepted = [sampleTransaction "t1" "b.org", sampleTransaction "t2" "b.org"] ∧
      state.Performs {} retryAttempt 1 ∧ ¬state.Settled 0 := by
  intro state
  refine ⟨by decide +kernel, ⟨by decide +kernel, by decide +kernel⟩, ?_⟩
  have htried : state.tried = [(0, .requeued)] := by decide +kernel
  rintro ⟨transaction, hmem | hmem⟩ <;> simp [htried] at hmem

end Merovingian.DispatchOrder
