import Merovingian.AppserviceDelivery
import Merovingian.OperationRuns
import Merovingian.TableMirror
import Merovingian.WordCounters

/-!
Runs of event sends, answers of the application services and restarts, in any
interleaving of the sections that hold the runtime lock. Where no dispatch starts
while another one waits for an answer, a service's row is as the dispatch in
flight remembers it.
-/

namespace Merovingian.DeliveryRuns

open ByteString CanonicalParser DecimalText KeyedFold TableMirror StoreTables PduIngestion
  AppserviceDelivery OperationRuns WordCounters List

variable {host : AppserviceHost} {runtime : AppserviceRuntime} {dispatch : Dispatch}
  {ordering : UInt64}

/-- An event that is written to the store and then dispatched, with the alias and
the members that its room has then. Composing an event and ingesting a PDU both
make sure that its JSON is an object. -/
structure RoomEvent (host : AppserviceHost) where
  row : PersistentEvent
  eventType : Bytes
  stateKey : Option Bytes
  roomAlias : Bytes
  members : List Bytes
  readable : (appserviceTransactionEventFor host row).isSome = true

/-- The runtime with the dispatches in flight, and what has happened: the local
events with the members of their room, the transactions sent to each service and,
with the stream ordering of their event, those answered with success. -/
structure DeliveryRun where
  runtime : AppserviceRuntime := {}
  reserved : List UInt64 := []
  dispatches : List Dispatch := []
  locals : List (DispatchedEvent × List Bytes) := []
  sent : List (Bytes × AppserviceTransaction) := []
  answered : List (Bytes × UInt64 × AppserviceTransaction) := []

inductive DeliveryAction (host : AppserviceHost) where
  /-- A stream ordering that is taken for a PDU or for a membership. -/
  | reserveOrdering
  | sendEvent (event : RoomEvent host)
  | ingestPdu (ordering : UInt64) (event : RoomEvent host)
  | answer (index : Nat) (ok : Bool)
  | restart

namespace DeliveryRun

def cursor (run : DeliveryRun) (appserviceId : Bytes) : PersistentAppserviceTxnCursor :=
  findAppserviceTxnCursor run.runtime.cursors appserviceId

def park (run : DeliveryRun) (event : DispatchedEvent) :
    AppserviceRuntime × Option (AppserviceCall × List AppserviceRegistration) → DeliveryRun
  | (runtime, none) => { run with runtime }
  | (runtime, some (call, rest)) =>
    { run with
      runtime
      dispatches := run.dispatches ++ [⟨event, call, rest⟩]
      sent := run.sent ++ [(call.registration.id, call.transaction)] }

section Acts

section

variable (runtime : AppserviceRuntime) (event : RoomEvent host) (ordering : UInt64)

def dispatched : DispatchedEvent where
  eventId := event.row.eventId
  eventType := event.eventType
  stateKey := event.stateKey
  roomId := event.row.roomId
  sender := event.row.senderUserId
  roomAlias := event.roomAlias
  persistedStreamOrdering := ordering

def storeEvent : AppserviceRuntime :=
  { runtime with
    events := runtime.events ++ [{ event.row with streamOrdering := ordering }]
    rooms := putRow LocalRoom.roomId ⟨event.row.roomId, event.members⟩ runtime.rooms }

def eventIsStored (eventId : Bytes) : Bool :=
  (rowAt PersistentEvent.eventId runtime.events eventId).isSome

def advanceOrdering : AppserviceRuntime :=
  { runtime with nextStreamOrdering := runtime.nextStreamOrdering + 1 }

end

def start (run : DeliveryRun) (event : RoomEvent host) (ordering : UInt64) : DeliveryRun :=
  let runtime := storeEvent run.runtime event ordering
  run.park (dispatched event ordering)
    (visit host (dispatched event ordering) runtime host.appservices.registrations)

def act (run : DeliveryRun) : DeliveryAction host → DeliveryRun
  | .reserveOrdering =>
    { run with
      runtime := advanceOrdering run.runtime
      reserved := run.reserved ++ [run.runtime.nextStreamOrdering] }
  | .sendEvent event =>
    let ordering := run.runtime.nextStreamOrdering
    let taken := { run with runtime := advanceOrdering run.runtime }
    if eventIsStored run.runtime event.row.eventId then taken
    else
      { taken.start event ordering with
        locals := run.locals ++ [(dispatched event ordering, event.members)] }
  | .ingestPdu ordering event =>
    if !run.reserved.contains ordering || eventIsStored run.runtime event.row.eventId then run
    else { run with reserved := run.reserved.erase ordering }.start event ordering
  | .answer index ok =>
    match run.dispatches[index]? with
    | none => run
    | some dispatch =>
      { run with
        dispatches := run.dispatches.eraseIdx index
        answered :=
          if dispatch.call.succeeds ok then
            run.answered ++ [(dispatch.call.registration.id,
              dispatch.call.cursor.pendingStreamOrdering, dispatch.call.transaction)]
          else run.answered }.park dispatch.event (resume host run.runtime dispatch ok)
  | .restart => { run with dispatches := [] }

end Acts

end DeliveryRun

open DeliveryRun

def Unexhausted (runtime : AppserviceRuntime) : Prop :=
  runtime.nextStreamOrdering ≠ 18446744073709551615 ∧
    ∀ cursor ∈ runtime.cursors, cursor.nextTxnId ≠ 18446744073709551615

instance (runtime : AppserviceRuntime) : Decidable (Unexhausted runtime) :=
  inferInstanceAs (Decidable (_ ∧ ∀ cursor ∈ runtime.cursors, _))

def TxnIdsLeft (runtime : AppserviceRuntime) : Prop :=
  ∀ cursor ∈ runtime.cursors, cursor.nextTxnId ≠ 18446744073709551615

def Advances (before after : PersistentAppserviceTxnCursor) : Prop :=
  before.nextTxnId ≤ after.nextTxnId ∧
    before.deliveredStreamOrdering ≤ after.deliveredStreamOrdering

def Exclusive {host : AppserviceHost} (run : DeliveryRun) : DeliveryAction host → Prop
  | .sendEvent _ | .ingestPdu _ _ => Unexhausted run.runtime ∧ run.dispatches = []
  | .reserveOrdering | .answer _ _ => Unexhausted run.runtime
  | .restart => True

instance {host : AppserviceHost} (run : DeliveryRun) :
    DecidablePred (Exclusive run : DeliveryAction host → Prop)
  | .sendEvent _ | .ingestPdu _ _ =>
    have : Decidable (run.dispatches = []) := decidable_of_iff _ isEmpty_iff
    inferInstanceAs (Decidable (Unexhausted run.runtime ∧ run.dispatches = []))
  | .reserveOrdering | .answer _ _ => inferInstanceAs (Decidable (Unexhausted run.runtime))
  | .restart => inferInstanceAs (Decidable True)

section Cursors

theorem decimalDigits_injective {first second : UInt64}
    (h : decimalDigits first.toNat = decimalDigits second.toNat) : first = second := by
  rw [← UInt64.toNat_inj, ← digitsValue_decimalDigits first.toNat, h, digitsValue_decimalDigits]

variable (cursors : List PersistentAppserviceTxnCursor)

theorem appserviceId_find (id : Bytes) :
    (findAppserviceTxnCursor cursors id).appserviceId = id := by
  rw [findAppserviceTxnCursor]
  rcases hfound : rowAt PersistentAppserviceTxnCursor.appserviceId cursors id with _ | found
  · rfl
  · simpa using find?_some hfound

theorem find_putRow (cursor : PersistentAppserviceTxnCursor) (id : Bytes) : findAppserviceTxnCursor
        (putRow PersistentAppserviceTxnCursor.appserviceId cursor cursors) id =
      if cursor.appserviceId = id then cursor else findAppserviceTxnCursor cursors id := by
  rw [findAppserviceTxnCursor, rowAt_putRow]
  split_ifs <;> rfl

theorem find_allocated (event : DispatchedEvent) (taken id : Bytes) :
    findAppserviceTxnCursor (putRow PersistentAppserviceTxnCursor.appserviceId
        (allocated (findAppserviceTxnCursor cursors taken) event) cursors) id =
      if taken = id then allocated (findAppserviceTxnCursor cursors taken) event
      else findAppserviceTxnCursor cursors id := by
  rw [find_putRow]
  change (if (findAppserviceTxnCursor cursors taken).appserviceId = id then _ else _) = _
  rw [appserviceId_find]

theorem nextTxnId_find (h : TxnIdsLeft runtime) (id : Bytes) :
    (findAppserviceTxnCursor runtime.cursors id).nextTxnId ≠ 18446744073709551615 := by
  rw [findAppserviceTxnCursor]
  rcases hfound : rowAt PersistentAppserviceTxnCursor.appserviceId runtime.cursors id with
    _ | found
  · exact show (1 : UInt64) ≠ 18446744073709551615 by decide
  · exact h found (mem_of_find?_eq_some hfound)

theorem registered_id {registration : AppserviceRegistration}
    (h : registration ∈ host.appservices.registrations) : registration.id.isEmpty = false :=
  host.appservices.named registration h

end Cursors

section Sections

variable {event : DispatchedEvent}

/-- Where a section of a dispatch leads: to its end, to a pending transaction sent
again or to a new one. -/
inductive Outcome (host : AppserviceHost) (event : DispatchedEvent)
    (runtime : AppserviceRuntime) :
    AppserviceRuntime × Option (AppserviceCall × List AppserviceRegistration) → Prop
  | finished : Outcome host event runtime (runtime, none)
  | retried {registration : AppserviceRegistration} {rest : List AppserviceRegistration}
      {cursor : PersistentAppserviceTxnCursor} {pending : AppserviceTransactionEvent}
      (hregistered : registration :: rest <:+ host.appservices.registrations)
      (hcursor : cursor = findAppserviceTxnCursor runtime.cursors registration.id)
      (hpending : cursor.pendingTxnId ≠ 0)
      (hevent : pendingEvent host runtime cursor = some pending) :
      Outcome host event runtime
        (runtime, some (appserviceCall registration cursor pending true, rest))
  | fresh {registration : AppserviceRegistration} {rest : List AppserviceRegistration}
      {cursor : PersistentAppserviceTxnCursor}
      (hregistered : registration :: rest <:+ host.appservices.registrations)
      (hcursor : cursor = findAppserviceTxnCursor runtime.cursors registration.id)
      (hidle : cursor.pendingTxnId = 0)
      (hnew : cursor.deliveredStreamOrdering < event.persistedStreamOrdering) :
      Outcome host event runtime
        ({ runtime with
            cursors := putRow PersistentAppserviceTxnCursor.appserviceId
              (allocated cursor event) runtime.cursors },
          some (appserviceCall registration (allocated cursor event)
            (freshEvent host event runtime) false, rest))

variable {registration : AppserviceRegistration} {rest : List AppserviceRegistration}

theorem newCall_eq (hregistered : registration ∈ host.appservices.registrations) :
    newCall host event runtime registration
        (findAppserviceTxnCursor runtime.cursors registration.id) =
      if event.persistedStreamOrdering ≤
          (findAppserviceTxnCursor runtime.cursors registration.id).deliveredStreamOrdering then
        none
      else some
        ({ runtime with
            cursors := putRow PersistentAppserviceTxnCursor.appserviceId
              (allocated (findAppserviceTxnCursor runtime.cursors registration.id) event)
              runtime.cursors },
          appserviceCall registration
            (allocated (findAppserviceTxnCursor runtime.cursors registration.id) event)
            (freshEvent host event runtime) false) := by
  have hallocated : (allocated (findAppserviceTxnCursor runtime.cursors registration.id)
      event).appserviceId.isEmpty = false := by
    rw [allocated, appserviceId_find, registered_id hregistered]
  simp [newCall, storeAppserviceTxnCursor, hallocated]

theorem newCall_outcome (hregistered : registration :: rest <:+ host.appservices.registrations)
    (hidle : (findAppserviceTxnCursor runtime.cursors registration.id).pendingTxnId = 0)
    {result : AppserviceRuntime × AppserviceCall}
    (hcall : newCall host event runtime registration
      (findAppserviceTxnCursor runtime.cursors registration.id) = some result) :
    Outcome host event runtime (result.1, some (result.2, rest)) := by
  rw [newCall_eq (hregistered.subset mem_cons_self)] at hcall
  split_ifs at hcall with hserved
  cases hcall
  exact .fresh hregistered rfl hidle (UInt64.not_le.mp hserved)

theorem visit_outcome {registrations : List AppserviceRegistration}
    (hregistered : registrations <:+ host.appservices.registrations) :
    Outcome host event runtime (visit host event runtime registrations) := by
  induction registrations with
  | nil => exact .finished
  | cons registration rest ih =>
    have hrest := ih ((suffix_cons registration rest).trans hregistered)
    rw [visit]
    simp only
    split_ifs with huninterested hpending
    · exact hrest
    · split
      · exact hrest
      · next pending hevent => exact .retried hregistered rfl hpending hevent
    · split
      · exact hrest
      · next after call hcall =>
          exact newCall_outcome hregistered (not_not.mp hpending) hcall

theorem resume_outcome (ok : Bool)
    (hregistered : dispatch.call.registration :: dispatch.rest <:+ host.appservices.registrations) :
    Outcome host dispatch.event (finishAttempt runtime dispatch.call ok)
      (resume host runtime dispatch ok) := by
  have hrest : Outcome host dispatch.event (finishAttempt runtime dispatch.call ok)
      (visit host dispatch.event (finishAttempt runtime dispatch.call ok) dispatch.rest) :=
    visit_outcome ((suffix_cons _ _).trans hregistered)
  rw [resume]
  simp only
  split_ifs with hretry hpending
  · exact hrest
  · split
    · exact hrest
    · next after call hcall =>
        exact newCall_outcome hregistered (not_not.mp hpending) hcall
  · exact hrest

theorem finishAttempt_eq {call : AppserviceCall} {ok : Bool}
    (hnamed : call.cursor.appserviceId.isEmpty = false) :
    finishAttempt runtime call ok = if call.succeeds ok then
        { runtime with
          cursors := putRow PersistentAppserviceTxnCursor.appserviceId
            (acknowledged call.cursor) runtime.cursors }
      else runtime := by
  have hacknowledged : (acknowledged call.cursor).appserviceId.isEmpty = false := hnamed
  simp [finishAttempt, storeAppserviceTxnCursor, hacknowledged]

end Sections

structure CursorSound (host : AppserviceHost) (runtime : AppserviceRuntime)
    (sent : List (Bytes × AppserviceTransaction)) (id : Bytes)
    (cursor : PersistentAppserviceTxnCursor) : Prop where
  pendingLt : cursor.pendingTxnId < cursor.nextTxnId
  issued : ∀ transaction, (id, transaction) ∈ sent →
    ∃ number < cursor.nextTxnId, transaction.txnId = decimalDigits number.toNat
  same : ∀ first second, (id, first) ∈ sent → (id, second) ∈ sent →
    first.txnId = second.txnId → first.events = second.events
  ahead : cursor.pendingTxnId ≠ 0 → cursor.deliveredStreamOrdering < cursor.pendingStreamOrdering
  row : cursor.pendingTxnId ≠ 0 →
    ∃ row ∈ runtime.events, row.streamOrdering = cursor.pendingStreamOrdering
  pending : cursor.pendingTxnId ≠ 0 → ∀ transaction, (id, transaction) ∈ sent →
    transaction.txnId = decimalDigits cursor.pendingTxnId.toNat →
      ∀ event, pendingEvent host runtime cursor = some event → transaction.events = [event]

section Rows

variable {sent : List (Bytes × AppserviceTransaction)} {id : Bytes}
  {cursor : PersistentAppserviceTxnCursor}

theorem pendingEvent_append (others : List PersistentEvent)
    (hrow : ∃ row ∈ runtime.events, row.streamOrdering = cursor.pendingStreamOrdering) :
    pendingEvent host { runtime with events := runtime.events ++ others } cursor =
      pendingEvent host runtime cursor := by
  obtain ⟨row, hmem, hordering⟩ := hrow
  have hfound : (rowAt PersistentEvent.streamOrdering runtime.events
      cursor.pendingStreamOrdering).isSome := by
    rw [rowAt, find?_isSome]
    exact ⟨row, hmem, by simpa using hordering⟩
  rw [pendingEvent, pendingEvent, rowAt, find?_append]
  rw [Option.or_of_isSome (by exact hfound)]
  rfl

theorem mem_sent_append {known added : AppserviceTransaction} :
    (id, known) ∈ sent ++ [(id, added)] ↔ (id, known) ∈ sent ∨ known = added := by
  simp

variable (h : CursorSound host runtime sent id cursor)

include h

theorem CursorSound.sent_other {other : Bytes} (hne : id ≠ other)
    (transaction : AppserviceTransaction) :
    CursorSound host runtime (sent ++ [(other, transaction)]) id cursor := by
  have hmem : ∀ {known}, (id, known) ∈ sent ++ [(other, transaction)] → (id, known) ∈ sent := by
    intro known hknown
    rcases mem_append.mp hknown with hold | hnew
    · exact hold
    · exact absurd (congrArg Prod.fst (mem_singleton.mp hnew)) hne
  exact
    { h with
      issued := fun known hknown => h.issued known (hmem hknown)
      same := fun first second hfirst hsecond => h.same first second (hmem hfirst) (hmem hsecond)
      pending := fun hpending known hknown => h.pending hpending known (hmem hknown) }

theorem CursorSound.same_append {added : AppserviceTransaction}
    (hadded : ∀ known, (id, known) ∈ sent → known.txnId = added.txnId →
      known.events = added.events) :
    ∀ first second, (id, first) ∈ sent ++ [(id, added)] → (id, second) ∈ sent ++ [(id, added)] →
      first.txnId = second.txnId → first.events = second.events := by
  simp only [mem_sent_append]
  rintro first second (hfirst | rfl) (hsecond | rfl) hid
  · exact h.same first second hfirst hsecond hid
  · exact hadded first hfirst hid
  · exact (hadded second hsecond hid.symm).symm
  · rfl

theorem CursorSound.retried (hpending : cursor.pendingTxnId ≠ 0)
    {pending : AppserviceTransactionEvent}
    (hevent : pendingEvent host runtime cursor = some pending) :
    CursorSound host runtime
      (sent ++ [(id, ⟨decimalDigits cursor.pendingTxnId.toNat, [pending]⟩)]) id cursor := by
  -- what was sent under the pending id is the event that is read back
  have hold : ∀ known, (id, known) ∈ sent →
      known.txnId = decimalDigits cursor.pendingTxnId.toNat → known.events = [pending] :=
    fun known hknown hid => h.pending hpending known hknown hid pending hevent
  refine { h with issued := ?_, same := h.same_append hold, pending := ?_ }
  · intro known hknown
    rcases mem_sent_append.mp hknown with hknown | rfl
    · exact h.issued known hknown
    · exact ⟨_, h.pendingLt, rfl⟩
  · intro _ known hknown hid event hread
    rcases mem_sent_append.mp hknown with hknown | rfl
    · exact h.pending hpending known hknown hid event hread
    · rw [Option.some.inj (hevent.symm.trans hread)]

theorem CursorSound.fresh (hunexhausted : cursor.nextTxnId ≠ 18446744073709551615)
    {event : DispatchedEvent}
    (hnew : cursor.deliveredStreamOrdering < event.persistedStreamOrdering)
    (hrow : ∃ row ∈ runtime.events, row.streamOrdering = event.persistedStreamOrdering)
    {full : AppserviceTransactionEvent}
    (hfull : ∀ read, pendingEvent host runtime (allocated cursor event) = some read → full = read) :
    CursorSound host runtime
      (sent ++ [(id, ⟨decimalDigits (allocated cursor event).pendingTxnId.toNat, [full]⟩)]) id
      (allocated cursor event) := by
  have hnext := lt_succ hunexhausted
  -- ids that were issued before are smaller than the new one
  have hother : ∀ known, (id, known) ∈ sent →
      known.txnId ≠ decimalDigits (allocated cursor event).pendingTxnId.toNat := by
    intro known hknown hid
    obtain ⟨number, hlt, hnumber⟩ := h.issued known hknown
    rw [decimalDigits_injective (hnumber.symm.trans hid)] at hlt
    exact UInt64.lt_irrefl _ hlt
  constructor
  case pendingLt => exact hnext
  case ahead => exact fun _ => hnew
  case row => exact fun _ => hrow
  case issued =>
    intro known hknown
    rcases mem_sent_append.mp hknown with hknown | rfl
    · obtain ⟨number, hlt, hnumber⟩ := h.issued known hknown
      exact ⟨number, UInt64.lt_trans hlt hnext, hnumber⟩
    · exact ⟨_, hnext, rfl⟩
  case same =>
    exact h.same_append fun known hknown hid => absurd hid (hother known hknown)
  case pending =>
    intro _ known hknown hid read hread
    rcases mem_sent_append.mp hknown with hknown | rfl
    · exact absurd hid (hother known hknown)
    · rw [hfull read hread]

theorem CursorSound.acknowledged : CursorSound host runtime sent id (acknowledged cursor) where
  pendingLt := by
    have hlt := h.pendingLt
    rw [UInt64.lt_iff_toNat_lt] at hlt ⊢
    exact Nat.lt_of_le_of_lt (Nat.zero_le _) hlt
  issued := h.issued
  same := h.same
  ahead hpending := absurd rfl hpending
  row hpending := absurd rfl hpending
  pending hpending := absurd rfl hpending

theorem CursorSound.advances (hpending : cursor.pendingTxnId ≠ 0) :
    Advances cursor (AppserviceDelivery.acknowledged cursor) :=
  ⟨UInt64.le_refl _, UInt64.le_of_lt (h.ahead hpending)⟩

theorem CursorSound.stored {after : AppserviceRuntime}
    (hevents : runtime.events <+: after.events) :
    CursorSound host after sent id cursor := by
  obtain ⟨others, hevents⟩ := hevents
  refine { h with row := ?_, pending := ?_ }
  · intro hpending
    obtain ⟨row, hmem, hordering⟩ := h.row hpending
    exact ⟨row, hevents ▸ mem_append_left _ hmem, hordering⟩
  · intro hpending transaction hmem hid event hread
    refine h.pending hpending transaction hmem hid event ?_
    rw [← hread, ← pendingEvent_append others (h.row hpending), pendingEvent,
      pendingEvent, ← hevents]

end Rows

structure Sound (host : AppserviceHost) (run : DeliveryRun) : Prop where
  eventIds : (run.runtime.events.map PersistentEvent.eventId).Nodup
  orderings : (run.runtime.events.map PersistentEvent.streamOrdering ++ run.reserved).Nodup
  below : ∀ ordering ∈ run.runtime.events.map PersistentEvent.streamOrdering ++ run.reserved,
    ordering < run.runtime.nextStreamOrdering
  single : run.dispatches.length ≤ 1
  cursors : ∀ id, CursorSound host run.runtime run.sent id (run.cursor id)
  registered : ∀ dispatch ∈ run.dispatches,
    dispatch.call.registration :: dispatch.rest <:+ host.appservices.registrations
  copies : ∀ dispatch ∈ run.dispatches,
    dispatch.call.cursor = run.cursor dispatch.call.registration.id ∧
      dispatch.call.cursor.pendingTxnId ≠ 0
  stored : ∀ dispatch ∈ run.dispatches, ∃ row ∈ run.runtime.events,
    row.eventId = dispatch.event.eventId ∧
      row.streamOrdering = dispatch.event.persistedStreamOrdering

section Exclusion

variable {run : DeliveryRun}

section

variable (h : Sound host run)

include h

theorem park_sound (hidle : run.dispatches = []) (hunexhausted : TxnIdsLeft run.runtime)
    {event : DispatchedEvent}
    (hstored : ∃ row ∈ run.runtime.events, row.eventId = event.eventId ∧
      row.streamOrdering = event.persistedStreamOrdering)
    {result : AppserviceRuntime × Option (AppserviceCall × List AppserviceRegistration)}
    (houtcome : Outcome host event run.runtime result) : Sound host (run.park event result) := by
  cases houtcome with
  | finished => exact h
  | @retried registration rest cursor pending hregistered hcursor hpending hevent =>
    subst hcursor
    refine
      { h with
        single := by simp [park, hidle]
        cursors := ?_
        registered := by simpa [park, hidle, appserviceCall] using hregistered
        copies := by simpa [park, hidle, appserviceCall, cursor] using hpending
        stored := by simpa [park, hidle] using hstored }
    intro id
    by_cases hsame : id = registration.id
    · subst hsame
      exact (h.cursors _).retried hpending hevent
    · exact (h.cursors id).sent_other hsame _
  | @fresh registration rest cursor hregistered hcursor hnone hnew =>
    subst hcursor
    have hfind := find_allocated run.runtime.cursors event registration.id
    refine
      { h with
        single := by simp [park, hidle]
        cursors := ?_
        registered := by simpa [park, hidle, appserviceCall] using hregistered
        copies := ?_
        stored := by simpa [park, hidle] using hstored }
    · intro id
      rw [park, cursor, hfind]
      split_ifs with hsame
      · subst hsame
        refine ((h.cursors _).fresh (nextTxnId_find hunexhausted _) hnew ?_ ?_).stored prefix_rfl
        · exact hstored.imp fun row hrow => ⟨hrow.1, hrow.2.2⟩
        · intro read hread
          obtain ⟨row, hmem, hid, hrow⟩ := hstored
          change (rowAt _ _ event.persistedStreamOrdering).bind _ = _ at hread
          rw [← hrow, rowAt_of_mem (nodup_append.mp h.orderings).1 hmem] at hread
          rw [freshEvent, ← hid, rowAt_of_mem h.eventIds hmem, hread]
          rfl
      · exact ((h.cursors id).sent_other (Ne.symm hsame) _).stored prefix_rfl
    · intro dispatch hdispatch
      rw [park, hidle] at hdispatch
      obtain rfl := mem_singleton.mp hdispatch
      refine ⟨?_, ?_⟩
      · rw [park, cursor, hfind]
        exact (if_pos rfl).symm
      · have hlt := (h.cursors registration.id).pendingLt
        intro hzero
        change (run.cursor registration.id).nextTxnId = 0 at hzero
        rw [hzero] at hlt
        exact absurd hlt (UInt64.not_lt_zero)

omit h in
theorem park_runtime (run : DeliveryRun) (runtime : AppserviceRuntime) (event : DispatchedEvent)
    (result : AppserviceRuntime × Option (AppserviceCall × List AppserviceRegistration)) :
    { run with runtime }.park event result = run.park event result := by
  rcases result with ⟨_, _ | ⟨_, _⟩⟩ <;> rfl

section

variable (hidle : run.dispatches = []) {event : RoomEvent host}
  (habsent : eventIsStored run.runtime event.row.eventId = false) {next : UInt64}
  {reserved : List UInt64}
  (horderings : GivenOut (run.runtime.events.map PersistentEvent.streamOrdering ++
    ordering :: reserved) next)
include hidle habsent horderings

theorem stored_sound :
    Sound host { run with
      reserved
      runtime := storeEvent { run.runtime with nextStreamOrdering := next } event ordering } := by
  have hsplit : (run.runtime.events ++ [{ event.row with streamOrdering := ordering }]).map
      PersistentEvent.streamOrdering ++ reserved =
        run.runtime.events.map PersistentEvent.streamOrdering ++ ordering :: reserved := by
    simp
  refine
    { h with
      eventIds := ?_
      orderings := by rw [storeEvent, hsplit]; exact horderings.nodup
      below := by rw [storeEvent, hsplit]; exact horderings.below
      cursors := fun id => (h.cursors id).stored (prefix_append _ _)
      stored := by simp [hidle] }
  rw [storeEvent, map_append, map_singleton]
  refine nodup_append.mpr ⟨h.eventIds, nodup_singleton _, ?_⟩
  rintro id hid _ hnew rfl
  obtain ⟨row, hmem, hrow⟩ := mem_map.mp hid
  have hexists : eventIsStored run.runtime event.row.eventId = true := by
    rw [eventIsStored, ← mem_singleton.mp hnew, ← hrow, rowAt_of_mem h.eventIds hmem]
    rfl
  rw [hexists] at habsent
  cases habsent

theorem start_sound (hunexhausted : TxnIdsLeft run.runtime) :
    Sound host ({ run with
      reserved, runtime := { run.runtime with nextStreamOrdering := next } }.start event
        ordering) := by
  have hstored := stored_sound h hidle habsent horderings
  rw [start]
  refine park_sound hstored hidle hunexhausted ?_ (visit_outcome (suffix_refl _))
  exact ⟨{ event.row with streamOrdering := ordering }, by simp [storeEvent], rfl, rfl⟩

end

theorem Sound.givenOut :
    GivenOut (run.runtime.events.map PersistentEvent.streamOrdering ++ run.reserved)
      run.runtime.nextStreamOrdering :=
  ⟨h.orderings, h.below⟩

theorem Sound.taken (hnext : run.runtime.nextStreamOrdering ≠ 18446744073709551615) :
    GivenOut (run.runtime.events.map PersistentEvent.streamOrdering ++
      run.runtime.nextStreamOrdering :: run.reserved) (run.runtime.nextStreamOrdering + 1) :=
  (h.givenOut.take hnext).perm perm_middle.symm

theorem Sound.used (hreserved : ordering ∈ run.reserved) :
    GivenOut (run.runtime.events.map PersistentEvent.streamOrdering ++
      ordering :: run.reserved.erase ordering) run.runtime.nextStreamOrdering :=
  h.givenOut.perm ((perm_cons_erase hreserved).append_left _)

theorem Sound.reserved (hnext : run.runtime.nextStreamOrdering ≠ 18446744073709551615) :
    GivenOut (run.runtime.events.map PersistentEvent.streamOrdering ++
      (run.reserved ++ [run.runtime.nextStreamOrdering])) (run.runtime.nextStreamOrdering + 1) :=
  (h.taken hnext).perm ((perm_append_singleton _ _).symm.append_left _)

theorem advanced_sound {next : UInt64} {reserved : List UInt64}
    (horderings : GivenOut (run.runtime.events.map PersistentEvent.streamOrdering ++ reserved)
      next) :
    Sound host { run with
      reserved, runtime := { run.runtime with nextStreamOrdering := next } } :=
  { h with
    orderings := horderings.nodup
    below := horderings.below
    cursors := fun id => (h.cursors id).stored prefix_rfl }

theorem dispatches_of_getElem? {index : Nat} (hdispatch : run.dispatches[index]? = some dispatch) :
    run.dispatches = [dispatch] ∧ run.dispatches.eraseIdx index = [] := by
  obtain ⟨hlt, hget⟩ := List.getElem?_eq_some_iff.mp hdispatch
  have hsingle := h.single
  obtain ⟨only, honly⟩ := length_eq_one_iff.mp (by omega : run.dispatches.length = 1)
  obtain rfl : index = 0 := by omega
  simp only [honly, getElem?_cons_zero, Option.some.injEq] at hdispatch
  rw [honly, hdispatch]
  exact ⟨rfl, rfl⟩

theorem find_finishAttempt (hdispatch : dispatch ∈ run.dispatches) (ok : Bool) (id : Bytes) :
    findAppserviceTxnCursor (finishAttempt run.runtime dispatch.call ok).cursors id =
      if dispatch.call.succeeds ok ∧ dispatch.call.registration.id = id then
        acknowledged (run.cursor id)
      else run.cursor id := by
  have hcopy := (h.copies dispatch hdispatch).1
  have hid : dispatch.call.cursor.appserviceId = dispatch.call.registration.id := by
    rw [hcopy, cursor, appserviceId_find]
  have hnamed := registered_id ((h.registered dispatch hdispatch).subset mem_cons_self)
  rw [finishAttempt_eq (by rw [hid, hnamed])]
  split_ifs with hok hboth hboth
  · rw [find_putRow, acknowledged, if_pos (hid.trans hboth.2), hcopy, hboth.2]
    rfl
  · rw [find_putRow, acknowledged, if_neg (fun hsame => hboth ⟨hok, hid.symm.trans hsame⟩)]
    rfl
  · exact absurd hboth.1 hok
  · rfl

theorem nextTxnId_finishAttempt (hdispatch : dispatch ∈ run.dispatches) (ok : Bool)
    (hunexhausted : TxnIdsLeft run.runtime) :
    TxnIdsLeft (finishAttempt run.runtime dispatch.call ok) := by
  have hcopy := (h.copies dispatch hdispatch).1
  have hnamed := registered_id ((h.registered dispatch hdispatch).subset mem_cons_self)
  rw [finishAttempt_eq (by rw [hcopy, cursor, appserviceId_find, hnamed])]
  split_ifs
  · intro cursor hcursor
    rcases mem_of_mem_putRow hcursor with hold | rfl
    · exact hunexhausted cursor hold
    · rw [acknowledged, hcopy]
      exact nextTxnId_find hunexhausted _
  · exact hunexhausted

omit h in
theorem events_finishAttempt (runtime : AppserviceRuntime) (call : AppserviceCall) (ok : Bool) :
    (finishAttempt runtime call ok).events = runtime.events ∧
      (finishAttempt runtime call ok).nextStreamOrdering = runtime.nextStreamOrdering ∧
      (finishAttempt runtime call ok).rooms = runtime.rooms := by
  unfold finishAttempt
  split_ifs <;> exact ⟨rfl, rfl, rfl⟩

theorem finish_sound (hdispatch : dispatch ∈ run.dispatches) (ok : Bool)
    (answered : List (Bytes × UInt64 × AppserviceTransaction)) :
    Sound host { run with
      dispatches := []
      answered
      runtime := finishAttempt run.runtime dispatch.call ok } := by
  obtain ⟨hevents, hnext, -⟩ := events_finishAttempt run.runtime dispatch.call ok
  refine
    { eventIds := by rw [hevents]; exact h.eventIds
      orderings := by rw [hevents]; exact h.orderings
      below := by rw [hevents, hnext]; exact h.below
      single := Nat.zero_le 1
      cursors := ?_
      registered := by simp
      copies := by simp
      stored := by simp }
  intro id
  rw [cursor, find_finishAttempt h hdispatch]
  split_ifs
  · exact (h.cursors id).acknowledged.stored (by rw [hevents])
  · exact (h.cursors id).stored (by rw [hevents])

theorem act_sound {action : DeliveryAction host} (hexclusive : Exclusive run action) :
    Sound host (run.act action) := by
  cases action with
  | reserveOrdering =>
    exact advanced_sound h (h.reserved hexclusive.1)
  | sendEvent event =>
    obtain ⟨⟨hnext, hcursors⟩, hidle⟩ := hexclusive
    rw [act]
    split_ifs with hstored
    · exact advanced_sound h (h.givenOut.take hnext).tail
    · have hstart := start_sound h hidle (Bool.eq_false_iff.mpr hstored) (h.taken hnext) hcursors
      exact { hstart with }
  | ingestPdu ordering event =>
    obtain ⟨⟨-, hcursors⟩, hidle⟩ := hexclusive
    rw [act]
    split_ifs with hrefused
    · exact h
    · rw [Bool.or_eq_true, not_or, Bool.not_eq_true', Bool.not_eq_false, contains_iff_mem]
        at hrefused
      exact start_sound h hidle (Bool.eq_false_iff.mpr hrefused.2) (h.used hrefused.1) hcursors
  | answer index ok =>
    rw [act]
    split
    · exact h
    · next dispatch hdispatch =>
        obtain ⟨hsingle, herased⟩ := dispatches_of_getElem? h hdispatch
        have hmem : dispatch ∈ run.dispatches := hsingle ▸ mem_singleton_self _
        have hfinished := finish_sound h hmem ok
        rw [herased, ← park_runtime _ (finishAttempt run.runtime dispatch.call ok)]
        refine park_sound (hfinished _) rfl ?_ ?_ (resume_outcome ok (h.registered _ hmem))
        · exact nextTxnId_finishAttempt h hmem ok hexclusive.2
        · rw [(events_finishAttempt run.runtime dispatch.call ok).1]
          exact h.stored _ hmem
  | restart =>
    exact { h with
      single := Nat.zero_le 1
      registered := by simp [act]
      copies := by simp [act]
      stored := by simp [act] }

end

theorem Advances.refl (cursor : PersistentAppserviceTxnCursor) : Advances cursor cursor :=
  ⟨UInt64.le_refl _, UInt64.le_refl _⟩

theorem Advances.trans {first second third : PersistentAppserviceTxnCursor}
    (h : Advances first second) (h' : Advances second third) : Advances first third :=
  ⟨UInt64.le_trans h.1 h'.1, UInt64.le_trans h.2 h'.2⟩

theorem park_advances (hunexhausted : TxnIdsLeft runtime) {event : DispatchedEvent}
    {result : AppserviceRuntime × Option (AppserviceCall × List AppserviceRegistration)}
    (houtcome : Outcome host event runtime result) (run : DeliveryRun) (id : Bytes) :
    Advances (findAppserviceTxnCursor runtime.cursors id) ((run.park event result).cursor id) := by
  cases houtcome with
  | finished => exact .refl _
  | retried _ _ _ _ => exact .refl _
  | @fresh registration rest cursor hregistered hcursor hnone hnew =>
    subst hcursor
    rw [DeliveryRun.cursor, park, find_allocated]
    split_ifs with hsame
    · subst hsame
      exact ⟨UInt64.le_of_lt (lt_succ (nextTxnId_find hunexhausted _)), UInt64.le_refl _⟩
    · exact .refl _

variable (run) in
theorem start_advances (hunexhausted : TxnIdsLeft run.runtime) (event : RoomEvent host)
    (ordering : UInt64) (id : Bytes) :
    Advances (run.cursor id) ((run.start event ordering).cursor id) := by
  have hleft : TxnIdsLeft (storeEvent run.runtime event ordering) := hunexhausted
  exact park_advances hleft (visit_outcome (suffix_refl _)) run id

theorem act_advances (h : Sound host run) {action : DeliveryAction host}
    (hexclusive : Exclusive run action) (id : Bytes) :
    Advances (run.cursor id) ((run.act action).cursor id) := by
  cases action with
  | reserveOrdering => exact .refl _
  | restart => exact .refl _
  | sendEvent event =>
    rw [act]
    split_ifs
    · exact .refl _
    · exact start_advances { run with runtime := advanceOrdering run.runtime }
        hexclusive.1.2 event run.runtime.nextStreamOrdering id
  | ingestPdu ordering event =>
    rw [act]
    split_ifs
    · exact .refl _
    · exact start_advances { run with reserved := run.reserved.erase ordering }
        hexclusive.1.2 event ordering id
  | answer index ok =>
    rw [act]
    split
    · exact .refl _
    · next dispatch hdispatch =>
        obtain ⟨hsingle, -⟩ := dispatches_of_getElem? h hdispatch
        have hmem : dispatch ∈ run.dispatches := hsingle ▸ mem_singleton_self _
        have hfinished : Advances (run.cursor id) (findAppserviceTxnCursor
            (finishAttempt run.runtime dispatch.call ok).cursors id) := by
          rw [find_finishAttempt h hmem]
          split_ifs with hboth
          · refine (h.cursors id).advances ?_
            rw [← hboth.2, ← (h.copies dispatch hmem).1]
            exact (h.copies dispatch hmem).2
          · exact .refl _
        exact hfinished.trans (park_advances (nextTxnId_finishAttempt h hmem ok hexclusive.2)
          (resume_outcome ok (h.registered _ hmem)) _ id)

theorem sound_empty : Sound host {} where
  eventIds := nodup_nil
  orderings := nodup_nil
  below := by simp
  single := Nat.zero_le 1
  cursors id :=
    { pendingLt := by change (0 : UInt64) < 1; decide
      issued := by simp
      same := by simp
      ahead := fun hpending => absurd rfl hpending
      row := fun hpending => absurd rfl hpending
      pending := fun hpending => absurd rfl hpending }
  registered := by simp
  copies := by simp
  stored := by simp

theorem run_sound {start : DeliveryRun} (h : Sound host start)
    {actions : List (DeliveryAction host)} (halong : Along act Exclusive start actions) :
    Sound host (OperationRuns.run act start actions) ∧
      ∀ id, Advances (start.cursor id) ((OperationRuns.run act start actions).cursor id) := by
  refine halong.invariant
    (motive := fun run => Sound host run ∧ ∀ id, Advances (start.cursor id) (run.cursor id))
    (fun run action hbefore hexclusive => ⟨act_sound hbefore.1 hexclusive, fun id => ?_⟩)
    ⟨h, fun _ => .refl _⟩
  exact (hbefore.2 id).trans (act_advances hbefore.1 hexclusive id)

end Exclusion

/-- Where dispatches do not overlap, a transaction id stands for one content and a
service's row never moves backwards. -/
theorem transaction_id_determines_events {host : AppserviceHost}
    {actions : List (DeliveryAction host)} (halong : Along act Exclusive {} actions) :
    (∀ id first second, (id, first) ∈ (run act {} actions).sent →
      (id, second) ∈ (run act {} actions).sent → first.txnId = second.txnId →
        first.events = second.events) ∧
      ∀ earlier later, actions = earlier ++ later → ∀ id,
        Advances ((run act {} earlier).cursor id) ((run act {} actions).cursor id) := by
  refine ⟨fun id => ((run_sound sound_empty halong).1.cursors id).same, ?_⟩
  rintro earlier later rfl id
  obtain ⟨hearlier, hlater⟩ := along_append.mp halong
  rw [run_append]
  exact (run_sound (run_sound sound_empty hearlier).1 hlater).2 id

def ircService : AppserviceRegistration :=
  ⟨"irc", some "http://b.org", "bot", { rooms := [⟨false, ".*"⟩] }⟩

def sampleHost : AppserviceHost where
  serverName := "a.org"
  appservices :=
    { registrations := [ircService]
      named := by decide
      distinct := by decide }
  regexMatch _ _ := true
  yyjson := readerOf [.object []]

def sampleRow (eventId : Bytes) : PersistentEvent where
  eventId := eventId
  roomId := "!r:a.org"
  senderUserId := "@x:a.org"
  json := "\x7b\x7d"
  depth := 1
  streamOrdering := 0
  prevEventIds := []
  authEventIds := []
  signatures := []

def sampleEvent (eventId : Bytes) : RoomEvent sampleHost where
  row := sampleRow eventId
  eventType := "m.room.message"
  stateKey := none
  roomAlias := []
  members := ["@x:a.org"]
  readable := rfl

def sequentialActions : List (DeliveryAction sampleHost) :=
  [.sendEvent (sampleEvent "$1"), .answer 0 false, .sendEvent (sampleEvent "$2"),
    .answer 0 true, .answer 0 true]

theorem sequential_ids_are_not_reused :
    (∀ id first second, (id, first) ∈ (run act {} sequentialActions).sent →
      (id, second) ∈ (run act {} sequentialActions).sent → first.txnId = second.txnId →
        first.events = second.events) ∧
      ∀ earlier later, sequentialActions = earlier ++ later → ∀ id,
        Advances ((run act {} earlier).cursor id) ((run act {} sequentialActions).cursor id) :=
  transaction_id_determines_events (by decide +kernel)

/-- The second dispatch starts while the first waits, and the first writes its old
copy of the row over what the second has written. -/
def overlappingActions : List (DeliveryAction sampleHost) :=
  [.sendEvent (sampleEvent "$1"), .sendEvent (sampleEvent "$2"), .answer 1 true]

theorem overlapping_dispatches_reuse_id : let before := run act {} overlappingActions
    let after := run act before [.answer 0 true, .sendEvent (sampleEvent "$3")]
    (before.cursor "irc").nextTxnId = 3 ∧
      ((before.act (.answer 0 true : DeliveryAction sampleHost)).cursor "irc").nextTxnId = 2 ∧
      (after.sent.filter fun entry => entry.2.txnId = utf8 "2").map
          (fun entry => entry.2.events.map AppserviceTransactionEvent.eventId) =
        [[utf8 "$2"], [utf8 "$3"]] := by
  decide +kernel

end Merovingian.DeliveryRuns
