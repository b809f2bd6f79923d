import Merovingian.DeliveryRuns

/-!
When the delivery to application services has no gaps. An event whose service has
an older transaction pending is passed over for good when that transaction fails
once more. Where every transaction that is sent again is answered with success,
what a service's row says has been delivered has been answered, in stream order.
-/

namespace Merovingian.GapFreeDelivery

open ByteString KeyedFold TableMirror StoreTables PduIngestion AppserviceDelivery OperationRuns
  DeliveryRuns DeliveryRuns.DeliveryRun WordCounters List

def Interested (host : AppserviceHost) (registration : AppserviceRegistration)
    (event : DispatchedEvent) (members : List Bytes) : Prop :=
  registrationInterestedInRoomEvent host registration event.roomId event.roomAlias event.sender
    members = true

instance (host : AppserviceHost) (registration : AppserviceRegistration)
    (event : DispatchedEvent) (members : List Bytes) :
    Decidable (Interested host registration event members) :=
  inferInstanceAs (Decidable (_ = true))

/-- Dispatches do not overlap, a transaction that is sent again is answered with
success, and no restart cuts off a dispatch that still has services to visit. -/
def Orderly {host : AppserviceHost} (run : DeliveryRun) : DeliveryAction host → Prop
  | .answer index ok => Unexhausted run.runtime ∧
      ∀ dispatch ∈ run.dispatches[index]?, dispatch.call.retry = true →
        dispatch.call.succeeds ok = true
  | .restart => ∀ dispatch ∈ run.dispatches, dispatch.rest = [] ∧ dispatch.call.retry = false
  | action => Exclusive run action

instance {host : AppserviceHost} (run : DeliveryRun) :
    DecidablePred (Orderly run : DeliveryAction host → Prop)
  | .answer index _ =>
    inferInstanceAs (Decidable (_ ∧ ∀ dispatch ∈ run.dispatches[index]?, _))
  | .restart =>
    have (dispatch : Dispatch) : Decidable (dispatch.rest = []) :=
      decidable_of_iff _ isEmpty_iff
    inferInstanceAs (Decidable (∀ dispatch ∈ run.dispatches, _ ∧ _))
  | .reserveOrdering => inferInstanceAs (Decidable (Unexhausted run.runtime))
  | .sendEvent event => inferInstanceAs (Decidable (Exclusive run (.sendEvent event)))
  | .ingestPdu ordering event =>
    inferInstanceAs (Decidable (Exclusive run (.ingestPdu ordering event)))

theorem Orderly.exclusive {host : AppserviceHost} {run : DeliveryRun} {action : DeliveryAction host}
    (h : Orderly run action) : Exclusive run action := by
  cases action with
  | answer index ok => exact h.1
  | restart => trivial
  | reserveOrdering => exact h
  | sendEvent event => exact h
  | ingestPdu ordering event => exact h

section

variable (run : DeliveryRun) (registration : AppserviceRegistration) (event : DispatchedEvent)

def Served : Prop :=
  ∃ transaction, (registration.id, event.persistedStreamOrdering, transaction) ∈ run.answered ∧
    event.eventId ∈ transaction.events.map AppserviceTransactionEvent.eventId

def Pending : Prop :=
  (run.cursor registration.id).pendingTxnId ≠ 0 ∧
    (run.cursor registration.id).pendingStreamOrdering = event.persistedStreamOrdering

def Awaited (dispatch : Dispatch) (registration : AppserviceRegistration) : Prop :=
  registration ∈ dispatch.rest ∨
    dispatch.call.registration = registration ∧ dispatch.call.retry = true

def Behind : Prop :=
  (run.cursor registration.id).deliveredStreamOrdering < event.persistedStreamOrdering ∧
    ((run.cursor registration.id).pendingTxnId ≠ 0 →
      (run.cursor registration.id).pendingStreamOrdering < event.persistedStreamOrdering)

def answeredOrderings (id : Bytes) : List UInt64 :=
  (run.answered.filter fun entry => entry.1 = id).map fun entry => entry.2.1

end

structure Kept (host : AppserviceHost) (run : DeliveryRun) : Prop extends Sound host run where
  readable : ∀ row ∈ run.runtime.events, (appserviceTransactionEventFor host row).isSome = true
  bounded : ∀ id, (run.cursor id).deliveredStreamOrdering < run.runtime.nextStreamOrdering ∧
      ((run.cursor id).pendingTxnId ≠ 0 →
        (run.cursor id).pendingStreamOrdering < run.runtime.nextStreamOrdering)
  known : ∀ event members, (event, members) ∈ run.locals → ∃ row ∈ run.runtime.events,
    row.eventId = event.eventId ∧ row.streamOrdering = event.persistedStreamOrdering
  increasing : ∀ id, (answeredOrderings run id).Pairwise (· < ·)
  answeredLe : ∀ id, ∀ ordering ∈ answeredOrderings run id,
    ordering ≤ (run.cursor id).deliveredStreamOrdering

/-- No local event is lost: a service that is interested in it was served, has it
pending, or the dispatch in flight will come to it. -/
structure GapFree (host : AppserviceHost) (run : DeliveryRun) : Prop extends Kept host run where
  carries : ∀ dispatch ∈ run.dispatches, ∃ row ∈ run.runtime.events,
    row.streamOrdering = dispatch.call.cursor.pendingStreamOrdering ∧
      row.eventId ∈ dispatch.call.transaction.events.map AppserviceTransactionEvent.eventId
  members : ∀ dispatch ∈ run.dispatches, ∀ members, (dispatch.event, members) ∈ run.locals →
    run.runtime.members dispatch.event.roomId = members
  behind : ∀ dispatch ∈ run.dispatches, ∀ members, (dispatch.event, members) ∈ run.locals →
    ∀ registration, Awaited dispatch registration → Behind run registration dispatch.event
  served : ∀ registration ∈ host.appservices.registrations, ∀ event members,
    (event, members) ∈ run.locals → Interested host registration event members →
      Served run registration event ∨ Pending run registration event ∨
        ∃ dispatch ∈ run.dispatches, dispatch.event = event ∧ Awaited dispatch registration

/-- The same while a dispatch holds the lock and has services left to visit. -/
structure InHand (host : AppserviceHost) (run : DeliveryRun) (event : DispatchedEvent)
    (left : List AppserviceRegistration) : Prop extends Kept host run where
  idle : run.dispatches = []
  row : ∃ row ∈ run.runtime.events,
    row.eventId = event.eventId ∧ row.streamOrdering = event.persistedStreamOrdering
  members : ∀ members, (event, members) ∈ run.locals → run.runtime.members event.roomId = members
  behind : ∀ members, (event, members) ∈ run.locals → ∀ registration ∈ left,
    Behind run registration event
  served : ∀ registration ∈ host.appservices.registrations, ∀ other members,
    (other, members) ∈ run.locals → Interested host registration other members →
      Served run registration other ∨ Pending run registration other ∨
        other = event ∧ registration ∈ left

section Visiting

variable {host : AppserviceHost} {run : DeliveryRun} {event : DispatchedEvent}
  {registration : AppserviceRegistration} {left : List AppserviceRegistration}

theorem InHand.skip (h : InHand host run event (registration :: left))
    (hskip : ∀ members, (event, members) ∈ run.locals →
      ¬Interested host registration event members) : InHand host run event left :=
  { h with
    behind := fun members hlocal other hother =>
      h.behind members hlocal other (mem_cons_of_mem _ hother)
    served := by
      intro other hregistered known members hlocal hinterested
      refine (h.served other hregistered known members hlocal hinterested).imp_right
        (Or.imp_right ?_)
      rintro ⟨rfl, hleft⟩
      rcases mem_cons.mp hleft with rfl | hleft
      · exact absurd hinterested (hskip members hlocal)
      · exact ⟨rfl, hleft⟩ }

theorem InHand.finished (h : InHand host run event []) : GapFree host run :=
  { h with
    carries := by simp [h.idle]
    members := by simp [h.idle]
    behind := by simp [h.idle]
    served := by
      intro other hregistered known members hlocal hinterested
      refine (h.served other hregistered known members hlocal hinterested).imp_right
        (Or.imp_right ?_)
      rintro ⟨-, ⟨⟩⟩ }

theorem eventId_of_transactionEvent {row : PersistentEvent} {read : AppserviceTransactionEvent}
    (h : appserviceTransactionEventFor host row = some read) : read.eventId = row.eventId := by
  unfold appserviceTransactionEventFor at h
  split at h
  · cases h
  · obtain ⟨root, -, rfl⟩ := Option.map_eq_some_iff.mp h
    rfl

theorem eventId_freshEvent (event : DispatchedEvent) (runtime : AppserviceRuntime) :
    (freshEvent host event runtime).eventId = event.eventId := by
  rw [freshEvent]
  rcases hread : (rowAt PersistentEvent.eventId runtime.events event.eventId).bind
      (appserviceTransactionEventFor host) with _ | read
  · rfl
  · obtain ⟨row, hrow, hread⟩ := Option.bind_eq_some_iff.mp hread
    have hid : row.eventId = event.eventId := by simpa using find?_some hrow
    exact (eventId_of_transactionEvent hread).trans hid

theorem id_ne_of_suffix (hregistered : registration :: left <:+ host.appservices.registrations)
    {other : AppserviceRegistration} (hother : other ∈ left) : registration.id ≠ other.id := by
  have hdistinct := host.appservices.distinct.sublist (hregistered.sublist.map _)
  rw [map_cons] at hdistinct
  intro hsame
  exact (nodup_cons.mp hdistinct).1 (hsame ▸ mem_map_of_mem hother)

section

variable (h : InHand host run event (registration :: left))
  (hregistered : registration :: left <:+ host.appservices.registrations)
include h hregistered

variable (hunexhausted : TxnIdsLeft run.runtime)
include hunexhausted

theorem InHand.retried (hpending : (run.cursor registration.id).pendingTxnId ≠ 0)
    {pending : AppserviceTransactionEvent}
    (hevent : pendingEvent host run.runtime (run.cursor registration.id) = some pending) :
    GapFree host (run.park event (run.runtime,
      some (appserviceCall registration (run.cursor registration.id) pending true, left))) := by
  have hsound := park_sound h.toSound h.idle hunexhausted h.row
    (.retried hregistered rfl hpending hevent)
  refine
    { h.toKept with
      toSound := hsound
      carries := ?_
      members := ?_
      behind := ?_
      served := ?_ }
  · obtain ⟨row, hrow, hread⟩ := Option.bind_eq_some_iff.mp hevent
    simp only [park, h.idle, nil_append, forall_mem_singleton]
    exact ⟨row, mem_of_find?_eq_some hrow, by simpa [appserviceCall] using find?_some hrow,
      by simp [appserviceCall, eventId_of_transactionEvent hread]⟩
  · simp only [park, h.idle, nil_append, forall_mem_singleton]
    exact h.members
  · simp only [park, h.idle, nil_append, forall_mem_singleton]
    intro members hlocal other hawaited
    refine h.behind members hlocal other ?_
    rcases hawaited with hleft | ⟨rfl, -⟩
    · exact mem_cons_of_mem _ hleft
    · exact mem_cons_self
  · intro other hother known members hlocal hinterested
    refine (h.served other hother known members hlocal hinterested).imp_right (Or.imp_right ?_)
    rintro ⟨rfl, hleft⟩
    refine ⟨_, mem_append_right _ (mem_singleton_self _), rfl, ?_⟩
    rcases mem_cons.mp hleft with rfl | hleft
    · exact .inr ⟨rfl, rfl⟩
    · exact .inl hleft

theorem InHand.fresh (hidle : (run.cursor registration.id).pendingTxnId = 0)
    (hnew : (run.cursor registration.id).deliveredStreamOrdering < event.persistedStreamOrdering) :
    GapFree host (run.park event
      ({ run.runtime with
          cursors := putRow PersistentAppserviceTxnCursor.appserviceId
            (allocated (run.cursor registration.id) event) run.runtime.cursors },
        some (appserviceCall registration (allocated (run.cursor registration.id) event)
          (freshEvent host event run.runtime) false, left))) := by
  have hsound := park_sound h.toSound h.idle hunexhausted h.row
    (.fresh hregistered rfl hidle hnew)
  set after := run.park event _ with hafter
  -- only the row of the one service changes
  have hcursor : ∀ id, after.cursor id =
      if registration.id = id then allocated (run.cursor registration.id) event
      else run.cursor id := fun id => find_allocated run.runtime.cursors event registration.id id
  have hkept : Kept host after := by
    refine { h.toKept with toSound := hsound, bounded := ?_, answeredLe := ?_ }
    · intro id
      rw [hcursor]
      split_ifs with hsame
      · obtain ⟨row, hmem, -, hordering⟩ := h.row
        refine ⟨(h.bounded registration.id).1, fun _ => ?_⟩
        change event.persistedStreamOrdering < run.runtime.nextStreamOrdering
        rw [← hordering]
        exact h.below _ (mem_append_left _ (mem_map_of_mem hmem))
      · exact h.bounded id
    · intro id ordering hmem
      rw [hcursor]
      split_ifs with hsame
      · subst hsame
        exact h.answeredLe _ ordering hmem
      · exact h.answeredLe id ordering hmem
  have hdispatches : after.dispatches = [⟨event, appserviceCall registration
      (allocated (run.cursor registration.id) event) (freshEvent host event run.runtime) false,
      left⟩] := by
    rw [hafter, park, h.idle]
    rfl
  refine { hkept with carries := ?_, members := ?_, behind := ?_, served := ?_ }
  · rw [hdispatches, forall_mem_singleton]
    obtain ⟨row, hmem, hid, hordering⟩ := h.row
    exact ⟨row, hmem, hordering, by simp [appserviceCall, eventId_freshEvent, hid]⟩
  · rw [hdispatches, forall_mem_singleton]
    exact h.members
  · rw [hdispatches, forall_mem_singleton]
    intro members hlocal other hawaited
    rcases hawaited with hleft | ⟨-, hretry⟩
    · rw [Behind, hcursor, if_neg (id_ne_of_suffix hregistered hleft)]
      exact h.behind members hlocal other (mem_cons_of_mem _ hleft)
    · cases hretry
  · intro other hother known members hlocal hinterested
    rcases h.served other hother known members hlocal hinterested with
      hserved | hpended | ⟨rfl, hleft⟩
    · exact .inl hserved
    · refine .inr (.inl ?_)
      have hne : registration.id ≠ other.id := by
        intro hsame
        rw [Pending, ← hsame] at hpended
        exact hpended.1 hidle
      rw [Pending, hcursor, if_neg hne]
      exact hpended
    · rcases mem_cons.mp hleft with rfl | hleft
      · refine .inr (.inl ?_)
        rw [Pending, hcursor, if_pos rfl]
        have hcopies := (hsound.copies _ (hdispatches ▸ mem_singleton_self _)).2
        exact ⟨hcopies, rfl⟩
      · refine .inr (.inr ⟨_, hdispatches ▸ mem_singleton_self _, rfl, .inl hleft⟩)

end

end Visiting

section Steps

variable {host : AppserviceHost} {run : DeliveryRun}

def finished (run : DeliveryRun) (dispatch : Dispatch) (ok : Bool) : DeliveryRun :=
  { run with
    dispatches := []
    answered :=
      if dispatch.call.succeeds ok then
        run.answered ++ [(dispatch.call.registration.id,
          dispatch.call.cursor.pendingStreamOrdering, dispatch.call.transaction)]
      else run.answered
    runtime := finishAttempt run.runtime dispatch.call ok }

variable {ok : Bool} {dispatch : Dispatch}

variable (h : GapFree host run)

include h

def stored (run : DeliveryRun) (event : RoomEvent host) (ordering next : UInt64)
    (reserved : List UInt64) (fresh : List (DispatchedEvent × List Bytes)) : DeliveryRun :=
  { run with
    reserved
    locals := run.locals ++ fresh
    runtime := storeEvent { run.runtime with nextStreamOrdering := next } event ordering }

variable {event : RoomEvent host} {ordering next : UInt64} {reserved : List UInt64}
  {fresh : List (DispatchedEvent × List Bytes)}

section

variable (hidle : run.dispatches = [])
  (habsent : eventIsStored run.runtime event.row.eventId = false)
  (horderings : GivenOut (run.runtime.events.map PersistentEvent.streamOrdering ++ ordering ::
    reserved) next)
  (hnext : run.runtime.nextStreamOrdering ≤ next)
include hidle habsent horderings hnext

end

end Steps

end Merovingian.GapFreeDelivery
