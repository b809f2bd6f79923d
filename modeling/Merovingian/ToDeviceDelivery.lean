import Merovingian.SlidingSync
import Merovingian.SyncStreamIds

/-!
Messages to a device over sliding sync. A message stays in the queue until a request
of its device carries a position at or behind it. The position of a response is that
of the stream, also where the limit has kept messages out of the response, so what
the limit cuts off is lost.
-/

namespace Merovingian.ToDeviceDelivery

open ByteString DecimalText StoreTables OperationRuns WordCounters SyncSurfaces
  SlidingSyncExtensions SlidingSync List

section Queue

theorem mem_foldl_eraseMessage {messages acknowledged : List PersistentToDeviceMessage}
    {message : PersistentToDeviceMessage} :
    message ∈ acknowledged.foldl eraseMessage messages ↔
      message ∈ messages ∧ ∀ other ∈ acknowledged,
        ¬(message.streamId = other.streamId ∧ message.targetUserId = other.targetUserId ∧
          message.targetDeviceId = other.targetDeviceId) := by
  induction acknowledged generalizing messages with
  | nil => simp
  | cons first rest ih =>
    rw [foldl_cons, ih, forall_mem_cons, eraseMessage, mem_filter, Bool.not_eq_true',
      ← Bool.not_eq_true, and_assoc]
    simp only [Bool.and_eq_true, decide_eq_true_eq, and_assoc]

variable {tables : SyncTables} {user deviceId : Bytes} {since upper : UInt64}
  {message : PersistentToDeviceMessage}

theorem target_of_isTargeted (haddressed : addressedToDevice user deviceId message = true)
    (htargeted : isTargeted message = true) :
    message.targetUserId = user ∧ message.targetDeviceId = deviceId := by
  simp only [addressedToDevice, isTargeted, Bool.and_eq_true, Bool.or_eq_true, decide_eq_true_eq,
    Bool.not_eq_true'] at haddressed htargeted
  obtain ⟨huser, (hempty | hall) | hone⟩ := haddressed
  · rw [hempty] at htargeted
    exact absurd htargeted.1 (by simp)
  · exact absurd hall htargeted.2
  · exact ⟨huser, hone⟩

theorem removed_by_drain (hmem : message ∈ tables.toDeviceMessages)
    (hgone : message ∉
      (drainToDeviceMessages tables user deviceId since upper).2.toDeviceMessages) :
    message.targetUserId = user ∧ message.targetDeviceId = deviceId ∧
      isTargeted message = true ∧ message.streamId ≤ since := by
  simp only [drainToDeviceMessages, mem_foldl_eraseMessage, not_and, not_forall,
    Classical.not_not] at hgone
  obtain ⟨other, hother, hid, huser, hdevice⟩ := hgone hmem
  simp only [mem_filter, Bool.and_eq_true, decide_eq_true_eq, Bool.not_eq_true',
    decide_eq_false_iff_not] at hother
  obtain ⟨⟨⟨-, haddressed, -⟩, hsince⟩, htargeted⟩ := hother
  obtain ⟨huserOther, hdeviceOther⟩ := target_of_isTargeted haddressed htargeted
  refine ⟨huser.trans huserOther, hdevice.trans hdeviceOther, ?_, ?_⟩
  · simpa only [isTargeted, hdevice] using htargeted
  · rw [hid]
    exact UInt64.not_lt.mp hsince

end Queue

section Runs

/-- The server and a client: the position that the client holds, the messages that
were queued so far, and the to-device parts of the responses that arrived. -/
structure DeliveryRun where
  runtime : SlidingSyncRuntime
  since : Option Bytes := none
  sent : List PersistentToDeviceMessage := []
  received : List ExtToDeviceResponse := []

/-- A message is sent, another surface spends a stream id, the client syncs and the
response arrives or not, or another device syncs. -/
inductive DeliveryAction (user deviceId : Bytes) where
  | send (message : PersistentToDeviceMessage) (commits : Bool)
  | allocate
  | sync (call : SlidingSyncCall) (arrives : Bool)
  | otherSync (device : { device : Bytes × Bytes // device ≠ (user, deviceId) })
      (call : SlidingSyncCall)

def withSince (since : Option Bytes) (call : SlidingSyncCall) : SlidingSyncCall :=
  { call with
    request := { call.request with
      extensions := call.request.extensions.map fun extensions =>
        { extensions with
          toDevice := extensions.toDevice.map fun extension => { extension with since } } } }

variable (host : SyncHost) {user deviceId : Bytes}

def allocatedTables (tables : SyncTables) : SyncTables :=
  { tables with
    database := { tables.database with
      persistentStore := (allocateSyncStreamId host.backend tables.store).2 } }

def withTables (run : DeliveryRun) (tables : SyncTables) : DeliveryRun :=
  { run with runtime := { run.runtime with toSyncTables := tables } }

def receive (run : DeliveryRun) (result : DispatchResult) : DeliveryRun :=
  match result with
  | .complete response =>
    match response.extensions.bind SlidingSyncExtensionResponses.toDevice with
    | none => run
    | some toDevice =>
      { run with
        since := some toDevice.nextBatch
        received := run.received ++ [toDevice] }
  | _ => run

def DeliveryRun.act (run : DeliveryRun) : DeliveryAction user deviceId → DeliveryRun
  | .send message commits =>
    let (stored, tables) := enqueueToDeviceMessage host run.runtime.toSyncTables message commits
    if stored then
      { withTables run tables with
        sent := run.sent ++ [{ message with streamId := syncWatermark tables }] }
    else withTables run tables
  | .allocate => withTables run (allocatedTables host run.runtime.toSyncTables)
  | .sync call arrives =>
    let (result, runtime) := dispatchSlidingSync host run.runtime user deviceId
      (withSince run.since call)
    if arrives then receive { run with runtime } result else { run with runtime }
  | .otherSync device call =>
    { run with
      runtime := (dispatchSlidingSync host run.runtime device.1.1 device.1.2 call).2 }

/-- The messages that wait for the device behind the client's position. -/
def waitingMessages (user deviceId : Bytes) (run : DeliveryRun) : List PersistentToDeviceMessage :=
  run.runtime.toDeviceMessages.filter fun message =>
    addressedToDevice user deviceId message && parseSince run.since < message.streamId &&
      message.streamId ≤ syncWatermark run.runtime.toSyncTables

/-- No more messages wait than the limit of the request lets through, and the counter
does not wrap around. -/
def WithinLimit (run : DeliveryRun) : DeliveryAction user deviceId → Prop
  | .send _ _ | .allocate => run.runtime.store.nextSyncStreamId ≠ 18446744073709551615
  | .sync call _ => ∀ extension ∈ requestedToDevice call.request,
      (waitingMessages user deviceId run).length ≤ effectiveLimit extension
  | .otherSync _ _ => True

instance decidableWithinLimit (run : DeliveryRun) (action : DeliveryAction user deviceId) :
    Decidable (WithinLimit run action) :=
  match action with
  | .send _ _ | .allocate => inferInstanceAs (Decidable (_ ≠ _))
  | .sync call _ => inferInstanceAs (Decidable (∀ extension ∈ requestedToDevice call.request, _))
  | .otherSync _ _ => inferInstanceAs (Decidable True)

end Runs

section Steps

variable {host : SyncHost} {user deviceId : Bytes} {run : DeliveryRun}

def Numbered (tables : SyncTables) : Prop :=
  ∀ message ∈ tables.toDeviceMessages,
    0 < message.streamId ∧ message.streamId ≤ tables.store.nextSyncStreamId

/-- A message of the device is still in the queue, or the client's position is at or
behind it and it is in a response that arrived. -/
structure Delivered (user deviceId : Bytes) (run : DeliveryRun) : Prop where
  sent : ∀ message ∈ run.sent,
    0 < message.streamId ∧ message.streamId ≤ run.runtime.store.nextSyncStreamId
  since : parseSince run.since ≤ run.runtime.store.nextSyncStreamId
  queued : ∀ message ∈ run.sent, addressedToDevice user deviceId message = true →
    parseSince run.since < message.streamId → message ∈ run.runtime.toDeviceMessages
  received : ∀ message ∈ run.sent, addressedToDevice user deviceId message = true →
    message.streamId ≤ parseSince run.since → ∃ response ∈ run.received, message ∈ response.events
  batches : ∀ response ∈ run.received, parseSince (some response.nextBatch) ≤ parseSince run.since

variable (h : Delivered user deviceId run)

include h

/-- The counter goes on, and what the client still waits for stays in the queue. -/
theorem Delivered.of_runtime {runtime : SlidingSyncRuntime}
    (hnext : run.runtime.store.nextSyncStreamId ≤ runtime.store.nextSyncStreamId)
    (hkept : ∀ message ∈ run.runtime.toDeviceMessages,
      addressedToDevice user deviceId message = true → parseSince run.since < message.streamId →
        message ∈ runtime.toDeviceMessages) :
    Delivered user deviceId { run with runtime := runtime } where
  sent message hmem :=
    ⟨(h.sent message hmem).1, UInt64.le_trans (h.sent message hmem).2 hnext⟩
  since := UInt64.le_trans h.since hnext
  queued message hmem haddressed hbehind :=
    hkept message (h.queued message hmem haddressed hbehind) haddressed hbehind
  received := h.received
  batches := h.batches

omit h in
variable (host) in
theorem nextSyncStreamId_allocatedTables (tables : SyncTables) :
    (allocatedTables host tables).store.nextSyncStreamId = tables.store.nextSyncStreamId + 1 := by
  change (allocateSyncStreamId host.backend tables.store).2.nextSyncStreamId = _
  unfold allocateSyncStreamId commitPersistentTransaction
  simp only
  split_ifs <;> rfl

variable (host) in
theorem allocate_delivered (hnext : run.runtime.store.nextSyncStreamId ≠ 18446744073709551615) :
    Delivered user deviceId
      (withTables run (allocatedTables host run.runtime.toSyncTables)) := by
  refine h.of_runtime ?_ fun message hmem _ _ => hmem
  change _ ≤ (allocatedTables host run.runtime.toSyncTables).store.nextSyncStreamId
  rw [nextSyncStreamId_allocatedTables]
  exact UInt64.le_of_lt (lt_succ hnext)

theorem send_delivered (hnext : run.runtime.store.nextSyncStreamId ≠ 18446744073709551615)
    (message : PersistentToDeviceMessage) (commits : Bool) :
    Delivered user deviceId
      (run.act host (.send message commits : DeliveryAction user deviceId)) := by
  have hallocated := allocate_delivered host h hnext
  rw [DeliveryRun.act, enqueueToDeviceMessage]
  split_ifs
  · exact h
  · exact hallocated
  · have hid := nextSyncStreamId_allocatedTables host run.runtime.toSyncTables
    have hlt := lt_succ hnext
    -- the new message has the id that the counter has just reached
    have hnew : ∀ other, other ∈ run.sent ++ [{ message with
        streamId := (allocatedTables host run.runtime.toSyncTables).store.nextSyncStreamId }] →
        other ∈ run.sent ∨ other = { message with
          streamId := run.runtime.store.nextSyncStreamId + 1 } := by
      intro other hmem
      rw [hid] at hmem
      simpa using hmem
    refine ⟨?_, hallocated.since, ?_, ?_, h.batches⟩
    · intro other hmem
      rcases hnew other hmem with hold | rfl
      · exact hallocated.sent other hold
      · refine ⟨UInt64.lt_of_le_of_lt UInt64.zero_le hlt, ?_⟩
        change _ ≤ (allocatedTables host run.runtime.toSyncTables).store.nextSyncStreamId
        rw [hid]
        exact UInt64.le_refl _
    · intro other hmem haddressed hbehind
      rcases hnew other hmem with hold | rfl
      · exact mem_append_left _ (h.queued other hold haddressed hbehind)
      · exact mem_append_right _ (mem_singleton_self _)
    · intro other hmem haddressed hle
      rcases hnew other hmem with hold | rfl
      · exact h.received other hold haddressed hle
      · exact absurd (UInt64.le_trans hle h.since) (UInt64.not_le.mpr hlt)

omit h in
variable (host user deviceId) in
theorem nextSyncStreamId_dispatch (runtime : SlidingSyncRuntime) (call : SlidingSyncCall) :
    (dispatchSlidingSync host runtime user deviceId call).2.store.nextSyncStreamId =
      runtime.store.nextSyncStreamId := by
  rw [SyncTables.store, database_dispatch]
  rfl

omit h in
theorem requestedToDevice_withSince (since : Option Bytes) (call : SlidingSyncCall) :
    requestedToDevice (withSince since call).request =
      (requestedToDevice call.request).map fun extension => { extension with since } := by
  unfold requestedToDevice withSince
  rcases call.request.extensions with _ | extensions
  · rfl
  · simp only [Option.map_some, Option.bind_some]
    rcases extensions.toDevice with _ | extension
    · rfl
    · simp only [Option.map_some, Option.filter_some]
      split_ifs <;> rfl

theorem dispatch_delivered {caller callerDevice : Bytes} {call : SlidingSyncCall}
    (hcaller : (caller, callerDevice) ≠ (user, deviceId) ∨
      ∀ extension ∈ requestedToDevice call.request, extension.since = run.since) :
    Delivered user deviceId
      { run with
        runtime := (dispatchSlidingSync host run.runtime caller callerDevice call).2 } := by
  refine h.of_runtime (nextSyncStreamId_dispatch .. ▸ UInt64.le_refl _) ?_
  intro message hmem haddressed hbehind
  rcases toSyncTables_dispatch host run.runtime caller callerDevice call with
    hsame | ⟨extension, hextension, hdrained⟩
  · rwa [hsame]
  · rw [hdrained]
    by_contra hgone
    obtain ⟨huser, hdevice, htargeted, hle⟩ := removed_by_drain hmem hgone
    rcases hcaller with hother | hsince
    · -- a message of another device is not addressed to this one
      obtain ⟨htarget, hone⟩ := target_of_isTargeted haddressed htargeted
      exact hother (by rw [← huser, ← hdevice, htarget, hone])
    · rw [hsince extension hextension] at hle
      exact absurd hle (UInt64.not_le.mpr hbehind)

omit h in
theorem drained_eq_waitingMessages :
    (drainToDeviceMessages run.runtime.toSyncTables user deviceId (parseSince run.since)
        (syncWatermark run.runtime.toSyncTables)).1 =
      waitingMessages user deviceId run := by
  simp only [drainToDeviceMessages, waitingMessages, filter_filter]
  refine filter_congr fun message _ => ?_
  rw [Bool.and_left_comm, Bool.and_assoc]

/-- A response that arrives has all that waited for the client, if it fits. -/
theorem receive_delivered {call : SlidingSyncCall}
    (hlimit : ∀ extension ∈ requestedToDevice call.request,
      (waitingMessages user deviceId run).length ≤ effectiveLimit extension) :
    Delivered user deviceId
      (receive
        { run with
          runtime := (dispatchSlidingSync host run.runtime user deviceId
            (withSince run.since call)).2 }
        (dispatchSlidingSync host run.runtime user deviceId (withSince run.since call)).1) := by
  have hsince : ∀ extension ∈ requestedToDevice (withSince run.since call).request,
      extension.since = run.since ∧
        (waitingMessages user deviceId run).length ≤ effectiveLimit extension := by
    rw [requestedToDevice_withSince]
    rintro _ hextension
    obtain ⟨extension, hrequested, rfl⟩ := Option.mem_map.mp hextension
    exact ⟨rfl, hlimit extension hrequested⟩
  have hruntime : Delivered user deviceId { run with
      runtime := (dispatchSlidingSync host run.runtime user deviceId
        (withSince run.since call)).2 } :=
    dispatch_delivered h (.inr fun extension hmem => (hsince extension hmem).1)
  have hcounter := nextSyncStreamId_dispatch host user deviceId run.runtime
    (withSince run.since call)
  rcases dispatchSlidingSync_cases host run.runtime user deviceId (withSince run.since call) with
    ⟨-, hresult⟩ | ⟨_, _, hresult⟩ | hresult <;> rw [hresult] at hruntime hcounter ⊢
  · exact hruntime
  · exact hruntime
  · unfold receive
    simp only [answer_toDevice.2]
    rcases hextension : requestedToDevice (withSince run.since call).request with _ | extension
    · exact hruntime
    · obtain ⟨hposition, hfits⟩ := hsince extension hextension
      have hnext : parseSince (some (decimalDigits
          (syncWatermark run.runtime.toSyncTables).toNat)) =
            run.runtime.store.nextSyncStreamId := by
        rw [parseSince, Option.getD_some, (takeWhile_decimalDigits _).1,
          SyncStreamIds.foldl_decimalDigits, UInt64.ofNat_toNat]
        rfl
      have hevents : (buildToDevice run.runtime.toSyncTables user deviceId extension
          (syncWatermark run.runtime.toSyncTables)).1.events =
            waitingMessages user deviceId run := by
        change (drainToDeviceMessages _ _ _ (parseSince extension.since) _).1.take _ = _
        rw [hposition, drained_eq_waitingMessages, take_of_length_le hfits]
      refine ⟨hruntime.sent, ?_, ?_, ?_, ?_⟩
      · exact hnext.symm ▸ hcounter ▸ UInt64.le_refl _
      · intro message hmem _ hbehind
        exact absurd (hnext ▸ (h.sent message hmem).2) (UInt64.not_le.mpr hbehind)
      · intro message hmem haddressed _
        rcases UInt64.lt_or_le (parseSince run.since) message.streamId with hbehind | hle
        · refine ⟨_, mem_append_right _ (mem_singleton_self _), ?_⟩
          rw [hevents]
          simp only [waitingMessages, mem_filter, Bool.and_eq_true, decide_eq_true_eq]
          exact ⟨h.queued message hmem haddressed hbehind, ⟨haddressed, hbehind⟩,
            (h.sent message hmem).2⟩
        · obtain ⟨response, hresponse, hcontains⟩ := h.received message hmem haddressed hle
          exact ⟨response, mem_append_left _ hresponse, hcontains⟩
      · refine forall_mem_append.mpr ⟨?_, forall_mem_singleton.mpr (UInt64.le_refl _)⟩
        exact fun response hold => UInt64.le_trans (h.batches response hold) (hnext ▸ h.since)

theorem act_delivered {action : DeliveryAction user deviceId} (hlimit : WithinLimit run action) :
    Delivered user deviceId (run.act host action) := by
  cases action with
  | send message commits => exact send_delivered h hlimit message commits
  | allocate => exact allocate_delivered _ h hlimit
  | sync call arrives =>
    cases arrives with
    | true => exact receive_delivered h hlimit
    | false =>
      refine dispatch_delivered h (.inr ?_)
      rw [requestedToDevice_withSince]
      rintro _ hextension
      obtain ⟨extension, -, rfl⟩ := Option.mem_map.mp hextension
      rfl
  | otherSync device call => exact dispatch_delivered h (.inl device.2)

end Steps

/-- Every message of the device up to a position that the client has received is in a
response that it has received. -/
theorem messages_behind_position_arrived (host : SyncHost) (user deviceId : Bytes)
    {runtime : SlidingSyncRuntime} (hruntime : Numbered runtime.toSyncTables)
    {actions : List (DeliveryAction user deviceId)}
    (halong : Along (DeliveryRun.act host) WithinLimit
      { runtime := runtime, sent := runtime.toDeviceMessages } actions) :
    let last := run (DeliveryRun.act host)
      { runtime := runtime, sent := runtime.toDeviceMessages } actions
    ∀ message ∈ last.sent, addressedToDevice user deviceId message = true →
      ∀ response ∈ last.received, message.streamId ≤ parseSince (some response.nextBatch) →
        ∃ other ∈ last.received, message ∈ other.events := by
  have hstart : Delivered user deviceId
      { runtime := runtime, sent := runtime.toDeviceMessages } := by
    refine ⟨hruntime, UInt64.zero_le, fun message hmem _ _ => hmem, ?_, by simp⟩
    intro message hmem _ hle
    exact absurd hle (UInt64.not_le.mpr (hruntime message hmem).1)
  have hlast := halong.invariant (fun _ _ hbefore => act_delivered hbefore) hstart
  intro last message hmem haddressed response hresponse hle
  exact hlast.received message hmem haddressed
    (UInt64.le_trans hle (hlast.batches response hresponse))

def silentHost : SyncHost where
  yyjson := CanonicalParser.readerOf []
  parseJson _ := none
  backend := memoryBackend

def roomKey (device : Bytes) : PersistentToDeviceMessage where
  senderUserId := "@bob:example.org"
  targetUserId := "@alice:example.org"
  targetDeviceId := device
  messageType := "m.room_key"
  contentJson := "\x7b\x7d"

def toDeviceCall (limit : Nat) : SlidingSyncCall where
  request := { extensions := some { toDevice := some { enabled := true, limit } } }

/-- Two messages, the response to the first request is lost. -/
def roomyActions : List (DeliveryAction "@alice:example.org" "PHONE") :=
  [.send (roomKey "PHONE") true, .send (roomKey "*") true, .sync (toDeviceCall 2) false,
    .sync (toDeviceCall 2) true, .sync (toDeviceCall 1) true]

theorem both_room_keys_arrive :
    (run (DeliveryRun.act silentHost) { runtime := {} } roomyActions).received.map
        (fun response => response.events.map PersistentToDeviceMessage.streamId) = [[1, 2], []] ∧
      ∀ message ∈ (run (DeliveryRun.act silentHost) { runtime := {} } roomyActions).sent,
        addressedToDevice "@alice:example.org" "PHONE" message = true →
          ∀ response ∈ (run (DeliveryRun.act silentHost) { runtime := {} } roomyActions).received,
            message.streamId ≤ parseSince (some response.nextBatch) → ∃ other ∈
                  (run (DeliveryRun.act silentHost) { runtime := {} } roomyActions).received,
                message ∈ other.events :=
  ⟨by decide +kernel, messages_behind_position_arrived silentHost _ _ (by simp [Numbered])
    (by decide +kernel)⟩

/-- Two messages and a limit of one: the second message is in no response, and the
next request removes it. -/
def crowdedActions : List (DeliveryAction "@alice:example.org" "PHONE") :=
  [.send (roomKey "PHONE") true, .send (roomKey "PHONE") true, .sync (toDeviceCall 1) true,
    .sync (toDeviceCall 1) true]

theorem second_room_key_is_lost :
    let last := run (DeliveryRun.act silentHost) { runtime := {} } crowdedActions
    last.runtime.toDeviceMessages = [] ∧
      ∃ message ∈ last.sent, addressedToDevice "@alice:example.org" "PHONE" message = true ∧
        ∃ response ∈ last.received, message.streamId ≤ parseSince (some response.nextBatch) ∧
          ∀ other ∈ last.received, message ∉ other.events := by
  decide +kernel

end Merovingian.ToDeviceDelivery
