import Merovingian.AuthEventMaps

/-!
Ingestion of inbound PDUs. An event is parsed, checked against the current
state of its room, checked against its content hash, and stored; a state event
then takes its place in the current state. Forks are never handed to state
resolution, so the current state is that of the last event stored under each
key.
-/

namespace Merovingian.PduIngestion

open ByteString JsonValue CanonicalParser EventSigning RoomVersions EventAuthorization KeyedFold
  StateResolution StoreTables AuthEventMaps

structure InboundPduEnvelope where
  eventId : Bytes
  roomId : Bytes
  roomVersion : Bytes
  sender : Bytes
  eventType : Bytes
  stateKey : Option Bytes
  depth : UInt64
  prevEventIds : List Bytes
  authEventIds : List Bytes
  signatures : List EventSignature
  json : Bytes
deriving DecidableEq

inductive PduIngestionStatus where
  | accepted
  | rejectedAuth
  | rejectedStateConflict
  | rejectedInvalid
  | internalError
deriving DecidableEq

/-- A fork that a sink hands over for resolution. -/
structure PduStateConflictContext where
  roomVersion : Bytes
  incomingPdu : InboundPduEnvelope
  stateGroups : List StateGroup

structure PduIngestionResult where
  status : PduIngestionStatus
  reason : Bytes := []
  stateConflict : Option PduStateConflictContext := none
  acceptedStreamOrdering : UInt64 := 0
  acceptedSyncStreamId : UInt64 := 0

structure LocalRoom where
  roomId : Bytes
  members : List Bytes

structure LocalDatabase where
  persistentStore : PersistentStore := {}
  rooms : List LocalRoom := []
  nextStreamOrdering : UInt64 := 1

def allocateStreamOrdering (backend : Backend) (database : LocalDatabase) :
    UInt64 × LocalDatabase :=
  let ordering := database.nextStreamOrdering
  (ordering, { database with
    nextStreamOrdering := ordering + 1
    persistentStore :=
      (persistEventStreamWatermark backend database.persistentStore ordering).2 })

def reserveStreamIds (backend : Backend) (database : LocalDatabase) :
    (UInt64 × UInt64) × LocalDatabase :=
  let (ordering, database) := allocateStreamOrdering backend database
  let (syncId, store) := allocateSyncStreamId backend database.persistentStore
  ((ordering, syncId), { database with persistentStore := store })

section

variable (envelope : InboundPduEnvelope) (yyjson : Yyjson) (sodium : Libsodium) (backend : Backend)
  (database : LocalDatabase)

def upsertMembership (store : PersistentStore) (membership : PersistentMembership) : Bool ×
    PersistentStore :=
  match storeMembership backend store membership with
  | (.stored, store) => (true, store)
  | (.alreadyExists, store) => updateMembership backend store membership
  | (.error, store) => (false, store)

def updatedMembers (members : List Bytes) (userId membership : Bytes) : List Bytes :=
  if membership = "join" then
    if members.contains userId then members else members ++ [userId]
  else members.filter fun member => member ≠ userId

/-- The membership table and the room's members follow an accepted member
event. -/
def recordMembership (envelope : InboundPduEnvelope) (pdu : Value) (streamOrdering : UInt64) :
    LocalDatabase :=
  match envelope.stateKey, eventContentString pdu "membership" with
  | some userId, some membership =>
    if envelope.eventType ≠ "m.room.member" then database
    else
      match upsertMembership backend database.persistentStore
          ⟨envelope.roomId, userId, membership, streamOrdering⟩ with
      | (false, store) => { database with persistentStore := store }
      | (true, store) =>
        { database with
          persistentStore := store
          rooms :=
            match rowAt LocalRoom.roomId database.rooms envelope.roomId with
            | none => database.rooms
            | some room => putRow LocalRoom.roomId
                ⟨room.roomId, updatedMembers room.members userId membership⟩
                database.rooms }
  | _, _ => database

def envelopePolicy : Option RoomVersionPolicy :=
  findRoomVersionPolicy (if envelope.roomVersion.isEmpty then "12" else envelope.roomVersion)

def pduAuthDecision (store : PersistentStore) (envelope : InboundPduEnvelope)
    (policy : RoomVersionPolicy) (pdu : Value) : EventAuthorizationDecision :=
  authorizeEventAgainstAuthEvents sodium pdu policy
    (buildPduAuthEventMap yyjson store envelope.roomId envelope.sender
      (envelope.stateKey.getD []) envelope.eventType ((thirdPartyInviteToken pdu).getD []))

def envelopeEvent (streamOrdering : UInt64) : PersistentEvent where
  eventId := envelope.eventId
  roomId := envelope.roomId
  senderUserId := envelope.sender
  json := envelope.json
  depth := envelope.depth
  streamOrdering := streamOrdering
  prevEventIds := envelope.prevEventIds
  authEventIds := envelope.authEventIds
  signatures := envelope.signatures

def envelopeState : Option PersistentStateEvent :=
  envelope.stateKey.map fun stateKey =>
    ⟨envelope.roomId, envelope.eventType, stateKey, envelope.eventId⟩

/-- The part of the ingestion that runs under the locks, with its stream ids
reserved. -/
def ingestParsedPdu (envelope : InboundPduEnvelope) (policy : RoomVersionPolicy) (pdu : Value)
    (streamOrdering syncStreamId : UInt64) : PduIngestionResult × LocalDatabase :=
  let decision := pduAuthDecision yyjson sodium database.persistentStore envelope policy pdu
  if !decision.allowed then
    (⟨.rejectedAuth, utf8 "event auth denied: " ++ decision.reason, none, 0, 0⟩, database)
  else if !verifyPduContentHash sodium pdu then
    (⟨.rejectedInvalid, "bad content hash", none, 0, 0⟩, database)
  else
    match prepareStoreEventWithState yyjson database.persistentStore
        (envelopeEvent envelope streamOrdering) (envelopeState envelope) with
    | none =>
      (⟨.internalError, "event persistence pre-check failed", none, 0, 0⟩, database)
    | some prepared =>
      match commitPersistentTransaction backend database.persistentStore
          prepared.statements with
      | (false, store) =>
        (⟨.internalError, "event persistence backend rejected transaction", none, 0, 0⟩,
          { database with persistentStore := store })
      | (true, store) =>
        (⟨.accepted, [], none, streamOrdering, syncStreamId⟩, recordMembership backend
            { database with persistentStore := applyStoreEventWithState store prepared }
            envelope pdu streamOrdering)

def ingestPduEvent (envelope : InboundPduEnvelope) : PduIngestionResult × LocalDatabase :=
  if envelope.roomId.isEmpty then
    (⟨.rejectedInvalid, "missing room_id", none, 0, 0⟩, database)
  else
    match envelopePolicy envelope, parseLossless yyjson envelope.json with
    | none, _ => (⟨.rejectedInvalid, "unknown room version", none, 0, 0⟩, database)
    | some _, .error _ => (⟨.rejectedInvalid, "invalid PDU JSON", none, 0, 0⟩, database)
    | some policy, .ok pdu =>
      let ((streamOrdering, syncStreamId), database) := reserveStreamIds backend database
      ingestParsedPdu yyjson sodium backend database envelope policy pdu streamOrdering
        syncStreamId

end

section Frame

variable (backend : Backend) (database : LocalDatabase)

theorem upsertMembership_sameRoomTables (store : PersistentStore)
    (membership : PersistentMembership) :
    SameRoomTables store (upsertMembership backend store membership).2 := by
  unfold upsertMembership
  have hstored := storeMembership_sameRoomTables backend store membership
  split
  · next hresult => rwa [hresult] at hstored
  · next hresult =>
      rw [hresult] at hstored
      exact hstored.trans (updateMembership_sameRoomTables backend _ membership)
  · next hresult => rwa [hresult] at hstored

theorem recordMembership_sameRoomTables (envelope : InboundPduEnvelope) (pdu : Value)
    (streamOrdering : UInt64) :
    SameRoomTables database.persistentStore
      (recordMembership backend database envelope pdu streamOrdering).persistentStore := by
  unfold recordMembership
  split
  · next userId membership _ _ =>
      have hupserted := upsertMembership_sameRoomTables backend database.persistentStore
        ⟨envelope.roomId, userId, membership, streamOrdering⟩
      split
      · exact ⟨rfl, rfl⟩
      · split
        · next hresult => rwa [hresult] at hupserted
        · next hresult => rwa [hresult] at hupserted
  · exact ⟨rfl, rfl⟩

theorem reserveStreamIds_sameRoomTables : SameRoomTables database.persistentStore
      (reserveStreamIds backend database).2.persistentStore :=
  (persistEventStreamWatermark_sameRoomTables backend database.persistentStore _).trans
    (allocateSyncStreamId_sameRoomTables backend _)

end Frame

section Step

variable (yyjson : Yyjson) (sodium : Libsodium) (backend : Backend)

def passesAuth (store : PersistentStore) (envelope : InboundPduEnvelope) : Bool :=
  !envelope.roomId.isEmpty && match envelopePolicy envelope, parseLossless yyjson envelope.json with
    | some policy, .ok pdu => (pduAuthDecision yyjson sodium store envelope policy pdu).allowed
    | _, _ => false

/-- What is asked of an event after the auth check: its content hash, a new id,
and JSON that names the state it claims to set. -/
def storable (store : PersistentStore) (envelope : InboundPduEnvelope) : Bool :=
  (parseLossless yyjson envelope.json).toOption.any (verifyPduContentHash sodium) &&
    !eventExists store envelope.eventId &&
    (envelopeState envelope).all fun state =>
      stateMatchesEvent yyjson (envelopeEvent envelope 0) state

variable {yyjson sodium backend}

theorem pduAuthDecision_congr {first second : PersistentStore} (hsame : SameRoomTables first second)
    (envelope : InboundPduEnvelope) (policy : RoomVersionPolicy) (pdu : Value) :
    pduAuthDecision yyjson sodium second envelope policy pdu =
      pduAuthDecision yyjson sodium first envelope policy pdu := by
  obtain ⟨events, state, _, _, _, _, _, _, _, _, _⟩ := second
  obtain ⟨rfl, rfl⟩ : events = first.events ∧ state = first.state := ⟨hsame.events, hsame.state⟩
  rfl

theorem storable_congr {first second : PersistentStore} (envelope : InboundPduEnvelope)
    (hexists : eventExists second envelope.eventId = eventExists first envelope.eventId) :
    storable yyjson sodium second envelope = storable yyjson sodium first envelope := by
  rw [storable, storable, hexists]

structure Ingested (envelope : InboundPduEnvelope) (accepted : Bool)
    (before after : PersistentStore) : Prop where
  exists_iff : ∀ eventId, eventExists after eventId =
    (eventExists before eventId || (accepted && envelope.eventId = eventId))
  state : after.state =
    if accepted then putStates before.state (envelopeState envelope).toList else before.state

variable {envelope : InboundPduEnvelope}

theorem Ingested.of_same {before after : PersistentStore} (hsame : SameRoomTables before after) :
    Ingested envelope false before after :=
  ⟨fun eventId => by simp [hsame.eventExists_eq], by simp [hsame.state]⟩

theorem Ingested.from_same {accepted : Bool} {before middle after : PersistentStore}
    (hsame : SameRoomTables before middle) (h : Ingested envelope accepted middle after) :
    Ingested envelope accepted before after :=
  ⟨fun eventId => by rw [h.exists_iff, hsame.eventExists_eq], by rw [h.state, hsame.state]⟩

theorem storable_eq {store : PersistentStore} {pdu : Value}
    (hparse : parseLossless yyjson envelope.json = .ok pdu) (streamOrdering : UInt64) :
    storable yyjson sodium store envelope = (verifyPduContentHash sodium pdu &&
        (prepareStoreEventWithState yyjson store (envelopeEvent envelope streamOrdering)
          (envelopeState envelope)).isSome) := by
  have hmatches : ∀ state, stateMatchesEvent yyjson (envelopeEvent envelope streamOrdering)
      state = stateMatchesEvent yyjson (envelopeEvent envelope 0) state := fun _ => rfl
  have heventId : (envelopeEvent envelope streamOrdering).eventId = envelope.eventId := rfl
  rw [storable, hparse, Bool.and_assoc, Bool.eq_iff_iff]
  simp only [Except.toOption, Option.any_some, Bool.and_eq_true, Option.isSome_iff_ne_none,
    ne_eq, prepareStoreEventWithState_eq_none_iff, hmatches, heventId]
  cases envelopeState envelope <;> simp

theorem applied_tables {database : LocalDatabase} {prepared : PreparedStateUpdate}
    {committed : PersistentStore} {streamOrdering : UInt64}
    (hprepared : prepareStoreEventWithState yyjson database.persistentStore
      (envelopeEvent envelope streamOrdering) (envelopeState envelope) = some prepared)
    (hsame : SameRoomTables database.persistentStore committed) (pdu : Value) :
    Ingested envelope true database.persistentStore
      (recordMembership backend
        { database with persistentStore := applyStoreEventWithState committed prepared }
        envelope pdu streamOrdering).persistentStore := by
  obtain ⟨hevent, hstate, hnew, -⟩ := of_prepareStoreEventWithState hprepared
  rw [← hevent, ← hsame.eventExists_eq] at hnew
  obtain ⟨hevents, hrows, -⟩ := applyStoreEventWithState_tables hnew
  have hrecorded := recordMembership_sameRoomTables backend
    { database with persistentStore := applyStoreEventWithState committed prepared } envelope
    pdu streamOrdering
  constructor
  · intro eventId
    rw [eventExists, hrecorded.events, hevents, hsame.events, hevent]
    simp [eventExists, envelopeEvent]
  · rw [hrecorded.state, hrows, hsame.state, hstate]
    rfl

section

variable (hbackend : ∀ statements, backend statements = true) {database : LocalDatabase}
include hbackend

theorem ingestParsedPdu_tables {policy : RoomVersionPolicy} {pdu : Value}
    (streamOrdering syncStreamId : UInt64) (hparse : parseLossless yyjson envelope.json = .ok pdu)
    (hallowed : (pduAuthDecision yyjson sodium database.persistentStore envelope policy
      pdu).allowed = true) :
    Ingested envelope (storable yyjson sodium database.persistentStore envelope)
      database.persistentStore
      (ingestParsedPdu yyjson sodium backend database envelope policy pdu streamOrdering
        syncStreamId).2.persistentStore := by
  unfold ingestParsedPdu
  rw [storable_eq hparse streamOrdering, if_neg (by simp [hallowed])]
  cases hhash : verifyPduContentHash sodium pdu with
  | false => exact .of_same ⟨rfl, rfl⟩
  | true =>
    cases hprepared : prepareStoreEventWithState yyjson database.persistentStore
        (envelopeEvent envelope streamOrdering) (envelopeState envelope) with
    | none => exact .of_same ⟨rfl, rfl⟩
    | some prepared =>
      obtain ⟨log, hcommit⟩ := commitPersistentTransaction_of_backend backend
        database.persistentStore hbackend prepared.statements
      simp only [hcommit]
      refine applied_tables hprepared ?_ pdu
      exact ⟨rfl, rfl⟩

theorem ingestPduEvent_tables
    (hpasses : passesAuth yyjson sodium database.persistentStore envelope = true) :
    Ingested envelope (storable yyjson sodium database.persistentStore envelope)
      database.persistentStore
      (ingestPduEvent yyjson sodium backend database envelope).2.persistentStore := by
  have hsame := reserveStreamIds_sameRoomTables backend database
  unfold passesAuth at hpasses
  unfold ingestPduEvent
  cases hpolicy : envelopePolicy envelope with
  | none => simp [hpolicy] at hpasses
  | some policy =>
    cases hparse : parseLossless yyjson envelope.json with
    | error code => simp [hpolicy, hparse] at hpasses
    | ok pdu =>
      simp only [hpolicy, hparse, Bool.and_eq_true, Bool.not_eq_true'] at hpasses
      obtain ⟨hroom, hallowed⟩ := hpasses
      rw [if_neg (by simp [hroom])]
      rcases hreserved : reserveStreamIds backend database with ⟨⟨ordering, syncId⟩, reserved⟩
      rw [hreserved] at hsame
      rw [← pduAuthDecision_congr hsame] at hallowed
      rw [← storable_congr envelope (hsame.eventExists_eq envelope.eventId)]
      exact .from_same hsame (ingestParsedPdu_tables hbackend _ _ hparse hallowed)

end

end Step

end Merovingian.PduIngestion
