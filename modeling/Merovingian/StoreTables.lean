import Merovingian.CanonicalParser
import Merovingian.EventSigning
import Merovingian.KeyedFold

/-!
The persistent store's tables of events, current room state and memberships,
held in memory and mirrored to a backend. Every write is prepared, committed
to the backend and only then applied to the tables.
-/

namespace Merovingian.StoreTables

open ByteString JsonValue CanonicalParser EventSigning KeyedFold

structure PersistentMembership where
  roomId : Bytes
  userId : Bytes
  membership : Bytes
  streamOrdering : UInt64

structure PersistentEvent where
  eventId : Bytes
  roomId : Bytes
  senderUserId : Bytes
  json : Bytes
  depth : UInt64
  streamOrdering : UInt64
  prevEventIds : List Bytes
  authEventIds : List Bytes
  signatures : List EventSignature
deriving DecidableEq

structure PersistentStateEvent where
  roomId : Bytes
  eventType : Bytes
  stateKey : Bytes
  eventId : Bytes
deriving DecidableEq

/-- The event that a state event replaced, for `unsigned.replaces_state`. -/
structure PersistentStateTransition where
  roomId : Bytes
  eventType : Bytes
  stateKey : Bytes
  eventId : Bytes
  previousEventId : Bytes

structure PersistentEventEdge where
  eventId : Bytes
  prevEventId : Bytes

structure PersistentEventAuth where
  eventId : Bytes
  authEventId : Bytes

structure PersistentEventSignature where
  eventId : Bytes
  serverName : Bytes
  keyId : Bytes
  signature : Bytes

/-- A statement for the backend, by its name and the row that it binds. -/
inductive PreparedStatement where
  | insertEvent (event : PersistentEvent)
  | insertEventEdge (edge : PersistentEventEdge)
  | insertEventAuth (auth : PersistentEventAuth)
  | insertEventSignature (signature : PersistentEventSignature)
  | upsertState (state : PersistentStateEvent)
  | insertState (state : PersistentStateEvent)
  | insertStateTransition (transition : PersistentStateTransition)
  | insertMembership (membership : PersistentMembership)
  | updateMembership (membership : PersistentMembership)
  | upsertSyncStreamWatermark (watermark : UInt64)
  | upsertEventStreamWatermark (watermark : UInt64)

/-- The database behind the store: whether it commits a transaction. -/
abbrev Backend := List PreparedStatement → Bool

/-- Without a database there is nothing that could fail. -/
def memoryBackend : Backend := fun _ => true

structure PersistentStore where
  events : List PersistentEvent := []
  state : List PersistentStateEvent := []
  stateTransitions : List PersistentStateTransition := []
  stateTransitionIndex : Finmap fun _ : Bytes => Nat := ∅
  eventEdges : List PersistentEventEdge := []
  eventAuth : List PersistentEventAuth := []
  eventSignatures : List PersistentEventSignature := []
  memberships : List PersistentMembership := []
  preparedStatements : List PreparedStatement := []
  nextSyncStreamId : UInt64 := 0
  eventStreamWatermark : UInt64 := 0

def topLevelJsonStringField (yyjson : Yyjson) (json fieldName : Bytes) : Option Bytes :=
  match parseLossless yyjson json with
  | .error _ => none
  | .ok value => (valueIsObject value).bind fun object => stringMember object fieldName

def stateMatchesEvent (yyjson : Yyjson) (event : PersistentEvent)
    (state : PersistentStateEvent) : Bool :=
  event.eventId = state.eventId && event.roomId = state.roomId &&
    topLevelJsonStringField yyjson event.json "type" = some state.eventType &&
    topLevelJsonStringField yyjson event.json "state_key" = some state.stateKey

section

variable (backend : Backend) (store : PersistentStore) (membership : PersistentMembership)

def membershipKey : Bytes × Bytes :=
  (membership.roomId, membership.userId)

section

variable (roomId eventType stateKey eventId : Bytes)

def membershipExists : Bool :=
  (rowAt membershipKey store.memberships (membershipKey membership)).isSome

def eventExists : Bool :=
  store.events.any fun existing => existing.eventId = eventId

/-- The composite key of the transition index, with NUL bytes between its
parts. -/
def stateTransitionIndexKey : Bytes :=
  roomId ++ 0 :: eventType ++ 0 :: stateKey ++ 0 :: eventId

def findStateTransition : Option PersistentStateTransition :=
  (store.stateTransitionIndex.lookup
      (stateTransitionIndexKey roomId eventType stateKey eventId)).bind fun index =>
    store.stateTransitions[index]?

def enqueueUnvisited (visited queue : List Bytes) (ids : List Bytes) : List Bytes × List Bytes :=
  ids.foldl
    (fun (visited, queue) id =>
      if visited.contains id then (visited, queue) else (id :: visited, queue ++ [id]))
    (visited, queue)

/-- One level of the search: the id that was found, or what was visited and
the next level. -/
def searchLevel (found : Bytes → Bool) (parents : Bytes → List Bytes) :
    List Bytes → List Bytes → List Bytes → Except Bytes (List Bytes × List Bytes)
  | visited, next, [] => .ok (visited, next)
  | visited, next, id :: level =>
    if found id then .error id
    else
      let (visited, next) := enqueueUnvisited visited next (parents id)
      searchLevel found parents visited next level

def searchLevels (found : Bytes → Bool) (parents : Bytes → List Bytes) :
    Nat → List Bytes → List Bytes → Bytes
  | 0, _, _ => []
  | _ + 1, _, [] => []
  | depth + 1, visited, id :: level =>
    match searchLevel found parents visited [] (id :: level) with
    | .error foundId => foundId
    | .ok (visited, next) => searchLevels found parents depth visited next

/-- The state event that a new one replaces: among its auth events, else the
nearest one that a walk through `prev_events` meets. -/
def findPredecessorStateEventId (prevEventIds authEventIds : List Bytes) : Bytes :=
  let found := fun id => (findStateTransition store roomId eventType stateKey id).isSome
  let parents := fun id =>
    ((store.events.reverse.find? fun event => event.eventId = id).map
      PersistentEvent.prevEventIds).getD []
  match authEventIds.find? found with
  | some id => id
  | none =>
    let (visited, queue) := enqueueUnvisited [] [] prevEventIds
    searchLevels found parents 50 visited queue

end

def commitPersistentTransaction (statements : List PreparedStatement) : Bool × PersistentStore :=
  if statements.isEmpty then (true, store)
  else if backend statements then
    (true, { store with preparedStatements := store.preparedStatements ++ statements })
  else (false, store)

def allocateSyncStreamId : UInt64 × PersistentStore :=
  let newId := store.nextSyncStreamId + 1
  (newId, (commitPersistentTransaction backend { store with nextSyncStreamId := newId }
    [.upsertSyncStreamWatermark newId]).2)

def persistEventStreamWatermark (watermark : UInt64) : Bool × PersistentStore :=
  commitPersistentTransaction backend { store with eventStreamWatermark := watermark }
    [.upsertEventStreamWatermark watermark]

inductive MembershipStoreResult where
  | stored
  | alreadyExists
  | error
deriving DecidableEq

def storeMembership : MembershipStoreResult × PersistentStore :=
  if membershipExists store membership then (.alreadyExists, store)
  else
    match commitPersistentTransaction backend store [.insertMembership membership] with
    | (false, store) => (.error, store)
    | (true, store) =>
      (.stored, { store with memberships := store.memberships ++ [membership] })

def updateMembership : Bool × PersistentStore :=
  if !membershipExists store membership then (false, store)
  else
    match commitPersistentTransaction backend store [.updateMembership membership] with
    | (false, store) => (false, store)
    | (true, store) =>
      (true, { store with
        memberships := putRow membershipKey membership store.memberships })

end

section

variable (store : PersistentStore) (event : PersistentEvent)

def eventEdgeRows : List PersistentEventEdge :=
  event.prevEventIds.map fun prevEventId => ⟨event.eventId, prevEventId⟩

def eventAuthRows : List PersistentEventAuth :=
  event.authEventIds.map fun authEventId => ⟨event.eventId, authEventId⟩

def eventSignatureRows : List PersistentEventSignature :=
  event.signatures.map fun signature : EventSignature =>
    ⟨event.eventId, signature.serverName, signature.keyId, signature.signature⟩

def appendEventGraphStatements (statements : List PreparedStatement)
    (event : PersistentEvent) : List PreparedStatement :=
  statements ++ (eventEdgeRows event).map .insertEventEdge ++
    (eventAuthRows event).map .insertEventAuth ++
    (eventSignatureRows event).map .insertEventSignature

def appendEventGraphRows : PersistentStore :=
  { store with
    eventEdges := store.eventEdges ++ eventEdgeRows event
    eventAuth := store.eventAuth ++ eventAuthRows event
    eventSignatures := store.eventSignatures ++ eventSignatureRows event }

structure StateTuple where
  roomId : Bytes
  eventType : Bytes
  stateKey : Bytes
deriving DecidableEq

def stateTuple (state : PersistentStateEvent) : StateTuple :=
  ⟨state.roomId, state.eventType, state.stateKey⟩

structure PreparedStateUpdate where
  event : PersistentEvent
  state : Option PersistentStateEvent
  statements : List PreparedStatement
  stateAlreadyExisted : Bool
  previousEventId : Bytes

/-- The state part of a prepared update: whether the row exists, the event it
replaces, and its statements. -/
def prepareState (state : PersistentStateEvent) : Bool × Bytes × List PreparedStatement :=
  let alreadyExisted := (rowAt stateTuple store.state (stateTuple state)).isSome
  let previousEventId := findPredecessorStateEventId store state.roomId state.eventType
    state.stateKey event.prevEventIds event.authEventIds
  (alreadyExisted, previousEventId,
    [if alreadyExisted then .upsertState state else .insertState state,
      .insertStateTransition ⟨state.roomId, state.eventType, state.stateKey, state.eventId,
        previousEventId⟩])

def prepareStoreEventWithState (yyjson : Yyjson) (store : PersistentStore)
    (event : PersistentEvent) (state : Option PersistentStateEvent) :
    Option PreparedStateUpdate :=
  if eventExists store event.eventId ||
      state.any fun state => !stateMatchesEvent yyjson event state then none
  else
    let statements := appendEventGraphStatements [.insertEvent event] event
    match state with
    | none => some ⟨event, none, statements, false, []⟩
    | some state =>
      let (alreadyExisted, previousEventId, stateStatements) :=
        prepareState store event state
      some ⟨event, some state, statements ++ stateStatements, alreadyExisted, previousEventId⟩

def appendStateTransition (transition : PersistentStateTransition) : PersistentStore :=
  let key := stateTransitionIndexKey transition.roomId transition.eventType
    transition.stateKey transition.eventId
  { store with
    stateTransitions := store.stateTransitions ++ [transition]
    -- `emplace` keeps an entry that is already there.
    stateTransitionIndex :=
      if key ∈ store.stateTransitionIndex then store.stateTransitionIndex
      else store.stateTransitionIndex.insert key store.stateTransitions.length }

def applyStoreEventWithState (update : PreparedStateUpdate) : PersistentStore :=
  if eventExists store update.event.eventId then store
  else
    let store := appendEventGraphRows store update.event
    let store := { store with events := store.events ++ [update.event] }
    match update.state with
    | none => store
    | some state =>
      appendStateTransition { store with state := putRow stateTuple state store.state }
        ⟨state.roomId, state.eventType, state.stateKey, state.eventId, update.previousEventId⟩

def currentEventId (tuple : StateTuple) : Option Bytes :=
  (rowAt stateTuple store.state tuple).map PersistentStateEvent.eventId

end

structure SameRoomTables (before after : PersistentStore) : Prop where
  events : after.events = before.events
  state : after.state = before.state

theorem SameRoomTables.trans {first second third : PersistentStore}
    (hfirst : SameRoomTables first second) (hsecond : SameRoomTables second third) :
    SameRoomTables first third :=
  ⟨hsecond.events.trans hfirst.events, hsecond.state.trans hfirst.state⟩

theorem SameRoomTables.eventExists_eq {before after : PersistentStore}
    (hsame : SameRoomTables before after) (eventId : Bytes) :
    eventExists after eventId = eventExists before eventId := by
  rw [eventExists, eventExists, hsame.events]

section Frame

variable (backend : Backend) (store : PersistentStore)

/-- A transaction leaves every table alone and adds to the log at most. -/
theorem store_of_commit {backend : Backend} {store after : PersistentStore}
    {statements : List PreparedStatement} {done : Bool}
    (hcommit : commitPersistentTransaction backend store statements = (done, after)) :
    ∃ log, after = { store with preparedStatements := log } := by
  unfold commitPersistentTransaction at hcommit
  split_ifs at hcommit <;> cases hcommit <;> exact ⟨_, rfl⟩

theorem commitPersistentTransaction_of_backend (hbackend : ∀ statements, backend statements = true)
    (statements : List PreparedStatement) :
    ∃ log, commitPersistentTransaction backend store statements =
      (true, { store with preparedStatements := log }) := by
  unfold commitPersistentTransaction
  rw [hbackend]
  split <;> exact ⟨_, rfl⟩

theorem allocateSyncStreamId_sameRoomTables :
    SameRoomTables store (allocateSyncStreamId backend store).2 := by
  simp only [allocateSyncStreamId, commitPersistentTransaction]
  split_ifs <;> exact ⟨rfl, rfl⟩

theorem persistEventStreamWatermark_sameRoomTables (watermark : UInt64) :
    SameRoomTables store (persistEventStreamWatermark backend store watermark).2 := by
  simp only [persistEventStreamWatermark, commitPersistentTransaction]
  split_ifs <;> exact ⟨rfl, rfl⟩

theorem storeMembership_sameRoomTables (membership : PersistentMembership) :
    SameRoomTables store (storeMembership backend store membership).2 := by
  simp only [storeMembership, commitPersistentTransaction]
  split_ifs <;> exact ⟨rfl, rfl⟩

theorem updateMembership_sameRoomTables (membership : PersistentMembership) :
    SameRoomTables store (updateMembership backend store membership).2 := by
  simp only [updateMembership, commitPersistentTransaction]
  split_ifs <;> exact ⟨rfl, rfl⟩

end Frame

def putStates (rows states : List PersistentStateEvent) : List PersistentStateEvent :=
  states.foldl (fun rows state => putRow stateTuple state rows) rows

variable {store : PersistentStore}

theorem prepareStoreEventWithState_eq_none_iff {yyjson : Yyjson}
    {event : PersistentEvent} {state : Option PersistentStateEvent} :
    prepareStoreEventWithState yyjson store event state = none ↔
      eventExists store event.eventId = true ∨
        state.any fun state => !stateMatchesEvent yyjson event state := by
  unfold prepareStoreEventWithState
  split
  · next hrejected => simpa using hrejected
  · next hrejected =>
      cases state with
      | none => simpa using hrejected
      | some state => simpa using hrejected

theorem of_prepareStoreEventWithState {yyjson : Yyjson}
    {event : PersistentEvent} {state : Option PersistentStateEvent} {update : PreparedStateUpdate}
    (h : prepareStoreEventWithState yyjson store event state = some update) :
    update.event = event ∧ update.state = state ∧ eventExists store event.eventId = false ∧
      state.all (stateMatchesEvent yyjson event) := by
  unfold prepareStoreEventWithState at h
  split_ifs at h with hrejected
  cases state <;> cases h <;> simpa using hrejected

theorem applyStoreEventWithState_tables {update : PreparedStateUpdate}
    (hnew : eventExists store update.event.eventId = false) :
    (applyStoreEventWithState store update).events = store.events ++ [update.event] ∧
      (applyStoreEventWithState store update).state =
        putStates store.state update.state.toList ∧
      (applyStoreEventWithState store update).memberships = store.memberships := by
  unfold applyStoreEventWithState
  rw [if_neg (by simp [hnew])]
  cases update.state with
  | none => exact ⟨rfl, rfl, rfl⟩
  | some state => exact ⟨rfl, rfl, rfl⟩

theorem rowAt_putStates (rows states : List PersistentStateEvent) (tuple : StateTuple) :
    rowAt stateTuple (putStates rows states) tuple =
      (withKey stateTuple tuple states).getLast?.or (rowAt stateTuple rows tuple) := by
  rw [putStates, (putRow_actsByKey stateTuple).view_foldl, foldl_overwrite (fun row => row)]
  simp

end Merovingian.StoreTables
