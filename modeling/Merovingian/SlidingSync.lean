import Merovingian.SlidingSyncExtensions
import Merovingian.TableMirror

/-!
The handler of simplified sliding sync. The state of a connection is what the client
has acknowledged; the state that its last response leads to is kept beside it until a
later request carries the position of that response, or no position at all.
-/

namespace Merovingian.SlidingSync

open ByteString DecimalText KeyedFold TableMirror StreamTokens
open RoomReads (isJoined)
open SyncSurfaces SlidingSyncRequests SlidingSyncRooms SlidingSyncLists SlidingSyncExtensions

structure ConnectionSnapshot where
  listPrevWindows : List (Bytes × List Bytes) := []
  roomsSeen : List (Bytes × UInt64) := []
  lazyMembersSent : List (Bytes × List Bytes) := []
  lastEventOrdering : UInt64 := 0
  lastSyncStreamId : UInt64 := 0

structure SlidingSyncPendingResponse extends ConnectionSnapshot where
  requestPos : Bytes
  responsePos : Bytes

structure SlidingSyncConnectionState extends ConnectionSnapshot where
  pendingResponse : Option SlidingSyncPendingResponse := none
  lastUsed : Nat := 0

abbrev Connections := List (Bytes × SlidingSyncConnectionState)

structure SlidingSyncRuntime extends SyncTables where
  slidingSyncConnections : Connections := []

structure SlidingSyncResponse where
  pos : Bytes
  lists : List (Bytes × Nat × List SlidingSyncOp)
  rooms : List (Bytes × SlidingSyncRoomResponse)
  extensions : Option SlidingSyncExtensionResponses

inductive DispatchResult where
  | unknownPos
  | needsWait (sinceStreamOrdering sinceSyncStreamId : UInt64)
  | complete (response : SlidingSyncResponse)

section Connections

def slidingSyncIdleTtl : Nat := 3600000000000

def slidingSyncConnectionsPerDevice : Nat := 8

def lengthTagged (text : Bytes) : Bytes := decimalDigits text.length ++ utf8 ":" ++ text

def slidingSyncDevicePrefix (user deviceId : Bytes) : Bytes :=
  lengthTagged user ++ lengthTagged deviceId

def slidingSyncConnectionKey (user deviceId connId : Bytes) : Bytes :=
  slidingSyncDevicePrefix user deviceId ++ lengthTagged connId

section

variable (connection : SlidingSyncConnectionState)

/-- Idle connections go, and the least recently used ones of the device where a new
one would be too many. -/
def pruneSlidingSyncConnections (connections : Connections) (user deviceId connKey : Bytes)
    (now : Nat) : Connections :=
  let connections := connections.filter fun entry =>
    !decide (now - entry.2.lastUsed > slidingSyncIdleTtl)
  if (rowAt Prod.fst connections connKey).isSome then connections
  else
    let owned := connections.filter fun entry =>
      (slidingSyncDevicePrefix user deviceId).isPrefixOf entry.1
    if owned.length < slidingSyncConnectionsPerDevice then connections
    else
      let oldest := ((owned.insertionSort fun lhs rhs =>
        lhs.2.lastUsed ≤ rhs.2.lastUsed).take
          (owned.length - (slidingSyncConnectionsPerDevice - 1))).map Prod.fst
      connections.filter fun entry => !oldest.contains entry.1

def requestedPos (pos : Option StreamToken) : Bytes := (pos.map encodeStreamToken).getD []

/-- A response whose position is that of its own request is not acknowledged by it:
the request could as well be repeated. -/
def acknowledgesPending (pending : SlidingSyncPendingResponse) (pos : Option StreamToken) : Bool :=
  requestedPos pos = pending.responsePos && requestedPos pos ≠ pending.requestPos

def acknowledge (pos : Option StreamToken) : SlidingSyncConnectionState :=
  match connection.pendingResponse with
  | none => connection
  | some pending =>
    if pos.isNone || acknowledgesPending pending pos then
      { connection with
        toConnectionSnapshot := pending.toConnectionSnapshot
        pendingResponse := none }
    else connection

def sinceEventOrdering : Option StreamToken → UInt64
  | some pos => pos.eventOrdering
  | none => if connection.roomsSeen.isEmpty then 0 else connection.lastEventOrdering

def sinceSyncStreamId : Option StreamToken → UInt64
  | some pos => pos.syncStreamId
  | none => if connection.roomsSeen.isEmpty then 0 else connection.lastSyncStreamId

end

end Connections

section Handler

variable (host : SyncHost)

def eventWatermark (tables : SyncTables) : UInt64 := tables.database.nextStreamOrdering - 1

def syncWatermark (tables : SyncTables) : UInt64 := tables.store.nextSyncStreamId

section

variable (tables : SyncTables) (snapshot : ConnectionSnapshot) (user : Bytes)
  (request : SlidingSyncRequest) (results : List (Bytes × RoomListResult))

/-- A position ahead of the streams is not one that this server has given out. -/
def posIsForeign (pos : StreamToken) : Bool :=
  pos.eventOrdering > eventWatermark tables || pos.membershipOrdering > eventWatermark tables ||
    pos.syncStreamId > syncWatermark tables

/-- Something that the request asks for is behind the positions. -/
def hasRelevantChange (deviceId : Bytes) (request : SlidingSyncRequest)
    (sinceEvent sinceSync : UInt64) : Bool :=
  let wantsRooms := !request.lists.isEmpty || !request.roomSubscriptions.isEmpty
  let wants (enabled : SlidingSyncExtensionRequests → Bool) : Bool := request.extensions.any enabled
  (wantsRooms && eventWatermark tables > sinceEvent && tables.store.events.any fun event =>
        event.streamOrdering > sinceEvent && isJoined tables.store event.roomId user) ||
    ((wants fun extensions => extensions.e2ee = some true) &&
      tables.deviceListChanges.any fun change =>
        change.observerUserId = user && change.streamId > sinceSync) ||
    ((wants fun extensions => extensions.toDevice.any ExtToDeviceRequest.enabled) &&
      tables.toDeviceMessages.any fun message =>
        message.targetUserId = user && message.targetDeviceId = deviceId &&
          message.streamId > sinceSync) ||
    ((wants fun extensions => extensions.accountData = some true) &&
      tables.accountData.any fun row => row.userId = user && row.streamId > sinceSync) ||
    ((wants fun extensions => extensions.receipts.any ExtRoomsRequest.enabled) &&
      tables.receipts.any fun receipt =>
        receipt.streamId > sinceSync && isJoined tables.store receipt.roomId user) ||
    ((wants fun extensions => extensions.typing.any ExtRoomsRequest.enabled) &&
      tables.roomTypingStreamId.any fun entry =>
        entry.2 > sinceSync && isJoined tables.store entry.1 user)

def listResults (snapshot : ConnectionSnapshot) : List (Bytes × RoomListResult) :=
  request.lists.map fun entry =>
    (entry.1, computeRoomList host tables user entry.2
      (((rowAt Prod.fst snapshot.listPrevWindows entry.1).map Prod.snd).getD []))

def responseRoomIds : List Bytes :=
  ((results.flatMap fun result => result.2.windowedRoomIds) ++
    request.roomSubscriptions.map Prod.fst).foldl pushUnique []

/-- The subscription together with every list whose window has the room. -/
def roomConfig (roomId : Bytes) : SlidingSyncRoomSubscription :=
  results.foldl
    (fun sub result =>
      if !result.2.windowedRoomIds.contains roomId then sub
      else
        match rowAt Prod.fst request.lists result.1 with
        | none => sub
        | some entry => combineRoomConfigs entry.2 sub)
    (((rowAt Prod.fst request.roomSubscriptions roomId).map Prod.snd).getD { timelineLimit := 0 })

def roomLastOrdering (roomId : Bytes) : Option UInt64 :=
  (rowAt Prod.fst snapshot.roomsSeen roomId).map Prod.snd

def roomSince (sinceEvent : UInt64) (roomId : Bytes) : UInt64 :=
  match roomLastOrdering snapshot roomId with
  | none => 0
  | some last => max sinceEvent last

def lazyAlreadySent (roomId : Bytes) : List Bytes :=
  ((rowAt Prod.fst snapshot.lazyMembersSent roomId).map Prod.snd).getD []

def roomResponse (snapshot : ConnectionSnapshot) (sinceEvent : UInt64) (roomId : Bytes) :
    SlidingSyncRoomResponse :=
  buildRoomResponse host tables roomId user (roomConfig request results roomId)
    (roomSince snapshot sinceEvent roomId) (roomLastOrdering snapshot roomId).isNone
    (lazyAlreadySent snapshot roomId) (resolveIgnoredUsers host tables user)

end

/-- Counts alone do not bring a room into the response. -/
def hasRoomUpdates (room : SlidingSyncRoomResponse) : Bool :=
  room.initial || !room.timelineJson.isEmpty || !room.requiredStateJson.isEmpty

def mergeLazyMembers (sent : List (Bytes × List Bytes))
    (room : Bytes × SlidingSyncRoomResponse) : List (Bytes × List Bytes) :=
  if room.2.lazyMembersIncluded.isEmpty then sent
  else
    putRow Prod.fst
      (room.1, room.2.lazyMembersIncluded.foldl pushUnique
        (((rowAt Prod.fst sent room.1).map Prod.snd).getD [])) sent

/-- The state that a response leads to; the rooms that are left out of it count as
sent too. -/
def nextSnapshot (snapshot : ConnectionSnapshot) (results : List (Bytes × RoomListResult))
    (rooms : List (Bytes × SlidingSyncRoomResponse)) (curEvent curSync : UInt64) :
    ConnectionSnapshot where
  listPrevWindows := results.foldl
    (fun windows result => putRow Prod.fst (result.1, result.2.windowedRoomIds) windows)
    snapshot.listPrevWindows
  roomsSeen := (rooms.map Prod.fst).foldl
    (fun seen roomId => putRow Prod.fst (roomId, curEvent) seen) snapshot.roomsSeen
  lazyMembersSent := rooms.foldl mergeLazyMembers snapshot.lazyMembersSent
  lastEventOrdering := curEvent
  lastSyncStreamId := curSync

section

variable (runtime : SlidingSyncRuntime) (tables : SyncTables) (user deviceId : Bytes)
  (request : SlidingSyncRequest)

def putConnection (connKey : Bytes) (connection : SlidingSyncConnectionState) :
    SlidingSyncRuntime :=
  { runtime with
    slidingSyncConnections := putRow Prod.fst (connKey, connection)
      runtime.slidingSyncConnections }

def openConnection (connKey : Bytes) (pos : Option StreamToken) (now : Nat) :
    SlidingSyncConnectionState × SlidingSyncRuntime :=
  let connections := pruneSlidingSyncConnections runtime.slidingSyncConnections user deviceId
    connKey now
  let connection := ((rowAt Prod.fst connections connKey).map Prod.snd).getD {}
  let connection := acknowledge { connection with lastUsed := now } pos
  (connection, putConnection { runtime with slidingSyncConnections := connections } connKey
    connection)

def builtRooms (connection : SlidingSyncConnectionState) (pos : Option StreamToken) : List (Bytes ×
    SlidingSyncRoomResponse) :=
  let snapshot := connection.toConnectionSnapshot
  let results := listResults host tables user request snapshot
  (responseRoomIds request results).map fun roomId =>
    (roomId, roomResponse host tables user request results snapshot
      (sinceEventOrdering connection pos) roomId)

def currentPos : StreamToken :=
  ⟨eventWatermark tables, eventWatermark tables, syncWatermark tables⟩

def respond (connection : SlidingSyncConnectionState) (pos : Option StreamToken) :
    SlidingSyncResponse × SyncTables × SlidingSyncPendingResponse :=
  let snapshot := connection.toConnectionSnapshot
  let results := listResults host tables user request snapshot
  let rooms := builtRooms host tables user request connection pos
  let (extensions, drained) :=
    match request.extensions with
    | none => (none, tables)
    | some extensions =>
      let (responses, drained) := buildExtensions host tables user deviceId extensions
        (sinceSyncStreamId connection pos) (syncWatermark tables)
        (responseRoomIds request results) (resolveIgnoredUsers host tables user)
      (some responses, drained)
  let newPos := encodeStreamToken (currentPos tables)
  ({ pos := newPos
     lists := results.map fun result => (result.1, result.2.count, result.2.ops)
     rooms := rooms.filter fun room => hasRoomUpdates room.2
     extensions },
    drained,
    { nextSnapshot snapshot results rooms (eventWatermark tables) (syncWatermark tables) with
      requestPos := requestedPos pos
      responsePos := newPos })

def requestConnectionKey : Bytes :=
  slidingSyncConnectionKey user deviceId (request.connId.getD "__default__")

def slidingSyncJson (pos : Option StreamToken) (timeoutMs : Nat) (canWait : Bool) (now : Nat) :
    DispatchResult × SlidingSyncRuntime :=
  let connKey := requestConnectionKey user deviceId request
  if pos.any (posIsForeign runtime.toSyncTables) then
    (.unknownPos, { runtime with
        slidingSyncConnections := deleteKey Prod.fst connKey runtime.slidingSyncConnections })
  else
    let (connection, runtime) := openConnection runtime user deviceId connKey pos now
    if canWait && decide (timeoutMs > 0) && !hasRelevantChange runtime.toSyncTables user deviceId
        request (sinceEventOrdering connection pos) (sinceSyncStreamId connection pos) then
      (.needsWait (eventWatermark runtime.toSyncTables) (syncWatermark runtime.toSyncTables),
        runtime)
    else
      let (response, tables, pending) := respond host runtime.toSyncTables user deviceId request
        connection pos
      (.complete response, putConnection { runtime with toSyncTables := tables } connKey
          { connection with pendingResponse := some pending })

structure SlidingSyncCall where
  request : SlidingSyncRequest
  targetPos : Option Bytes := none
  targetTimeout : Option Nat := none
  canWait : Bool := false
  now : Nat := 0

def SlidingSyncCall.pos (call : SlidingSyncCall) : Option StreamToken :=
  requestPos call.targetPos call.request

def dispatchSlidingSync (call : SlidingSyncCall) : DispatchResult × SlidingSyncRuntime :=
  slidingSyncJson host runtime user deviceId call.request call.pos
    (call.targetTimeout.getD (call.request.timeout.getD 0)) call.canWait call.now

end

end Handler

section Outcomes

variable {host : SyncHost} {runtime : SlidingSyncRuntime} {user deviceId : Bytes}
  {call : SlidingSyncCall}

def foundConnection (runtime : SlidingSyncRuntime) (user deviceId : Bytes)
    (call : SlidingSyncCall) : SlidingSyncConnectionState :=
  (openConnection runtime user deviceId (requestConnectionKey user deviceId call.request) call.pos
    call.now).1

def openedRuntime (runtime : SlidingSyncRuntime) (user deviceId : Bytes)
    (call : SlidingSyncCall) : SlidingSyncRuntime :=
  (openConnection runtime user deviceId (requestConnectionKey user deviceId call.request) call.pos
    call.now).2

def answer (host : SyncHost) (runtime : SlidingSyncRuntime) (user deviceId : Bytes)
    (call : SlidingSyncCall) :
    SlidingSyncResponse × SyncTables × SlidingSyncPendingResponse :=
  respond host runtime.toSyncTables user deviceId call.request
    (foundConnection runtime user deviceId call) call.pos

def answeredRuntime (host : SyncHost) (runtime : SlidingSyncRuntime) (user deviceId : Bytes)
    (call : SlidingSyncCall) : SlidingSyncRuntime :=
  putConnection
    { openedRuntime runtime user deviceId call with
      toSyncTables := (answer host runtime user deviceId call).2.1 }
    (requestConnectionKey user deviceId call.request)
    { foundConnection runtime user deviceId call with
      pendingResponse := some (answer host runtime user deviceId call).2.2 }

variable (host runtime user deviceId call) in
theorem dispatchSlidingSync_cases : (call.pos.any (posIsForeign runtime.toSyncTables) = true ∧
        dispatchSlidingSync host runtime user deviceId call = (.unknownPos, { runtime with
              slidingSyncConnections := deleteKey Prod.fst
                (requestConnectionKey user deviceId call.request)
                runtime.slidingSyncConnections })) ∨
      (∃ sinceEvent sinceSync, dispatchSlidingSync host runtime user deviceId call =
        (.needsWait sinceEvent sinceSync, openedRuntime runtime user deviceId call)) ∨
      dispatchSlidingSync host runtime user deviceId call =
        (.complete (answer host runtime user deviceId call).1,
          answeredRuntime host runtime user deviceId call) := by
  unfold dispatchSlidingSync slidingSyncJson
  simp only
  split_ifs with hforeign hwaits
  · exact .inl ⟨hforeign, rfl⟩
  · exact .inr (.inl ⟨_, _, rfl⟩)
  · exact .inr (.inr rfl)

def requestedToDevice (request : SlidingSyncRequest) : Option ExtToDeviceRequest :=
  (request.extensions.bind SlidingSyncExtensionRequests.toDevice).filter
    ExtToDeviceRequest.enabled

theorem answer_toDevice : (answer host runtime user deviceId call).2.1 =
        ((requestedToDevice call.request).map fun extension =>
          (buildToDevice runtime.toSyncTables user deviceId extension
            (syncWatermark runtime.toSyncTables)).2).getD runtime.toSyncTables ∧
      (answer host runtime user deviceId call).1.extensions.bind
          SlidingSyncExtensionResponses.toDevice =
        (requestedToDevice call.request).map fun extension =>
          (buildToDevice runtime.toSyncTables user deviceId extension
            (syncWatermark runtime.toSyncTables)).1 := by
  unfold answer respond requestedToDevice
  rcases call.request.extensions with _ | extensions
  · exact ⟨rfl, rfl⟩
  · simp only [Option.bind_some, buildExtensions]
    rcases extensions.toDevice.filter ExtToDeviceRequest.enabled with _ | extension <;>
      exact ⟨rfl, rfl⟩

variable (host runtime user deviceId call) in
theorem toSyncTables_dispatch :
    (dispatchSlidingSync host runtime user deviceId call).2.toSyncTables = runtime.toSyncTables ∨
      ∃ extension ∈ requestedToDevice call.request,
        (dispatchSlidingSync host runtime user deviceId call).2.toSyncTables =
          (drainToDeviceMessages runtime.toSyncTables user deviceId (parseSince extension.since)
            (syncWatermark runtime.toSyncTables)).2 := by
  rcases dispatchSlidingSync_cases host runtime user deviceId call with
    ⟨-, hrefused⟩ | ⟨_, _, hwaits⟩ | hanswered
  · rw [hrefused]
    exact .inl rfl
  · rw [hwaits]
    exact .inl rfl
  · rw [hanswered]
    change (answer host runtime user deviceId call).2.1 = _ ∨ ∃ extension ∈ _,
      (answer host runtime user deviceId call).2.1 = _
    rw [answer_toDevice.1]
    rcases requestedToDevice call.request with _ | extension
    · exact .inl rfl
    · exact .inr ⟨extension, rfl, rfl⟩

variable (host runtime user deviceId call) in
theorem database_dispatch :
    (dispatchSlidingSync host runtime user deviceId call).2.database = runtime.database := by
  rcases toSyncTables_dispatch host runtime user deviceId call with hsame | ⟨_, -, hdrained⟩
  · rw [hsame]
  · rw [hdrained]
    rfl

end Outcomes

end Merovingian.SlidingSync
