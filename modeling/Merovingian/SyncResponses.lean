import Merovingian.SlidingSync

/-!
The answer to `/sync`: the rooms that the user has joined, each with the newest events
of its timeline, and the token from which the next request goes on. The number of rooms
and the number of events of a room are bounded; only the second bound is told to the
client, by `limited` and `prev_batch`.
-/

namespace Merovingian.SyncResponses

open ByteString JsonValue CanonicalParser StoreTables PduIngestion StreamTokens
open EventQueries (parsedValue findEvent)
open RoomReads (EventTypeFilter RoomFilter ReadRefusal filterStrings populateEventFilter
  eventPassesFilter roomPassesFilter eventObject roomEntries sortByStreamOrdering orderingToken
  buildCurrentStateEvents)
open SyncSurfaces SlidingSyncRooms
open SlidingSyncExtensions (ReceiptContent receiptContent typingContent)
open SlidingSync (eventWatermark)

structure ClientApiLimits where
  maxSyncRooms : Nat := 16
  maxSyncEventsPerRoom : Nat := 8

section Filters

/-- A filter with a page size; zero is no bound. -/
structure SectionFilter extends EventTypeFilter where
  limit : Nat := 0

structure SyncRoomFilter where
  rooms : List Bytes := []
  notRooms : List Bytes := []
  timeline : SectionFilter := {}
  state : SectionFilter := {}
  accountData : SectionFilter := {}

structure SyncFilter where
  room : SyncRoomFilter := {}
  presence : SectionFilter := {}
  accountData : SectionFilter := {}
  present : Bool := false

/-- A negative limit is passed over. -/
def populateSectionFilter (source : Object) : SectionFilter :=
  { populateEventFilter source with
    limit := ((integerMember source "limit").filter fun limit => limit ≥ 0).elim 0 fun limit =>
      limit.toInt.toNat }

def populateSection (source : Object) (key : Bytes) : SectionFilter :=
  ((objectMemberAsObject source key).map populateSectionFilter).getD {}

def populateRoomFilter (source : Object) : SyncRoomFilter where
  rooms := filterStrings source "rooms"
  notRooms := filterStrings source "not_rooms"
  timeline := populateSection source "timeline"
  state := populateSection source "state"
  accountData := populateSection source "account_data"

/-- What is not an object in JSON is no filter. -/
def parseFilterArgument (yyjson : Yyjson) (filterArgument : Bytes) : SyncFilter :=
  if filterArgument.head? ≠ some (byte '\x7b') then {}
  else
    match (parsedValue yyjson filterArgument).bind valueIsObject with
    | none => {}
    | some root =>
      { room := ((objectMemberAsObject root "room").map populateRoomFilter).getD {}
        presence := populateSection root "presence"
        accountData := populateSection root "account_data"
        present := true }

def admitsRoom (filter : SyncFilter) (roomId : Bytes) : Bool :=
  !filter.present ||
    roomPassesFilter { rooms := filter.room.rooms, notRooms := filter.room.notRooms } roomId

end Filters

structure PersistentPresence where
  userId : Bytes
  streamId : UInt64

structure SyncServer extends SyncTables where
  presenceStates : List PersistentPresence := []

structure SyncRequest where
  since : Option Bytes := none
  filter : Option Bytes := none
  timeout : Option Nat := none

structure RoomEphemeral where
  typing : Option (List Bytes)
  receipts : ReceiptContent

structure JoinedRoom where
  roomId : Bytes
  timeline : List PersistentEvent
  limited : Bool
  prevBatch : Bytes
  state : List PersistentEvent
  accountData : List StreamedAccountData
  ephemeral : RoomEphemeral
  notificationCount : Nat
  highlightCount : Nat

structure SyncResponse where
  nextBatch : Bytes
  join : List JoinedRoom
  toDevice : List PersistentToDeviceMessage
  deviceLists : DeviceListDelta
  presence : List PersistentPresence
  accountData : List StreamedAccountData

inductive SyncResult where
  | failed (refusal : ReadRefusal)
  | needsWait (sinceOrdering sinceSyncStreamId : UInt64) (timeout : Nat)
  | complete (response : SyncResponse)

def sinceOrdering (sinceToken : Option StreamToken) : UInt64 :=
  (sinceToken.map StreamToken.eventOrdering).getD 0

def sinceSyncStreamId (sinceToken : Option StreamToken) : UInt64 :=
  (sinceToken.map StreamToken.syncStreamId).getD 0

section Rooms

variable (host : SyncHost) (limits : ClientApiLimits)

section

variable (tables : SyncTables) (filter : SectionFilter)

def limitRows {Row : Type} (filter : SectionFilter) (rows : List Row) : List Row :=
  if filter.limit = 0 then rows else rows.take filter.limit

def buildAccountDataEvents (user roomScope : Bytes) (sinceSyncStreamId : UInt64) : List
    StreamedAccountData :=
  limitRows filter <| tables.accountData.filter fun row =>
    row.userId = user && row.roomId = roomScope && row.streamId > sinceSyncStreamId &&
      eventPassesFilter filter.toEventTypeFilter row.eventType user

def buildPresenceEvents (server : SyncServer) (filter : SectionFilter) (user : Bytes)
    (sinceSyncStreamId : UInt64) : List PersistentPresence :=
  limitRows filter <| server.presenceStates.filter fun row =>
    row.userId ≠ user && row.streamId > sinceSyncStreamId &&
      eventPassesFilter filter.toEventTypeFilter "m.presence" row.userId

def buildRoomEphemeralEvents (roomId : Bytes) (sinceSyncStreamId : UInt64)
    (ignoredSenders : List Bytes) : RoomEphemeral where
  typing := typingContent tables sinceSyncStreamId ignoredSenders roomId
  receipts := receiptContent tables sinceSyncStreamId ignoredSenders roomId

/-- The greatest id counts; receipts of ignored users count as well. -/
def observeEphemeral (roomId : Bytes) (sinceSyncStreamId : UInt64) (ephemeral : RoomEphemeral)
    (observed : UInt64) : UInt64 :=
  let observed :=
    if ephemeral.typing.isSome then max observed (roomTypingStreamIdFor tables roomId)
    else observed
  ((tables.receipts.filter fun receipt =>
      receipt.roomId = roomId && receipt.streamId > sinceSyncStreamId).map
    InboundReceipt.streamId).foldl max observed

/-- The user's member event is behind the position and says that the user is in. -/
def joinedMembershipChangedSince (store : PersistentStore) (roomId user : Bytes)
    (sinceOrdering : UInt64) : Bool :=
  ((store.state.find? fun entry =>
      entry.roomId = roomId && entry.eventType = utf8 "m.room.member" &&
        entry.stateKey = user).bind fun entry =>
    (findEvent store entry.eventId).filter fun event =>
      event.streamOrdering > sinceOrdering).any fun event =>
    (((eventObject host.yyjson event).bind fun root =>
        objectMemberAsObject root "content").bind fun content =>
        stringMember content "membership") = some (utf8 "join")

def timelineCap : Nat :=
  if filter.limit ≠ 0 then min filter.limit limits.maxSyncEventsPerRoom
  else limits.maxSyncEventsPerRoom

/-- The types of events are not looked at here. -/
def isMatched (ignoredSenders : List Bytes) (sinceOrdering : UInt64) (event : PersistentEvent) :
    Bool :=
  !(decide (sinceOrdering > 0) && decide (event.streamOrdering ≤ sinceOrdering)) &&
    eventPassesFilter filter.toEventTypeFilter [] event.senderUserId &&
    !RoomReads.isDeliverySuppressed host.yyjson ignoredSenders event

end

def matchedEvents (store : PersistentStore) (filter : SectionFilter) (ignoredSenders : List Bytes)
    (sinceOrdering : UInt64) (roomId : Bytes) : List PersistentEvent :=
  sortByStreamOrdering <|
    (roomEntries store roomId).filter (isMatched host filter ignoredSenders sinceOrdering)

def timelineWindow (cap : Nat) (matched : List PersistentEvent) : List PersistentEvent :=
  if matched.length > cap then matched.drop (matched.length - cap) else matched

section

variable (tables : SyncTables) (user : Bytes) (sinceToken : Option StreamToken)

/-- The oldest event of the window, or the position of the request. -/
def prevBatchOf (window : List PersistentEvent) (sinceOrdering : UInt64) : Bytes :=
  match window.head? with
  | some oldest => orderingToken oldest
  | none => utf8 (toString sinceOrdering.toNat)

def buildJoinedRoom (filter : SyncRoomFilter) (ignoredSenders : List Bytes) (roomId : Bytes) :
    JoinedRoom :=
  let store := tables.store
  let since := sinceOrdering sinceToken
  let cap := timelineCap limits filter.timeline
  let matched := matchedEvents host store filter.timeline ignoredSenders since roomId
  let timeline := timelineWindow cap matched
  let newlyJoined := sinceToken.isSome && joinedMembershipChangedSince host store roomId user since
  let readOrdering := readReceiptOrdering tables roomId user
  { roomId
    timeline
    limited := decide (matched.length > cap)
    prevBatch := prevBatchOf timeline since
    state :=
      if sinceToken.isNone || newlyJoined then
        buildCurrentStateEvents store filter.state.toEventTypeFilter roomId
      else []
    accountData := buildAccountDataEvents tables filter.accountData user roomId
      (sinceSyncStreamId sinceToken)
    ephemeral := buildRoomEphemeralEvents tables roomId (sinceSyncStreamId sinceToken)
      ignoredSenders
    notificationCount := countNotifications host store roomId user readOrdering
    highlightCount := countHighlights host store roomId user readOrdering }

def isQuiet (room : JoinedRoom) : Bool :=
  room.timeline.isEmpty && room.accountData.isEmpty && room.state.isEmpty &&
    room.ephemeral.typing.isNone && room.ephemeral.receipts.isEmpty

/-- The loop over the rooms. Once there are enough of them the others are not looked
at, and a room without news is left out of an incremental answer. -/
def joinStep (filter : SyncFilter) (ignoredSenders : List Bytes) (joined : List JoinedRoom × UInt64)
    (room : LocalRoom) : List JoinedRoom × UInt64 :=
  if decide (joined.1.length ≥ limits.maxSyncRooms) || !room.members.contains user then joined
  else if !admitsRoom filter room.roomId then joined
  else
    let built := buildJoinedRoom host limits tables user sinceToken filter.room ignoredSenders
      room.roomId
    let observed := observeEphemeral tables room.roomId (sinceSyncStreamId sinceToken)
      built.ephemeral
      ((built.accountData.map StreamedAccountData.streamId).foldl max joined.2)
    if sinceToken.isSome && isQuiet built then (joined.1, observed)
    else (joined.1 ++ [built], observed)

end

end Rooms

section Handler

variable (host : SyncHost) (limits : ClientApiLimits)

def ensureSyncStreamIdAheadOf (store : PersistentStore) (sinceSyncStreamId : UInt64) :
    Bool × PersistentStore :=
  if sinceSyncStreamId ≤ store.nextSyncStreamId then (true, store)
  else commitPersistentTransaction host.backend { store with nextSyncStreamId := sinceSyncStreamId }
    [.upsertSyncStreamWatermark sinceSyncStreamId]

/-- A client that is ahead of the counter pushes it. -/
def advanceSyncStream (server : SyncServer) (sinceSyncStreamId : UInt64) : Bool × SyncServer :=
  let (ahead, store) :=
    if sinceSyncStreamId > 0 then ensureSyncStreamIdAheadOf host server.store sinceSyncStreamId
    else (true, server.store)
  (ahead, { server with database := { server.database with persistentStore := store } })

def buildSyncResponse (server : SyncServer) (user deviceId : Bytes)
    (sinceToken : Option StreamToken) (filter : SyncFilter) : SyncResponse × SyncServer :=
  let since := sinceSyncStreamId sinceToken
  let upperBound := server.store.nextSyncStreamId
  let ignoredSenders := resolveIgnoredUsers host server.toSyncTables user
  let (join, observed) := server.database.rooms.foldl
    (joinStep host limits server.toSyncTables user sinceToken filter ignoredSenders)
    ([], since)
  let (toDevice, tables) := drainToDeviceMessages server.toSyncTables user deviceId
    since upperBound
  let presence := buildPresenceEvents server filter.presence user since
  let accountData := buildAccountDataEvents tables filter.accountData user [] since
  let observed := (toDevice.map PersistentToDeviceMessage.streamId ++
      (tables.deviceListChanges.filter fun change =>
        change.observerUserId = user && change.streamId > since).map
          PersistentDeviceListChange.streamId ++
      presence.map PersistentPresence.streamId ++
      accountData.map StreamedAccountData.streamId).foldl max observed
  let position := eventWatermark tables
  ({ nextBatch := encodeStreamToken ⟨position, position, max observed upperBound⟩
     join
     toDevice
     deviceLists := collectDeviceListDelta tables user since
     presence
     accountData },
    { server with toSyncTables := tables })

def syncJson (server : SyncServer) (user deviceId : Bytes) (request : SyncRequest)
    (canWait : Bool) : SyncResult × SyncServer :=
  let sinceToken := request.since.bind decodeStreamToken
  let filter := (request.filter.map (parseFilterArgument host.yyjson)).getD {}
  let (ahead, server) := advanceSyncStream host server (sinceSyncStreamId sinceToken)
  if !ahead then
    (.failed ⟨500, "M_UNKNOWN", "unable to advance sync stream counter"⟩, server)
  else if canWait && decide (request.timeout.getD 0 > 0) &&
      !decide (eventWatermark server.toSyncTables > sinceOrdering sinceToken) &&
      !decide (server.store.nextSyncStreamId > sinceSyncStreamId sinceToken) then
    (.needsWait (sinceOrdering sinceToken) (sinceSyncStreamId sinceToken)
      (request.timeout.getD 0), server)
  else
    let (response, server) := buildSyncResponse host limits server user deviceId sinceToken filter
    (.complete response, server)

end Handler

end Merovingian.SyncResponses
