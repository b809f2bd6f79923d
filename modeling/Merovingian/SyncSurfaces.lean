import Merovingian.RoomReads

/-!
The rows that the sync endpoints serve besides events: account data, messages to
devices, device-list changes, keys, receipts and typing notices. With them stand
the store operations on the to-device queue, the device-list delta and the filter
for ignored users.
-/

namespace Merovingian.SyncSurfaces

open ByteString JsonValue CanonicalParser KeyedFold StoreTables PduIngestion RoomReads

/-- The parsers and the database behind the store. `parseJson` is the lenient parser
for account data. -/
structure SyncHost where
  yyjson : Yyjson
  parseJson : Bytes → Option Value
  backend : Backend

structure StreamedAccountData extends PersistentAccountData where
  streamId : UInt64

structure PersistentToDeviceMessage where
  streamId : UInt64 := 0
  senderUserId : Bytes
  targetUserId : Bytes
  targetDeviceId : Bytes
  messageType : Bytes
  contentJson : Bytes
deriving DecidableEq

structure PersistentDeviceListChange where
  streamId : UInt64
  observerUserId : Bytes
  subjectUserId : Bytes
  changeType : Bytes

structure PersistentDeviceKey where
  userId : Bytes
  deviceId : Bytes
  keyId : Bytes

structure InboundReceipt where
  roomId : Bytes
  receiptType : Bytes := "m.read"
  userId : Bytes
  eventId : Bytes
  ts : UInt64 := 0
  streamId : UInt64 := 0
deriving DecidableEq

structure InboundTypingUser where
  roomId : Bytes
  userId : Bytes
  typing : Bool := false
deriving DecidableEq

/-- The database and the rows of the surfaces; `rooms` are the ids of the rooms
table. -/
structure SyncTables where
  database : LocalDatabase := {}
  rooms : List Bytes := []
  accountData : List StreamedAccountData := []
  toDeviceMessages : List PersistentToDeviceMessage := []
  deviceListChanges : List PersistentDeviceListChange := []
  oneTimeKeys : List PersistentDeviceKey := []
  fallbackKeys : List PersistentDeviceKey := []
  receipts : List InboundReceipt := []
  typingUsers : List InboundTypingUser := []
  roomTypingStreamId : List (Bytes × UInt64) := []

def SyncTables.store (tables : SyncTables) : PersistentStore := tables.database.persistentStore

def roomTypingStreamIdFor (tables : SyncTables) (roomId : Bytes) : UInt64 :=
  ((rowAt Prod.fst tables.roomTypingStreamId roomId).map Prod.snd).getD 0

section ToDevice

/-- `commits` says whether the backend takes the row. The stream id is spent in any
case. -/
def enqueueToDeviceMessage (host : SyncHost) (tables : SyncTables)
    (message : PersistentToDeviceMessage) (commits : Bool) : Bool × SyncTables :=
  if message.senderUserId.isEmpty || message.targetUserId.isEmpty ||
      message.messageType.isEmpty || message.contentJson.isEmpty then (false, tables)
  else
    let (streamId, store) := allocateSyncStreamId host.backend tables.store
    let tables := { tables with database := { tables.database with persistentStore := store } }
    if !commits then (false, tables)
    else
      (true, { tables with
          toDeviceMessages := tables.toDeviceMessages ++ [{ message with streamId }] })

/-- The device is empty or `*` for a message to every device of the user. -/
def isTargeted (message : PersistentToDeviceMessage) : Bool :=
  !message.targetDeviceId.isEmpty && message.targetDeviceId ≠ utf8 "*"

def addressedToDevice (userId deviceId : Bytes) (message : PersistentToDeviceMessage) : Bool :=
  message.targetUserId = userId &&
    (message.targetDeviceId.isEmpty || message.targetDeviceId = utf8 "*" ||
      message.targetDeviceId = deviceId)

def eraseMessage (messages : List PersistentToDeviceMessage)
    (message : PersistentToDeviceMessage) : List PersistentToDeviceMessage :=
  messages.filter fun candidate =>
    !(candidate.streamId = message.streamId && candidate.targetUserId = message.targetUserId &&
      candidate.targetDeviceId = message.targetDeviceId)

/-- The messages of the device behind `since`, and the table without those up to
`since` that were for this device only. -/
def drainToDeviceMessages (tables : SyncTables) (userId deviceId : Bytes)
    (sinceStreamId upperStreamId : UInt64) : List PersistentToDeviceMessage × SyncTables :=
  let addressed := tables.toDeviceMessages.filter fun message =>
    addressedToDevice userId deviceId message && message.streamId ≤ upperStreamId
  let drained := addressed.filter fun message => message.streamId > sinceStreamId
  let acknowledged := addressed.filter fun message => !(message.streamId > sinceStreamId)
  (drained, { tables with
      toDeviceMessages := (acknowledged.filter isTargeted).foldl eraseMessage
        tables.toDeviceMessages })

end ToDevice

section DeviceLists

structure DeviceListDelta where
  changed : List Bytes
  left : List Bytes

/-- The latest change of a subject is the one with the greatest id. -/
def putLatest (latest : List (Bytes × UInt64 × Bool)) (change : PersistentDeviceListChange) :
    List (Bytes × UInt64 × Bool) :=
  let entry := (change.subjectUserId, change.streamId, decide (change.changeType = utf8 "left"))
  match rowAt Prod.fst latest change.subjectUserId with
  | none => latest ++ [entry]
  | some (_, streamId, _) =>
    if change.streamId ≥ streamId then putRow Prod.fst entry latest else latest

/-- Each subject once, in the order of the ids. -/
def collectDeviceListDelta (tables : SyncTables) (user : Bytes) (fromSyncStreamId : UInt64) :
    DeviceListDelta :=
  let changes := tables.deviceListChanges.filter fun change =>
    change.observerUserId = user && change.streamId > fromSyncStreamId
  let latest := (changes.foldl putLatest []).insertionSort fun lhs rhs => lhs.1 ≤ rhs.1
  { changed := (latest.filter fun entry => !entry.2.2).map Prod.fst
    left := (latest.filter fun entry => entry.2.2).map Prod.fst }

end DeviceLists

section Ignoring

def parseIgnoredUserList (host : SyncHost) (contentJson : Bytes) : List Bytes :=
  (((host.parseJson contentJson).bind valueIsObject).bind fun root =>
      objectMemberAsObject root "ignored_users").elim [] fun ignored =>
    (ignored.map Prod.fst).filter fun user => !user.isEmpty

def resolveIgnoredUsers (host : SyncHost) (tables : SyncTables) (userId : Bytes) : List Bytes :=
  match tables.accountData.find? fun row =>
      row.userId = userId && row.roomId.isEmpty && row.eventType = utf8 "m.ignored_user_list" with
  | none => []
  | some row => parseIgnoredUserList host row.contentJson

/-- State events of ignored users are delivered all the same, their invites are not. -/
def isDeliverySuppressed (ignoredSenders : List Bytes) (sender : Bytes) (isStateEvent : Bool)
    (isNewRoomInvite : Bool := false) : Bool :=
  ignoredSenders.contains sender && (isNewRoomInvite || !isStateEvent)

end Ignoring

end Merovingian.SyncSurfaces
