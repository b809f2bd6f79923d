import Merovingian.SlidingSyncLists

/-!
The extensions of a sliding sync response: messages to the device, device lists and
keys, account data, receipts and typing notices. Messages, receipts and typing notices
are kept as the data from which their JSON text is written.
-/

namespace Merovingian.SlidingSyncExtensions

open ByteString DecimalText JsonValue CanonicalSerializer KeyedFold EventQueries SlidingSyncRequests
open SlidingSyncRooms (pushUnique)
open SyncSurfaces

structure ExtToDeviceResponse where
  events : List PersistentToDeviceMessage
  nextBatch : Bytes
deriving DecidableEq

structure ExtE2eeResponse where
  changed : List Bytes
  left : List Bytes
  deviceOneTimeKeysCount : List (Bytes × Nat)
  deviceUnusedFallbackKeyTypes : List Bytes
deriving DecidableEq

structure ExtAccountDataResponse where
  globalJson : List Bytes
  roomsJson : List (Bytes × List Bytes)
deriving DecidableEq

/-- The receipts of a room by event, type and user, with their times. -/
abbrev ReceiptContent := List ((Bytes × Bytes × Bytes) × UInt64)

structure SlidingSyncExtensionResponses where
  toDevice : Option ExtToDeviceResponse := none
  e2ee : Option ExtE2eeResponse := none
  accountData : Option ExtAccountDataResponse := none
  receipts : Option (List (Bytes × ReceiptContent)) := none
  typing : Option (List (Bytes × List Bytes)) := none

section Extensions

variable (host : SyncHost)

/-- Content that cannot be read becomes an empty object. -/
def parseContent (json : Bytes) : Value :=
  (parsedValue host.yyjson json).getD (.object [])

def serialized (value : Value) : Bytes :=
  (serializeCanonicalStrict value).toOption.getD []

/-- The number up to the first character that is not a digit. -/
def parseSince (since : Option Bytes) : UInt64 :=
  ((since.getD []).takeWhile isDigit).foldl
    (fun number character => number * 10 + (character - byte '0').toUInt64) 0

def effectiveLimit (request : ExtToDeviceRequest) : Nat :=
  if request.limit > 0 then request.limit else 20

section

variable (tables : SyncTables) (sinceSyncStreamId : UInt64)

def buildToDevice (user deviceId : Bytes) (request : ExtToDeviceRequest)
    (currentSyncStreamId : UInt64) : ExtToDeviceResponse × SyncTables :=
  let (drained, tables) := drainToDeviceMessages tables user deviceId (parseSince request.since)
    currentSyncStreamId
  ({ events := drained.take (effectiveLimit request)
     nextBatch := decimalDigits currentSyncStreamId.toNat }, tables)

def otkAlgorithm (keyId : Bytes) : Bytes :=
  keyId.takeWhile fun character => character ≠ byte ':'

def addCount (counts : List (Bytes × Nat)) (algorithm : Bytes) : List (Bytes × Nat) :=
  putRow Prod.fst
    (algorithm, ((rowAt Prod.fst counts algorithm).map Prod.snd).getD 0 + 1) counts

def buildE2ee (user deviceId : Bytes) (sinceSyncStreamId : UInt64) : ExtE2eeResponse :=
  let delta := collectDeviceListDelta tables user sinceSyncStreamId
  let algorithms (keys : List PersistentDeviceKey) : List Bytes :=
    (keys.filter fun key => key.userId = user && key.deviceId = deviceId).map fun key =>
      otkAlgorithm key.keyId
  let seed : List (Bytes × Nat) :=
    if deviceId.isEmpty then [] else [(utf8 "signed_curve25519", 0)]
  { changed := delta.changed
    left := delta.left
    deviceOneTimeKeysCount := ((algorithms tables.oneTimeKeys).foldl addCount seed).insertionSort
      fun lhs rhs => lhs.1 ≤ rhs.1
    deviceUnusedFallbackKeyTypes := (algorithms tables.fallbackKeys).foldl pushUnique [] }

def accountDataEventJson (row : StreamedAccountData) : Bytes :=
  serialized (.object
    [(utf8 "type", .string row.eventType), (utf8 "content", parseContent host row.contentJson)])

def appendUnder (rooms : List (Bytes × List Bytes)) (entry : Bytes × Bytes) :
    List (Bytes × List Bytes) :=
  putRow Prod.fst
    (entry.1, ((rowAt Prod.fst rooms entry.1).map Prod.snd).getD [] ++ [entry.2]) rooms

/-- Account data of a room is served with the rooms of the response only. -/
def buildAccountData (user : Bytes) (sinceSyncStreamId : UInt64) (responseRoomIds : List Bytes) :
    ExtAccountDataResponse :=
  let rows := tables.accountData.filter fun row =>
    row.userId = user && row.streamId > sinceSyncStreamId
  { globalJson := (rows.filter fun row => row.roomId.isEmpty).map (accountDataEventJson host)
    roomsJson := (((rows.filter fun row =>
        !row.roomId.isEmpty && responseRoomIds.contains row.roomId).map fun row =>
          (row.roomId, accountDataEventJson host row)).foldl appendUnder []).insertionSort
      fun lhs rhs => lhs.1 ≤ rhs.1 }

/-- Rooms that the extension names go before those of the response; `*` alone names
them all. -/
def effectiveRooms (extRooms responseRooms : List Bytes) : List Bytes :=
  if extRooms.isEmpty || extRooms = [utf8 "*"] then responseRooms else extRooms

def receiptContent (ignoredSenders : List Bytes) (roomId : Bytes) : ReceiptContent :=
  (((tables.receipts.filter fun receipt =>
      receipt.roomId = roomId && receipt.streamId > sinceSyncStreamId &&
        !isDeliverySuppressed ignoredSenders receipt.userId false).map fun receipt =>
      ((receipt.eventId, receipt.receiptType, receipt.userId), receipt.ts)).foldl
    (fun content entry => putRow Prod.fst entry content) []).insertionSort
      fun lhs rhs => toLex (lhs.1.1, toLex lhs.1.2) ≤ toLex (rhs.1.1, toLex rhs.1.2)

def buildReceipts (extRooms responseRoomIds ignoredSenders : List Bytes) : List (Bytes ×
    ReceiptContent) :=
  (effectiveRooms extRooms responseRoomIds).foldl
    (fun rooms roomId =>
      let content := receiptContent tables sinceSyncStreamId ignoredSenders roomId
      if content.isEmpty then rooms else emplace rooms (roomId, content))
    []

/-- The users who are typing in the room, or none where there is nothing to tell:
an empty list is sent to clear the client's, but not to a client that starts. -/
def typingContent (ignoredSenders : List Bytes) (roomId : Bytes) : Option (List Bytes) :=
  if roomTypingStreamIdFor tables roomId ≤ sinceSyncStreamId then none
  else
    let userIds := (tables.typingUsers.filter fun entry =>
      entry.roomId = roomId && entry.typing &&
        !isDeliverySuppressed ignoredSenders entry.userId false).map InboundTypingUser.userId
    if userIds.isEmpty && sinceSyncStreamId = 0 then none else some userIds

def buildTyping (extRooms responseRoomIds ignoredSenders : List Bytes) : List (Bytes × List
    Bytes) :=
  (effectiveRooms extRooms responseRoomIds).foldl
    (fun rooms roomId =>
      match typingContent tables sinceSyncStreamId ignoredSenders roomId with
      | none => rooms
      | some userIds => emplace rooms (roomId, userIds))
    []

end

/-- Only an extension that is switched on answers. The queue of messages is drained
before the others read the tables. -/
def buildExtensions (tables : SyncTables) (user deviceId : Bytes)
    (request : SlidingSyncExtensionRequests) (sinceSyncStreamId currentSyncStreamId : UInt64)
    (responseRoomIds ignoredSenders : List Bytes) :
    SlidingSyncExtensionResponses × SyncTables :=
  let (toDevice, tables) :=
    match request.toDevice.filter ExtToDeviceRequest.enabled with
    | none => (none, tables)
    | some request =>
      let (response, tables) := buildToDevice tables user deviceId request currentSyncStreamId
      (some response, tables)
  ({ toDevice
     e2ee :=
       if request.e2ee = some true then some (buildE2ee tables user deviceId sinceSyncStreamId)
       else none
     accountData :=
       if request.accountData = some true then
         some (buildAccountData host tables user sinceSyncStreamId responseRoomIds)
       else none
     receipts := (request.receipts.filter ExtRoomsRequest.enabled).map fun extension =>
       buildReceipts tables sinceSyncStreamId extension.rooms responseRoomIds ignoredSenders
     typing := (request.typing.filter ExtRoomsRequest.enabled).map fun extension =>
       buildTyping tables sinceSyncStreamId extension.rooms responseRoomIds ignoredSenders },
    tables)

end Extensions

end Merovingian.SlidingSyncExtensions
