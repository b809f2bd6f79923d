import Merovingian.SlidingSyncRooms

/-!
The lists of a sliding sync request: the rooms that the user has joined, filtered and
sorted, and the operations that bring the client's windows into that list up to date.
-/

namespace Merovingian.SlidingSyncLists

open ByteString JsonValue StoreTables
open RoomReads (eventObject isJoined)
open SlidingSyncRequests SlidingSyncRooms SyncSurfaces

section Sorting

variable (host : SyncHost)

section

variable (store : PersistentStore) (tables : SyncTables) (roomId user : Bytes)

def roomIsEncrypted : Bool :=
  store.state.any fun entry =>
    entry.roomId = roomId && entry.eventType = utf8 "m.room.encryption"

def userIsInvited : Bool :=
  store.memberships.any fun row =>
    row.roomId = roomId && row.userId = user && row.membership = utf8 "invite"

def roomIsDm : Bool :=
  (directRoots host tables user).any (directNames roomId)

def roomIsFavourite : Bool :=
  tables.accountData.any fun row =>
    row.userId = user && row.roomId = roomId && row.eventType = utf8 "m.tag" &&
      (((host.parseJson row.contentJson).bind valueIsObject).bind fun root =>
        objectMemberAsObject root "tags").any fun tags => (objectMember tags "m.favourite").isSome

def roomType : Bytes :=
  (stateContent host store roomId "m.room.create" "type").getD []

/-- A filter that is not given admits every room. -/
def passesFilters (filters : SlidingSyncFilters) : Bool :=
  let agrees (wanted : Option Bool) (actual : Bool) : Bool := wanted.all fun flag => actual = flag
  agrees filters.isEncrypted (roomIsEncrypted tables.store roomId) &&
    agrees filters.isInvite (userIsInvited tables.store roomId user) &&
    agrees filters.isDm (roomIsDm host tables roomId user) &&
    agrees filters.isFavourite (roomIsFavourite host tables roomId user) &&
    (filters.roomTypes.isEmpty || filters.roomTypes.contains (roomType host tables.store roomId)) &&
    !filters.notRoomTypes.contains (roomType host tables.store roomId)

/-- The last ordering among the events that count. -/
def recencyKey (bumpTypes : List Bytes) : UInt64 :=
  (store.events.filter fun event =>
      event.roomId = roomId && (bumpTypes.isEmpty ||
          ((eventObject host.yyjson event).bind fun root => stringMember root "type").any
            bumpTypes.contains)).foldl
    (fun latest event => if event.streamOrdering > latest then event.streamOrdering else latest) 0

def notificationKey : Nat :=
  countNotifications host tables.store roomId user (readReceiptOrdering tables roomId user)

def roomDisplayName : Bytes :=
  (stateContent host store roomId "m.room.name" "name").getD []

/-- The sort keys from left to right; a tie goes to the next key, at last to the
room ids. -/
def sortsBefore (tables : SyncTables) (user : Bytes) (list : SlidingSyncList)
    (lhs rhs : Bytes) : List Bytes → Bool
  | [] => decide (lhs < rhs)
  | key :: rest =>
    if key = utf8 "by_notification_count" then
      let left := notificationKey host tables lhs user
      let right := notificationKey host tables rhs user
      if left ≠ right then decide (left > right)
      else sortsBefore tables user list lhs rhs rest
    else if key = utf8 "by_recency" then
      let left := recencyKey host tables.store lhs list.bumpEventTypes
      let right := recencyKey host tables.store rhs list.bumpEventTypes
      if left ≠ right then decide (left > right)
      else sortsBefore tables user list lhs rhs rest
    else if key = utf8 "by_name" then
      let left := roomDisplayName host tables.store lhs
      let right := roomDisplayName host tables.store rhs
      -- rooms without a name come last
      if left.isEmpty ≠ right.isEmpty then !left.isEmpty
      else if left ≠ right then decide (left < right)
      else sortsBefore tables user list lhs rhs rest
    else sortsBefore tables user list lhs rhs rest

def sortedRoomIds (list : SlidingSyncList) : List Bytes :=
  (tables.rooms.filter fun roomId =>
      isJoined tables.store roomId user &&
        list.filters.all fun filters => passesFilters host tables roomId user filters).insertionSort
    fun lhs rhs => !sortsBefore host tables user list rhs lhs list.sort

end

end Sorting

section Windows

/-- An operation `SYNC`, the only one that the server sends. -/
structure SlidingSyncOp where
  range : SlidingSyncRange
  roomIds : List Bytes
deriving DecidableEq

structure RoomListResult where
  count : Nat
  windowedRoomIds : List Bytes
  ops : List SlidingSyncOp

section

variable (sorted : List Bytes) (ranges : List SlidingSyncRange)

def rangeSlice (range : SlidingSyncRange) : List Bytes :=
  (sorted.drop range.start).take (range.end_ + 1 - range.start)

def windowRooms : List Bytes :=
  ranges.flatMap (rangeSlice sorted)

def makeSyncOps : List SlidingSyncOp :=
  ranges.map fun range => ⟨range, rangeSlice sorted range⟩

/-- The ranges whose slice is not the one that stands at the same place of the
previous window, as if that had been cut by the same ranges. -/
def changedSyncOps (sorted prevWindow : List Bytes) : Nat → List SlidingSyncRange →
    List SlidingSyncOp
  | _, [] => []
  | prevOffset, range :: rest =>
    let len := if range.end_ ≥ range.start then range.end_ - range.start + 1 else 0
    let currentSlice := rangeSlice sorted range
    let prevSlice := (prevWindow.drop prevOffset).take len
    let later := changedSyncOps sorted prevWindow (prevOffset + len) rest
    if currentSlice ≠ prevSlice then ⟨range, currentSlice⟩ :: later else later

def windowResult (prevWindow : List Bytes) : RoomListResult where
  count := sorted.length
  windowedRoomIds := windowRooms sorted ranges
  ops :=
    if prevWindow.isEmpty then makeSyncOps sorted ranges
    else changedSyncOps sorted prevWindow 0 ranges

end

def computeRoomList (host : SyncHost) (tables : SyncTables) (user : Bytes)
    (list : SlidingSyncList) (prevWindow : List Bytes) : RoomListResult :=
  windowResult (sortedRoomIds host tables user list) list.ranges prevWindow

end Windows

end Merovingian.SlidingSyncLists
