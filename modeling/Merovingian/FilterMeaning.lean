import Merovingian.SyncResponses

/-!
What a filter lets pass. A list without an entry asks nothing of an event, as one that was
not given, and a `*` is a wildcard only at the end of a type. The specification reads both
otherwise.
-/

namespace Merovingian.FilterMeaning

open ByteString JsonValue CanonicalParser EventQueries RoomReads SyncResponses List

structure FilteredEvent where
  eventType : Bytes
  sender : Bytes
  roomId : Bytes
  typed : eventType ≠ []

/-- The filter of a room and of its events, which are one object in `/messages` and two in
`/sync`. -/
def filterOf (room events : Object) : RoomFilter where
  rooms := filterStrings room "rooms"
  notRooms := filterStrings room "not_rooms"
  timeline := populateEventFilter events

theorem parseRoomEventFilterArgument_eq (yyjson : Yyjson) (argument : Bytes) :
    parseRoomEventFilterArgument yyjson argument =
      if argument.isEmpty then some {}
      else ((parsedValue yyjson argument).bind valueIsObject).map fun root =>
        filterOf root root :=
  rfl

theorem populateRoomFilter_eq (room : Object) :
    filterOf room ((objectMemberAsObject room "timeline").getD []) =
      ⟨(populateRoomFilter room).rooms, (populateRoomFilter room).notRooms,
        (populateRoomFilter room).timeline.toEventTypeFilter⟩ := by
  rw [filterOf, populateRoomFilter, populateSection]
  cases objectMemberAsObject room "timeline" <;> rfl

def passes (filter : RoomFilter) (event : FilteredEvent) : Bool :=
  roomPassesFilter filter event.roomId &&
    eventPassesFilter filter.timeline event.eventType event.sender

section Lists

variable (source : Object) (key : Bytes) (Matches : Bytes → Prop)

end Lists

def message : FilteredEvent := ⟨"m.room.message", "@alice:a", "!room:a", by decide⟩

end Merovingian.FilterMeaning
