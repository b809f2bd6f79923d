import Merovingian.SlidingSyncRequests
import Merovingian.SyncSurfaces

/-!
One room of a sliding sync response: its name and counts, its heroes, the state that
was asked for and the newest events of its timeline. Nothing here asks whether the
user is in the room.
-/

namespace Merovingian.SlidingSyncRooms

open ByteString JsonValue CanonicalSerializer StoreTables EventQueries
open RoomReads (eventObject storedEventType)
open SlidingSyncRequests SyncSurfaces

structure SlidingSyncHero where
  userId : Bytes
  displayName : Option Bytes := none
  avatarUrl : Option Bytes := none
deriving DecidableEq

/-- `lazyMembersIncluded` is for the server itself and not sent. -/
structure SlidingSyncRoomResponse where
  name : Option Bytes := none
  avatar : Option Bytes := none
  initial : Bool := false
  isDm : Bool := false
  joinedCount : Nat := 0
  invitedCount : Nat := 0
  notificationCount : Nat := 0
  highlightCount : Nat := 0
  timestamp : UInt64 := 0
  heroes : List SlidingSyncHero := []
  requiredStateJson : List Bytes := []
  timelineJson : List Bytes := []
  lazyMembersIncluded : List Bytes := []
deriving DecidableEq

section Builder

variable (host : SyncHost)

/-- The event id is not part of the stored text, or is replaced there. -/
def clientEventJson (event : PersistentEvent) : Bytes :=
  match eventObject host.yyjson event with
  | none => event.json
  | some object =>
    let kept := object.filter fun member => member.1 ≠ utf8 "event_id"
    match serializeCanonicalStrict
        (.object (kept ++ [(utf8 "event_id", .string event.eventId)])) with
    | .ok text => text
    | .error _ => event.json

structure EventIgnoreClassification where
  isStateEvent : Bool := false
  isNewRoomInviteForUser : Bool := false

def classifyEventForIgnoreFilter (event : PersistentEvent) (user : Bytes) :
    EventIgnoreClassification :=
  match eventObject host.yyjson event with
  | none => {}
  | some root =>
    { isStateEvent := (objectMember root "state_key").isSome
      isNewRoomInviteForUser :=
        stringMember root "type" = some (utf8 "m.room.member") &&
          stringMember root "state_key" = some user &&
          ((objectMemberAsObject root "content").bind fun content =>
            stringMember content "membership") = some (utf8 "invite") }

def suppressesEvent (ignoredSenders : List Bytes) (user : Bytes) (event : PersistentEvent) : Bool :=
  let classification := classifyEventForIgnoreFilter host event user
  isDeliverySuppressed ignoredSenders event.senderUserId classification.isStateEvent
    classification.isNewRoomInviteForUser

section RequiredState

def matchesRequiredStatePair (required : Bytes × Bytes) (eventType stateKey : Bytes) : Bool :=
  (required.1 = utf8 "*" || required.1 = eventType) &&
    (required.2 = utf8 "*" || required.2 = stateKey)

def stateEventMatchesAny (pairs : List (Bytes × Bytes)) (eventType stateKey : Bytes) : Bool :=
  pairs.any fun pair => matchesRequiredStatePair pair eventType stateKey

def isLazyMember (pair : Bytes × Bytes) : Bool :=
  pair = (utf8 "m.room.member", utf8 "$LAZY")

/-- The senders of the events, and the subjects of those that are member events. -/
def extractTimelineMembership (timelineJson : List Bytes) : List Bytes :=
  timelineJson.flatMap fun json =>
    match (parsedValue host.yyjson json).bind valueIsObject with
    | none => []
    | some root =>
      (stringMember root "sender").toList ++
        if stringMember root "type" = some (utf8 "m.room.member") then
          (stringMember root "state_key").toList
        else []

/-- What the sentinels `$LAZY` and `$ME` stand for. -/
def resolveRequiredState (requiredState : List (Bytes × Bytes)) (user : Bytes)
    (timelineMembership : List Bytes) (scopeLazyToTimeline : Bool) : List (Bytes × Bytes) :=
  requiredState.flatMap fun pair =>
    if isLazyMember pair then
      if scopeLazyToTimeline then timelineMembership.map fun member => (pair.1, member)
      else [(pair.1, utf8 "*")]
    else if pair = (utf8 "m.room.member", utf8 "$ME") then [(pair.1, user)]
    else [pair]

def pushUnique {α : Type} [BEq α] (items : List α) (item : α) : List α :=
  if items.contains item then items else items ++ [item]

theorem mem_foldl_pushUnique {items seen : List Bytes} {room : Bytes} :
    room ∈ items.foldl pushUnique seen ↔ room ∈ seen ∨ room ∈ items := by
  induction items generalizing seen with
  | nil => simp
  | cons item rest ih =>
    rw [List.foldl_cons, ih, List.mem_cons, pushUnique]
    split_ifs with hcontains
    · have hitem : item ∈ seen := by simpa using hcontains
      constructor
      · rintro (hseen | hrest)
        · exact .inl hseen
        · exact .inr (.inr hrest)
      · rintro (hseen | rfl | hrest)
        · exact .inl hseen
        · exact .inl hitem
        · exact .inr hrest
    · simp [or_assoc]

/-- Pairs that another pair of the union covers are dropped. The union has no
duplicates, so "another" is "different". -/
def combineRoomConfigs (list : SlidingSyncList) (sub : SlidingSyncRoomSubscription) :
    SlidingSyncRoomSubscription :=
  let merged := (sub.requiredState ++ list.requiredState).foldl pushUnique []
  { timelineLimit := max list.timelineLimit sub.timelineLimit
    includeHeroes := list.includeHeroes || sub.includeHeroes
    requiredState := merged.filter fun pair =>
      !merged.any fun other => other ≠ pair && matchesRequiredStatePair other pair.1 pair.2 }

end RequiredState

/-- A string of the content of the first state event of the type whose event is
stored. -/
def stateContent (store : PersistentStore) (roomId eventType contentField : Bytes) : Option Bytes :=
  ((store.state.filter fun entry =>
      entry.roomId = roomId && entry.eventType = eventType).findSome? fun entry =>
    (findEvent store entry.eventId).map fun event =>
      (eventObject host.yyjson event).bind fun root =>
        (objectMemberAsObject root "content").bind fun content =>
          stringMember content contentField).join

section

variable (store : PersistentStore) (roomId user : Bytes)

def stateContentString (eventType contentField : Bytes) : Option Bytes :=
  (stateContent host store roomId eventType contentField).filter fun text => !text.isEmpty

def countMemberships (membershipValue : Bytes) : Nat :=
  (store.memberships.filter fun row =>
    row.roomId = roomId && row.membership = membershipValue).length

def maxHeroes : Nat := 5

def buildHero (userId : Bytes) : SlidingSyncHero :=
  let content := (store.state.find? fun entry =>
      entry.roomId = roomId && entry.eventType = utf8 "m.room.member" &&
        entry.stateKey = userId).bind fun entry =>
    (findEvent store entry.eventId).bind fun event =>
      (eventObject host.yyjson event).bind fun root => objectMemberAsObject root "content"
  { userId
    displayName := content.bind fun content => nonEmptyStringMember content "displayname"
    avatarUrl := content.bind fun content => nonEmptyStringMember content "avatar_url" }

def buildHeroes (selfUserId : Bytes) : List SlidingSyncHero :=
  ((store.memberships.filter fun row =>
      row.roomId = roomId && row.userId ≠ selfUserId && row.membership = utf8 "join").take
    maxHeroes).map fun row => buildHero host store roomId row.userId

def latestTimestamp : UInt64 :=
  (store.events.filter fun event => event.roomId = roomId).foldl
    (fun latest event =>
      match (eventObject host.yyjson event).bind fun root =>
          integerMember root "origin_server_ts" with
      | none => latest
      | some ts => if ts > 0 then max latest ts.toUInt64 else latest)
    0

/-- Only the user's own receipts of the two read types count. -/
def readReceiptOrdering (tables : SyncTables) (roomId user : Bytes) : UInt64 :=
  let receipted := (tables.receipts.filter fun receipt =>
      receipt.roomId = roomId && receipt.userId = user && (receipt.receiptType = utf8 "m.read" ||
          receipt.receiptType = utf8 "m.read.private")).map InboundReceipt.eventId
  (tables.store.events.filter fun event =>
      event.roomId = roomId && receipted.contains event.eventId).foldl
    (fun ordering event => max ordering event.streamOrdering) 0

/-- The events of the others behind the user's last read receipt. -/
def unreadEvents (readOrdering : UInt64) : List PersistentEvent :=
  store.events.filter fun event =>
    event.roomId = roomId && event.streamOrdering > readOrdering && event.senderUserId ≠ user

def countNotifications (readOrdering : UInt64) : Nat :=
  ((unreadEvents store roomId user readOrdering).filter fun event =>
    let eventType := (eventObject host.yyjson event).bind fun root => stringMember root "type"
    eventType = some (utf8 "m.room.message") || eventType = some (utf8 "m.room.encrypted")).length

/-- How often the mentions of the events name the user. -/
def countHighlights (readOrdering : UInt64) : Nat :=
  ((unreadEvents store roomId user readOrdering).flatMap fun event =>
    ((((eventObject host.yyjson event).bind fun root =>
        objectMemberAsObject root "content").bind fun content =>
        objectMemberAsObject content "m.mentions").bind fun mentions =>
        arrayMember mentions "user_ids").elim [] fun ids =>
      ids.filter fun id => valueIsString id = some user).length

def directNames (root : Object) : Bool :=
  root.any fun member => arrayContainsString member.2 roomId

def directRoots (tables : SyncTables) (user : Bytes) : List Object :=
  (tables.accountData.filter fun row =>
      row.userId = user && row.roomId.isEmpty && row.eventType = utf8 "m.direct").filterMap
    fun row => (parsedValue host.yyjson row.contentJson).bind valueIsObject

/-- The events of the room behind the floor, without what the user ignores. -/
def timelineEvents (roomSince : UInt64) (isInitial : Bool) (ignoredSenders : List Bytes) : List
    PersistentEvent :=
  (store.events.filter fun event =>
      event.roomId = roomId && (isInitial || event.streamOrdering > roomSince) &&
        !suppressesEvent host ignoredSenders user event).insertionSort
    fun lhs rhs => lhs.streamOrdering ≤ rhs.streamOrdering

def newest (limit : Nat) (events : List PersistentEvent) : List PersistentEvent :=
  events.drop (events.length - limit)

def requiredStateEvents (sub : SlidingSyncRoomSubscription) (roomSince : UInt64)
    (isInitial timelineLimited : Bool)
    (timelineMembership lazyAlreadySent ignoredSenders : List Bytes) : List (PersistentStateEvent ×
    PersistentEvent) :=
  let lazyLoad := sub.requiredState.any isLazyMember
  let membership := if lazyLoad then timelineMembership else []
  let newLazyMembers := membership.filter fun member => !lazyAlreadySent.contains member
  let resolved := resolveRequiredState sub.requiredState user membership
    (timelineLimited || isInitial)
  (store.state.filter fun entry =>
      entry.roomId = roomId &&
        stateEventMatchesAny resolved entry.eventType entry.stateKey).filterMap fun entry =>
    let bypassFloor := isInitial ||
      (lazyLoad && entry.eventType = utf8 "m.room.member" && newLazyMembers.contains entry.stateKey)
    ((findEvent store entry.eventId).filter fun event =>
      (bypassFloor || event.streamOrdering > roomSince) &&
        !isDeliverySuppressed ignoredSenders event.senderUserId true
          (classifyEventForIgnoreFilter host event user).isNewRoomInviteForUser).map
      fun event => (entry, event)

end

def buildRoomResponse (tables : SyncTables) (roomId user : Bytes)
    (sub : SlidingSyncRoomSubscription) (roomSince : UInt64) (isInitial : Bool)
    (lazyAlreadySent ignoredSenders : List Bytes) : SlidingSyncRoomResponse :=
  let store := tables.store
  let readOrdering := readReceiptOrdering tables roomId user
  let timeline := timelineEvents host store roomId user roomSince isInitial ignoredSenders
  let timelineLimited := decide (timeline.length > sub.timelineLimit)
  let timelineJson := (newest sub.timelineLimit timeline).map (clientEventJson host)
  let membership := extractTimelineMembership host timelineJson
  let required := requiredStateEvents host store roomId user sub roomSince isInitial
    timelineLimited membership lazyAlreadySent ignoredSenders
  { name := stateContentString host store roomId "m.room.name" "name"
    avatar := stateContentString host store roomId "m.room.avatar" "url"
    initial := isInitial
    -- only the first `m.direct` that can be read counts
    isDm := (directRoots host tables user).head?.any (directNames roomId)
    joinedCount := countMemberships store roomId "join"
    invitedCount := countMemberships store roomId "invite"
    notificationCount := countNotifications host store roomId user readOrdering
    highlightCount := countHighlights host store roomId user readOrdering
    timestamp := latestTimestamp host store roomId
    heroes := if sub.includeHeroes then buildHeroes host store roomId user else []
    requiredStateJson := required.map fun entry => clientEventJson host entry.2
    timelineJson
    lazyMembersIncluded :=
      if sub.requiredState.any isLazyMember then
        ((required.map Prod.fst).filter fun entry =>
          entry.eventType = utf8 "m.room.member" &&
            membership.contains entry.stateKey).map PersistentStateEvent.stateKey
      else [] }

end Builder

end Merovingian.SlidingSyncRooms
