import Merovingian.EventQueries

/-!
What a local user may read of a room: its messages, a single event, an event
with its context, and the summary of a room for a client that has just started.
Each of the four requests checks the user's membership in its own way and is
then answered from the store. The arguments of a request are those that have
been read from its target.
-/

namespace Merovingian.RoomReads

open ByteString JsonValue CanonicalSerializer CanonicalParser KeyedFold StoreTables PduIngestion
  EventQueries List

structure PersistentAccountData where
  userId : Bytes
  roomId : Bytes
  eventType : Bytes
  contentJson : Bytes

structure ClientServerRuntime where
  database : LocalDatabase := {}
  persistentRooms : List Bytes := []
  accountData : List PersistentAccountData := []

structure EventTypeFilter where
  types : List Bytes := []
  notTypes : List Bytes := []
  senders : List Bytes := []
  notSenders : List Bytes := []
  lazyLoadMembers : Bool := false

structure RoomFilter where
  rooms : List Bytes := []
  notRooms : List Bytes := []
  timeline : EventTypeFilter := {}

def extractStrings (value : Value) : List Bytes :=
  ((valueIsArray value).getD []).filterMap fun entry =>
    (valueIsString entry).filter fun text => !text.isEmpty

def filterStrings (source : Object) (key : Bytes) : List Bytes :=
  ((objectMember source key).map extractStrings).getD []

def populateEventFilter (source : Object) : EventTypeFilter where
  types := filterStrings source "types"
  notTypes := filterStrings source "not_types"
  senders := filterStrings source "senders"
  notSenders := filterStrings source "not_senders"
  lazyLoadMembers :=
    match objectMember source "lazy_load_members" with
    | some (.boolean flag) => flag
    | _ => false

def parseRoomEventFilterArgument (yyjson : Yyjson) (filterArgument : Bytes) : Option RoomFilter :=
  if filterArgument.isEmpty then some {}
  else
    (parsedValue yyjson filterArgument).bind valueIsObject |>.map fun root =>
      { rooms := filterStrings root "rooms"
        notRooms := filterStrings root "not_rooms"
        timeline := populateEventFilter root }

def matchesTypePattern (pattern eventType : Bytes) : Bool :=
  if pattern = "*" then true
  else if pattern.getLast? = some (byte '*') then pattern.dropLast.isPrefixOf eventType
  else pattern = eventType

def typeMatchesList (list : List Bytes) (eventType : Bytes) : Bool :=
  list.any fun pattern => matchesTypePattern pattern eventType

def eventPassesFilter (filter : EventTypeFilter) (eventType sender : Bytes) : Bool :=
  (eventType.isEmpty || ((filter.types.isEmpty || typeMatchesList filter.types eventType) &&
        (filter.notTypes.isEmpty || !typeMatchesList filter.notTypes eventType))) &&
    (filter.senders.isEmpty || filter.senders.contains sender) &&
    (filter.notSenders.isEmpty || !filter.notSenders.contains sender)

def roomPassesFilter (filter : RoomFilter) (roomId : Bytes) : Bool :=
  (filter.rooms.isEmpty || filter.rooms.contains roomId) &&
    (filter.notRooms.isEmpty || !filter.notRooms.contains roomId)

section Reading

variable (yyjson : Yyjson)

section

variable (store : PersistentStore) (event : PersistentEvent)

def eventObject : Option Object :=
  (parsedValue yyjson event.json).bind valueIsObject

def storedEventType : Bytes :=
  (topLevelJsonStringField yyjson event.json "type").getD []

def parseIgnoredUserList (contentJson : Bytes) : List Bytes :=
  (((parsedValue yyjson contentJson).bind valueIsObject).bind fun root =>
      objectMemberAsObject root "ignored_users").elim [] fun ignored =>
    (ignored.map Prod.fst).filter fun user => !user.isEmpty

def resolveIgnoredUsers (accountData : List PersistentAccountData) (userId : Bytes) : List Bytes :=
  match accountData.find? fun row =>
      row.userId = userId && row.roomId.isEmpty && row.eventType = utf8 "m.ignored_user_list" with
  | none => []
  | some row => parseIgnoredUserList yyjson row.contentJson

/-- State events of ignored users are delivered all the same. -/
def isDeliverySuppressed (ignoredSenders : List Bytes) (event : PersistentEvent) : Bool :=
  ignoredSenders.contains event.senderUserId &&
    !((eventObject yyjson event).any fun root => (objectMember root "state_key").isSome)

def replacedEventId (object : Object) : Option Bytes :=
  match stringMember object "state_key", stringMember object "type" with
  | some stateKey, some eventType =>
    ((findStateTransition store event.roomId eventType stateKey event.eventId).map
      PersistentStateTransition.previousEventId).filter fun id => !id.isEmpty
  | _, _ => none

def clientEventWithId : Value :=
  match eventObject yyjson event with
  | none => .object []
  | some object =>
    let client := object ++ [(utf8 "event_id", Value.string event.eventId)]
    match replacedEventId store event object with
    | none => .object client
    | some previous =>
      let kept := ((objectMemberAsObject object "unsigned").getD []).filter fun member =>
        member.1 ≠ utf8 "replaces_state"
      .object (putRow Prod.fst
        (utf8 "unsigned", .object (kept ++ [(utf8 "replaces_state", .string previous)])) client)

def roomEntries (roomId : Bytes) : List PersistentEvent :=
  store.events.filter fun event => event.roomId = roomId

end

section

variable (store : PersistentStore) (runtime : ClientServerRuntime)

def sortByStreamOrdering (entries : List PersistentEvent) : List PersistentEvent :=
  entries.insertionSort fun lhs rhs => lhs.streamOrdering ≤ rhs.streamOrdering

def buildCurrentStateEvents (filter : EventTypeFilter) (roomId : Bytes) : List PersistentEvent :=
  (store.state.filter fun entry => entry.roomId = roomId).filterMap fun entry =>
    (findEvent store entry.eventId).filter fun event =>
      eventPassesFilter filter entry.eventType event.senderUserId

/-- With lazy loading, only the members who sent something in the chunk. -/
def buildChunkRelevantStateEvents (filter : EventTypeFilter) (roomId : Bytes)
    (chunkSenders : List Bytes) : List PersistentEvent :=
  let stateEvents := buildCurrentStateEvents store filter roomId
  if !filter.lazyLoadMembers then stateEvents
  else
    stateEvents.filter fun event =>
      topLevelJsonStringField yyjson event.json "type" ≠ some (utf8 "m.room.member") ||
        (topLevelJsonStringField yyjson event.json "state_key").any chunkSenders.contains

def buildStateEventsForIds (filter : EventTypeFilter) (stateEventIds : List Bytes) : List
    PersistentEvent :=
  stateEventIds.filterMap fun eventId =>
    (findEvent store eventId).filter fun event =>
      eventPassesFilter filter (storedEventType yyjson event) event.senderUserId

def reconstructStateIncludingEvent (roomId : Bytes) (at_ : PersistentEvent) : List Bytes :=
  let ids := reconstructStateAtEvent yyjson store roomId at_.eventId
  match stateIdentity yyjson at_.json with
  | none => ids
  | some identity =>
    let sameIdentity := fun id =>
      (findEvent store id).bind (fun event => stateIdentity yyjson event.json) = some identity
    if ids.any sameIdentity then
      ids.takeWhile (fun id => !sameIdentity id) ++
        at_.eventId :: (ids.dropWhile fun id => !sameIdentity id).tail
    else ids ++ [at_.eventId]

def resolveStateEventIdsAt (roomId atEventId : Bytes) : List Bytes :=
  if atEventId.isEmpty then currentStateEventIds store roomId
  else
    match (findEvent store atEventId).filter fun event => event.roomId = roomId with
    | none => currentStateEventIds store roomId
    | some event => reconstructStateIncludingEvent yyjson store roomId event

def orderingToken (event : PersistentEvent) : Bytes :=
  utf8 (toString event.streamOrdering.toNat)

structure MessagesQuery where
  dir : Bytes := []
  fromToken : Option UInt64 := none
  limit : Option UInt64 := none
  filter : Bytes := []

/-- A page of events, from the first to the last, with the state to show it. -/
structure MessagesAnswer where
  chunk : List PersistentEvent
  state : List PersistentEvent

def clampLimit (default : Nat) (limit : Option UInt64) : Nat :=
  (limit.map fun parsed => min parsed.toNat 100).getD default

def messagesEntries (roomId : Bytes) (ignoredSenders : List Bytes) : List PersistentEvent :=
  sortByStreamOrdering <| (roomEntries store roomId).filter fun event =>
    !isDeliverySuppressed yyjson ignoredSenders event

def messagesChunk (roomId : Bytes) (ignoredSenders : List Bytes) (query : MessagesQuery) :
    List PersistentEvent :=
  let entries := messagesEntries yyjson store roomId ignoredSenders
  let candidates :=
    if query.dir ≠ "f" then
      entries.reverse.filter fun event =>
        query.fromToken.all fun token => event.streamOrdering < token
    else
      entries.filter fun event => query.fromToken.all fun token => token < event.streamOrdering
  candidates.take (clampLimit 10 query.limit)

def messagesAnswer (roomId : Bytes) (query : MessagesQuery) (userId : Bytes) : MessagesAnswer :=
  let store := runtime.database.persistentStore
  let chunk := messagesChunk yyjson store roomId
    (resolveIgnoredUsers yyjson runtime.accountData userId) query
  let filter := ((parseRoomEventFilterArgument yyjson query.filter).getD {}).timeline
  { chunk
    state := buildChunkRelevantStateEvents yyjson store filter roomId
      (chunk.map PersistentEvent.senderUserId) }

/-- An event with those before it, last first, those after it, and the state at the
last event returned. -/
structure ContextAnswer where
  before : List PersistentEvent
  event : PersistentEvent
  after : List PersistentEvent
  state : List PersistentEvent

def contextAnswer (roomId : Bytes) (target : PersistentEvent) (filter : RoomFilter) (limit : Nat)
    (userId : Bytes) : ContextAnswer :=
  let store := runtime.database.persistentStore
  let ignoredSenders := resolveIgnoredUsers yyjson runtime.accountData userId
  let entries := sortByStreamOrdering (roomEntries store roomId)
  let targetIndex := entries.findIdx fun candidate => candidate.eventId = target.eventId
  let passes := fun candidate : PersistentEvent =>
    roomPassesFilter filter roomId &&
      eventPassesFilter filter.timeline (storedEventType yyjson candidate)
        candidate.senderUserId &&
      !isDeliverySuppressed yyjson ignoredSenders candidate
  let before := ((entries.take targetIndex).reverse.filter passes).take (limit / 2)
  let after := ((entries.drop (targetIndex + 1)).filter passes).take (limit - limit / 2)
  { before
    event := target
    after
    state :=
      if roomPassesFilter filter roomId then
        buildStateEventsForIds yyjson store filter.timeline
          (resolveStateEventIdsAt yyjson store roomId
            ((after.getLast?.map PersistentEvent.eventId).getD target.eventId))
      else [] }

structure InitialSyncAnswer where
  roomId : Bytes
  membership : Bytes
  visibility : Bytes
  accountData : List PersistentAccountData
  chunk : List PersistentEvent
  state : List PersistentEvent

def roomStateString (roomId eventType contentKey stateKey : Bytes) : Option Bytes :=
  (rowAt stateTuple store.state ⟨roomId, eventType, stateKey⟩).bind fun entry =>
    (findEvent store entry.eventId).bind fun event =>
      (parsedValue yyjson event.json).bind fun json => eventContentString json contentKey

def initialSyncAnswer (roomId userId : Bytes) (limit : Option UInt64) (membership : Bytes) :
    InitialSyncAnswer :=
  let store := runtime.database.persistentStore
  { roomId
    membership
    visibility :=
      if roomStateString yyjson store roomId "m.room.join_rules" "join_rule" [] =
        some (utf8 "public") then "public" else "private"
    accountData := runtime.accountData.filter fun row =>
      row.userId = userId && row.roomId = roomId
    chunk := (sortByStreamOrdering (roomEntries store roomId)).reverse.take (clampLimit 20 limit)
    state := buildCurrentStateEvents store {} roomId }

inductive RoomRequest where
  | messages (roomId : Bytes) (query : MessagesQuery)
  | event (roomId eventId : Bytes)
  | context (roomId eventId filter : Bytes) (limit : Option UInt64)
  | initialSync (roomId : Bytes) (limit : Option UInt64)

def RoomRequest.roomId : RoomRequest → Bytes
  | .messages roomId _ | .event roomId _ | .context roomId _ _ _ | .initialSync roomId _ => roomId

inductive RoomAnswer where
  | messages (answer : MessagesAnswer)
  | event (row : PersistentEvent)
  | context (answer : ContextAnswer)
  | initialSync (answer : InitialSyncAnswer)

def RoomAnswer.events : RoomAnswer → List PersistentEvent
  | .messages answer => answer.chunk ++ answer.state
  | .event row => [row]
  | .context answer => answer.before ++ answer.event :: answer.after ++ answer.state
  | .initialSync answer => answer.chunk ++ answer.state

structure ReadRefusal where
  status : UInt16
  errcode : Bytes
  error : Bytes
deriving DecidableEq

def isJoined (roomId userId : Bytes) : Bool :=
  store.memberships.any fun row =>
    row.roomId = roomId && row.userId = userId && row.membership = "join"

def storedInRoom (roomId eventId : Bytes) : Option PersistentEvent :=
  store.events.find? fun current => current.roomId = roomId && current.eventId = eventId

def readMessages (userId roomId : Bytes) (query : MessagesQuery) : Except ReadRefusal RoomAnswer :=
  match rowAt LocalRoom.roomId runtime.database.rooms roomId with
  | none => .error ⟨404, "M_NOT_FOUND", "room not found"⟩
  | some room =>
    if !room.members.contains userId then
      .error ⟨403, "M_FORBIDDEN", "user is not a member of this room"⟩
    else .ok (.messages (messagesAnswer yyjson runtime roomId query userId))

def readEvent (userId roomId eventId : Bytes) : Except ReadRefusal RoomAnswer :=
  let store := runtime.database.persistentStore
  if !isJoined store roomId userId then .error ⟨403, "M_FORBIDDEN", "not a member of this room"⟩
  else
    match storedInRoom store roomId eventId with
    | none => .error ⟨404, "M_NOT_FOUND", "event not found"⟩
    | some event =>
      match serializeCanonicalStrict (clientEventWithId yyjson store event) with
      | .error _ => .error ⟨500, "M_UNKNOWN", "failed to serialize event"⟩
      | .ok _ => .ok (.event event)

def readContext (userId roomId eventId filter : Bytes) (limit : Option UInt64) : Except ReadRefusal
    RoomAnswer :=
  let store := runtime.database.persistentStore
  if !isJoined store roomId userId then .error ⟨403, "M_FORBIDDEN", "not a member of this room"⟩
  else
    match storedInRoom store roomId eventId with
    | none => .error ⟨404, "M_NOT_FOUND", "event not found"⟩
    | some event =>
      match parseRoomEventFilterArgument yyjson filter with
      | none => .error ⟨400, "M_BAD_JSON", "filter parameter is not valid JSON"⟩
      | some parsedFilter =>
        .ok (.context (contextAnswer yyjson runtime roomId event parsedFilter
          (clampLimit 10 limit) userId))

/-- The membership in the table or, for one that has been forgotten, in the state. -/
def recordedMembership (roomId userId : Bytes) : Option Bytes :=
  match rowAt membershipKey store.memberships (roomId, userId) with
  | some row => some row.membership
  | none => roomStateString yyjson store roomId "m.room.member" "membership" userId

def readInitialSync (userId roomId : Bytes) (limit : Option UInt64) : Except ReadRefusal
    RoomAnswer :=
  let store := runtime.database.persistentStore
  let forbidden : Except ReadRefusal RoomAnswer :=
    .error ⟨403, "M_FORBIDDEN", "not a member of this room"⟩
  if !runtime.persistentRooms.contains roomId then forbidden
  else
    let membership := recordedMembership yyjson store roomId userId
    let canPeek := membership.isNone &&
      roomStateString yyjson store roomId "m.room.history_visibility" "history_visibility" [] =
        some (utf8 "world_readable")
    if membership.isNone && !canPeek then forbidden
    else .ok (.initialSync (initialSyncAnswer yyjson runtime roomId userId limit
      (membership.getD "leave")))

def readRoom (userId : Bytes) : RoomRequest → Except ReadRefusal RoomAnswer
  | .messages roomId query => readMessages yyjson runtime userId roomId query
  | .event roomId eventId => readEvent yyjson runtime userId roomId eventId
  | .context roomId eventId filter limit =>
    readContext yyjson runtime userId roomId eventId filter limit
  | .initialSync roomId limit => readInitialSync yyjson runtime userId roomId limit

end

end Reading

section Answers

variable {yyjson : Yyjson} {store : PersistentStore} {runtime : ClientServerRuntime}
  {event : PersistentEvent} {userId : Bytes}

variable {roomId : Bytes}

theorem mem_of_mem_sorted
    (h : event ∈ sortByStreamOrdering (roomEntries store roomId)) : event ∈ store.events := by
  rw [sortByStreamOrdering, mem_insertionSort] at h
  exact (mem_filter.mp h).1

theorem mem_of_mem_currentState {filter : EventTypeFilter}
    (h : event ∈ buildCurrentStateEvents store filter roomId) : event ∈ store.events := by
  obtain ⟨entry, -, hfound⟩ := mem_filterMap.mp h
  exact mem_of_find?_eq_some (Option.filter_eq_some_iff.mp hfound).1

theorem mem_of_mem_messages {query : MessagesQuery}
    (h : event ∈ (RoomAnswer.messages (messagesAnswer yyjson runtime roomId query userId)).events) :
    event ∈ runtime.database.persistentStore.events := by
  rcases mem_append.mp h with hchunk | hstate
  · have hcandidate := mem_of_mem_take hchunk
    have hentry : event ∈ messagesEntries yyjson runtime.database.persistentStore roomId
        (resolveIgnoredUsers yyjson runtime.accountData userId) := by
      split at hcandidate
      · exact mem_reverse.mp (mem_filter.mp hcandidate).1
      · exact (mem_filter.mp hcandidate).1
    rw [messagesEntries, sortByStreamOrdering, mem_insertionSort] at hentry
    exact (mem_filter.mp (mem_filter.mp hentry).1).1
  · unfold messagesAnswer buildChunkRelevantStateEvents at hstate
    simp only at hstate
    split at hstate
    · exact mem_of_mem_currentState hstate
    · exact mem_of_mem_currentState (mem_filter.mp hstate).1

theorem mem_of_mem_context {target : PersistentEvent} {filter : RoomFilter}
    {limit : Nat} (htarget : target ∈ runtime.database.persistentStore.events)
    (h : event ∈ (RoomAnswer.context
      (contextAnswer yyjson runtime roomId target filter limit userId)).events) :
    event ∈ runtime.database.persistentStore.events := by
  simp only [RoomAnswer.events, mem_append, mem_cons] at h
  rcases h with (hbefore | rfl | hafter) | hstate
  · have hentry := (mem_filter.mp (mem_of_mem_take hbefore)).1
    exact mem_of_mem_sorted (mem_of_mem_take (mem_reverse.mp hentry))
  · exact htarget
  · have hentry := (mem_filter.mp (mem_of_mem_take hafter)).1
    exact mem_of_mem_sorted (mem_of_mem_drop hentry)
  · unfold contextAnswer at hstate
    simp only at hstate
    split at hstate
    · obtain ⟨eventId, -, hfound⟩ := mem_filterMap.mp hstate
      exact mem_of_find?_eq_some (Option.filter_eq_some_iff.mp hfound).1
    · cases hstate

/-- What each request has checked before it is answered. -/
def Admitted (yyjson : Yyjson) (runtime : ClientServerRuntime) (userId : Bytes) : RoomRequest → Prop
  | .messages roomId _ =>
    ∃ room, rowAt LocalRoom.roomId runtime.database.rooms roomId = some room ∧ userId ∈ room.members
  | .event roomId _ | .context roomId _ _ _ =>
    isJoined runtime.database.persistentStore roomId userId = true
  | .initialSync roomId _ =>
    (recordedMembership yyjson runtime.database.persistentStore roomId userId).isSome ∨
      roomStateString yyjson runtime.database.persistentStore roomId
        "m.room.history_visibility" "history_visibility" [] = some (utf8 "world_readable")

def Answers (yyjson : Yyjson) (runtime : ClientServerRuntime) (userId : Bytes)
    (request : RoomRequest) (answer : RoomAnswer) : Prop :=
  Admitted yyjson runtime userId request ∧
    ∀ event ∈ answer.events, event ∈ runtime.database.persistentStore.events

variable {answer : RoomAnswer} {roomId : Bytes}

theorem readRoom_ok {request : RoomRequest}
    (h : readRoom yyjson runtime userId request = .ok answer) :
    Answers yyjson runtime userId request answer := by
  revert h
  cases request with
  | messages roomId query =>
    rw [readRoom]
    fun_cases readMessages yyjson runtime userId roomId query with
    | case3 room hroom hmember =>
      rintro ⟨⟩
      exact ⟨⟨room, hroom, by simpa using hmember⟩, fun _ => mem_of_mem_messages⟩
    | _ => rintro ⟨⟩
  | event roomId eventId =>
    rw [readRoom]
    fun_cases readEvent yyjson runtime userId roomId eventId with
    | case4 store hjoined event hfound =>
      rintro ⟨⟩
      refine ⟨by simpa [Admitted] using hjoined, ?_⟩
      intro included hincluded
      rw [mem_singleton.mp hincluded]
      exact mem_of_find?_eq_some hfound
    | _ => rintro ⟨⟩
  | context roomId eventId filter limit =>
    rw [readRoom]
    fun_cases readContext yyjson runtime userId roomId eventId filter limit with
    | case4 store hjoined event hfound =>
      rintro ⟨⟩
      exact ⟨by simpa [Admitted] using hjoined,
        fun _ => mem_of_mem_context (mem_of_find?_eq_some hfound)⟩
    | _ => rintro ⟨⟩
  | initialSync roomId limit =>
    intro h
    simp only [readRoom, readInitialSync] at h
    split_ifs at h with hroom hdenied
    cases h
    constructor
    · cases hrecorded : recordedMembership yyjson runtime.database.persistentStore roomId
          userId with
      | some membership => exact .inl (by rw [hrecorded]; rfl)
      | none => exact .inr (by simpa [hrecorded] using hdenied)
    · intro event hevent
      rcases mem_append.mp hevent with hchunk | hstate
      · exact mem_of_mem_sorted (mem_reverse.mp (mem_of_mem_take hchunk))
      · exact mem_of_mem_currentState hstate

end Answers

end Merovingian.RoomReads
