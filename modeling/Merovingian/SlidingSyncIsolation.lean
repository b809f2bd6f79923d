import Merovingian.SlidingSync
import Merovingian.VisibleRows

/-!
What a sliding sync response tells of rooms in which the user has never been. Two
servers that differ in such rooms only are set side by side, and every function that
builds a part of the response is asked about a room on which they agree.
-/

namespace Merovingian.SlidingSyncIsolation

open ByteString JsonValue CanonicalParser KeyedFold StoreTables StreamTokens List
open EventQueries (findEvent parsedValue)
open RoomReads (isJoined recordedMembership roomStateString eventObject)
open VisibleRows SyncSurfaces SlidingSyncRequests SlidingSyncRooms SlidingSyncLists
  SlidingSyncExtensions SlidingSync

variable {host : SyncHost} {tables : SyncTables} {hidden : Bytes → Bool}

section States

/-- The event of a state row is one of the room of the row. -/
def OwnEvents (tables : SyncTables) : Prop :=
  ∀ entry ∈ tables.store.state, ∀ event ∈ tables.store.events,
    event.eventId = entry.eventId → event.roomId = entry.roomId

/-- The tables without what belongs to rooms: their events, state, receipts and typing
notices. -/
def withoutRooms (tables : SyncTables) : SyncTables :=
  { tables with
    database :=
      { tables.database with
        persistentStore :=
          { memberships := tables.store.memberships
            preparedStatements := tables.store.preparedStatements
            nextSyncStreamId := tables.store.nextSyncStreamId
            eventStreamWatermark := tables.store.eventStreamWatermark } }
    receipts := []
    typingUsers := []
    roomTypingStreamId := [] }

/-- The tables differ in the rooms only that are hidden. -/
structure DifferIn (hidden : Bytes → Bool) (first second : SyncTables) : Prop where
  rest : withoutRooms first = withoutRooms second
  events : SameVisible (fun event => !hidden event.roomId) first.store.events second.store.events
  state : SameVisible (fun entry => !hidden entry.roomId) first.store.state second.store.state
  receipts : SameVisible (fun receipt => !hidden receipt.roomId) first.receipts second.receipts
  typingUsers : SameVisible (fun entry => !hidden entry.roomId) first.typingUsers
    second.typingUsers
  roomTypingStreamId : SameVisible (fun entry => !hidden entry.1) first.roomTypingStreamId
    second.roomTypingStreamId

/-- The events behind the state rows are of the rows' rooms in both. -/
structure AgreeOutside (hidden : Bytes → Bool) (first second : SyncTables) : Prop extends
    DifferIn hidden first second where
  ownFirst : OwnEvents first
  ownSecond : OwnEvents second

end States

section Rooms

variable {first second : SyncTables} {roomId user : Bytes}

theorem DifferIn.memberships (h : DifferIn hidden first second) :
    first.store.memberships = second.store.memberships :=
  congrArg (fun tables => tables.store.memberships) h.rest

theorem DifferIn.accountData (h : DifferIn hidden first second) :
    first.accountData = second.accountData :=
  congrArg (fun tables => tables.accountData) h.rest

theorem visible_of_room {Row : Type} {room : Row → Bytes} {query : Row → Bool}
    (hroom : hidden roomId = false)
    (hquery : ∀ row, query row = true → room row = roomId := by simp +contextual) :
    ∀ row, query row = true → (!hidden (room row)) = true := by
  intro row hrow
  rw [hquery row hrow, hroom]
  rfl

variable (h : AgreeOutside hidden first second)

include h

theorem directRoots_eq : directRoots host first user = directRoots host second user := by
  unfold directRoots
  rw [h.accountData]

theorem isJoined_eq (room : Bytes) :
    isJoined first.store room user = isJoined second.store room user := by
  unfold isJoined
  rw [h.memberships]

theorem findEvent_eq {entry : PersistentStateEvent} (hentry : entry ∈ first.store.state)
    (hroom : hidden entry.roomId = false) :
    findEvent first.store entry.eventId = findEvent second.store entry.eventId := by
  have hboth : entry ∈ second.store.state := h.state.mem hentry (by simp [hroom])
  refine h.events.find?_of_mem ?_ ?_
  · intro event hevent hid
    rw [h.ownFirst entry hentry event hevent (of_decide_eq_true hid), hroom]
    rfl
  · intro event hevent hid
    rw [h.ownSecond entry hboth event hevent (of_decide_eq_true hid), hroom]
    rfl

section Visible

variable (hroom : hidden roomId = false)

include hroom

variable (host) in
theorem stateContent_eq (eventType contentField : Bytes) :
    stateContent host first.store roomId eventType contentField =
      stateContent host second.store roomId eventType contentField := by
  unfold stateContent
  rw [← h.state.filter_eq (visible_of_room hroom),
    ← head?_filterMap, ← head?_filterMap]
  congr 2
  refine filterMap_congr fun entry hentry => ?_
  obtain ⟨hmem, hquery⟩ := mem_filter.mp hentry
  have hentryRoom : entry.roomId = roomId := by simp_all
  rw [findEvent_eq h hmem (hentryRoom ▸ hroom)]

theorem buildHero_eq (userId : Bytes) :
    buildHero host first.store roomId userId = buildHero host second.store roomId userId := by
  unfold buildHero
  rw [← h.state.find?_eq (visible_of_room hroom)]
  refine congrArg (fun content : Option Object => SlidingSyncHero.mk userId
    (content.bind fun content => nonEmptyStringMember content "displayname")
    (content.bind fun content => nonEmptyStringMember content "avatar_url")) ?_
  refine Option.bind_congr fun entry hfound => ?_
  have hquery := find?_some hfound
  have hentryRoom : entry.roomId = roomId := by simp_all
  rw [findEvent_eq h (mem_of_find?_eq_some hfound) (hentryRoom ▸ hroom)]

theorem buildHeroes_eq :
    buildHeroes host first.store roomId user = buildHeroes host second.store roomId user := by
  unfold buildHeroes
  rw [h.memberships]
  exact map_congr_left fun row _ => buildHero_eq h hroom row.userId

theorem readReceiptOrdering_eq :
    readReceiptOrdering first roomId user = readReceiptOrdering second roomId user := by
  unfold readReceiptOrdering
  rw [h.receipts.filter_eq (visible_of_room hroom)]
  simp only
  rw [h.events.filter_eq (visible_of_room hroom)]

theorem latestTimestamp_eq :
    latestTimestamp host first.store roomId = latestTimestamp host second.store roomId := by
  unfold latestTimestamp
  rw [h.events.filter_eq (visible_of_room hroom)]

variable (user) in
theorem unreadEvents_eq (readOrdering : UInt64) :
    unreadEvents first.store roomId user readOrdering =
      unreadEvents second.store roomId user readOrdering :=
  h.events.filter_eq (visible_of_room hroom)

theorem requiredStateEvents_eq (sub : SlidingSyncRoomSubscription) (floor : UInt64)
    (isInitial limited : Bool) (membership lazySent ignoredSenders : List Bytes) :
    requiredStateEvents host first.store roomId user sub floor isInitial limited membership
        lazySent ignoredSenders =
      requiredStateEvents host second.store roomId user sub floor isInitial limited membership
        lazySent ignoredSenders := by
  unfold requiredStateEvents
  simp only
  rw [← h.state.filter_eq (visible_of_room hroom)]
  refine filterMap_congr fun entry hentry => ?_
  obtain ⟨hmem, hquery⟩ := mem_filter.mp hentry
  have hentryRoom : entry.roomId = roomId := by simp_all
  rw [findEvent_eq h hmem (hentryRoom ▸ hroom)]

theorem timelineEvents_eq (floor : UInt64) (isInitial : Bool) (ignoredSenders : List Bytes) :
    timelineEvents host first.store roomId user floor isInitial ignoredSenders =
      timelineEvents host second.store roomId user floor isInitial ignoredSenders := by
  unfold timelineEvents
  rw [h.events.filter_eq (visible_of_room hroom)]

theorem buildRoomResponse_eq (sub : SlidingSyncRoomSubscription) (floor : UInt64) (isInitial : Bool)
    (lazySent ignoredSenders : List Bytes) :
    buildRoomResponse host first roomId user sub floor isInitial lazySent ignoredSenders =
      buildRoomResponse host second roomId user sub floor isInitial lazySent ignoredSenders := by
  have hname := stateContent_eq host h hroom
  have hunread := unreadEvents_eq user h hroom
  unfold buildRoomResponse stateContentString countMemberships countNotifications countHighlights
  simp only [hname, hunread, h.memberships, directRoots_eq h,
    readReceiptOrdering_eq h hroom, timelineEvents_eq h hroom,
    buildHeroes_eq h hroom, requiredStateEvents_eq h hroom, latestTimestamp_eq h hroom]

theorem roomIsEncrypted_eq :
    roomIsEncrypted first.store roomId = roomIsEncrypted second.store roomId :=
  h.state.any_eq (visible_of_room hroom)

theorem recencyKey_eq (bumpTypes : List Bytes) : recencyKey host first.store roomId bumpTypes =
      recencyKey host second.store roomId bumpTypes := by
  unfold recencyKey
  rw [h.events.filter_eq (visible_of_room hroom)]

theorem notificationKey_eq :
    notificationKey host first roomId user = notificationKey host second roomId user := by
  unfold notificationKey countNotifications
  rw [readReceiptOrdering_eq h hroom, unreadEvents_eq _ h hroom]

theorem roomDisplayName_eq :
    roomDisplayName host first.store roomId = roomDisplayName host second.store roomId := by
  unfold roomDisplayName
  rw [stateContent_eq _ h hroom]

end Visible

theorem sortsBefore_eq {lhs rhs : Bytes} (hlhs : hidden lhs = false) (hrhs : hidden rhs = false)
    (list : SlidingSyncList) (keys : List Bytes) :
    sortsBefore host first user list lhs rhs keys =
      sortsBefore host second user list lhs rhs keys := by
  induction keys with
  | nil => rfl
  | cons key rest ih =>
    unfold sortsBefore
    simp only [notificationKey_eq h hlhs, notificationKey_eq h hrhs,
      recencyKey_eq h hlhs, recencyKey_eq h hrhs, roomDisplayName_eq h hlhs,
      roomDisplayName_eq h hrhs, ih]

variable (hjoined : ∀ room, isJoined second.store room user = true → hidden room = false)

include hjoined

theorem sortedRoomIds_eq (list : SlidingSyncList) :
    sortedRoomIds host first user list = sortedRoomIds host second user list := by
  have hrooms : first.rooms = second.rooms := congrArg (fun tables => tables.rooms) h.rest
  have hfilter : (fun roomId => isJoined first.store roomId user &&
        list.filters.all fun filters => passesFilters host first roomId user filters) =
      fun roomId => isJoined second.store roomId user &&
        list.filters.all fun filters => passesFilters host second roomId user filters := by
    funext room
    rw [isJoined_eq h]
    cases hmember : isJoined second.store room user with
    | false => rfl
    | true =>
      have hroom := hjoined room hmember
      unfold passesFilters userIsInvited roomIsDm roomIsFavourite roomType
      simp only [roomIsEncrypted_eq h hroom, h.memberships, h.accountData,
        directRoots_eq h, stateContent_eq _ h hroom]
  unfold sortedRoomIds
  rw [hrooms, hfilter]
  refine insertionSort_congr fun lhs hlhs rhs hrhs => ?_
  -- the rooms that are compared are joined, so they are visible
  have hlhs := hjoined lhs (Bool.and_eq_true_iff.mp (mem_filter.mp hlhs).2).1
  have hrhs := hjoined rhs (Bool.and_eq_true_iff.mp (mem_filter.mp hrhs).2).1
  rw [sortsBefore_eq h hrhs hlhs]

theorem listResults_eq (request : SlidingSyncRequest) (snapshot : ConnectionSnapshot) :
    listResults host first user request snapshot =
      listResults host second user request snapshot := by
  unfold listResults computeRoomList
  simp only [sortedRoomIds_eq h hjoined]

end Rooms

section Shown

variable {user : Bytes}

theorem mem_responseRoomIds {request : SlidingSyncRequest} {snapshot : ConnectionSnapshot}
    {room : Bytes}
    (hroom : room ∈ responseRoomIds request (listResults host tables user request snapshot)) :
    isJoined tables.store room user = true ∨ room ∈ request.roomSubscriptions.map Prod.fst := by
  rw [responseRoomIds, mem_foldl_pushUnique, mem_append] at hroom
  rcases hroom with hnone | hwindow | hsubscribed
  · exact absurd hnone not_mem_nil
  · obtain ⟨result, hresult, hmem⟩ := mem_flatMap.mp hwindow
    obtain ⟨entry, -, rfl⟩ := mem_map.mp hresult
    obtain ⟨range, -, hslice⟩ := mem_flatMap.mp hmem
    have hsorted : room ∈ sortedRoomIds host tables user entry.2 :=
      mem_of_mem_drop (mem_of_mem_take hslice)
    unfold sortedRoomIds at hsorted
    rw [mem_insertionSort] at hsorted
    exact .inl (Bool.and_eq_true_iff.mp (mem_filter.mp hsorted).2).1
  · exact .inr hsubscribed

end Shown

section Extensions

variable {first second : SyncTables} {user deviceId : Bytes} {since current : UInt64}
  {ignoredSenders : List Bytes}

def explicitRooms (extension : Option ExtRoomsRequest) : List Bytes :=
  match extension.filter ExtRoomsRequest.enabled with
  | none => []
  | some extension =>
    if extension.rooms.isEmpty || extension.rooms = [utf8 "*"] then [] else extension.rooms

def namedRooms (request : SlidingSyncRequest) : List Bytes :=
  request.roomSubscriptions.map Prod.fst ++
    explicitRooms (request.extensions.bind SlidingSyncExtensionRequests.receipts) ++
    explicitRooms (request.extensions.bind SlidingSyncExtensionRequests.typing)

variable {extRooms responseRooms : List Bytes}

/-- The queue of messages is read by its own extension only. -/
theorem extensions_eq (tables : SyncTables) (request : SlidingSyncExtensionRequests)
    (responseRooms : List Bytes) :
    (buildExtensions host tables user deviceId request since current responseRooms
        ignoredSenders).1 =
      { toDevice := (request.toDevice.filter ExtToDeviceRequest.enabled).map fun extension =>
          (buildToDevice tables user deviceId extension current).1
        e2ee :=
          if request.e2ee = some true then some (buildE2ee tables user deviceId since) else none
        accountData :=
          if request.accountData = some true then
            some (buildAccountData host tables user since responseRooms)
          else none
        receipts := (request.receipts.filter ExtRoomsRequest.enabled).map fun extension =>
          buildReceipts tables since extension.rooms responseRooms ignoredSenders
        typing := (request.typing.filter ExtRoomsRequest.enabled).map fun extension =>
          buildTyping tables since extension.rooms responseRooms ignoredSenders } := by
  unfold buildExtensions
  rcases request.toDevice.filter ExtToDeviceRequest.enabled with _ | extension
  · rfl
  · rfl

theorem map_rooms_eq {Answer : Type} {extension : Option ExtRoomsRequest}
    {build other : List Bytes → Answer} (hresponse : ∀ room ∈ responseRooms, hidden room = false)
    (hexplicit : ∀ room ∈ explicitRooms extension, hidden room = false)
    (hbuild : ∀ extRooms, (∀ room ∈ effectiveRooms extRooms responseRooms, hidden room = false) →
      build extRooms = other extRooms) :
    ((extension.filter ExtRoomsRequest.enabled).map fun extension => build extension.rooms) =
      (extension.filter ExtRoomsRequest.enabled).map fun extension => other extension.rooms := by
  rcases extension with _ | extension
  · rfl
  · cases henabled : extension.enabled with
    | false =>
      rw [Option.filter_some, if_neg (by simp [henabled])]
      rfl
    | true =>
      rw [Option.filter_some, if_pos henabled, Option.map_some, Option.map_some]
      refine congrArg some (hbuild _ fun room hroom => ?_)
      rw [explicitRooms, Option.filter_some, if_pos henabled] at hexplicit
      unfold effectiveRooms at hroom
      dsimp only at hexplicit
      split_ifs at hroom hexplicit
      · exact hresponse room hroom
      · exact hexplicit room hroom

variable (h : AgreeOutside hidden first second)

include h

section

variable (hrooms : ∀ room ∈ effectiveRooms extRooms responseRooms, hidden room = false)
include hrooms

theorem buildReceipts_eq :
    buildReceipts first since extRooms responseRooms ignoredSenders =
      buildReceipts second since extRooms responseRooms ignoredSenders := by
  refine foldl_ext _ _ _ fun rooms room hroom => ?_
  unfold receiptContent
  rw [h.receipts.filter_eq (visible_of_room (hrooms room hroom))]

theorem buildTyping_eq :
    buildTyping first since extRooms responseRooms ignoredSenders =
      buildTyping second since extRooms responseRooms ignoredSenders := by
  refine foldl_ext _ _ _ fun rooms room hroom => ?_
  have hvisible := hrooms room hroom
  unfold typingContent roomTypingStreamIdFor rowAt
  rw [h.roomTypingStreamId.find?_eq (visible_of_room hvisible),
    h.typingUsers.filter_eq (visible_of_room hvisible)]

end

theorem buildToDevice_eq (extension : ExtToDeviceRequest) :
    (buildToDevice first user deviceId extension current).1 =
      (buildToDevice second user deviceId extension current).1 := by
  have hsame := congrArg
    (fun tables => (buildToDevice tables user deviceId extension current).1) h.rest
  exact hsame

theorem buildE2ee_eq :
    buildE2ee first user deviceId since = buildE2ee second user deviceId since := by
  have hsame := congrArg (fun tables => buildE2ee tables user deviceId since) h.rest
  exact hsame

theorem buildAccountData_eq (responseRooms : List Bytes) :
    buildAccountData host first user since responseRooms =
      buildAccountData host second user since responseRooms := by
  have hsame := congrArg
    (fun tables => buildAccountData host tables user since responseRooms) h.rest
  exact hsame

end Extensions

section Responses

variable {first second : SyncTables} {user deviceId : Bytes} {request : SlidingSyncRequest}
  (h : AgreeOutside hidden first second)

include h

theorem resolveIgnoredUsers_eq :
    resolveIgnoredUsers host first user = resolveIgnoredUsers host second user := by
  unfold resolveIgnoredUsers
  rw [h.accountData]

theorem watermarks_eq :
    eventWatermark first = eventWatermark second ∧ syncWatermark first = syncWatermark second :=
  ⟨congrArg (fun tables => tables.database.nextStreamOrdering - 1) h.rest,
    congrArg (fun tables => tables.store.nextSyncStreamId) h.rest⟩

variable (hjoined : ∀ room, isJoined second.store room user = true → hidden room = false)

include hjoined

theorem hasRelevantChange_eq (sinceEvent sinceSync : UInt64) :
    hasRelevantChange first user deviceId request sinceEvent sinceSync =
      hasRelevantChange second user deviceId request sinceEvent sinceSync := by
  have hvisible : ∀ {Row : Type} {room : Row → Bytes} {query : Row → Bool} (row : Row),
      (query row && isJoined second.store (room row) user) = true →
        (!hidden (room row)) = true := by
    intro Row room query row hrow
    rw [hjoined (room row) (Bool.and_eq_true_iff.mp hrow).2]
    rfl
  have hchanges : first.deviceListChanges = second.deviceListChanges :=
    congrArg (fun tables => tables.deviceListChanges) h.rest
  have hmessages : first.toDeviceMessages = second.toDeviceMessages :=
    congrArg (fun tables => tables.toDeviceMessages) h.rest
  unfold hasRelevantChange
  simp only [isJoined_eq h, (watermarks_eq h).1, hchanges, hmessages, h.accountData]
  rw [h.events.any_eq hvisible, h.receipts.any_eq hvisible, h.roomTypingStreamId.any_eq hvisible]

variable (hnamed : ∀ room ∈ namedRooms request, hidden room = false)

include hnamed

omit h in
variable (host) in
theorem shown_visible (snapshot : ConnectionSnapshot) :
    ∀ room ∈ responseRoomIds request (listResults host second user request snapshot),
      hidden room = false := by
  intro room hroom
  rcases mem_responseRoomIds hroom with hmember | hsubscribed
  · exact hjoined room hmember
  · refine hnamed room ?_
    rw [namedRooms, append_assoc]
    exact mem_append_left _ hsubscribed

theorem builtRooms_eq (connection : SlidingSyncConnectionState) (pos : Option StreamToken) :
    builtRooms host first user request connection pos =
      builtRooms host second user request connection pos := by
  unfold builtRooms
  simp only [listResults_eq h hjoined]
  refine map_congr_left fun room hroom => ?_
  unfold roomResponse
  rw [resolveIgnoredUsers_eq h,
    buildRoomResponse_eq h (shown_visible _ hjoined hnamed _ room hroom)]

theorem respond_eq (connection : SlidingSyncConnectionState) (pos : Option StreamToken) :
    (respond host first user deviceId request connection pos).1 =
      (respond host second user deviceId request connection pos).1 := by
  have hshown := shown_visible host hjoined hnamed connection.toConnectionSnapshot
  unfold respond
  simp only [listResults_eq h hjoined,
    builtRooms_eq h hjoined hnamed, resolveIgnoredUsers_eq h, currentPos,
    (watermarks_eq h).1, (watermarks_eq h).2]
  rcases hextensions : request.extensions with _ | extensions
  · rfl
  · have hreceipts : ∀ room ∈ explicitRooms extensions.receipts, hidden room = false := by
      intro room hroom
      refine hnamed room ?_
      rw [namedRooms, hextensions]
      exact mem_append_left _ (mem_append_right _ hroom)
    have htyping : ∀ room ∈ explicitRooms extensions.typing, hidden room = false := by
      intro room hroom
      refine hnamed room ?_
      rw [namedRooms, hextensions]
      exact mem_append_right _ hroom
    simp only [extensions_eq, buildE2ee_eq h, buildAccountData_eq h, buildToDevice_eq h]
    rw [map_rooms_eq hshown hreceipts fun _ hrooms => buildReceipts_eq h hrooms,
      map_rooms_eq hshown htyping fun _ hrooms => buildTyping_eq h hrooms]

end Responses

section Isolation

variable {user deviceId : Bytes}

structure ServerState extends SlidingSyncRuntime where
  ownEvents : OwnEvents toSyncTables

def hasMembership (memberships : List PersistentMembership) (roomId user : Bytes) : Bool :=
  (rowAt membershipKey memberships (roomId, user)).isSome

/-- The user has no membership in the room, not even one that was forgotten, and its
history is not readable by the world. -/
def foreign (host : SyncHost) (user : Bytes) (tables : SyncTables) (roomId : Bytes) : Bool :=
  (recordedMembership host.yyjson tables.store roomId user).isNone &&
    roomStateString host.yyjson tables.store roomId "m.room.history_visibility"
      "history_visibility" [] ≠ some (utf8 "world_readable")

/-- The servers differ only in the events, state, receipts and typing of rooms that are
foreign to the user. -/
structure Alike (host : SyncHost) (user : Bytes) (first second : ServerState) : Prop where
  tables : DifferIn
    (fun room => foreign host user first.toSyncTables room &&
      foreign host user second.toSyncTables room) first.toSyncTables second.toSyncTables
  connections : first.slidingSyncConnections = second.slidingSyncConnections

/-- With these memberships the response to the request is the same from servers that are
alike. -/
def Isolated (host : SyncHost) (user deviceId : Bytes) (memberships : List PersistentMembership)
    (request : SlidingSyncRequest) : Prop :=
  ∀ first second : ServerState, first.store.memberships = memberships →
    Alike host user first second → ∀ call : SlidingSyncCall, call.request = request →
      (dispatchSlidingSync host first.toSlidingSyncRuntime user deviceId call).1 =
        (dispatchSlidingSync host second.toSlidingSyncRuntime user deviceId call).1

theorem fst_dispatch (runtime : SlidingSyncRuntime) (call : SlidingSyncCall) :
    (dispatchSlidingSync host runtime user deviceId call).1 =
      if call.pos.any (posIsForeign runtime.toSyncTables) then .unknownPos
      else if call.canWait && decide (call.targetTimeout.getD (call.request.timeout.getD 0) > 0) &&
          !hasRelevantChange runtime.toSyncTables user deviceId call.request
            (sinceEventOrdering (foundConnection runtime user deviceId call) call.pos)
            (sinceSyncStreamId (foundConnection runtime user deviceId call) call.pos) then
        .needsWait (eventWatermark runtime.toSyncTables) (syncWatermark runtime.toSyncTables)
      else .complete (answer host runtime user deviceId call).1 := by
  unfold dispatchSlidingSync slidingSyncJson
  simp only [apply_ite Prod.fst]
  rfl

theorem hasMembership_of_isJoined {store : PersistentStore} {room : Bytes}
    (hjoined : isJoined store room user = true) :
    hasMembership store.memberships room user = true := by
  obtain ⟨row, hrow, hquery⟩ := any_eq_true.mp hjoined
  refine find?_isSome.mpr ⟨row, hrow, ?_⟩
  simp only [Bool.and_eq_true, decide_eq_true_eq] at hquery
  simp [membershipKey, hquery.1.1, hquery.1.2]

theorem foreign_eq_false {room : Bytes}
    (hmember : hasMembership tables.store.memberships room user = true) :
    foreign host user tables room = false := by
  obtain ⟨row, hrow⟩ := Option.isSome_iff_exists.mp hmember
  unfold foreign recordedMembership
  rw [hrow]
  rfl

theorem isolated_of_known (memberships : List PersistentMembership) (request : SlidingSyncRequest)
    (hknown : ∀ room ∈ namedRooms request, hasMembership memberships room user = true) :
    Isolated host user deviceId memberships request := by
  rintro first second rfl halike call rfl
  have hagree := AgreeOutside.mk halike.tables first.ownEvents second.ownEvents
  have hsecond : ∀ room, isJoined second.store room user = true →
      (foreign host user first.toSyncTables room &&
        foreign host user second.toSyncTables room) = false := by
    intro room hjoined
    rw [foreign_eq_false (hasMembership_of_isJoined hjoined), Bool.and_false]
  have hnamed : ∀ room ∈ namedRooms call.request, (foreign host user first.toSyncTables room &&
        foreign host user second.toSyncTables room) = false := by
    intro room hroom
    rw [foreign_eq_false (hknown room hroom), Bool.false_and]
  have hfound : foundConnection first.toSlidingSyncRuntime user deviceId call =
      foundConnection second.toSlidingSyncRuntime user deviceId call := by
    unfold foundConnection openConnection
    simp only [halike.connections]
  have hforeign : posIsForeign first.toSyncTables = posIsForeign second.toSyncTables := by
    unfold posIsForeign
    rw [(watermarks_eq hagree).1, (watermarks_eq hagree).2]
  have hanswer : (answer host first.toSlidingSyncRuntime user deviceId call).1 =
      (answer host second.toSlidingSyncRuntime user deviceId call).1 := by
    unfold answer
    rw [hfound]
    exact respond_eq hagree hsecond hnamed _ _
  rw [fst_dispatch, fst_dispatch, hforeign, hfound, hanswer,
    hasRelevantChange_eq hagree hsecond, (watermarks_eq hagree).1,
    (watermarks_eq hagree).2]

end Isolation

section Leaks

variable {user deviceId room : Bytes} {memberships : List PersistentMembership}
  {request : SlidingSyncRequest}

section

variable (memberships : List PersistentMembership) (room : Bytes)

def quietState : ServerState where
  database := { persistentStore := { memberships } }
  ownEvents := by simp [OwnEvents, SyncTables.store]

def ReadsName (yyjson : Yyjson) (json name : Bytes) : Prop :=
  name ≠ [] ∧ (((parsedValue yyjson json).bind valueIsObject).bind fun root =>
    (objectMemberAsObject root "content").bind fun content =>
      stringMember content "name") = some name

def namedState (json : Bytes) : ServerState where
  database :=
    { persistentStore :=
        { memberships
          events := [⟨"$name", room, [], json, 0, 0, [], [], []⟩]
          state := [⟨room, "m.room.name", [], "$name"⟩] } }
  ownEvents := by simp [OwnEvents, SyncTables.store]

def readState : ServerState where
  database := { persistentStore := { memberships } }
  receipts := [⟨room, "m.read", [], [], 0, 1⟩]
  ownEvents := by simp [OwnEvents, SyncTables.store]

def typedState : ServerState where
  database := { persistentStore := { memberships } }
  typingUsers := [⟨room, [], true⟩]
  roomTypingStreamId := [(room, 1)]
  ownEvents := by simp [OwnEvents, SyncTables.store]

end

theorem foreign_eq_true (hmember : hasMembership tables.store.memberships room user = false)
    (hstate : ∀ entry ∈ tables.store.state, entry.eventType = utf8 "m.room.name") :
    foreign host user tables room = true := by
  have hnone : ∀ eventType stateKey, eventType ≠ utf8 "m.room.name" →
      rowAt stateTuple tables.store.state ⟨room, eventType, stateKey⟩ = none := by
    intro eventType stateKey hne
    refine find?_eq_none.mpr fun entry hentry => ?_
    simp only [stateTuple, hstate entry hentry, decide_eq_true_eq, StateTuple.mk.injEq]
    exact fun heq => hne heq.2.1.symm
  have hrow : rowAt membershipKey tables.store.memberships (room, user) = none := by
    simpa [hasMembership] using hmember
  unfold foreign recordedMembership roomStateString
  rw [hrow, hnone _ _ (by decide), hnone _ _ (by decide)]
  rfl

theorem sameVisible_nil {Row : Type} {visible : Row → Bool} {row : Row}
    (hrow : visible row = false) : SameVisible visible [] [row] := by
  simp [SameVisible, hrow]

theorem foreign_quiet (host : SyncHost) (hmember : hasMembership memberships room user = false) :
    foreign host user (quietState memberships).toSyncTables room = true :=
  foreign_eq_true hmember (by simp [quietState, SyncTables.store])

theorem alike_named (hmember : hasMembership memberships room user = false) (json : Bytes) :
    Alike host user (quietState memberships) (namedState memberships room json) := by
  have hsecond : foreign host user (namedState memberships room json).toSyncTables room = true :=
    foreign_eq_true hmember (by simp [namedState, SyncTables.store])
  have hhidden := congrArg Bool.not (Bool.and_eq_true_iff.mpr ⟨foreign_quiet host hmember, hsecond⟩)
  exact ⟨⟨rfl, sameVisible_nil hhidden, sameVisible_nil hhidden, rfl, rfl, rfl⟩, rfl⟩

def firstCall (request : SlidingSyncRequest) : SlidingSyncCall where
  request := request
  targetPos := some (encodeStreamToken ⟨0, 0, 0⟩)

variable (host user deviceId request) in
theorem firstCall_answered (tables : SyncTables) :
    (dispatchSlidingSync host { toSyncTables := tables } user deviceId (firstCall request)).1 =
      .complete (respond host tables user deviceId request {} (some ⟨0, 0, 0⟩)).1 := by
  have hissued : posIsForeign tables ⟨0, 0, 0⟩ = false := by simp [posIsForeign]
  rw [fst_dispatch, show (firstCall request).pos = some ⟨0, 0, 0⟩ from rfl, Option.any_some,
    hissued, if_neg Bool.false_ne_true, if_neg]
  · rfl
  · simp [firstCall]

theorem responses_eq (hisolated : Isolated host user deviceId memberships request)
    (hown : OwnEvents tables)
    (halike : Alike host user (quietState memberships) ⟨{ toSyncTables := tables }, hown⟩) :
    (respond host (quietState memberships).toSyncTables user deviceId request {}
        (some ⟨0, 0, 0⟩)).1 =
      (respond host tables user deviceId request {} (some ⟨0, 0, 0⟩)).1 := by
  have hsame := hisolated _ _ rfl halike (firstCall request) rfl
  have hquiet := firstCall_answered host user deviceId request
    (quietState memberships).toSyncTables
  exact DispatchResult.complete.inj
    (hquiet.symm.trans (hsame.trans (firstCall_answered _ _ _ _ tables)))

section Subscriptions

variable (host user deviceId) in
theorem subscribed_room_mem (tables : SyncTables)
    (hroom : room ∈ request.roomSubscriptions.map Prod.fst) :
    ∃ built, (room, built) ∈
      (respond host tables user deviceId request {} (some ⟨0, 0, 0⟩)).1.rooms := by
  refine ⟨_, mem_filter.mpr ⟨mem_map.mpr ⟨room, ?_, rfl⟩, rfl⟩⟩
  rw [responseRoomIds, mem_foldl_pushUnique]
  exact .inr (mem_append_right _ hroom)

theorem name_of_room_mem {built : SlidingSyncRoomResponse}
    (hroom : (room, built) ∈
      (respond host tables user deviceId request {} (some ⟨0, 0, 0⟩)).1.rooms) :
    built.name = stateContentString host tables.store room "m.room.name" "name" := by
  obtain ⟨roomId, -, heq⟩ := mem_map.mp (mem_filter.mp hroom).1
  obtain ⟨rfl, rfl⟩ := Prod.mk.inj heq
  rfl

theorem subscribed_room_is_known {json name : Bytes} (hreads : ReadsName host.yyjson json name)
    (hisolated : Isolated host user deviceId memberships request)
    (hroom : room ∈ request.roomSubscriptions.map Prod.fst) :
    hasMembership memberships room user = true := by
  by_contra hmember
  rw [Bool.not_eq_true] at hmember
  have hsame := responses_eq hisolated (namedState memberships room json).ownEvents
    (alike_named hmember json)
  obtain ⟨built, hbuilt⟩ := subscribed_room_mem host user deviceId
    (quietState memberships).toSyncTables hroom
  have hquiet := name_of_room_mem hbuilt
  rw [hsame] at hbuilt
  have hnamed := name_of_room_mem hbuilt
  have hname : stateContentString host (namedState memberships room json).store room "m.room.name"
      "name" = some name := by
    simp [stateContentString, stateContent, namedState, SyncTables.store, findEvent, eventObject,
      hreads.2, hreads.1]
  rw [hquiet, hname] at hnamed
  exact absurd hnamed (by simp [stateContentString, stateContent, quietState, SyncTables.store])

end Subscriptions

section Notices

variable {extRooms responseRooms : List Bytes}

theorem mem_keys_emplace {Content : Type} (map : List (Bytes × Content)) (entry : Bytes × Content)
    {key : Bytes} :
    key ∈ (emplace map entry).map Prod.fst ↔ key ∈ map.map Prod.fst ∨ key = entry.1 := by
  unfold emplace
  split_ifs with hpresent
  · simp only [any_eq_true, decide_eq_true_eq] at hpresent
    obtain ⟨present, hmem, hkey⟩ := hpresent
    constructor
    · exact .inl
    · rintro (hold | rfl)
      · exact hold
      · exact hkey ▸ mem_map_of_mem hmem
  · rw [((perm_orderedInsert _ entry map).map Prod.fst).mem_iff, map_cons, mem_cons, or_comm]

theorem mem_keys_foldl {Content : Type}
    {step : List (Bytes × Content) → Bytes → List (Bytes × Content)} (has : Bytes → Prop)
    (hstep : ∀ map room key, key ∈ (step map room).map Prod.fst ↔
      key ∈ map.map Prod.fst ∨ key = room ∧ has room) (rooms : List Bytes)
    (map : List (Bytes × Content)) {key : Bytes} :
    key ∈ (rooms.foldl step map).map Prod.fst ↔ key ∈ map.map Prod.fst ∨ key ∈ rooms ∧ has key := by
  induction rooms generalizing map with
  | nil => simp
  | cons room rest ih =>
    rw [foldl_cons, ih, hstep, mem_cons, or_assoc, or_and_right]
    refine or_congr_right (or_congr_left ⟨?_, ?_⟩)
    · rintro ⟨rfl, hhas⟩
      exact ⟨rfl, hhas⟩
    · rintro ⟨rfl, hhas⟩
      exact ⟨rfl, hhas⟩

theorem mem_keys_buildReceipts {since : UInt64} {ignoredSenders : List Bytes} :
    room ∈ (buildReceipts tables since extRooms responseRooms ignoredSenders).map Prod.fst ↔
      room ∈ effectiveRooms extRooms responseRooms ∧
        receiptContent tables since ignoredSenders room ≠ [] := by
  unfold buildReceipts
  rw [mem_keys_foldl fun room => receiptContent tables since ignoredSenders room ≠ []]
  · simp
  · intro map roomId key
    simp only [List.isEmpty_iff]
    split_ifs with hempty
    · simp [hempty]
    · rw [mem_keys_emplace]
      simp [hempty]

theorem mem_keys_buildTyping {since : UInt64} {ignoredSenders : List Bytes} :
    room ∈ (buildTyping tables since extRooms responseRooms ignoredSenders).map Prod.fst ↔
      room ∈ effectiveRooms extRooms responseRooms ∧
        typingContent tables since ignoredSenders room ≠ none := by
  unfold buildTyping
  rw [mem_keys_foldl fun room => typingContent tables since ignoredSenders room ≠ none]
  · simp
  · intro map roomId key
    rcases typingContent tables since ignoredSenders roomId with _ | userIds
    · simp
    · rw [mem_keys_emplace]
      simp

theorem mem_explicitRooms {requested : Option SlidingSyncExtensionRequests}
    {part : SlidingSyncExtensionRequests → Option ExtRoomsRequest}
    (hroom : room ∈ explicitRooms (requested.bind part)) :
    ∃ extensions named, requested = some extensions ∧
      (part extensions).filter ExtRoomsRequest.enabled = some named ∧
        ∀ responseRooms, room ∈ effectiveRooms named.rooms responseRooms := by
  rcases requested with _ | extensions
  · exact absurd hroom not_mem_nil
  rw [Option.bind_some, explicitRooms] at hroom
  split at hroom
  · exact absurd hroom not_mem_nil
  · next named hnamed =>
      refine ⟨extensions, named, rfl, hnamed, fun responseRooms => ?_⟩
      unfold effectiveRooms
      split_ifs at hroom ⊢ with hall
      · exact absurd hroom not_mem_nil
      · exact hroom

theorem extensions_respond (tables : SyncTables) :
    (respond host tables user deviceId request {} (some ⟨0, 0, 0⟩)).1.extensions =
      request.extensions.map fun extensions => (buildExtensions host tables user deviceId
        extensions 0 (syncWatermark tables) (responseRoomIds request (listResults host tables user
          request {})) (resolveIgnoredUsers host tables user)).1 := by
  unfold respond
  rcases request.extensions with _ | extensions <;> rfl

theorem receipts_room_is_known (hisolated : Isolated host user deviceId memberships request)
    (hroom : room ∈ explicitRooms (request.extensions.bind SlidingSyncExtensionRequests.receipts)) :
    hasMembership memberships room user = true := by
  by_contra hmember
  rw [Bool.not_eq_true] at hmember
  have hhidden := congrArg Bool.not
    (Bool.and_eq_true_iff.mpr ⟨foreign_quiet host hmember, foreign_quiet host hmember⟩)
  have hsame := responses_eq hisolated (readState memberships room).ownEvents
    ⟨⟨rfl, rfl, rfl, sameVisible_nil hhidden, rfl, rfl⟩, rfl⟩
  obtain ⟨extensions, named, hextensions, hnamed, heffective⟩ := mem_explicitRooms hroom
  have hreceipts := congrArg (fun response => response.extensions.bind
    SlidingSyncExtensionResponses.receipts) hsame
  simp only [extensions_respond, extensions_eq, hextensions, hnamed, Option.map_some,
    Option.bind_some, Option.some.injEq] at hreceipts
  have hcontent : receiptContent (readState memberships room).toSyncTables 0
      (resolveIgnoredUsers host (readState memberships room).toSyncTables user) room ≠ [] := by
    simp [receiptContent, readState, resolveIgnoredUsers, isDeliverySuppressed, putRow]
  have hread := mem_keys_buildReceipts.mpr ⟨heffective (responseRoomIds request
    (listResults host (readState memberships room).toSyncTables user request {})), hcontent⟩
  rw [← hreceipts, mem_keys_buildReceipts] at hread
  exact hread.2 rfl

theorem typing_room_is_known (hisolated : Isolated host user deviceId memberships request)
    (hroom : room ∈ explicitRooms (request.extensions.bind SlidingSyncExtensionRequests.typing)) :
    hasMembership memberships room user = true := by
  by_contra hmember
  rw [Bool.not_eq_true] at hmember
  have hhidden := congrArg Bool.not
    (Bool.and_eq_true_iff.mpr ⟨foreign_quiet host hmember, foreign_quiet host hmember⟩)
  have hsame := responses_eq hisolated (typedState memberships room).ownEvents
    ⟨⟨rfl, rfl, rfl, rfl, sameVisible_nil hhidden, sameVisible_nil hhidden⟩, rfl⟩
  obtain ⟨extensions, named, hextensions, hnamed, heffective⟩ := mem_explicitRooms hroom
  have htyping := congrArg (fun response => response.extensions.bind
    SlidingSyncExtensionResponses.typing) hsame
  simp only [extensions_respond, extensions_eq, hextensions, hnamed, Option.map_some,
    Option.bind_some, Option.some.injEq] at htyping
  have hcontent : typingContent (typedState memberships room).toSyncTables 0
      (resolveIgnoredUsers host (typedState memberships room).toSyncTables user) room ≠ none := by
    simp [typingContent, roomTypingStreamIdFor, rowAt, typedState, resolveIgnoredUsers,
      isDeliverySuppressed]
  have htyped := mem_keys_buildTyping.mpr ⟨heffective (responseRoomIds request
    (listResults host (typedState memberships room).toSyncTables user request {})), hcontent⟩
  rw [← htyping, mem_keys_buildTyping] at htyped
  exact htyped.2 rfl

end Notices

end Leaks

/-- A request keeps foreign rooms apart exactly if the user has a membership in every
room that it names. -/
theorem isolated_iff_named_rooms_known (host : SyncHost) (user deviceId : Bytes)
    (memberships : List PersistentMembership) (request : SlidingSyncRequest) {json name : Bytes}
    (hreads : ReadsName host.yyjson json name) :
    Isolated host user deviceId memberships request ↔
      ∀ room ∈ namedRooms request, hasMembership memberships room user = true := by
  constructor
  · intro hisolated room hroom
    rw [namedRooms, mem_append, mem_append] at hroom
    rcases hroom with (hsubscribed | hreceipts) | htyping
    · exact subscribed_room_is_known hreads hisolated hsubscribed
    · exact receipts_room_is_known hisolated hreceipts
    · exact typing_room_is_known hisolated htyping
  · exact isolated_of_known memberships request

def clubName : Value :=
  .object [("content", .object [("name", .string "Club")]), ("type", .string "m.room.name")]

def clubHost : SyncHost where
  yyjson := readerOf [clubName]
  parseJson _ := none
  backend := memoryBackend

def clubRequest : SlidingSyncRequest := { roomSubscriptions := [("!club:example.org", {})] }

def clubMemberships : List PersistentMembership :=
  [⟨"!club:example.org", "@bob:example.org", "join", 1⟩]

/-- A member of the club learns nothing of other rooms by asking for it; who is no member
learns of the club. -/
theorem club_request_isolated_for_members :
    Isolated clubHost "@bob:example.org" "PHONE" clubMemberships clubRequest ∧
      ¬Isolated clubHost "@eve:example.org" "PHONE" clubMemberships clubRequest := by
  have hreads : ReadsName clubHost.yyjson (canonicalText clubName) "Club" :=
    ⟨by decide +kernel, by decide +kernel⟩
  rw [isolated_iff_named_rooms_known _ _ _ _ _ hreads,
    isolated_iff_named_rooms_known _ _ _ _ _ hreads]
  decide +kernel

def shownNames : DispatchResult → List (Bytes × Option Bytes)
  | .complete response => response.rooms.map fun room => (room.1, room.2.name)
  | _ => []

/-- A user who has never been in the club is told its name. -/
theorem subscription_tells_foreign_name : Alike clubHost "@eve:example.org" (quietState [])
        (namedState [] "!club:example.org" (canonicalText clubName)) ∧
      shownNames (dispatchSlidingSync clubHost (quietState []).toSlidingSyncRuntime
        "@eve:example.org" "PHONE" { request := clubRequest }).1 =
          [(utf8 "!club:example.org", none)] ∧
      shownNames (dispatchSlidingSync clubHost
        (namedState [] "!club:example.org" (canonicalText clubName)).toSlidingSyncRuntime
        "@eve:example.org" "PHONE" { request := clubRequest }).1 =
          [(utf8 "!club:example.org", some (utf8 "Club"))] :=
  ⟨alike_named rfl (canonicalText clubName), by decide +kernel, by decide +kernel⟩

end Merovingian.SlidingSyncIsolation
