import Mathlib.Data.List.Chain
import Merovingian.OperationRuns
import Merovingian.StreamGrowth
import Merovingian.MessagesPaging
import Merovingian.SyncResponses

/-!
A client that goes on from each `/sync` answer with the token of the one before. What
has come to a room in between is in the room's timeline, or further back than the
answer's `prev_batch`, as long as the room has a place among those that one answer
holds: the token goes on past the rooms that are left out.
-/

namespace Merovingian.SyncDelivery

open ByteString OperationRuns JsonValue CanonicalParser KeyedFold StoreTables PduIngestion
  StreamTokens List
open EventQueries (findEvent)
open RoomReads (eventPassesFilter storedEventType roomEntries sortByStreamOrdering
  orderingToken buildCurrentStateEvents)
open SyncSurfaces
open SlidingSyncExtensions (receiptContent typingContent)
open SlidingSync (eventWatermark)
open StreamGrowth MessagesPaging SyncResponses

variable {ignoredSenders : List Bytes} {host : SyncHost} {roomId : Bytes} {limits : ClientApiLimits}

section News

variable (host : SyncHost) (limits : ClientApiLimits) (tables : SyncTables) (user : Bytes)
  (sinceToken : Option StreamToken)

def hasEvent (filter : SyncRoomFilter) (roomId : Bytes) : Bool :=
  (roomEntries tables.store roomId).any (isMatched host filter.timeline
    (resolveIgnoredUsers host tables user) (sinceOrdering sinceToken))

/-- There is something to tell of the room: an event, account data, the state of a room
that the user has come into, typing users or receipts. -/
def hasNews (filter : SyncRoomFilter) (roomId : Bytes) : Bool :=
  let ignoredSenders := resolveIgnoredUsers host tables user
  let since := sinceSyncStreamId sinceToken
  sinceToken.isNone || hasEvent host tables user sinceToken filter roomId ||
    tables.accountData.any (fun row =>
      row.userId = user && row.roomId = roomId && row.streamId > since &&
        eventPassesFilter filter.accountData.toEventTypeFilter row.eventType user) ||
    (joinedMembershipChangedSince host tables.store roomId user (sinceOrdering sinceToken) &&
      (tables.store.state.filter fun entry => entry.roomId = roomId).any fun entry =>
        (findEvent tables.store entry.eventId).any fun event =>
          eventPassesFilter filter.state.toEventTypeFilter entry.eventType event.senderUserId) ||
    (decide (roomTypingStreamIdFor tables roomId > since) &&
      (decide (since > 0) || tables.typingUsers.any fun entry =>
        entry.roomId = roomId && entry.typing &&
          !isDeliverySuppressed ignoredSenders entry.userId false)) ||
    tables.receipts.any fun receipt =>
      receipt.roomId = roomId && receipt.streamId > since &&
        !isDeliverySuppressed ignoredSenders receipt.userId false

def isReported (filter : SyncFilter) (room : LocalRoom) : Bool :=
  room.members.contains user && admitsRoom filter room.roomId &&
    hasNews host tables user sinceToken filter.room room.roomId

/-- When there are events of the room to tell, fewer rooms than one answer holds come
before it. -/
def HasPlace (filter : SyncFilter) (roomId : Bytes) : Prop :=
  hasEvent host tables user sinceToken filter.room roomId = true →
    (tables.database.rooms.takeWhile fun room => room.roomId ≠ roomId).countP
      (isReported host tables user sinceToken filter) < limits.maxSyncRooms

instance decidableHasPlace (filter : SyncFilter) (roomId : Bytes) :
    Decidable (HasPlace host limits tables user sinceToken filter roomId) :=
  inferInstanceAs (Decidable (_ → _))

variable {host limits tables user sinceToken}

variable {event : PersistentEvent}

theorem mem_matchedEvents {filter : SectionFilter} {since : UInt64} :
    event ∈ matchedEvents host tables.store filter ignoredSenders since roomId ↔
      event ∈ roomEntries tables.store roomId ∧
        isMatched host filter ignoredSenders since event = true := by
  simp [matchedEvents, sortByStreamOrdering]

theorem isQuiet_of_hasNews_eq_false {filter : SyncRoomFilter}
    (h : hasNews host tables user sinceToken filter roomId = false) :
    (sinceToken.isSome && isQuiet (buildJoinedRoom host limits tables user sinceToken filter
      (resolveIgnoredUsers host tables user) roomId)) = true := by
  simp only [hasNews, Bool.or_eq_false_iff] at h
  obtain ⟨⟨⟨⟨⟨hsome, hevent⟩, haccount⟩, hstate⟩, htyping⟩, hreceipts⟩ := h
  have hmatched : matchedEvents host tables.store filter.timeline
      (resolveIgnoredUsers host tables user) (sinceOrdering sinceToken) roomId = [] := by
    refine eq_nil_iff_forall_not_mem.mpr fun event hmem => ?_
    obtain ⟨hentry, hmatches⟩ := mem_matchedEvents.mp hmem
    exact any_eq_false.mp hevent event hentry hmatches
  have haccountData : buildAccountDataEvents tables filter.accountData user roomId
      (sinceSyncStreamId sinceToken) = [] := by
    rw [buildAccountDataEvents, filter_eq_nil_iff.mpr (any_eq_false.mp haccount)]
    simp [limitRows]
  have hstateEvents : (joinedMembershipChangedSince host tables.store roomId user
      (sinceOrdering sinceToken) = true) →
        buildCurrentStateEvents tables.store filter.state.toEventTypeFilter roomId = [] := by
    intro hjoined
    rw [hjoined, Bool.true_and] at hstate
    refine filterMap_eq_nil_iff.mpr fun entry hentry => ?_
    have hnone := any_eq_false.mp hstate entry hentry
    rw [Option.filter_eq_none_iff]
    intro event hfound hpasses
    exact hnone (by rw [hfound]; exact hpasses)
  have htypingNone : typingContent tables (sinceSyncStreamId sinceToken)
      (resolveIgnoredUsers host tables user) roomId = none := by
    unfold typingContent
    by_cases hbehind : roomTypingStreamIdFor tables roomId ≤ sinceSyncStreamId sinceToken
    · rw [if_pos hbehind]
    · rw [decide_eq_true (UInt64.not_le.mp hbehind), Bool.true_and, Bool.or_eq_false_iff] at htyping
      have hzero : sinceSyncStreamId sinceToken = 0 := by
        have hle := UInt64.not_lt.mp (of_decide_eq_false htyping.1)
        exact UInt64.le_antisymm hle UInt64.zero_le
      rw [if_neg hbehind, filter_eq_nil_iff.mpr (any_eq_false.mp htyping.2), hzero]
      rfl
  have hreceiptContent : receiptContent tables (sinceSyncStreamId sinceToken)
      (resolveIgnoredUsers host tables user) roomId = [] := by
    rw [receiptContent, filter_eq_nil_iff.mpr (any_eq_false.mp hreceipts)]
    rfl
  rw [Bool.and_eq_true]
  refine ⟨by simpa using hsome, ?_⟩
  simp only [isQuiet, buildJoinedRoom, buildRoomEphemeralEvents, hmatched, haccountData,
    htypingNone, hreceiptContent, hsome, Bool.false_or]
  cases hjoined : joinedMembershipChangedSince host tables.store roomId user
      (sinceOrdering sinceToken) with
  | false => simp [timelineWindow]
  | true => simp [timelineWindow, hstateEvents hjoined]

end News

section Joins

variable {tables : SyncTables} {user : Bytes} {sinceToken : Option StreamToken}
  {filter : SyncFilter}

variable (host limits tables user sinceToken filter) in
theorem joinStep_grows (joined : List JoinedRoom × UInt64) (room : LocalRoom) :
    let next := joinStep host limits tables user sinceToken filter
      (resolveIgnoredUsers host tables user) joined room
    joined.1 <+: next.1 ∧ next.1.length ≤
      joined.1.length + [room].countP (isReported host tables user sinceToken filter) := by
  unfold joinStep
  dsimp only
  split_ifs with hskipped hadmits hquiet
  iterate 3 exact ⟨prefix_rfl, Nat.le_add_right _ _⟩
  refine ⟨prefix_append _ _, ?_⟩
  have hnews : hasNews host tables user sinceToken filter.room room.roomId = true := by
    by_contra hnone
    exact hquiet (isQuiet_of_hasNews_eq_false (Bool.not_eq_true _ ▸ hnone))
  simp only [Bool.or_eq_true, Bool.not_eq_true', not_or, Bool.not_eq_false] at hskipped hadmits
  rw [countP_singleton, isReported, hskipped.2, hadmits, hnews, length_append]
  rfl

variable (host limits tables user sinceToken filter) in
theorem foldl_joinStep (rooms : List LocalRoom) (joined : List JoinedRoom × UInt64) :
    let last := rooms.foldl (joinStep host limits tables user sinceToken filter
      (resolveIgnoredUsers host tables user)) joined
    joined.1 <+: last.1 ∧ last.1.length ≤
      joined.1.length + rooms.countP (isReported host tables user sinceToken filter) := by
  induction rooms generalizing joined with
  | nil => exact ⟨prefix_rfl, Nat.le_refl _⟩
  | cons room rest ih =>
    obtain ⟨hfirst, hcount⟩ :=
      joinStep_grows host limits tables user sinceToken filter joined room
    obtain ⟨hrest, hlength⟩ := ih (joinStep host limits tables user sinceToken filter
      (resolveIgnoredUsers host tables user) joined room)
    rw [← singleton_append, countP_append]
    exact ⟨hfirst.trans hrest, by rw [singleton_append, foldl_cons]; omega⟩

theorem mem_join {server : SyncServer} {deviceId : Bytes}
    (hin : InRoom server.toSyncTables user roomId) (hadmits : admitsRoom filter roomId = true)
    (hplace : (server.database.rooms.takeWhile fun room => room.roomId ≠ roomId).countP
      (isReported host server.toSyncTables user sinceToken filter) < limits.maxSyncRooms)
    {joined : JoinedRoom} (hbuilt : buildJoinedRoom host limits server.toSyncTables user sinceToken
      filter.room (resolveIgnoredUsers host server.toSyncTables user) roomId = joined)
    (hnews : isQuiet joined = false) :
    joined ∈ (buildSyncResponse host limits server user deviceId sinceToken filter).1.join := by
  obtain ⟨room, hroom, hmember⟩ := hin
  obtain ⟨hid, earlier, later, hrooms, hearlier⟩ := find?_eq_some_iff_append.mp hroom
  obtain rfl := of_decide_eq_true hid
  change _ ∈ (server.database.rooms.foldl _ ([], sinceSyncStreamId sinceToken)).1
  rw [hrooms] at hplace ⊢
  have htake : ((earlier ++ room :: later).takeWhile fun other => other.roomId ≠ room.roomId) =
      earlier := by
    rw [takeWhile_append_of_pos, takeWhile_cons_of_neg, append_nil]
    · simp
    · simpa using hearlier
  rw [htake] at hplace
  set step := joinStep host limits server.toSyncTables user sinceToken filter
    (resolveIgnoredUsers host server.toSyncTables user) with hstep
  obtain ⟨-, hlength⟩ := foldl_joinStep host limits server.toSyncTables user sinceToken filter
    earlier ([], sinceSyncStreamId sinceToken)
  obtain ⟨hkept, -⟩ := foldl_joinStep host limits server.toSyncTables user sinceToken filter later
    (step (earlier.foldl step ([], sinceSyncStreamId sinceToken)) room)
  rw [length_nil, Nat.zero_add] at hlength
  rw [foldl_append, foldl_cons]
  refine hkept.subset ?_
  rw [hstep, joinStep, decide_eq_false (Nat.not_le.mpr (Nat.lt_of_le_of_lt hlength hplace)),
    hmember, hadmits]
  dsimp only
  rw [hbuilt, hnews, Bool.and_false]
  exact mem_append_right _ (mem_singleton_self _)

end Joins

section Timelines

variable {user : Bytes} {sinceToken : Option StreamToken} {filter : SyncFilter}
  {event : PersistentEvent}

def Numbered (tables : SyncTables) : Prop :=
  ∀ event ∈ tables.store.events, ∀ other ∈ tables.store.events,
    other.streamOrdering = event.streamOrdering → other = event

instance decidableNumbered (tables : SyncTables) : Decidable (Numbered tables) :=
  inferInstanceAs (Decidable (∀ _ ∈ tables.store.events, _))

theorem timelineCap_pos (hlimit : 0 < limits.maxSyncEventsPerRoom) (section_ : SectionFilter) :
    0 < timelineCap limits section_ := by
  unfold timelineCap
  split_ifs with hzero
  · exact Nat.lt_min.mpr ⟨Nat.pos_of_ne_zero hzero, hlimit⟩
  · exact hlimit

/-- The window has the event, or it is cut and starts with a newer one. -/
theorem mem_timelineWindow {cap : Nat} (hcap : 0 < cap) {matched : List PersistentEvent}
    (hsorted : matched.Pairwise fun older newer => older.streamOrdering ≤ newer.streamOrdering)
    (hevent : event ∈ matched) :
    event ∈ timelineWindow cap matched ∨
      cap < matched.length ∧ ∃ oldest ∈ matched, (timelineWindow cap matched).head? = some oldest ∧
        event.streamOrdering ≤ oldest.streamOrdering ∧ oldest ≠ event := by
  by_cases hwindow : event ∈ timelineWindow cap matched
  · exact .inl hwindow
  · refine .inr ?_
    unfold timelineWindow at hwindow ⊢
    split_ifs at hwindow ⊢ with hlimited
    · obtain ⟨oldest, hhead⟩ : ∃ oldest, (matched.drop (matched.length - cap)).head? =
          some oldest := by
        rw [head?_drop]
        exact ⟨_, getElem?_eq_getElem (by omega)⟩
      have holdest := mem_of_head? hhead
      have htaken : event ∈ matched.take (matched.length - cap) := by
        rw [← take_append_drop (matched.length - cap) matched] at hevent
        exact (mem_append.mp hevent).resolve_right hwindow
      refine ⟨hlimited, oldest, mem_of_mem_drop holdest, hhead,
        hsorted.rel_of_mem_take_of_mem_drop htaken holdest, ?_⟩
      rintro rfl
      exact hwindow holdest
    · exact absurd hevent hwindow

theorem mem_messagesEntries_of_isMatched {store : PersistentStore} {section_ : SectionFilter}
    {since : UInt64} (hentry : event ∈ roomEntries store roomId)
    (hmatches : isMatched host section_ ignoredSenders since event = true) :
    event ∈ RoomReads.messagesEntries host.yyjson store roomId ignoredSenders := by
  obtain ⟨hstored, hroom⟩ := mem_filter.mp hentry
  rw [isMatched, Bool.and_eq_true, Bool.not_eq_true'] at hmatches
  exact mem_messagesEntries.mpr ⟨hstored, of_decide_eq_true hroom, hmatches.2⟩

/-- The room is in the answer with the event, or with a token before which it is. -/
def Delivers (host : SyncHost) (tables : SyncTables) (user : Bytes) (response : SyncResponse)
    (event : PersistentEvent) : Prop :=
  ∃ joined ∈ response.join, joined.roomId = event.roomId ∧ (event ∈ joined.timeline ∨
      joined.limited = true ∧ Reaches host tables user event.roomId joined.prevBatch event)

variable (host user sinceToken filter event) in
theorem delivers_of_isMatched (server : SyncServer) (deviceId : Bytes)
    (hlimit : 0 < limits.maxSyncEventsPerRoom) (hnumbered : Numbered server.toSyncTables)
    (hstored : event ∈ server.store.events) (hin : InRoom server.toSyncTables user event.roomId)
    (hadmits : admitsRoom filter event.roomId = true)
    (hplace : HasPlace host limits server.toSyncTables user sinceToken filter event.roomId)
    (hmatches : isMatched host filter.room.timeline
      (resolveIgnoredUsers host server.toSyncTables user) (sinceOrdering sinceToken) event = true) :
    Delivers host server.toSyncTables user
      (buildSyncResponse host limits server user deviceId sinceToken filter).1 event := by
  have hentry : event ∈ roomEntries server.store event.roomId :=
    mem_filter.mpr ⟨hstored, decide_eq_true rfl⟩
  set matched := matchedEvents host server.store filter.room.timeline
    (resolveIgnoredUsers host server.toSyncTables user) (sinceOrdering sinceToken) event.roomId
    with hmatched
  set window := timelineWindow (timelineCap limits filter.room.timeline) matched with hwindow
  have hcases : event ∈ window ∨ timelineCap limits filter.room.timeline < matched.length ∧
      ∃ oldest ∈ matched, window.head? = some oldest ∧
        event.streamOrdering ≤ oldest.streamOrdering ∧ oldest ≠ event :=
    mem_timelineWindow (timelineCap_pos hlimit filter.room.timeline)
      (pairwise_sortByStreamOrdering _) (mem_matchedEvents.mpr ⟨hentry, hmatches⟩)
  refine ⟨_, mem_join hin hadmits (hplace (any_eq_true.mpr ⟨event, hentry, hmatches⟩)) rfl ?_, rfl,
    ?_⟩
  · have hnonempty : window.isEmpty = false := by
      rw [isEmpty_eq_false_iff]
      rcases hcases with hshown | ⟨-, oldest, -, hhead, -⟩
      · exact ne_nil_of_mem hshown
      · exact ne_nil_of_mem (mem_of_head? hhead)
    simp only [isQuiet, buildJoinedRoom, ← hmatched, ← hwindow, hnonempty, Bool.false_and]
  · rcases hcases with hshown | ⟨hlimited, oldest, holdest, hhead, hle, hne⟩
    · exact .inl hshown
    · refine .inr ⟨decide_eq_true hlimited, ?_⟩
      have hprevBatch : prevBatchOf window (sinceOrdering sinceToken) = orderingToken oldest := by
        rw [prevBatchOf, hhead]
      obtain ⟨holdestEntry, holdestMatches⟩ := mem_matchedEvents.mp holdest
      have hnewer : event.streamOrdering < oldest.streamOrdering := by
        refine UInt64.lt_of_le_of_ne hle fun hsame => hne ?_
        exact hnumbered event hstored oldest (mem_filter.mp holdestEntry).1 hsame.symm
      change Reaches host server.toSyncTables user event.roomId (prevBatchOf window _) event
      rw [hprevBatch]
      exact reaches_of_newer hin (mem_messagesEntries_of_isMatched holdestEntry holdestMatches)
        (mem_messagesEntries_of_isMatched hentry hmatches) (hnumbered event hstored) hnewer

end Timelines

section Runs

variable (host : SyncHost) (limits : ClientApiLimits)

/-- A client asks with the same filter each time. -/
structure SyncClient where
  user : Bytes
  deviceId : Bytes
  filter : Option Bytes := none

def SyncClient.syncFilter (client : SyncClient) : SyncFilter :=
  (client.filter.map (parseFilterArgument host.yyjson)).getD {}

structure SentSync where
  server : SyncServer
  since : Option Bytes
  response : SyncResponse

def SentSync.position (sent : SentSync) : UInt64 :=
  sinceOrdering (decodeStreamToken sent.response.nextBatch)

structure SyncRun where
  server : SyncServer
  since : Option Bytes := none
  responses : List SentSync := []

/-- The server goes on to other tables, or the client asks. A request that has waited is
dispatched once more and may not wait then. -/
inductive SyncAction where
  | change (server : SyncServer)
  | sync (timeout : Option Nat) (canWait : Bool)

def SyncRun.act (client : SyncClient) (run : SyncRun) : SyncAction → SyncRun
  | .change server => { run with server }
  | .sync timeout canWait =>
    match syncJson host limits run.server client.user client.deviceId
        { since := run.since, filter := client.filter, timeout } canWait with
    | (.complete response, server) =>
      { server
        since := some response.nextBatch
        responses := run.responses ++ [⟨run.server, run.since, response⟩] }
    | (_, server) => { run with server }

structure Appends (before after : SyncTables) : Prop extends Grows before after where
  numbered : Numbered after

instance decidableAppends (before after : SyncTables) : Decidable (Appends before after) :=
  decidable_of_iff (Grows before after ∧ Numbered after)
    ⟨fun h => ⟨h.1, h.2⟩, fun h => ⟨h.toGrows, h.numbered⟩⟩

/-- Events are appended, and the room has a place in each answer after the first. -/
def InOrder (client : SyncClient) (room : Bytes) (run : SyncRun) : SyncAction → Prop
  | .change server => Appends run.server.toSyncTables server.toSyncTables
  | .sync _ _ => run.since.isSome = true →
      HasPlace host limits run.server.toSyncTables client.user (run.since.bind decodeStreamToken)
        (client.syncFilter host) room

instance decidableInOrder (client : SyncClient) (room : Bytes) (run : SyncRun) :
    DecidablePred (InOrder host limits client room run)
  | .change server => decidableAppends run.server.toSyncTables server.toSyncTables
  | .sync _ _ => inferInstanceAs (Decidable (_ → _))

end Runs

section Steps

variable {client : SyncClient} {room : Bytes} {run : SyncRun}

variable (host) in
theorem advanceSyncStream_eq (server : SyncServer) (since : UInt64) :
    ∃ next statements, (advanceSyncStream host server since).2 = { server with
        database := { server.database with
          persistentStore := { server.store with
            nextSyncStreamId := next, preparedStatements := statements } } } := by
  unfold advanceSyncStream ensureSyncStreamIdAheadOf commitPersistentTransaction
  split_ifs <;> exact ⟨_, _, rfl⟩

variable (host limits client run) in
theorem sync_cases (timeout : Option Nat) (canWait : Bool) :
    let advanced := (advanceSyncStream host run.server
      (sinceSyncStreamId (run.since.bind decodeStreamToken))).2
    let built := buildSyncResponse host limits advanced client.user client.deviceId
      (run.since.bind decodeStreamToken) (client.syncFilter host)
    run.act host limits client (.sync timeout canWait) = { run with server := advanced } ∨
      run.act host limits client (.sync timeout canWait) = ⟨built.2, some built.1.nextBatch,
          run.responses ++ [⟨run.server, run.since, built.1⟩]⟩ := by
  unfold SyncRun.act syncJson
  dsimp only
  split_ifs
  · exact .inl rfl
  · exact .inl rfl
  · exact .inr rfl

variable (host limits client run) in
theorem sync_frame (timeout : Option Nat) (canWait : Bool) :
    let next := run.act host limits client (.sync timeout canWait)
    next.server.database.nextStreamOrdering = run.server.database.nextStreamOrdering ∧
      next.server.store.events = run.server.store.events := by
  intro next
  obtain ⟨counter, statements, hadvanced⟩ := advanceSyncStream_eq host run.server
    (sinceSyncStreamId (run.since.bind decodeStreamToken))
  rcases sync_cases host limits client run timeout canWait with hnext | hnext
  · rw [show next = _ from hnext, hadvanced]
    exact ⟨rfl, rfl⟩
  · rw [show next = _ from hnext, hadvanced]
    exact ⟨rfl, rfl⟩

structure Answered (host : SyncHost) (client : SyncClient) (room : Bytes) (sent : SentSync) :
    Prop where
  position : sent.position = eventWatermark sent.server.toSyncTables
  delivers : sent.since.isSome = true → ∀ event ∈ sent.server.store.events, event.roomId = room →
    InRoom sent.server.toSyncTables client.user room →
    admitsRoom (client.syncFilter host) room = true →
    isMatched host (client.syncFilter host).room.timeline
      (resolveIgnoredUsers host sent.server.toSyncTables client.user)
      (sinceOrdering (sent.since.bind decodeStreamToken)) event = true →
    Delivers host sent.server.toSyncTables client.user sent.response event

structure Follows (earlier later : SentSync) : Prop extends
    Precedes earlier.server.toSyncTables later.server.toSyncTables where
  since : later.since = some earlier.response.nextBatch

structure Chained (host : SyncHost) (client : SyncClient) (room : Bytes) (run : SyncRun) :
    Prop where
  positive : 0 < run.server.database.nextStreamOrdering
  numbered : Numbered run.server.toSyncTables
  answered : ∀ sent ∈ run.responses, Answered host client room sent
  chain : run.responses.IsChain Follows
  last : ∀ last ∈ run.responses.getLast?, run.since = some last.response.nextBatch ∧
    Precedes last.server.toSyncTables run.server.toSyncTables

variable (hlimit : 0 < limits.maxSyncEventsPerRoom) (h : Chained host client room run)
include hlimit h

theorem answered_of_inOrder {timeout : Option Nat} {canWait : Bool}
    (hinOrder : InOrder host limits client room run (.sync timeout canWait)) :
    Answered host client room ⟨run.server, run.since,
      (buildSyncResponse host limits (advanceSyncStream host run.server
        (sinceSyncStreamId (run.since.bind decodeStreamToken))).2 client.user client.deviceId
        (run.since.bind decodeStreamToken) (client.syncFilter host)).1⟩ := by
  obtain ⟨counter, statements, hadvanced⟩ := advanceSyncStream_eq host run.server
    (sinceSyncStreamId (run.since.bind decodeStreamToken))
  refine ⟨?_, ?_⟩
  · unfold SentSync.position buildSyncResponse
    rw [decodeStreamToken_encodeStreamToken]
    rfl
  · intro hsince event hstored hroom hin hadmits hmatches
    subst hroom
    have hdelivers := delivers_of_isMatched host client.user (run.since.bind decodeStreamToken)
      (client.syncFilter host) event (advanceSyncStream host run.server
        (sinceSyncStreamId (run.since.bind decodeStreamToken))).2 client.deviceId hlimit
    rw [hadvanced] at hdelivers ⊢
    exact hdelivers h.numbered hstored hin hadmits (hinOrder hsince) hmatches

theorem act_chained {action : SyncAction} (hinOrder : InOrder host limits client room run action) :
    Chained host client room (run.act host limits client action) := by
  cases action with
  | change server =>
    refine ⟨UInt64.lt_of_lt_of_le h.positive hinOrder.next, hinOrder.numbered, h.answered,
      h.chain, ?_⟩
    intro last hlast
    obtain ⟨hsince, hprecedes⟩ := h.last last hlast
    exact ⟨hsince, hprecedes.of_grows h.positive hinOrder.toGrows⟩
  | sync timeout canWait =>
    obtain ⟨hnext, hevents⟩ := sync_frame host limits client run timeout canWait
    have hpositive := hnext.symm ▸ h.positive
    have hnumbered :
        Numbered (run.act host limits client (.sync timeout canWait)).server.toSyncTables := by
      unfold Numbered
      rw [hevents]
      exact h.numbered
    rcases sync_cases host limits client run timeout canWait with hsame | hsent
    · have hresponses := congrArg SyncRun.responses hsame
      have hsince := congrArg SyncRun.since hsame
      refine ⟨hpositive, hnumbered, hresponses ▸ h.answered, hresponses ▸ h.chain, ?_⟩
      intro last hlast
      obtain ⟨hsinceLast, hprecedes⟩ := h.last last (hresponses ▸ hlast)
      exact ⟨hsince.trans hsinceLast, hprecedes.of_events hnext hevents⟩
    · have hresponses := congrArg SyncRun.responses hsent
      have hsince := congrArg SyncRun.since hsent
      refine ⟨hpositive, hnumbered, ?_, ?_, ?_⟩
      · rw [hresponses]
        exact forall_mem_append.mpr
          ⟨h.answered, forall_mem_singleton.mpr (answered_of_inOrder hlimit h hinOrder)⟩
      · rw [hresponses, isChain_append]
        refine ⟨h.chain, isChain_singleton _, ?_⟩
        rintro last hlast _ ⟨⟩
        obtain ⟨hsinceLast, hprecedes⟩ := h.last last hlast
        exact ⟨hprecedes, hsinceLast⟩
      · rw [hresponses, getLast?_concat]
        rintro _ ⟨⟩
        exact ⟨hsince, (Precedes.refl run.server.toSyncTables).of_events hnext hevents⟩

end Steps

theorem eventPassesFilter_nil {filter : RoomReads.EventTypeFilter} {eventType sender : Bytes}
    (h : eventPassesFilter filter eventType sender = true) :
    eventPassesFilter filter [] sender = true := by
  simp only [eventPassesFilter, Bool.and_eq_true] at h ⊢
  exact ⟨⟨rfl, h.1.2⟩, h.2⟩

/-- An event that comes to the room after the first answer and passes the filter is
delivered by the first answer whose token goes past it. -/
def DeliversAppended (host : SyncHost) (client : SyncClient) (room : Bytes)
    (responses : List SentSync) : Prop :=
  ∀ first between sent after, responses = first :: (between ++ sent :: after) →
    ∀ event ∈ sent.server.store.events, event.roomId = room → event ∉ first.server.store.events →
      (∀ earlier ∈ between, earlier.position < event.streamOrdering) →
      event.streamOrdering ≤ sent.position →
      InRoom sent.server.toSyncTables client.user room →
      admitsRoom (client.syncFilter host) room = true →
      eventPassesFilter (client.syncFilter host).room.timeline.toEventTypeFilter
        (storedEventType host.yyjson event) event.senderUserId = true →
      RoomReads.isDeliverySuppressed host.yyjson
        (resolveIgnoredUsers host sent.server.toSyncTables client.user) event = false →
      Delivers host sent.server.toSyncTables client.user sent.response event

theorem appended_event_is_delivered (host : SyncHost) (limits : ClientApiLimits)
    (client : SyncClient) (room : Bytes) (server : SyncServer) (actions : List SyncAction)
    (hlimit : 0 < limits.maxSyncEventsPerRoom) (hpositive : 0 < server.database.nextStreamOrdering)
    (hnumbered : Numbered server.toSyncTables)
    (halong : Along (SyncRun.act host limits client) (InOrder host limits client room)
      { server } actions) :
    DeliversAppended host client room
      (run (SyncRun.act host limits client) { server } actions).responses := by
  have hstart : Chained host client room { server } :=
    ⟨hpositive, hnumbered, by simp, isChain_nil, by simp⟩
  have hlast := halong.invariant (fun _ _ hbefore => act_chained hlimit hbefore) hstart
  intro first between sent after hresponses event hstored hroom hnew hpassed _ hin hadmits hpasses
    hshown
  have hchain := hlast.chain
  rw [hresponses, ← cons_append, isChain_append] at hchain
  obtain ⟨previous, hprevious⟩ : ∃ previous, (first :: between).getLast? = some previous :=
    ⟨_, getLast?_eq_some_getLast (cons_ne_nil first between)⟩
  have hfollows : Follows previous sent := hchain.2.2 previous hprevious sent rfl
  have hmem : previous ∈ first :: between := mem_of_getLast? hprevious
  have hanswered : ∀ other ∈ first :: (between ++ sent :: after), Answered host client room other :=
    hresponses ▸ hlast.answered
  have hbehind : previous.position < event.streamOrdering := by
    rcases mem_cons.mp hmem with rfl | hbetween
    · -- the first answer had not seen the event, so it does not go up to it either
      rw [(hanswered previous mem_cons_self).position]
      exact UInt64.not_le.mp fun hcovered => hnew (hfollows.stored event hstored hcovered)
    · exact hpassed previous hbetween
  have hsince : sinceOrdering (sent.since.bind decodeStreamToken) = previous.position := by
    rw [hfollows.since]
    rfl
  refine (hanswered sent (by simp)).delivers (by rw [hfollows.since]; rfl) event hstored hroom hin
    hadmits ?_
  rw [isMatched, hsince, decide_eq_false (UInt64.not_le.mpr hbehind),
    eventPassesFilter_nil hpasses, hshown, Bool.and_false]
  rfl

def clubId (number : Nat) : Bytes :=
  utf8 "!club" ++ utf8 (toString number)

def hello : Value :=
  .object [("body", .string "hello"), ("type", .string "m.room.message")]

def greeting (number : Nat) : PersistentEvent where
  eventId := utf8 "$greeting" ++ utf8 (toString number)
  roomId := clubId number
  senderUserId := "@bob:example.org"
  json := canonicalText hello
  depth := 1
  streamOrdering := UInt64.ofNat number + 1
  prevEventIds := []
  authEventIds := []
  signatures := []

def clubHost : SyncHost where
  yyjson := readerOf [hello]
  parseJson _ := none
  backend := memoryBackend

/-- A user in some clubs, with a greeting in each of the first ones. -/
def clubServer (clubs greetings : Nat) : SyncServer where
  database :=
    { persistentStore := { events := (List.range greetings).map greeting }
      rooms := (List.range clubs).map fun number => ⟨clubId number, [utf8 "@alice:example.org"]⟩
      nextStreamOrdering := UInt64.ofNat greetings + 1 }

def clubClient : SyncClient where
  user := "@alice:example.org"
  deviceId := "PHONE"

def clubActions (clubs : Nat) : List SyncAction :=
  [.sync none true, .change (clubServer clubs clubs), .sync none true, .sync none true]

def clubRun (clubs : Nat) : SyncRun :=
  run (SyncRun.act clubHost {} clubClient) { server := clubServer clubs 0 } (clubActions clubs)

/-- How far each answer goes, and the rooms that it has with their timelines. -/
def shownGreetings (clubs : Nat) : List (UInt64 × List (Bytes × List PersistentEvent)) :=
  (clubRun clubs).responses.map fun sent =>
    (sent.position, sent.response.join.map fun joined => (joined.roomId, joined.timeline))

theorem two_greetings_are_delivered :
    Along (SyncRun.act clubHost {} clubClient) (InOrder clubHost {} clubClient (clubId 1))
        { server := clubServer 2 0 } (clubActions 2) ∧
      shownGreetings 2 = [(0, [(clubId 0, []), (clubId 1, [])]),
        (2, [(clubId 0, [greeting 0]), (clubId 1, [greeting 1])]), (2, [])] ∧
      DeliversAppended clubHost clubClient (clubId 1) (clubRun 2).responses := by
  have halong : Along (SyncRun.act clubHost {} clubClient)
      (InOrder clubHost {} clubClient (clubId 1)) { server := clubServer 2 0 } (clubActions 2) := by
    decide +kernel
  exact ⟨halong, by decide +kernel, appended_event_is_delivered clubHost {} clubClient (clubId 1)
    (clubServer 2 0) (clubActions 2) (by decide) (by decide) (by decide) halong⟩

/-- The answer after the greetings has sixteen of the clubs, its token goes past all
seventeen greetings, and the next answer has none. -/
theorem seventeenth_greeting_is_lost :
    Appends (clubServer 17 0).toSyncTables (clubServer 17 17).toSyncTables ∧
      shownGreetings 17 = [(0, (range 16).map fun number => (clubId number, [])),
        (17, (range 16).map fun number => (clubId number, [greeting number])), (17, [])] ∧
      ¬DeliversAppended clubHost clubClient (clubId 16) (clubRun 17).responses := by
  refine ⟨by decide +kernel, by decide +kernel, fun hdelivers => ?_⟩
  obtain ⟨first, sent, last, hresponses⟩ := length_eq_three.mp
    (by decide +kernel : (clubRun 17).responses.length = 3)
  have hfacts : (clubRun 17).responses.map (fun sent =>
      (decide (greeting 16 ∈ sent.server.store.events),
        decide ((greeting 16).streamOrdering ≤ sent.position),
        (rowAt LocalRoom.roomId sent.server.database.rooms (clubId 16)).any
          (·.members.contains clubClient.user),
        RoomReads.isDeliverySuppressed clubHost.yyjson
          (resolveIgnoredUsers clubHost sent.server.toSyncTables clubClient.user) (greeting 16),
        decide (clubId 16 ∈ sent.response.join.map JoinedRoom.roomId))) =
      [(false, false, true, false, false), (true, true, true, false, false),
        (true, true, true, false, false)] := by
    decide +kernel
  simp only [hresponses, map_cons, cons.injEq, Prod.mk.injEq, decide_eq_false_iff_not,
    decide_eq_true_eq, Option.any_eq_true_iff_get] at hfacts
  obtain ⟨⟨hnew, -⟩, ⟨hstored, hpassed, ⟨hsome, hmember⟩, hsuppressed, habsent⟩, -⟩ := hfacts
  obtain ⟨joined, hmem, hroom, -⟩ := hdelivers first [] sent [last] hresponses (greeting 16) hstored
    rfl hnew (by simp) hpassed ⟨_, Option.get_mem hsome, hmember⟩ rfl (by decide +kernel)
    hsuppressed
  exact habsent (mem_map.mpr ⟨joined, hmem, hroom⟩)

end Merovingian.SyncDelivery
