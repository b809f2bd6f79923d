import Mathlib.Data.List.Chain
import Merovingian.ConnectionRuns
import Merovingian.StreamGrowth

/-!
The timeline of a room from one response of a connection to the next. A room starts
where the last response ended, also where that response had no place for the room, and
nothing in a response says that a timeline has been cut. So events of the room get lost
unless the first response that goes past them takes them in.
-/

namespace Merovingian.SlidingSyncGaps

open ByteString KeyedFold JsonValue CanonicalParser StoreTables StreamTokens OperationRuns
  SyncSurfaces SlidingSyncRooms SlidingSyncLists SlidingSync StreamGrowth ConnectionRuns List Option

variable {built : SlidingSyncRoomResponse} {event : PersistentEvent} {host : SyncHost}
  {client : Client}

section Timelines

variable (host : SyncHost) (client : Client) (sent : SentResponse) (room : Bytes)

def floor : UInt64 :=
  roomSince sent.connection.toConnectionSnapshot
    (sinceEventOrdering sent.connection sent.call.pos) room

def results : List (Bytes × RoomListResult) :=
  listResults host sent.tables client.user sent.call.request
    sent.connection.toConnectionSnapshot

def newEvents (prior sent : SentResponse) (room : Bytes) : List PersistentEvent :=
  sent.tables.store.events.filter fun event =>
    event.roomId = room && prior.ordering < event.streamOrdering

/-- The response takes in what is new in the room since the one before: the room is in its
windows or subscriptions, nobody is ignored, and the limit leaves room for all of it. -/
def TakesIn (prior sent : SentResponse) : Prop :=
  let events := newEvents prior sent room
  (events ≠ [] → room ∈ responseRoomIds sent.call.request (results host client sent)) ∧
    (∀ event ∈ events, suppressesEvent host (resolveIgnoredUsers host sent.tables client.user)
      client.user event = false) ∧
    events.length ≤
      (roomConfig sent.call.request (results host client sent) room).timelineLimit

instance (prior sent : SentResponse) : Decidable (TakesIn host client room prior sent) :=
  inferInstanceAs (Decidable (_ ∧ _ ∧ _))

variable {host client sent room} {prior : SentResponse}

/-- A room that is new to the connection is marked as such. -/
theorem initial_or_shown (hmem : (event.roomId, built) ∈ sent.rooms host client)
    (htakes : TakesIn host client event.roomId prior sent)
    (hevent : event ∈ newEvents prior sent event.roomId)
    (hfloor : (roomLastOrdering sent.connection.toConnectionSnapshot event.roomId).isSome →
      floor sent event.roomId = prior.ordering) :
    built.initial = true ∨ clientEventJson host event ∈ built.timelineJson := by
  obtain ⟨_, -, heq⟩ := mem_map.mp hmem
  obtain ⟨rfl, rfl⟩ := Prod.mk.inj heq
  obtain ⟨-, hheeded, hfew⟩ := htakes
  rcases hseen : roomLastOrdering sent.connection.toConnectionSnapshot event.roomId with _ | last
  · exact .inl (congrArg isNone hseen)
  · right
    have hsince : roomSince sent.connection.toConnectionSnapshot
        (sinceEventOrdering sent.connection sent.call.pos) event.roomId = prior.ordering :=
      hfloor (by rw [hseen]; rfl)
    have htimeline : timelineEvents host sent.tables.store event.roomId client.user
        prior.ordering false (resolveIgnoredUsers host sent.tables client.user) =
        (newEvents prior sent event.roomId).insertionSort
          fun lhs rhs => lhs.streamOrdering ≤ rhs.streamOrdering := by
      refine congrArg (insertionSort _) (List.filter_congr fun other hother => ?_)
      cases hnew : (decide (other.roomId = event.roomId) &&
        decide (prior.ordering < other.streamOrdering)) with
      | false => simp_all
      | true => simp_all [hheeded other (mem_filter.mpr ⟨hother, hnew⟩)]
    change _ ∈ (newest (roomConfig sent.call.request (results host client sent)
      event.roomId).timelineLimit (timelineEvents _ _ _ _ _ _ _)).map _
    rw [hsince, hseen, isNone_some, htimeline, newest, length_insertionSort,
      Nat.sub_eq_zero_of_le hfew, List.drop_zero]
    exact mem_map_of_mem ((mem_insertionSort _).mpr hevent)

end Timelines

section Chains

structure Follows (earlier later : SentResponse) : Prop extends
    Precedes earlier.tables later.tables where
  floor : ∀ room, (roomLastOrdering later.connection.toConnectionSnapshot room).isSome →
    floor later room = earlier.ordering

variable {first later : SentResponse} {between : List SentResponse}
  (hchain : (first :: (between ++ [later])).IsChain Follows)
include hchain

theorem stored_earlier (hstored : event ∈ later.tables.store.events)
    (hcovered : event.streamOrdering ≤ first.ordering) : event ∈ first.tables.store.events := by
  induction between generalizing first with
  | nil => exact (isChain_cons_cons.mp hchain).1.stored event hstored hcovered
  | cons second rest ih =>
    obtain ⟨hfollows, hrest⟩ := isChain_cons_cons.mp hchain
    exact hfollows.stored event (ih hrest (UInt64.le_trans hcovered hfollows.ordering)) hcovered

/-- The induction goes over the responses in between, up to the first one that goes
past the event. -/
theorem initial_or_shown_between
    (htakes : (first :: (between ++ [later])).IsChain (TakesIn host client event.roomId))
    (hlater : (event.roomId, built) ∈ later.rooms host client)
    (hstored : event ∈ later.tables.store.events) (hafter : first.ordering < event.streamOrdering)
    (hquiet : ∀ sent ∈ between, event.roomId ∉ (sent.response host client).rooms.map Prod.fst) :
    built.initial = true ∨ clientEventJson host event ∈ built.timelineJson := by
  induction between generalizing first with
  | nil =>
    have hfollows := (isChain_cons_cons.mp hchain).1
    refine initial_or_shown hlater (isChain_cons_cons.mp htakes).1 ?_ (hfollows.floor _)
    exact mem_filter.mpr ⟨hstored, by simpa using hafter⟩
  | cons second rest ih =>
    obtain ⟨hfollows, hrest⟩ := isChain_cons_cons.mp hchain
    obtain ⟨htaken, htakes⟩ := isChain_cons_cons.mp htakes
    by_cases hcovered : event.streamOrdering ≤ second.ordering
    · -- built here with the event or as a new room, so it is in the response
      have hnew : event ∈ newEvents first second event.roomId :=
        mem_filter.mpr ⟨stored_earlier hrest hstored hcovered, by simpa using hafter⟩
      obtain ⟨taken, hbuilt⟩ : ∃ taken, (event.roomId, taken) ∈ second.rooms host client :=
        ⟨_, mem_map_of_mem (htaken.1 (ne_nil_of_mem hnew))⟩
      refine absurd (mem_map.mpr ⟨_, mem_filter.mpr ⟨hbuilt, ?_⟩, rfl⟩)
        (hquiet second mem_cons_self)
      rcases initial_or_shown hbuilt htaken hnew (hfollows.floor _) with hinitial | hshown
      · simp [hasRoomUpdates, hinitial]
      · simp [hasRoomUpdates, ne_nil_of_mem hshown]
    · exact ih hrest htakes (UInt64.not_le.mp hcovered) fun sent hsent =>
        hquiet sent (mem_cons_of_mem _ hsent)

end Chains

section Steps

variable {run : ConnectionRun}

/-- Every response arrives, and the events that come are numbered from the counter
on. -/
def InOrder (run : ConnectionRun) : ConnectionAction client → Prop
  | .change tables => Grows run.runtime.toSyncTables tables
  | .request _ arrives => arrives = true
  | .other _ _ _ _ => True

instance decidableInOrder (run : ConnectionRun) :
    DecidablePred (InOrder run : ConnectionAction client → Prop)
  | .change tables => decidableGrows run.runtime.toSyncTables tables
  | .request _ arrives => inferInstanceAs (Decidable (arrives = true))
  | .other _ _ _ _ => isTrue trivial

def UpToLast (run : ConnectionRun) (ordering : UInt64) : Prop :=
  ∃ last ∈ run.responses.getLast?, ordering ≤ last.ordering

structure SeenUpToLast (run : ConnectionRun) (connection : SlidingSyncConnectionState) : Prop where
  committed : ∀ entry ∈ connection.roomsSeen, UpToLast run entry.2
  pending : ∀ pending, connection.pendingResponse = some pending →
    ∀ entry ∈ pending.roomsSeen, UpToLast run entry.2

structure Gapless (client : Client) (run : ConnectionRun) : Prop where
  unique : KeysUnique run.runtime
  positive : 0 < run.runtime.database.nextStreamOrdering
  chain : run.responses.IsChain Follows
  last : ∀ last ∈ run.responses.getLast?,
    run.pos = some (encodeStreamToken (currentPos last.tables)) ∧
      Precedes last.tables run.runtime.toSyncTables
  connection : ∀ connection, connectionAt run.runtime client.key = some connection →
    SeenUpToLast run connection

theorem SeenUpToLast.fresh : SeenUpToLast run {} :=
  ⟨by simp, by simp⟩

theorem found_seenUpToLast (h : Gapless client run) (call : SlidingSyncCall) (arrives : Bool) :
    SeenUpToLast run (found client run call arrives).connection := by
  obtain ⟨base, hbase, hfound⟩ := foundConnection_cases client.user client.deviceId
    (sentCall client run.pos call) h.unique
  have hseen : SeenUpToLast run base := by
    rcases hbase with rfl | hat
    · exact .fresh
    · exact h.connection base hat
  rw [found, hfound, acknowledge]
  split
  · exact ⟨hseen.committed, hseen.pending⟩
  · next pending hpending =>
      split_ifs
      · exact ⟨hseen.pending pending hpending, by simp⟩
      · exact ⟨hseen.committed, hseen.pending⟩

/-- The floor of a room that was seen is where the last response ended: no room has been
seen further. -/
theorem found_follows (h : Gapless client run) (call : SlidingSyncCall) (arrives : Bool)
    {last : SentResponse} (hlast : last ∈ run.responses.getLast?) :
    Follows last (found client run call arrives) := by
  obtain ⟨hpos, hprecedes⟩ := h.last last hlast
  refine ⟨hprecedes, fun room hseen => ?_⟩
  have hsince : sinceEventOrdering (found client run call arrives).connection
      (found client run call arrives).call.pos = last.ordering := by
    change sinceEventOrdering _ (sentCall client run.pos call).pos = _
    rw [pos_sentCall, hpos, bind_some, decodeStreamToken_encodeStreamToken]
    rfl
  obtain ⟨ordering, hordering⟩ := isSome_iff_exists.mp hseen
  obtain ⟨entry, hentry, rfl⟩ := map_eq_some_iff.mp hordering
  obtain ⟨_, hsame, hle⟩ := (found_seenUpToLast h call arrives).committed entry
    (mem_of_find?_eq_some hentry)
  obtain rfl := some.inj (hlast.symm.trans hsame)
  rw [floor, roomSince, hordering, hsince]
  change (if last.ordering ≤ entry.2 then entry.2 else last.ordering) = last.ordering
  split_ifs with hge
  · exact UInt64.le_antisymm hle hge
  · rfl

theorem SeenUpToLast.of_responses {next : ConnectionRun} {connection : SlidingSyncConnectionState}
    (h : SeenUpToLast run connection) (hresponses : next.responses = run.responses) :
    SeenUpToLast next connection := by
  have hlast : ∀ ordering, UpToLast run ordering → UpToLast next ordering := by
    intro ordering hup
    rwa [UpToLast, hresponses]
  exact ⟨fun entry hentry => hlast _ (h.committed entry hentry),
    fun pending hpending entry hentry => hlast _ (h.pending pending hpending entry hentry)⟩

variable (host client run) in
theorem database_request (call : SlidingSyncCall) (arrives : Bool) :
    (run.act host (.request call arrives : ConnectionAction client)).runtime.database =
      run.runtime.database := by
  have hdatabase := database_dispatch host run.runtime client.user client.deviceId
    (sentCall client run.pos call)
  rw [ConnectionRun.act]
  split
  · next hcomplete => rwa [hcomplete] at hdatabase
  · next hincomplete => rwa [hincomplete] at hdatabase

theorem request_gapless (h : Gapless client run) (call : SlidingSyncCall) :
    Gapless client (run.act host (.request call true : ConnectionAction client)) := by
  have hseen := found_seenUpToLast h call true
  have hunique := keysUnique_act host h.unique (.request call true : ConnectionAction client)
  have hdatabase := database_request host client run call true
  rcases request_cases host client run call true with
    ⟨hresponses, hpos, -, hconnection⟩ | ⟨hresponses, hpos, hconnection⟩
  · refine ⟨hunique, hdatabase ▸ h.positive, hresponses ▸ h.chain, ?_, ?_⟩
    · intro last hlast
      obtain ⟨hposLast, hprecedes⟩ := h.last last (hresponses ▸ hlast)
      exact ⟨hpos.trans hposLast, hprecedes.of_database hdatabase⟩
    · intro connection hat
      rcases hconnection with hnone | hsome
      · exact absurd (hnone.symm.trans hat) (by simp)
      · obtain rfl := some.inj (hsome.symm.trans hat)
        exact hseen.of_responses hresponses
  · have hlastNow : ∀ last, last ∈
        (run.act host (.request call true : ConnectionAction client)).responses.getLast? ↔
          last = found client run call true := by
      intro last
      rw [hresponses, getLast?_concat, mem_def, some.injEq, eq_comm]
    have hreaches : ∀ {ordering}, UpToLast run ordering →
        UpToLast (run.act host (.request call true : ConnectionAction client)) ordering := by
      rintro ordering ⟨last, hlast, hle⟩
      exact ⟨_, (hlastNow _).mpr rfl,
        UInt64.le_trans hle (found_follows h call true hlast).ordering⟩
    refine ⟨hunique, hdatabase ▸ h.positive, ?_, ?_, ?_⟩
    · rw [hresponses, isChain_append]
      refine ⟨h.chain, isChain_singleton _, ?_⟩
      rintro last hlast _ ⟨⟩
      exact found_follows h call true hlast
    · intro last hlast
      obtain rfl := (hlastNow last).mp hlast
      refine ⟨hpos, ?_⟩
      exact (Precedes.refl run.runtime.toSyncTables).of_database hdatabase
    · intro connection hat
      obtain rfl := some.inj (hconnection.symm.trans hat)
      refine ⟨fun entry hentry => hreaches (hseen.committed entry hentry), ?_⟩
      rintro _ ⟨⟩ ⟨room, ordering⟩ hentry
      rcases mem_roomsSeen_pending hentry with hold | ⟨rfl, -⟩
      · exact hreaches (hseen.committed _ hold)
      · exact ⟨_, (hlastNow _).mpr rfl, UInt64.le_refl _⟩

theorem act_gapless (h : Gapless client run) {action : ConnectionAction client}
    (hinOrder : InOrder run action) : Gapless client (run.act host action) := by
  cases action with
  | change tables =>
    refine ⟨h.unique, UInt64.lt_of_lt_of_le h.positive hinOrder.next, h.chain, ?_,
      fun connection hat => (h.connection connection hat).of_responses rfl⟩
    intro last hlast
    obtain ⟨hpos, hprecedes⟩ := h.last last hlast
    exact ⟨hpos, hprecedes.of_grows h.positive hinOrder⟩
  | request call arrives =>
    obtain rfl : arrives = true := hinOrder
    exact request_gapless h call
  | other user deviceId call hother =>
    have hdatabase := database_dispatch host run.runtime user deviceId call
    refine ⟨keysUnique_dispatch _ _ _ _ h.unique, hdatabase.symm ▸ h.positive, h.chain, ?_, ?_⟩
    · intro last hlast
      obtain ⟨hpos, hprecedes⟩ := h.last last hlast
      exact ⟨hpos, hprecedes.of_database hdatabase⟩
    · intro connection hat
      have hbefore := connectionAt_of_dispatch_other h.unique hother hat
      exact (h.connection connection hbefore).of_responses rfl

end Steps

/-- From one response with the room to the next, the second has every event of the room
between their positions in its timeline, or marks the room as initial. -/
def NoSilentGap (host : SyncHost) (client : Client) (room : Bytes)
    (responses : List SentResponse) : Prop :=
  ∀ earlier first between later after, responses = earlier ++ first :: (between ++ later :: after) →
    ∀ built, room ∈ (first.response host client).rooms.map Prod.fst →
      (room, built) ∈ (later.response host client).rooms →
      (∀ sent ∈ between, room ∉ (sent.response host client).rooms.map Prod.fst) →
      ∀ event ∈ later.tables.store.events, event.roomId = room →
        first.ordering < event.streamOrdering → event.streamOrdering ≤ later.ordering →
        built.initial = true ∨ clientEventJson host event ∈ built.timelineJson

theorem no_silent_gap (host : SyncHost) (client : Client) (tables : SyncTables)
    (actions : List (ConnectionAction client)) (hpositive : 0 < tables.database.nextStreamOrdering)
    (halong : Along (ConnectionRun.act host) InOrder { runtime := { toSyncTables := tables } }
      actions) (room : Bytes)
    (htakes : (run (ConnectionRun.act host) { runtime := { toSyncTables := tables } }
      actions).responses.IsChain (TakesIn host client room)) :
    NoSilentGap host client room (run (ConnectionRun.act host)
      { runtime := { toSyncTables := tables } } actions).responses := by
  have hstart : Gapless client { runtime := { toSyncTables := tables } } :=
    ⟨nodup_nil, hpositive, isChain_nil, by simp, by simp [connectionAt, rowAt]⟩
  have hlast := halong.invariant (fun _ _ hbefore => act_gapless hbefore) hstart
  intro earlier first between later after hresponses built _ hlater hquiet event hstored
    hroom hafter _
  subst hroom
  have hall := hlast.chain
  rw [show first :: (between ++ later :: after) = (first :: (between ++ [later])) ++ after by simp]
    at hresponses
  rw [hresponses] at hall htakes
  exact initial_or_shown_between hall.right_of_append.left_of_append
    htakes.right_of_append.left_of_append (mem_filter.mp hlater).1 hstored hafter hquiet

def note (body : Bytes) : Value :=
  .object [("body", .string body), ("type", .string "m.room.message")]

def noteEvent (body : Bytes) (ordering : UInt64) : PersistentEvent where
  eventId := body
  roomId := "!club:example.org"
  senderUserId := "@bob:example.org"
  json := canonicalText (note body)
  depth := ordering
  streamOrdering := ordering
  prevEventIds := []
  authEventIds := []
  signatures := []

def noteHost : SyncHost where
  yyjson := readerOf [note "hello", note "again"]
  parseJson _ := none
  backend := memoryBackend

def noteTables (notes : List PersistentEvent) (next : UInt64) : SyncTables where
  database :=
    { persistentStore :=
        { memberships := [⟨"!club:example.org", "@alice:example.org", "join", 3⟩]
          events := notes }
      nextStreamOrdering := next }
  rooms := ["!club:example.org"]

def noteClient : Client := ⟨"@alice:example.org", "PHONE", none⟩

/-- Three requests with a note before the second and one before the third. The first and
the third subscribe to the club, the second only if the client stays in it. -/
def noteActions (stays : Bool) : List (ConnectionAction noteClient) :=
  let call (subscribes : Bool) : SlidingSyncCall :=
    { request := { roomSubscriptions :=
        if subscribes then [("!club:example.org", {})] else [] } }
  [.request (call true) true, .change (noteTables [noteEvent "hello" 7] 8),
    .request (call stays) true,
    .change (noteTables [noteEvent "hello" 7, noteEvent "again" 8] 9), .request (call true) true]

def noteRun (stays : Bool) : ConnectionRun :=
  run (ConnectionRun.act noteHost) { runtime := { toSyncTables := noteTables [] 7 } }
    (noteActions stays)

/-- How far the responses go, whether the first note is stored by then, and the club in
each of them. -/
def shownNotes (stays : Bool) : List (UInt64 × Bool × List (Bytes × Bool × List Bytes)) :=
  (noteRun stays).responses.map fun sent =>
    (sent.ordering, sent.tables.store.events.contains (noteEvent "hello" 7),
      (sent.response noteHost noteClient).rooms.map fun room =>
        (room.1, room.2.initial, room.2.timelineJson))

theorem notes_are_shown :
    NoSilentGap noteHost noteClient "!club:example.org" (noteRun true).responses :=
  no_silent_gap noteHost noteClient (noteTables [] 7) (noteActions true) (by decide)
    (by decide +kernel) _ (by decide +kernel)

set_option synthInstance.maxSize 256 in
/-- The first note comes while the room is outside, and the room starts after it when it
is back. -/
theorem note_outside_the_windows_is_lost :
    Along (ConnectionRun.act noteHost) InOrder { runtime := { toSyncTables := noteTables [] 7 } }
        (noteActions false) ∧
      ¬ NoSilentGap noteHost noteClient "!club:example.org" (noteRun false).responses := by
  refine ⟨by decide +kernel, fun h => ?_⟩
  obtain ⟨first, second, third, hresponses⟩ :=
    length_eq_three.mp (show (noteRun false).responses.length = 3 by decide +kernel)
  have hshown : shownNotes false =
      [(6, false, [(utf8 "!club:example.org", true, [])]), (7, true, []),
        (8, true, [(utf8 "!club:example.org", false,
          [clientEventJson noteHost (noteEvent "again" 8)])])] := by
    decide +kernel
  simp only [shownNotes, hresponses, map_cons, map_nil, cons.injEq, Prod.mk.injEq, and_true]
    at hshown
  obtain ⟨⟨hfirst, -, hopened⟩, ⟨-, -, hsecond⟩, hthird, hevents, hback⟩ := hshown
  obtain ⟨⟨room, opened⟩, hopened, heq⟩ := mem_map.mp (hopened ▸ mem_singleton_self _)
  obtain ⟨rfl, -⟩ := Prod.mk.inj heq
  obtain ⟨⟨room, built⟩, hbuilt, heq⟩ := mem_map.mp (hback ▸ mem_singleton_self _)
  obtain ⟨rfl, hnot⟩ := Prod.mk.inj heq
  obtain ⟨hinitial, htimeline⟩ := Prod.mk.inj hnot
  have hlost := h [] first [second] third [] hresponses built (mem_map_of_mem hopened) hbuilt
    (by simp [map_eq_nil_iff.mp hsecond]) (noteEvent "hello" 7) (by simpa using hevents) rfl
    (hfirst ▸ by decide) (hthird ▸ by decide)
  rw [hinitial, htimeline] at hlost
  exact absurd hlost (by decide +kernel)

end Merovingian.SlidingSyncGaps
