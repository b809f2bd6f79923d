import Merovingian.OperationRuns
import Merovingian.RoomWrites

/-!
Who gets to see an event. The law of the specification is about the room at the
event: its history visibility, the user's membership, and whether the user joined
later. The read endpoints look at the room at the time of the request instead. What
they let through in every run is stated here in the terms of the law.
-/

namespace Merovingian.HistoryVisibility

open ByteString JsonValue CanonicalParser EventSigning AuthVerdicts KeyedFold StoreTables
  EventQueries OperationRuns RoomHistory RoomHistory.RoomTables RoomReads RoomWrites List

inductive Visibility where
  | worldReadable
  | shared
  | invited
  | joined
deriving DecidableEq

/-- A room without the event, or with a value that is not understood, is shared. -/
def parseVisibility (text : Option Bytes) : Visibility :=
  if text = some (utf8 "world_readable") then .worldReadable
  else if text = some (utf8 "invited") then .invited
  else if text = some (utf8 "joined") then .joined
  else .shared

section Law

variable (yyjson : Yyjson) (events : List PersistentEvent) (event : PersistentEvent)
  (userId : Bytes)

def visibilityAt (events : List PersistentEvent) (roomId : Bytes) : Visibility :=
  parseVisibility <|
    (stateAt yyjson events ⟨roomId, "m.room.history_visibility", []⟩).bind
      (contentText yyjson "history_visibility")

def historyBefore : List PersistentEvent :=
  events.takeWhile fun other => other.eventId ≠ event.eventId

def visibilityOf : Visibility := visibilityAt yyjson (historyBefore events event) event.roomId

def membershipOf : Option Bytes :=
  membershipAt yyjson (historyBefore events event) event.roomId userId

def joinedAfter : Bool :=
  events.inits.any fun history =>
    history.any (fun other => other.eventId = event.eventId) &&
      membershipAt yyjson history event.roomId userId = some (utf8 "join")

/-- A user who has left the room and was joined to it at some time. -/
def formerMember (roomId userId : Bytes) : Bool :=
  membershipAt yyjson events roomId userId = some (utf8 "leave") &&
    events.inits.any fun history =>
      membershipAt yyjson history roomId userId = some (utf8 "join")

/-- The rule of the specification. -/
def visibleTo : Bool :=
  visibilityOf yyjson events event = .worldReadable ||
    membershipOf yyjson events event userId = some (utf8 "join") ||
    (visibilityOf yyjson events event = .shared && joinedAfter yyjson events event userId) ||
    (visibilityOf yyjson events event = .invited &&
      membershipOf yyjson events event userId = some (utf8 "invite"))

/-- The rule without the condition that the room was shared. -/
def disclosedTo : Bool :=
  visibilityOf yyjson events event = .worldReadable ||
    membershipOf yyjson events event userId = some (utf8 "join") ||
    joinedAfter yyjson events event userId ||
    (visibilityOf yyjson events event = .invited &&
      membershipOf yyjson events event userId = some (utf8 "invite"))

variable {yyjson events event userId}

variable (hmem : event ∈ events)
  (hjoined : membershipAt yyjson events event.roomId userId = some (utf8 "join"))
include hmem hjoined

theorem joinedAfter_of_joined : joinedAfter yyjson events event userId = true := by
  rw [joinedAfter, any_eq_true]
  refine ⟨events, (mem_inits _ _).mpr (prefix_refl events), ?_⟩
  rw [Bool.and_eq_true, any_eq_true, decide_eq_true_eq]
  exact ⟨⟨event, hmem, by simp⟩, hjoined⟩

theorem disclosedTo_of_joined : disclosedTo yyjson events event userId = true := by
  simp [disclosedTo, joinedAfter_of_joined hmem hjoined]

end Law

inductive RoomAction (yyjson : Yyjson) where
  | create (creation : RoomCreation yyjson)
  | emit (event : ComposedEvent)
  | send (event : ComposedEvent)
  | transition (event : MembershipEvent yyjson)
  | forget (roomId userId : Bytes)
  | receive (pduJson roomVersion : Bytes)
  | setAccountData (rows : List PersistentAccountData)

section Runs

variable (yyjson : Yyjson) (sodium : Libsodium) (backend : Backend)

variable {yyjson} in
def act (runtime : ClientServerRuntime) : RoomAction yyjson → ClientServerRuntime
  | .create creation => (createRoom sodium backend runtime creation).2
  | .emit event =>
    { runtime with
      database := (emitInitialStateEvent yyjson sodium backend runtime.database event).2 }
  | .send event =>
    { runtime with database := (sendEvent yyjson sodium backend runtime.database event).2 }
  | .transition event =>
    { runtime with
      database := (persistMembershipTransition sodium backend runtime.database event).2 }
  | .forget roomId userId =>
    { runtime with database := (forgetRoom runtime.database roomId userId).2 }
  | .receive pduJson roomVersion =>
    { runtime with
      database := receivePdu yyjson sodium backend runtime.database pduJson roomVersion }
  | .setAccountData rows => { runtime with accountData := rows }

def isMemberEvent (event : ComposedEvent) : Bool :=
  topLevelJsonStringField yyjson event.json "type" = some (utf8 "m.room.member")

variable {yyjson} in
/-- No room is left half created, and members change by membership operations alone. -/
def Orderly (runtime : ClientServerRuntime) : RoomAction yyjson → Prop
  | .create creation => (createRoom sodium backend runtime creation).1 = true
  | .emit event | .send event => isMemberEvent yyjson event = false
  | _ => True

variable {yyjson sodium backend}

instance decidableOrderly (runtime : ClientServerRuntime) :
    DecidablePred (Orderly sodium backend runtime : RoomAction yyjson → Prop)
  | .create _ | .emit _ | .send _ => inferInstanceAs (Decidable (_ = _))
  | .transition _ | .forget _ _ | .receive _ _ | .setAccountData _ => isTrue trivial

theorem notMember_row {event : ComposedEvent} (h : isMemberEvent yyjson event = false)
    (ordering : UInt64) : NotMember yyjson (event.row ordering) := by
  intro roomId userId htuple
  unfold eventTuple at htuple
  split at htuple
  · next eventType stateKey htype _ =>
      rw [Option.some.injEq, memberTuple, StateTuple.mk.injEq] at htuple
      rw [htuple.2.1] at htype
      exact of_decide_eq_false h htype
  · cases htuple

theorem reflects_empty : Reflects yyjson (roomTables {}) := by
  refine ⟨⟨nodup_nil, nodup_nil, fun _ => rfl⟩, nodup_nil, ?_, ?_, ?_⟩
  · intro row hrow
    cases hrow
  · intro roomId room hroom
    cases hroom
  · rintro roomId userId ⟨room, hroom, -⟩
    cases hroom

theorem act_reflects (hbackend : ∀ statements, backend statements = true)
    {runtime : ClientServerRuntime} {action : RoomAction yyjson}
    (h : Reflects yyjson (roomTables runtime.database))
    (horderly : Orderly sodium backend runtime action) :
    Reflects yyjson (roomTables (act sodium backend runtime action).database) := by
  cases action with
  | create creation => exact create_reflects h horderly
  | emit event => exact emit_reflects h (notMember_row horderly)
  | send event => exact send_reflects h (notMember_row horderly)
  | transition event => exact transition_reflects h hbackend event
  | forget roomId userId => exact forget_reflects h roomId userId
  | receive pduJson roomVersion => exact receive_reflects hbackend h pduJson roomVersion
  | setAccountData rows => exact h

end Runs

section Requests

variable {yyjson : Yyjson} {runtime : ClientServerRuntime} {userId : Bytes} {request : RoomRequest}
  {event : PersistentEvent}

theorem roomStateString_eq (h : Tracks yyjson (roomTables runtime.database))
    (roomId eventType contentKey stateKey : Bytes) :
    roomStateString yyjson runtime.database.persistentStore roomId eventType contentKey stateKey =
      (stateAt yyjson runtime.database.persistentStore.events
        ⟨roomId, eventType, stateKey⟩).bind (contentText yyjson contentKey) := by
  unfold roomStateString
  have hcurrent := h.current ⟨roomId, eventType, stateKey⟩
  change (rowAt stateTuple runtime.database.persistentStore.state _).map _ =
    (stateAt yyjson runtime.database.persistentStore.events _).map _ at hcurrent
  cases hrow : rowAt stateTuple runtime.database.persistentStore.state
      ⟨roomId, eventType, stateKey⟩ with
  | none =>
    rw [hrow, Option.map_none, eq_comm, Option.map_eq_none_iff] at hcurrent
    rw [hcurrent]
    rfl
  | some row =>
    rw [hrow, Option.map_some, eq_comm, Option.map_eq_some_iff] at hcurrent
    obtain ⟨found, hfound, hid⟩ := hcurrent
    have hevent : findEvent runtime.database.persistentStore row.eventId = some found :=
      hid ▸ TableMirror.rowAt_of_mem h.ids (stateAt_spec hfound).1
    rw [hfound, Option.bind_some, Option.bind_some, hevent, Option.bind_some]
    rfl

theorem hasJoined_of_isJoined {store : PersistentStore} {roomId : Bytes}
    (h : isJoined store roomId userId = true) : HasJoined store.memberships roomId userId := by
  obtain ⟨row, hrow, hmatches⟩ := any_eq_true.mp h
  simp only [Bool.and_eq_true, decide_eq_true_eq] at hmatches
  exact ⟨row, hrow, Prod.ext hmatches.1.1 hmatches.1.2, hmatches.2⟩

theorem recordedMembership_eq (h : Reflects yyjson (roomTables runtime.database))
    (roomId userId : Bytes) :
    recordedMembership yyjson runtime.database.persistentStore roomId userId =
      membershipAt yyjson runtime.database.persistentStore.events roomId userId := by
  unfold recordedMembership
  split
  · next row hrow =>
      have hkey : membershipKey row = (roomId, userId) := by simpa using find?_some hrow
      obtain ⟨rfl, rfl⟩ := Prod.mk.inj hkey
      exact (h.recorded row (mem_of_find?_eq_some hrow)).symm
  · exact roomStateString_eq h.toTracks roomId "m.room.member" "membership" userId

/-- Whom a request is meant for. The summary of a room is for its members, for those who
have left it, and for users who look in from outside. It is also given to users who are
invited, knocking or banned, and to those who left without having joined. -/
def MeantFor (yyjson : Yyjson) (events : List PersistentEvent) (userId : Bytes) :
    RoomRequest → Prop
  | .initialSync roomId _ =>
    membershipAt yyjson events roomId userId = none ∨
      membershipAt yyjson events roomId userId = some (utf8 "join") ∨
      formerMember yyjson events roomId userId = true
  | _ => True

/-- The summary of a room shows all of it to former members, and to everyone where the
room is readable by the world now. -/
def Summarized (yyjson : Yyjson) (events : List PersistentEvent) (userId : Bytes) :
    RoomRequest → Prop
  | .initialSync roomId _ =>
    formerMember yyjson events roomId userId = true ∨
      visibilityAt yyjson events roomId = .worldReadable
  | _ => False

theorem disclosed_or_summarized (h : Reflects yyjson (roomTables runtime.database))
    (hadmitted : Admitted yyjson runtime userId request)
    (hmeant : MeantFor yyjson runtime.database.persistentStore.events userId request)
    (hmem : event ∈ runtime.database.persistentStore.events)
    (hroom : event.roomId = request.roomId) :
    disclosedTo yyjson runtime.database.persistentStore.events event userId = true ∨
      Summarized yyjson runtime.database.persistentStore.events userId request := by
  have hdisclosed (hjoined : membershipAt yyjson runtime.database.persistentStore.events
      request.roomId userId = some (utf8 "join")) :
      disclosedTo yyjson runtime.database.persistentStore.events event userId = true :=
    disclosedTo_of_joined hmem (hroom ▸ hjoined)
  cases request with
  | messages roomId query => exact .inl (hdisclosed (h.joined (h.listed _ _ hadmitted)))
  | event roomId eventId => exact .inl (hdisclosed (h.joined (hasJoined_of_isJoined hadmitted)))
  | context roomId eventId filter limit =>
    exact .inl (hdisclosed (h.joined (hasJoined_of_isJoined hadmitted)))
  | initialSync roomId limit =>
    rw [Admitted, recordedMembership_eq h, roomStateString_eq h.toTracks] at hadmitted
    rcases hmeant with hnone | hjoined | hformer
    · rw [hnone, Option.isSome_none] at hadmitted
      have hreadable := hadmitted.resolve_left Bool.false_ne_true
      refine .inr (.inr ?_)
      rw [visibilityAt, hreadable]
      rfl
    · exact .inl (hdisclosed hjoined)
    · exact .inr (.inl hformer)

theorem exists_of_any
    (h : (readRoom yyjson runtime userId request).toOption.any (fun answer =>
      event ∈ answer.events) = true) :
    ∃ answer, readRoom yyjson runtime userId request = .ok answer ∧ event ∈ answer.events := by
  cases hread : readRoom yyjson runtime userId request with
  | error refusal => simp [hread, Except.toOption] at h
  | ok answer => exact ⟨answer, rfl, by simpa [hread, Except.toOption] using h⟩

end Requests

def clubMessage (body : Bytes) : Value :=
  .object [("content", .object [("body", .string body)]),
    ("room_id", .string "!club:example.org"), ("sender", .string "@alice:example.org"),
    ("type", .string "m.room.message")]

def closedRoomEvents : List (Bytes × Value) :=
  [("$create", clubEvent
      [("creator", .string "@alice:example.org"), ("room_version", .string "10")]
      "m.room.create" "@alice:example.org" ""),
    ("$alice", clubEvent [("membership", .string "join")] "m.room.member"
      "@alice:example.org" "@alice:example.org"),
    ("$rules", clubEvent [("join_rule", .string "public")] "m.room.join_rules"
      "@alice:example.org" ""),
    ("$visibility", clubEvent [("history_visibility", .string "joined")]
      "m.room.history_visibility" "@alice:example.org" ""),
    ("$message", clubMessage "hello"),
    ("$bob", clubEvent [("membership", .string "join")] "m.room.member"
      "@bob:example.org" "@bob:example.org"),
    ("$bobLeaves", clubEvent [("membership", .string "leave")] "m.room.member"
      "@bob:example.org" "@bob:example.org"),
    ("$later", clubMessage "goodbye"),
    ("$opened", clubEvent [("history_visibility", .string "world_readable")]
      "m.room.history_visibility" "@alice:example.org" "")]

def closedRoomReader : Yyjson := readerOf (closedRoomEvents.map Prod.snd)

def closedRoomEvent (eventId sender : Bytes) : ComposedEvent where
  eventId := eventId
  roomId := "!club:example.org"
  sender := sender
  json := canonicalText ((closedRoomEvents.lookup eventId).getD .null)

set_option maxRecDepth 8000 in
def aliceJoins : MembershipEvent closedRoomReader where
  toComposedEvent := closedRoomEvent "$alice" "@alice:example.org"
  target := "@alice:example.org"
  membership := "join"
  root := _
  parses := rfl
  hasType := rfl
  hasTarget := rfl
  hasContent := rfl

set_option maxRecDepth 8000 in
def bobJoins : MembershipEvent closedRoomReader where
  toComposedEvent := closedRoomEvent "$bob" "@bob:example.org"
  target := "@bob:example.org"
  membership := "join"
  root := _
  parses := rfl
  hasType := rfl
  hasTarget := rfl
  hasContent := rfl

set_option maxRecDepth 8000 in
def bobLeaves : MembershipEvent closedRoomReader where
  toComposedEvent := closedRoomEvent "$bobLeaves" "@bob:example.org"
  target := "@bob:example.org"
  membership := "leave"
  root := _
  parses := rfl
  hasType := rfl
  hasTarget := rfl
  hasContent := rfl

def closedRoomCreation : RoomCreation closedRoomReader where
  create := closedRoomEvent "$create" "@alice:example.org"
  creator := aliceJoins
  isCreate := by decide +kernel
  sameRoom := rfl
  joins := rfl

def closedRoomActions : List (RoomAction closedRoomReader) :=
  [.create closedRoomCreation, .emit (closedRoomEvent "$rules" "@alice:example.org"),
    .emit (closedRoomEvent "$visibility" "@alice:example.org"),
    .send (closedRoomEvent "$message" "@alice:example.org"), .transition bobJoins]

/-- Bob leaves, Alice sends another message and then opens the room to the world. -/
def openedRoomActions : List (RoomAction closedRoomReader) :=
  closedRoomActions ++ [.transition bobLeaves,
    .send (closedRoomEvent "$later" "@alice:example.org"),
    .send (closedRoomEvent "$opened" "@alice:example.org")]

def closedRoomMessage : PersistentEvent :=
  (closedRoomEvent "$message" "@alice:example.org").row 5

def laterMessage : PersistentEvent := (closedRoomEvent "$later" "@alice:example.org").row 10

def eventsAfter (actions : List (RoomAction closedRoomReader)) : List PersistentEvent :=
  (run (act notReady memoryBackend) {} actions).database.persistentStore.events

def Reads (actions : List (RoomAction closedRoomReader)) (userId : Bytes) (request : RoomRequest)
    (event : PersistentEvent) : Prop :=
  ∃ answer, readRoom closedRoomReader (run (act notReady memoryBackend) {} actions) userId
    request = .ok answer ∧ event ∈ answer.events

/-- The server starts empty, its database commits every write, no creation fails halfway and
membership events come from membership operations alone. In every such run, an event that
an answer includes is disclosed to a user whom the request is meant for: by the rule, a
shared room not being asked for, or in the summary of a room. -/
theorem included_event_is_disclosed {yyjson : Yyjson} {sodium : Libsodium} {backend : Backend}
    (hbackend : ∀ statements, backend statements = true) {actions : List (RoomAction yyjson)}
    (horderly : Along (act sodium backend) (Orderly sodium backend) {} actions)
    {runtime : ClientServerRuntime} (hruntime : runtime = run (act sodium backend) {} actions)
    {userId : Bytes} {request : RoomRequest}
    (hmeant : MeantFor yyjson runtime.database.persistentStore.events userId request)
    {answer : RoomAnswer} (hread : readRoom yyjson runtime userId request = .ok answer)
    {event : PersistentEvent} (hincluded : event ∈ answer.events)
    (hroom : event.roomId = request.roomId) :
    event ∈ runtime.database.persistentStore.events ∧
      (disclosedTo yyjson runtime.database.persistentStore.events event userId = true ∨
        Summarized yyjson runtime.database.persistentStore.events userId request) := by
  subst hruntime
  obtain ⟨hadmitted, hstored⟩ := readRoom_ok hread
  have hmem := hstored event hincluded
  have hreflects : Reflects yyjson (roomTables (run (act sodium backend) {} actions).database) :=
    horderly.invariant (fun _ _ => act_reflects hbackend) reflects_empty
  exact ⟨hmem, disclosed_or_summarized hreflects hadmitted hmeant hmem hroom⟩

theorem closedRoom_orderly :
    Along (act notReady memoryBackend) (Orderly notReady memoryBackend) {} closedRoomActions := by
  decide +kernel

theorem bob_reads_message :
    Reads closedRoomActions "@bob:example.org" (.messages "!club:example.org" {})
      closedRoomMessage :=
  exists_of_any (by decide +kernel)

theorem message_is_disclosed :
    Reads closedRoomActions "@bob:example.org" (.messages "!club:example.org" {})
        closedRoomMessage ∧
      closedRoomMessage ∈ eventsAfter closedRoomActions ∧
      (disclosedTo closedRoomReader (eventsAfter closedRoomActions) closedRoomMessage
          "@bob:example.org" = true ∨
        Summarized closedRoomReader (eventsAfter closedRoomActions) "@bob:example.org"
          (.messages "!club:example.org" {})) := by
  have hbackend : ∀ statements, memoryBackend statements = true := fun _ => rfl
  have hmeant : MeantFor closedRoomReader (eventsAfter closedRoomActions) "@bob:example.org"
      (.messages "!club:example.org" {}) := trivial
  have hroom : closedRoomMessage.roomId = utf8 "!club:example.org" := rfl
  obtain ⟨answer, hread, hincluded⟩ := bob_reads_message
  exact ⟨⟨answer, hread, hincluded⟩, included_event_is_disclosed hbackend closedRoom_orderly rfl
    hmeant hread hincluded hroom⟩

/-- A user reads what was sent in a room for joined users before they joined and, in its
summary, what was sent after they left. So does a user from outside, once it is open. -/
theorem message_before_join_is_read :
    Along (act notReady memoryBackend) (Orderly notReady memoryBackend) {} openedRoomActions ∧
      Reads closedRoomActions "@bob:example.org" (.messages "!club:example.org" {})
        closedRoomMessage ∧
      visibleTo closedRoomReader (eventsAfter closedRoomActions) closedRoomMessage
        "@bob:example.org" = false ∧
      Reads openedRoomActions "@bob:example.org" (.initialSync "!club:example.org" none)
        laterMessage ∧
      visibleTo closedRoomReader (eventsAfter openedRoomActions) laterMessage
        "@bob:example.org" = false ∧
      Reads openedRoomActions "@carol:example.org" (.initialSync "!club:example.org" none)
        closedRoomMessage ∧
      visibleTo closedRoomReader (eventsAfter openedRoomActions) closedRoomMessage
        "@carol:example.org" = false :=
  ⟨by decide +kernel, bob_reads_message, by decide +kernel, exists_of_any (by decide +kernel),
    by decide +kernel, exists_of_any (by decide +kernel), by decide +kernel⟩

end Merovingian.HistoryVisibility
