import Merovingian.AuthVerdicts
import Merovingian.RoomHistory
import Merovingian.RoomReads

/-!
The writes to a room: its creation, what its members send, the membership
operations of local users, and the PDUs of other servers. A membership operation
and a PDU also write the membership table and the room's list of members. Each
write is shown to keep the tables in agreement with the history, where the
backend commits.
-/

namespace Merovingian.RoomWrites

open ByteString JsonValue CanonicalParser EventSigning RoomVersions EventAuthorization
  MembershipRules KeyedFold RoomState StoreTables AuthEventMaps AuthVerdicts PduIngestion
  EventEnvelopes RoomReads RoomHistory RoomHistory.RoomTables List Option

variable {yyjson : Yyjson} {backend : Backend} {streamOrdering : UInt64} {database : LocalDatabase}
  {sodium : Libsodium}

structure ComposedEvent where
  eventId : Bytes
  roomId : Bytes
  sender : Bytes
  json : Bytes
  depth : UInt64 := 1
  prevEventIds : List Bytes := []
  authEventIds : List Bytes := []
  signatures : List EventSignature := []

def membershipContent (membership reason : Bytes) (isDirect : Bool) : Object :=
  (if isDirect then [(utf8 "is_direct", Value.boolean true)] else []) ++
    (utf8 "membership", Value.string membership) ::
      if reason.isEmpty then [] else [(utf8 "reason", .string reason)]

structure MembershipEvent (yyjson : Yyjson) extends ComposedEvent where
  target : Bytes
  membership : Bytes
  reason : Bytes := []
  isDirect : Bool := false
  root : Object
  parses : parseLossless yyjson json = .ok (.object root)
  hasType : stringMember root "type" = some (utf8 "m.room.member")
  hasTarget : stringMember root "state_key" = some target
  hasContent :
    objectMemberAsObject root "content" = some (membershipContent membership reason isDirect)

/-- The first two events of a room: its create event and the join of its creator. -/
structure RoomCreation (yyjson : Yyjson) where
  create : ComposedEvent
  creator : MembershipEvent yyjson
  isCreate : topLevelJsonStringField yyjson create.json "type" = some (utf8 "m.room.create")
  sameRoom : creator.roomId = create.roomId
  joins : creator.membership = "join"

section Operations

variable (yyjson : Yyjson) (sodium : Libsodium) (backend : Backend)

section

variable (database : LocalDatabase) (event : ComposedEvent) (store : PersistentStore)

def storeEventWithState (event : PersistentEvent) (state : Option PersistentStateEvent) : Bool ×
    PersistentStore :=
  match prepareStoreEventWithState yyjson store event state with
  | none => (false, store)
  | some prepared =>
    match commitPersistentTransaction backend store prepared.statements with
    | (false, store) => (false, store)
    | (true, store) => (true, applyStoreEventWithState store prepared)

def contentRoomVersion (create : Value) : Bytes :=
  ((eventContentString create "room_version").filter fun version => !version.isEmpty).getD "12"

def roomVersionForRoom (roomId : Bytes) : Bytes :=
  match rowAt stateTuple store.state ⟨roomId, "m.room.create", []⟩ with
  | none => "12"
  | some row => contentRoomVersion (findEventJson yyjson store row.eventId)

def composeAllows (roomId : Bytes) (event : Value) : Bool :=
  let roomVersion :=
    if eventText event "type" = "m.room.create" then contentRoomVersion event
    else roomVersionForRoom yyjson store roomId
  (findRoomVersionPolicy roomVersion).any fun policy =>
    (localDecision sodium yyjson store roomId policy event).allowed

def ComposedEvent.row (streamOrdering : UInt64) : PersistentEvent where
  eventId := event.eventId
  roomId := event.roomId
  senderUserId := event.sender
  json := event.json
  depth := event.depth
  streamOrdering := streamOrdering
  prevEventIds := event.prevEventIds
  authEventIds := event.authEventIds
  signatures := event.signatures

def persistComposedEvent : Bool × LocalDatabase :=
  let (streamOrdering, database) := allocateStreamOrdering backend database
  let row := event.row streamOrdering
  let stored := storeEventWithState yyjson backend database.persistentStore row
    (eventState yyjson row)
  (stored.1, { database with persistentStore := stored.2 })

def emitInitialStateEvent : Bool × LocalDatabase :=
  match parseLossless yyjson event.json with
  | .error _ => (false, database)
  | .ok value =>
    if !composeAllows yyjson sodium database.persistentStore event.roomId value then
      (false, database)
    else persistComposedEvent yyjson backend database event

def sendEvent : Bool × LocalDatabase :=
  if (rowAt LocalRoom.roomId database.rooms event.roomId).any fun room =>
      room.members.contains event.sender then
    emitInitialStateEvent yyjson sodium backend database event
  else (false, database)

end

/-- An invite and a knock leave the list of members as it is. -/
def runtimeMembers (userId membership : Bytes) (members : List Bytes) : List Bytes :=
  if membership = "join" && !members.contains userId then members ++ [userId]
  else if membership = "leave" || membership = "ban" then members.erase userId
  else members

def updateRoomMembers (rooms : List LocalRoom) (roomId : Bytes)
    (update : List Bytes → List Bytes) : List LocalRoom :=
  match rowAt LocalRoom.roomId rooms roomId with
  | none => rooms
  | some room => putRow LocalRoom.roomId ⟨room.roomId, update room.members⟩ rooms

def applyRuntimeMembership (database : LocalDatabase) (roomId userId membership : Bytes) :
    LocalDatabase :=
  { database with
    rooms := updateRoomMembers database.rooms roomId (runtimeMembers userId membership) }

variable {yyjson} in
/-- Joining, leaving, inviting, knocking, kicking, banning and unbanning. -/
def persistMembershipTransition (database : LocalDatabase) (event : MembershipEvent yyjson) :
    Bool × LocalDatabase :=
  match emitInitialStateEvent yyjson sodium backend database event.toComposedEvent with
  | (false, database) => (false, database)
  | (true, database) =>
    let (streamOrdering, database) := allocateStreamOrdering backend database
    match upsertMembership backend database.persistentStore
        ⟨event.roomId, event.target, event.membership, streamOrdering⟩ with
    | (false, store) => (false, { database with persistentStore := store })
    | (true, store) =>
      (true, applyRuntimeMembership { database with persistentStore := store } event.roomId
        event.target event.membership)

variable {yyjson} in
/-- The creator is in the tables before the events are written. -/
def createRoom (runtime : ClientServerRuntime) (creation : RoomCreation yyjson) :
    Bool × ClientServerRuntime :=
  let roomId := creation.create.roomId
  let database := runtime.database
  let row : PersistentMembership := ⟨roomId, creation.creator.target, "join", 0⟩
  if runtime.persistentRooms.contains roomId || membershipExists database.persistentStore row then
    (false, runtime)
  else
    match commitPersistentTransaction backend database.persistentStore
        [.insertMembership row] with
    | (false, store) =>
      (false, { runtime with database := { database with persistentStore := store } })
    | (true, store) =>
      let database : LocalDatabase :=
        { database with
          persistentStore := { store with memberships := store.memberships ++ [row] }
          rooms := database.rooms ++ [⟨roomId, [creation.creator.target]⟩] }
      let runtime := { runtime with persistentRooms := runtime.persistentRooms ++ [roomId] }
      match emitInitialStateEvent yyjson sodium backend database creation.create with
      | (false, database) => (false, { runtime with database := database })
      | (true, database) =>
        let (done, database) := emitInitialStateEvent yyjson sodium backend database
          creation.creator.toComposedEvent
        (done, { runtime with database := database })

/-- Drops the row of a user who has left or is banned. -/
def forgetRoom (database : LocalDatabase) (roomId userId : Bytes) : Bool × LocalDatabase :=
  let store := database.persistentStore
  match rowAt membershipKey store.memberships (roomId, userId) with
  | none => (false, database)
  | some row =>
    if row.membership ≠ "leave" && row.membership ≠ "ban" then (false, database)
    else
      (true, { database with
        persistentStore := { store with
          memberships := store.memberships.eraseP fun row =>
            membershipKey row = (roomId, userId) } })

def receivePdu (database : LocalDatabase) (pduJson roomVersion : Bytes) : LocalDatabase :=
  match parseInboundPduEnvelope yyjson sodium pduJson roomVersion with
  | none => database
  | some envelope => (ingestPduEvent yyjson sodium backend database envelope).2

end Operations

section Tables

theorem roomTables_commit (backend : Backend) (store : PersistentStore)
    (statements : List PreparedStatement) (rooms : List LocalRoom) (ordering : UInt64) :
    roomTables ⟨(commitPersistentTransaction backend store statements).2, rooms, ordering⟩ =
      roomTables ⟨store, rooms, ordering⟩ := by
  unfold commitPersistentTransaction
  split
  · rfl
  · split <;> rfl

theorem roomTables_allocate (backend : Backend) (database : LocalDatabase) :
    roomTables (allocateStreamOrdering backend database).2 = roomTables database :=
  roomTables_commit ..

structure Puts (yyjson : Yyjson) (event : PersistentEvent) (before after : LocalDatabase) :
    Prop where
  new : New event (roomTables before)
  tables : roomTables after = (roomTables before).putEvent yyjson event

theorem puts_of_prepared {event : PersistentEvent} {prepared : PreparedStateUpdate}
    {statements : List PreparedStatement} {done : Bool} {store : PersistentStore}
    (hcommit : commitPersistentTransaction backend database.persistentStore statements =
      (done, store)) (hprepared : prepareStoreEventWithState yyjson database.persistentStore event
      (eventState yyjson event) = some prepared) :
    Puts yyjson event database
      { database with persistentStore := applyStoreEventWithState store prepared } := by
  obtain ⟨hevent, hstate, hnew, -⟩ := of_prepareStoreEventWithState hprepared
  obtain ⟨log, rfl⟩ := store_of_commit hcommit
  have htables := applyStoreEventWithState_tables (hevent ▸ hnew : eventExists
    { database.persistentStore with preparedStatements := log } prepared.event.eventId = false)
  refine ⟨by simpa [eventExists, New, roomTables] using hnew, ?_⟩
  simp only [roomTables, putEvent, htables, hevent, hstate]

section Emission

variable {event : ComposedEvent}

variable (yyjson sodium backend database event)

theorem persistComposedEvent_cases :
    let result := persistComposedEvent yyjson backend database event
    (result.1 = true ∧ ∃ ordering, Puts yyjson (event.row ordering) database result.2) ∨
      result.1 = false ∧ roomTables result.2 = roomTables database := by
  have htables := roomTables_allocate backend database
  unfold persistComposedEvent
  rcases hallocated : allocateStreamOrdering backend database with ⟨ordering, allocated⟩
  rw [hallocated] at htables
  dsimp only
  fun_cases storeEventWithState yyjson backend allocated.persistentStore (event.row ordering) _ with
  | case1 => exact .inr ⟨rfl, htables⟩
  | case2 prepared hprepared store hcommit =>
    obtain ⟨log, rfl⟩ := store_of_commit hcommit
    exact .inr ⟨rfl, htables⟩
  | case3 prepared hprepared store hcommit =>
    have hputs := puts_of_prepared hcommit hprepared
    exact .inl ⟨rfl, ordering, htables ▸ hputs.new, htables ▸ hputs.tables⟩

theorem emitInitialStateEvent_cases :
    let result := emitInitialStateEvent yyjson sodium backend database event
    (∃ value, parseLossless yyjson event.json = .ok value ∧
        composeAllows yyjson sodium database.persistentStore event.roomId value = true ∧
        result.1 = true ∧ ∃ ordering, Puts yyjson (event.row ordering) database result.2) ∨
      result.1 = false ∧ roomTables result.2 = roomTables database := by
  fun_cases emitInitialStateEvent yyjson sodium backend database event with
  | case1 => exact .inr ⟨rfl, rfl⟩
  | case2 => exact .inr ⟨rfl, rfl⟩
  | case3 value hparse hallows =>
    exact (persistComposedEvent_cases yyjson backend database event).imp_left
      fun hputs => ⟨value, hparse, by simpa using hallows, hputs⟩

variable {yyjson sodium backend database event}

theorem puts_of_emit {after : LocalDatabase}
    (h : emitInitialStateEvent yyjson sodium backend database event = (true, after)) :
    ∃ ordering, Puts yyjson (event.row ordering) database after := by
  rcases emitInitialStateEvent_cases yyjson backend database sodium event with
    ⟨-, -, -, -, hputs⟩ | ⟨hrefused, -⟩
  · rwa [h] at hputs
  · rw [h] at hrefused
    cases hrefused

variable (h : Reflects yyjson (roomTables database))
  (hother : ∀ ordering, NotMember yyjson (event.row ordering))
include h hother

theorem emit_reflects :
    Reflects yyjson
      (roomTables (emitInitialStateEvent yyjson sodium backend database event).2) := by
  rcases emitInitialStateEvent_cases yyjson backend database sodium event with
    ⟨-, -, -, -, ordering, hputs⟩ | ⟨-, hsame⟩
  · rw [hputs.tables]
    exact h.put_event hputs.new (hother ordering)
  · rwa [hsame]

theorem send_reflects :
    Reflects yyjson (roomTables (sendEvent yyjson sodium backend database event).2) := by
  unfold sendEvent
  split
  · exact emit_reflects h hother
  · exact h

end Emission

end Tables

section Members

variable {rooms : List LocalRoom} {roomId : Bytes} {update : List Bytes → List Bytes}

theorem rowAt_updateRoomMembers (id : Bytes) :
    rowAt LocalRoom.roomId (updateRoomMembers rooms roomId update) id = if id = roomId then
        (rowAt LocalRoom.roomId rooms roomId).map fun room =>
          ⟨room.roomId, update room.members⟩
      else rowAt LocalRoom.roomId rooms id := by
  unfold updateRoomMembers
  cases hroom : rowAt LocalRoom.roomId rooms roomId with
  | none =>
    by_cases hid : id = roomId
    · simp [hid, hroom]
    · simp [hid]
  | some room =>
    have hkey : room.roomId = roomId := by simpa using find?_some hroom
    simp [rowAt_putRow, hkey, eq_comm]

variable (rooms update) in
theorem membersFollow_update (row : PersistentMembership)
    (hdistinct : ∀ id room, rowAt LocalRoom.roomId rooms id = some room → room.members.Nodup)
    (hkeeps : ∀ members : List Bytes, members.Nodup → (update members).Nodup ∧
      ∀ userId ∈ update members, userId ≠ row.userId → userId ∈ members)
    (hown : ∀ room, rowAt LocalRoom.roomId rooms row.roomId = some room →
      row.userId ∈ update room.members → row.membership = utf8 "join") :
    MembersFollow rooms (updateRoomMembers rooms row.roomId update) row := by
  constructor
  · intro id room hroom
    rw [rowAt_updateRoomMembers] at hroom
    split at hroom
    · obtain ⟨before, hbefore, rfl⟩ := map_eq_some_iff.mp hroom
      exact (hkeeps _ (hdistinct _ before hbefore)).1
    · exact hdistinct id room hroom
  · rintro id userId ⟨room, hroom, hmember⟩
    rw [rowAt_updateRoomMembers] at hroom
    split at hroom
    · next hid =>
        subst hid
        obtain ⟨before, hbefore, rfl⟩ := map_eq_some_iff.mp hroom
        by_cases huser : userId = row.userId
        · subst huser
          exact .inl ⟨rfl, hown before hbefore hmember⟩
        · refine .inr ⟨fun heq => huser (Prod.mk.inj heq).2, before, hbefore, ?_⟩
          exact (hkeeps _ (hdistinct _ before hbefore)).2 userId hmember huser
    · next hid => exact .inr ⟨fun heq => hid (Prod.mk.inj heq).1, room, hroom, hmember⟩

variable {pdu : Value} {userId membership : Bytes} {members : List Bytes}

theorem runtimeMembers_keeps (h : members.Nodup) :
    (runtimeMembers userId membership members).Nodup ∧
      ∀ member ∈ runtimeMembers userId membership members, member ≠ userId → member ∈ members := by
  unfold runtimeMembers
  split
  · next hjoin =>
      simp only [Bool.and_eq_true, Bool.not_eq_true', contains_eq_mem,
        decide_eq_false_iff_not] at hjoin
      refine ⟨concat_eq_append ▸ h.concat hjoin.2, fun member hmember hother => ?_⟩
      simpa [hother] using hmember
  · split
    · exact ⟨h.erase _, fun _ hmember _ => mem_of_mem_erase hmember⟩
    · exact ⟨h, fun _ hmember _ => hmember⟩

theorem mem_runtimeMembers_self (hnodup : members.Nodup)
    (h : userId ∈ runtimeMembers userId membership members) :
    membership = utf8 "join" ∨
      membership ≠ utf8 "leave" ∧ membership ≠ utf8 "ban" ∧ userId ∈ members := by
  unfold runtimeMembers at h
  split at h
  · next hjoin =>
      simp only [Bool.and_eq_true, decide_eq_true_eq] at hjoin
      exact .inl hjoin.1
  · split at h
    · exact absurd h hnodup.not_mem_erase
    · next hleft =>
        simp only [Bool.or_eq_true, decide_eq_true_eq, not_or] at hleft
        exact .inr ⟨hleft.1, hleft.2, h⟩

theorem updatedMembers_keeps (h : members.Nodup) :
    (updatedMembers members userId membership).Nodup ∧
      ∀ member ∈ updatedMembers members userId membership, member ≠ userId → member ∈ members := by
  unfold updatedMembers
  split
  · split
    · exact ⟨h, fun _ hmember _ => hmember⟩
    · next habsent =>
        rw [contains_eq_mem, decide_eq_true_eq] at habsent
        refine ⟨concat_eq_append ▸ h.concat habsent, fun member hmember hother => ?_⟩
        simpa [hother] using hmember
  · exact ⟨h.filter _, fun _ hmember _ => (mem_filter.mp hmember).1⟩

theorem mem_updatedMembers_self (h : userId ∈ updatedMembers members userId membership) :
    membership = utf8 "join" := by
  unfold updatedMembers at h
  split at h
  · next hjoin => exact hjoin
  · simp at h

end Members

section Authorization

variable {policy : RoomVersionPolicy} {root : Object} {target : Bytes}

theorem requested_of_allowed {authEvents : AuthEventMap}
    (hallowed : (authorizeEventAgainstAuthEvents sodium (.object root) policy
      authEvents).allowed = true) (htype : stringMember root "type" = some (utf8 "m.room.member"))
    (hkey : stringMember root "state_key" = some target) :
    ∃ sender membership, EventHead (.object root) root "m.room.member" sender ∧
      parseMembershipState (extractContentMembership (.object root)) = some membership ∧
      MemberChecked sodium (.object root) root policy authEvents sender target membership := by
  obtain ⟨object, eventType, sender, hhead⟩ := eventHead_of_allowed hallowed
  obtain rfl : root = object := some.inj hhead.isObject
  obtain rfl : eventType = utf8 "m.room.member" := by
    exact some.inj (hhead.type_eq.symm.trans htype)
  rw [authorize_of_head hhead] at hallowed
  obtain ⟨membership, hparse, hchecked⟩ := memberChecked_of_allowed hkey hallowed
  exact ⟨sender, membership, hhead, hparse, hchecked⟩

/-- The rules let nobody invite a user who is joined, and no such user knock. -/
theorem joined_not_invited {store : PersistentStore} {roomId : Bytes}
    (hallowed : (localDecision sodium yyjson store roomId policy (.object root)).allowed = true)
    (htype : stringMember root "type" = some (utf8 "m.room.member"))
    (hkey : stringMember root "state_key" = some target)
    (hplain : thirdPartyInviteContent root = none)
    (hjoined : membershipIn (roomStateMap yyjson store roomId) target = .join) :
    ∃ membership, membership ≠ .invite ∧ membership ≠ .knock ∧ membership ≠ .restricted ∧
      eventContentString (.object root) "membership" = some (membershipName membership) := by
  obtain ⟨sender, membership, hhead, hparse, hchecked⟩ :=
    requested_of_allowed hallowed htype hkey
  obtain ⟨hrestricted, htext⟩ := requestedMembership_eq_some_iff.mp hparse
  have htarget : targetMembership _ target sender = .join :=
    ((buildAuthEventMap_selectsFor yyjson store roomId (.object root)).interchangeable root sender
      target hhead hkey).target.trans ((targetMembership_eq_membershipIn hhead hkey).trans hjoined)
  refine ⟨membership, ?_, ?_, hrestricted, htext⟩
  · rintro rfl
    cases hchecked with
    | invite hinvite => simp [authorizeInvite, hplain, htarget] at hinvite
  · rintro rfl
    cases hchecked with
    | knock hknock =>
      simp only [authorizeKnock, htarget] at hknock
      split at hknock
      · simp at hknock
      · simp at hknock

end Authorization

section Membership

namespace MembershipEvent

variable (event : MembershipEvent yyjson) (ordering : UInt64)

theorem tuple_eq : eventTuple yyjson (event.row ordering) =
    some (memberTuple event.roomId event.target) := by
  simp [eventTuple, ComposedEvent.row, topLevelJsonStringField, event.parses, valueIsObject,
    event.hasType, event.hasTarget, memberTuple]

theorem eventContentString_eq :
    eventContentString (.object event.root) "membership" = some event.membership := by
  cases hdirect : event.isDirect <;>
    simp [eventContentString, eventContent, valueIsObject, event.hasContent, membershipContent,
      hdirect, stringMember, objectMember, valueIsString]

theorem contentText_eq : contentText yyjson "membership" (event.row ordering) =
    some event.membership := by
  simp [contentText, ComposedEvent.row, event.parses, Except.toOption, event.eventContentString_eq]

theorem thirdPartyInviteContent_eq : thirdPartyInviteContent event.root = none := by
  cases hdirect : event.isDirect <;> cases hreason : event.reason.isEmpty <;>
    simp [thirdPartyInviteContent, event.hasContent, membershipContent, hdirect, hreason,
      objectMember]

end MembershipEvent

theorem RoomCreation.create_notMember (creation : RoomCreation yyjson) (ordering : UInt64) :
    NotMember yyjson (creation.create.row ordering) := by
  intro roomId userId htuple
  unfold eventTuple at htuple
  simp only [ComposedEvent.row, creation.isCreate] at htuple
  split at htuple
  · next eventType stateKey htype _ =>
      obtain rfl := some.inj htype
      exact absurd (congrArg StateTuple.eventType (some.inj htuple))
        (by decide : utf8 "m.room.create" ≠ utf8 "m.room.member")
  · cases htuple

theorem upsertMembership_tables (hbackend : ∀ statements, backend statements = true)
    (store : PersistentStore) (row : PersistentMembership) :
    ∃ after, upsertMembership backend store row = (true, after) ∧
      ∀ rooms rooms' ordering, roomTables ⟨after, rooms', ordering⟩ =
        (roomTables ⟨store, rooms, ordering⟩).putMembership row rooms' := by
  have hcommit := commitPersistentTransaction_of_backend backend store hbackend
  unfold upsertMembership storeMembership updateMembership membershipExists
  cases hrow : rowAt membershipKey store.memberships (membershipKey row) with
  | some found =>
    obtain ⟨log, hlog⟩ := hcommit [.updateMembership row]
    simp only [isSome_some, if_true, Bool.not_true, Bool.false_eq_true, if_false, hlog, hrow]
    exact ⟨_, rfl, fun _ _ _ => rfl⟩
  | none =>
    obtain ⟨log, hlog⟩ := hcommit [.insertMembership row]
    simp only [isSome_none, Bool.false_eq_true, if_false, hlog]
    refine ⟨_, rfl, fun rooms rooms' ordering => ?_⟩
    simp only [roomTables, putMembership, TableMirror.putRow_of_absent hrow]

section

variable (h : Reflects yyjson (roomTables database))
include h

/-- A member of the room can only join again, leave or be banned: the rules deny an
invite and a knock. -/
theorem membership_of_listed {event : MembershipEvent yyjson}
    (hallows : composeAllows yyjson sodium database.persistentStore event.roomId
      (.object event.root) = true) (hlisted : Lists database.rooms event.roomId event.target) :
    event.membership = utf8 "join" ∨ event.membership = utf8 "leave" ∨
      event.membership = utf8 "ban" := by
  have hjoined := h.toTracks.membershipIn_eq_join (h.joined (h.listed _ _ hlisted))
  obtain ⟨policy, -, hallowed⟩ := (any_eq_true _ _).mp hallows
  obtain ⟨membership, hinvite, hknock, hrestricted, htext⟩ :=
    joined_not_invited hallowed event.hasType event.hasTarget event.thirdPartyInviteContent_eq
      hjoined
  rw [event.eventContentString_eq, some.injEq] at htext
  rw [htext]
  cases membership with
  | join => exact .inl rfl
  | leave => exact .inr (.inl rfl)
  | ban => exact .inr (.inr rfl)
  | invite => exact absurd rfl hinvite
  | knock => exact absurd rfl hknock
  | restricted => exact absurd rfl hrestricted

theorem runtimeMembers_follow (row : PersistentMembership)
    (hlisted : Lists database.rooms row.roomId row.userId → row.membership = utf8 "join" ∨
      row.membership = utf8 "leave" ∨ row.membership = utf8 "ban") :
    MembersFollow database.rooms
      (updateRoomMembers database.rooms row.roomId (runtimeMembers row.userId row.membership))
      row := by
  apply membersFollow_update _ _ _ h.distinct
  · exact fun _ => runtimeMembers_keeps
  · intro room hroom hmember
    rcases mem_runtimeMembers_self (h.distinct _ room hroom) hmember with
      hjoin | ⟨hleave, hban, hbefore⟩
    · exact hjoin
    · rcases hlisted ⟨room, hroom, hbefore⟩ with hjoin | hleft | hbanned
      · exact hjoin
      · exact absurd hleft hleave
      · exact absurd hbanned hban

theorem transition_reflects (hbackend : ∀ statements, backend statements = true)
    (event : MembershipEvent yyjson) :
    Reflects yyjson
      (roomTables (persistMembershipTransition sodium backend database event).2) := by
  have hemitted := emitInitialStateEvent_cases yyjson backend database sodium event.toComposedEvent
  unfold persistMembershipTransition
  generalize emitInitialStateEvent yyjson sodium backend database event.toComposedEvent = emitted
    at hemitted ⊢
  obtain ⟨done, after⟩ := emitted
  rcases hemitted with ⟨value, hparse, hallows, rfl, ordering, hputs⟩ | ⟨rfl, hsame⟩
  · obtain rfl : value = .object event.root := by
      rw [event.parses] at hparse
      exact (Except.ok.inj hparse).symm
    have hallocate := roomTables_allocate backend after
    rcases hallocated : allocateStreamOrdering backend after with ⟨stream, allocated⟩
    rw [hallocated] at hallocate
    have hrooms : allocated.rooms = database.rooms :=
      congrArg RoomTables.rooms (hallocate.trans hputs.tables)
    have hfollow := runtimeMembers_follow h
      ⟨event.roomId, event.target, event.membership, stream⟩ (membership_of_listed h hallows)
    obtain ⟨store, hupsert, htables⟩ := upsertMembership_tables hbackend
      allocated.persistentStore ⟨event.roomId, event.target, event.membership, stream⟩
    simp only [hallocated, hupsert]
    rw [applyRuntimeMembership, htables allocated.rooms, hrooms]
    have hput := h.put_member hputs.new (event.tuple_eq ordering)
      (event.contentText_eq ordering) hfollow
    rw [← hputs.tables, ← hallocate] at hput
    exact hput
  · dsimp only
    rwa [hsame]

theorem forget_reflects (roomId userId : Bytes) :
    Reflects yyjson (roomTables (forgetRoom database roomId userId).2) := by
  fun_cases forgetRoom database roomId userId with
  | case1 => exact h
  | case2 => exact h
  | case3 store row hrow hleft =>
    have hkey : membershipKey row = (roomId, userId) := by simpa using find?_some hrow
    have hdropped := h.drop_membership (mem_of_find?_eq_some hrow) (by
      intro hjoin
      rw [hjoin] at hleft
      exact hleft (by decide))
    rw [hkey] at hdropped
    exact hdropped

theorem created_follow (roomId userId : Bytes) :
    MembersFollow database.rooms (database.rooms ++ [⟨roomId, [userId]⟩])
      ⟨roomId, userId, "join", 0⟩ := by
  have hrow : ∀ id room, rowAt LocalRoom.roomId (database.rooms ++ [⟨roomId, [userId]⟩]) id =
      some room → rowAt LocalRoom.roomId database.rooms id = some room ∨
        id = roomId ∧ room = ⟨roomId, [userId]⟩ := by
    intro id room hroom
    rw [rowAt, find?_append, or_eq_some_iff] at hroom
    rcases hroom with hfound | ⟨-, hnew⟩
    · exact .inl hfound
    · have hrow : rowAt LocalRoom.roomId [⟨roomId, [userId]⟩] id = some room := hnew
      rw [rowAt_cons] at hrow
      split at hrow
      · next hsame => exact .inr ⟨hsame.symm, (some.inj hrow).symm⟩
      · cases hrow
  constructor
  · intro id room hroom
    rcases hrow id room hroom with hbefore | ⟨-, rfl⟩
    · exact h.distinct id room hbefore
    · exact nodup_singleton _
  · rintro id member ⟨room, hroom, hmember⟩
    by_cases hkey : (id, member) = (roomId, userId)
    · exact .inl ⟨hkey, rfl⟩
    · refine .inr ⟨hkey, ?_⟩
      rcases hrow id room hroom with hbefore | ⟨rfl, rfl⟩
      · exact ⟨room, hbefore, hmember⟩
      · exact absurd (mem_singleton.mp hmember ▸ rfl) hkey

end

theorem create_reflects {runtime : ClientServerRuntime} {creation : RoomCreation yyjson}
    (h : Reflects yyjson (roomTables runtime.database))
    (hdone : (createRoom sodium backend runtime creation).1 = true) :
    Reflects yyjson (roomTables (createRoom sodium backend runtime creation).2.database) := by
  revert hdone
  fun_cases createRoom sodium backend runtime creation with
  | case4 roomId database row habsent store hcommit inserted _ created hcreate done final
      hcreator =>
      rintro ⟨⟩
      obtain ⟨createOrdering, hcreate⟩ := puts_of_emit hcreate
      obtain ⟨joinOrdering, hjoin⟩ := puts_of_emit hcreator
      have hrow : rowAt membershipKey database.persistentStore.memberships (membershipKey row) =
          none := by
        simp only [Bool.or_eq_true, not_or, membershipExists] at habsent
        simpa using habsent.2
      have hinserted : roomTables inserted = (roomTables database).putMembership row
          (database.rooms ++ [⟨roomId, [creation.creator.target]⟩]) := by
        obtain ⟨log, rfl⟩ := store_of_commit hcommit
        simp only [putMembership, roomTables, TableMirror.putRow_of_absent hrow]
        rfl
      have hcontent := creation.creator.contentText_eq joinOrdering
      have htuple := creation.creator.tuple_eq joinOrdering
      rw [creation.joins] at hcontent
      rw [creation.sameRoom] at htuple
      have hcreateNew := hcreate.new
      rw [hinserted] at hcreateNew
      have hjoinNew := hjoin.new
      rw [hcreate.tables, hinserted] at hjoinNew
      change Reflects yyjson (roomTables final)
      rw [hjoin.tables, hcreate.tables, hinserted]
      exact (h.put_event hcreateNew (creation.create_notMember _)).put_member hjoinNew htuple
        hcontent (created_follow h roomId creation.creator.target)
  | _ => rintro ⟨⟩

end Membership

section Inbound

variable {envelope : InboundPduEnvelope} {pdu : Value} {userId membership : Bytes}

theorem eventTuple_envelope {prepared : PreparedStateUpdate}
    (hkey : envelope.stateKey = none →
      topLevelJsonStringField yyjson envelope.json "state_key" = none)
    (hprepared : prepareStoreEventWithState yyjson database.persistentStore
      (envelopeEvent envelope streamOrdering) (envelopeState envelope) = some prepared) :
    eventTuple yyjson (envelopeEvent envelope streamOrdering) =
      envelope.stateKey.map fun stateKey => ⟨envelope.roomId, envelope.eventType, stateKey⟩ := by
  cases hstate : envelope.stateKey with
  | none =>
    have hfield := hkey hstate
    simp [eventTuple, envelopeEvent, hfield]
  | some stateKey =>
    obtain ⟨-, -, -, hmatches⟩ := of_prepareStoreEventWithState hprepared
    simp only [envelopeState, hstate, map_some, all_some, stateMatchesEvent,
      Bool.and_eq_true] at hmatches
    obtain ⟨⟨-, htype⟩, hfield⟩ := hmatches
    rw [eventTuple, of_decide_eq_true htype, of_decide_eq_true hfield]
    rfl

theorem content_of_allowed {policy : RoomVersionPolicy}
    (hparse : parseLossless yyjson envelope.json = .ok pdu)
    (hallowed : (pduAuthDecision yyjson sodium database.persistentStore envelope policy
      pdu).allowed = true) (htuple : eventTuple yyjson (envelopeEvent envelope streamOrdering) =
      some (memberTuple envelope.roomId userId)) :
    ∃ membership, eventContentString pdu "membership" = some membership := by
  cases pdu with
  | object root =>
    unfold eventTuple at htuple
    split at htuple
    · next eventType stateKey htype hkey =>
        simp only [envelopeEvent, topLevelJsonStringField, hparse, valueIsObject,
          bind_some] at htype hkey
        rw [some.injEq, memberTuple, StateTuple.mk.injEq] at htuple
        rw [htuple.2.1] at htype
        obtain ⟨sender, membership, -, hrequested, -⟩ :=
          requested_of_allowed hallowed htype hkey
        exact ⟨_, (requestedMembership_eq_some_iff.mp hrequested).2⟩
    · cases htuple
  | _ => cases hallowed

variable (hbackend : ∀ statements, backend statements = true)

include hbackend

variable (h : Reflects yyjson (roomTables database))

include h

section

variable {stored : LocalDatabase}
  (hputs : Puts yyjson (envelopeEvent envelope streamOrdering) database stored)
  (hparse : parseLossless yyjson envelope.json = .ok pdu)
include hputs hparse

theorem record_member_reflects (htuple : eventTuple yyjson (envelopeEvent envelope streamOrdering) =
      some (memberTuple envelope.roomId userId)) (htype : envelope.eventType = utf8 "m.room.member")
    (hkey : envelope.stateKey = some userId)
    (hcontent : eventContentString pdu "membership" = some membership) :
    Reflects yyjson
      (roomTables (recordMembership backend stored envelope pdu streamOrdering)) := by
  have hrooms : stored.rooms = database.rooms := congrArg RoomTables.rooms hputs.tables
  have htext : contentText yyjson "membership" (envelopeEvent envelope streamOrdering) =
      some membership := by
    simp [contentText, envelopeEvent, hparse, Except.toOption, hcontent]
  obtain ⟨store, hupsert, htables⟩ := upsertMembership_tables hbackend stored.persistentStore
    ⟨envelope.roomId, userId, membership, streamOrdering⟩
  have hfollow := membersFollow_update database.rooms
    (fun members => updatedMembers members userId membership)
    ⟨envelope.roomId, userId, membership, streamOrdering⟩ h.distinct
    (fun _ => updatedMembers_keeps) fun _ _ => mem_updatedMembers_self
  have hput := h.put_member hputs.new htuple htext hfollow
  rw [← hputs.tables, ← hrooms] at hput
  simp only [recordMembership, hkey, hcontent, htype, ne_eq, not_true, if_false, hupsert]
  rw [htables stored.rooms]
  exact hput

theorem record_reflects (htuple : eventTuple yyjson (envelopeEvent envelope streamOrdering) =
      envelope.stateKey.map fun stateKey => ⟨envelope.roomId, envelope.eventType, stateKey⟩)
    (hnamed : ∀ userId, eventTuple yyjson (envelopeEvent envelope streamOrdering) =
      some (memberTuple envelope.roomId userId) →
        ∃ membership, eventContentString pdu "membership" = some membership) :
    Reflects yyjson
      (roomTables (recordMembership backend stored envelope pdu streamOrdering)) := by
  have hplain : NotMember yyjson (envelopeEvent envelope streamOrdering) →
      Reflects yyjson (roomTables stored) := by
    intro hother
    rw [hputs.tables]
    exact h.put_event hputs.new hother
  cases hkey : envelope.stateKey with
  | none =>
    rw [hkey, map_none] at htuple
    rw [recordMembership, hkey]
    apply hplain
    intro roomId userId hmember
    rw [htuple] at hmember
    cases hmember
  | some userId =>
    rw [hkey, map_some] at htuple
    by_cases htype : envelope.eventType = utf8 "m.room.member"
    · rw [htype] at htuple
      obtain ⟨membership, hcontent⟩ := hnamed userId htuple
      exact record_member_reflects hbackend h hputs hparse htuple htype hkey hcontent
    · have hsame : recordMembership backend stored envelope pdu streamOrdering = stored := by
        cases hcontent : eventContentString pdu "membership" with
        | none => simp [recordMembership, hkey, hcontent]
        | some membership => simp [recordMembership, hkey, hcontent, htype]
      rw [hsame]
      apply hplain
      intro roomId member hmember
      rw [htuple, some.injEq, memberTuple, StateTuple.mk.injEq] at hmember
      exact htype hmember.2.1

end

theorem ingestParsedPdu_reflects {policy : RoomVersionPolicy} (streamOrdering syncStreamId : UInt64)
    (hparse : parseLossless yyjson envelope.json = .ok pdu)
    (hkey : envelope.stateKey = none →
      topLevelJsonStringField yyjson envelope.json "state_key" = none) :
    Reflects yyjson (roomTables (ingestParsedPdu yyjson sodium backend database envelope policy
      pdu streamOrdering syncStreamId).2) := by
  fun_cases ingestParsedPdu yyjson sodium backend database envelope policy pdu streamOrdering
      syncStreamId with
  | case1 => exact h
  | case2 => exact h
  | case3 => exact h
  | case4 decision _ _ prepared hprepared store hcommit =>
    obtain ⟨log, rfl⟩ := store_of_commit hcommit
    exact h
  | case5 decision hallowed _ prepared hprepared store hcommit =>
    have htuple := eventTuple_envelope hkey hprepared
    have hstate : envelopeState envelope =
        eventState yyjson (envelopeEvent envelope streamOrdering) := by
      rw [eventState, htuple, Option.map_map, envelopeState]
      rfl
    rw [hstate] at hprepared
    have hputs := puts_of_prepared hcommit hprepared
    exact record_reflects hbackend h hputs hparse htuple fun userId =>
      content_of_allowed hparse (by simpa using hallowed)

theorem receive_reflects (pduJson roomVersion : Bytes) : Reflects yyjson
      (roomTables (receivePdu yyjson sodium backend database pduJson roomVersion)) := by
  unfold receivePdu
  cases henvelope : parseInboundPduEnvelope yyjson sodium pduJson roomVersion with
  | none => exact h
  | some envelope =>
    simp only
    fun_cases ingestPduEvent yyjson sodium backend database envelope with
    | case1 => exact h
    | case2 => exact h
    | case3 => exact h
    | case4 _ policy pdu hparse _ streamOrdering syncStreamId reserved hreserved =>
      have hsame : roomTables (reserveStreamIds backend database).2 = roomTables database :=
        (roomTables_commit ..).trans (roomTables_commit ..)
      rw [hreserved] at hsame
      refine ingestParsedPdu_reflects hbackend (hsame ▸ h) streamOrdering syncStreamId hparse ?_
      intro hnone
      obtain ⟨root, event, _, hroot, -, -, -, -, -, -, -, hkey, hjson⟩ :=
        parseInboundPduEnvelope_some henvelope
      rw [hkey, map_eq_none_iff] at hnone
      simp [topLevelJsonStringField, hjson, hroot, valueIsObject, stringMember, hnone]

end Inbound

end Merovingian.RoomWrites
