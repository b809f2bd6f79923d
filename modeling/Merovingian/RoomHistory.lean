import Merovingian.PduIngestion
import Merovingian.TableMirror

/-!
The history of a room and the tables that follow it. The history is the list of
stored events; the state at a point of it is what the last events before that
point set. The server answers from four tables instead: the events, the rows of
the current state, the memberships, and the members of each room. Here it is said
when the other three agree with the events, and which writes keep it so.
-/

namespace Merovingian.RoomHistory

open ByteString JsonValue CanonicalParser MembershipRules KeyedFold TableMirror StateResolution
  RoomState StoreTables AuthEventMaps PduIngestion List Option

section Histories

variable (yyjson : Yyjson)

def eventTuple (event : PersistentEvent) : Option StateTuple :=
  match topLevelJsonStringField yyjson event.json "type",
      topLevelJsonStringField yyjson event.json "state_key" with
  | some eventType, some stateKey => some ⟨event.roomId, eventType, stateKey⟩
  | _, _ => none

def eventState (event : PersistentEvent) : Option PersistentStateEvent :=
  (eventTuple yyjson event).map fun tuple =>
    ⟨tuple.roomId, tuple.eventType, tuple.stateKey, event.eventId⟩

def stateAt (events : List PersistentEvent) (tuple : StateTuple) : Option PersistentEvent :=
  (events.filter fun event => eventTuple yyjson event = some tuple).getLast?

def contentText (key : Bytes) (event : PersistentEvent) : Option Bytes :=
  (parseLossless yyjson event.json).toOption.bind fun json => eventContentString json key

def memberTuple (roomId userId : Bytes) : StateTuple := ⟨roomId, "m.room.member", userId⟩

def membershipAt (events : List PersistentEvent) (roomId userId : Bytes) : Option Bytes :=
  (stateAt yyjson events (memberTuple roomId userId)).bind (contentText yyjson "membership")

variable {yyjson} {events : List PersistentEvent} {event : PersistentEvent} {tuple : StateTuple}

theorem stateAt_append_singleton : stateAt yyjson (events ++ [event]) tuple =
      if eventTuple yyjson event = some tuple then some event
      else stateAt yyjson events tuple := by
  unfold stateAt
  by_cases hsets : eventTuple yyjson event = some tuple
  · simp [filter_append, hsets]
  · simp [filter_append, hsets]

theorem stateAt_spec (h : stateAt yyjson events tuple = some event) :
    event ∈ events ∧ eventTuple yyjson event = some tuple := by
  have hmem := mem_filter.mp (mem_of_getLast? h)
  exact ⟨hmem.1, of_decide_eq_true hmem.2⟩

theorem membershipAt_append {roomId userId : Bytes} :
    membershipAt yyjson (events ++ [event]) roomId userId =
      if eventTuple yyjson event = some (memberTuple roomId userId) then
        contentText yyjson "membership" event
      else membershipAt yyjson events roomId userId := by
  rw [membershipAt, stateAt_append_singleton]
  split
  · rfl
  · rfl

end Histories

structure RoomTables where
  events : List PersistentEvent
  state : List PersistentStateEvent
  memberships : List PersistentMembership
  rooms : List LocalRoom

def roomTables (database : LocalDatabase) : RoomTables where
  events := database.persistentStore.events
  state := database.persistentStore.state
  memberships := database.persistentStore.memberships
  rooms := database.rooms

namespace RoomTables

def putEvent (yyjson : Yyjson) (event : PersistentEvent) (tables : RoomTables) : RoomTables :=
  { tables with
    events := tables.events ++ [event]
    state := putStates tables.state (eventState yyjson event).toList }

def putMembership (row : PersistentMembership) (rooms : List LocalRoom) (tables : RoomTables) :
    RoomTables :=
  { tables with
    memberships := putRow membershipKey row tables.memberships
    rooms := rooms }

def Lists (rooms : List LocalRoom) (roomId userId : Bytes) : Prop :=
  ∃ room, rowAt LocalRoom.roomId rooms roomId = some room ∧ userId ∈ room.members

def HasJoined (memberships : List PersistentMembership) (roomId userId : Bytes) : Prop :=
  ∃ row ∈ memberships, membershipKey row = (roomId, userId) ∧ row.membership = utf8 "join"

/-- The current state is that of the last events, and nothing is stored twice. -/
structure Tracks (yyjson : Yyjson) (tables : RoomTables) : Prop where
  ids : (tables.events.map PersistentEvent.eventId).Nodup
  tuples : (tables.state.map stateTuple).Nodup
  current : ∀ tuple, (rowAt stateTuple tables.state tuple).map PersistentStateEvent.eventId =
      (stateAt yyjson tables.events tuple).map PersistentEvent.eventId

/-- A row holds the membership of the history, and only joined users are listed. -/
structure Reflects (yyjson : Yyjson) (tables : RoomTables) : Prop
    extends Tracks yyjson tables where
  keys : (tables.memberships.map membershipKey).Nodup
  recorded : ∀ row ∈ tables.memberships,
    membershipAt yyjson tables.events row.roomId row.userId = some row.membership
  distinct : ∀ roomId room, rowAt LocalRoom.roomId tables.rooms roomId = some room →
    room.members.Nodup
  listed : ∀ roomId userId, Lists tables.rooms roomId userId →
    HasJoined tables.memberships roomId userId

theorem Reflects.joined {yyjson : Yyjson} {tables : RoomTables} (h : Reflects yyjson tables)
    {roomId userId : Bytes} (hjoined : HasJoined tables.memberships roomId userId) :
    membershipAt yyjson tables.events roomId userId = some (utf8 "join") := by
  obtain ⟨row, hrow, hkey, hjoin⟩ := hjoined
  obtain ⟨rfl, rfl⟩ := Prod.mk.inj hkey
  rw [h.recorded row hrow, hjoin]

def New (event : PersistentEvent) (tables : RoomTables) : Prop :=
  event.eventId ∉ tables.events.map PersistentEvent.eventId

section Writes

variable {yyjson : Yyjson} {tables : RoomTables} {event : PersistentEvent}

theorem nodup_putStates {rows : List PersistentStateEvent} (h : (rows.map stateTuple).Nodup)
    (states : List PersistentStateEvent) : ((putStates rows states).map stateTuple).Nodup := by
  induction states generalizing rows with
  | nil => exact h
  | cons state rest ih => exact ih (nodup_keys_putRow h)

theorem Tracks.put_event (h : Tracks yyjson tables) (hnew : New event tables) :
    Tracks yyjson (tables.putEvent yyjson event) := by
  refine ⟨?_, nodup_putStates h.tuples _, ?_⟩
  · rw [putEvent, map_append]
    exact concat_eq_append ▸ h.ids.concat hnew
  · intro tuple
    have hcurrent := h.current tuple
    rw [putEvent, rowAt_putStates, stateAt_append_singleton]
    cases hstate : eventState yyjson event with
    | none =>
      have hnone : eventTuple yyjson event = none := map_eq_none_iff.mp hstate
      simpa [hnone] using hcurrent
    | some state =>
      obtain ⟨written, hwritten, rfl⟩ := map_eq_some_iff.mp hstate
      rw [hwritten]
      by_cases heq : written = tuple
      · simp [withKey, stateTuple, heq]
      · simpa [withKey, stateTuple, heq] using hcurrent

def NotMember (yyjson : Yyjson) (event : PersistentEvent) : Prop :=
  ∀ roomId userId, eventTuple yyjson event ≠ some (memberTuple roomId userId)

theorem Reflects.put_event (h : Reflects yyjson tables) (hnew : New event tables)
    (hother : NotMember yyjson event) : Reflects yyjson (tables.putEvent yyjson event) := by
  refine ⟨h.toTracks.put_event hnew, h.keys, ?_, h.distinct, h.listed⟩
  intro row hrow
  rw [putEvent, membershipAt_append, if_neg (hother row.roomId row.userId)]
  exact h.recorded row hrow

/-- The members of the rooms after a membership of one user: the user is among them
only with a join, and nobody else comes in. -/
structure MembersFollow (before after : List LocalRoom) (row : PersistentMembership) : Prop where
  distinct : ∀ roomId room, rowAt LocalRoom.roomId after roomId = some room → room.members.Nodup
  listed : ∀ roomId userId, Lists after roomId userId →
    (roomId, userId) = membershipKey row ∧ row.membership = utf8 "join" ∨
      (roomId, userId) ≠ membershipKey row ∧ Lists before roomId userId

variable {row : PersistentMembership}

theorem hasJoined_putRow {memberships : List PersistentMembership}
    (hkeys : (memberships.map membershipKey).Nodup) {roomId userId : Bytes} :
    HasJoined (putRow membershipKey row memberships) roomId userId ↔
      if (roomId, userId) = membershipKey row then row.membership = utf8 "join"
      else HasJoined memberships roomId userId := by
  simp only [HasJoined, mem_putRow hkeys]
  constructor
  · rintro ⟨found, rfl | ⟨hmem, hne⟩, hkey, hjoin⟩
    · rw [if_pos hkey.symm]
      exact hjoin
    · rw [if_neg fun heq => hne (hkey.trans heq)]
      exact ⟨found, hmem, hkey, hjoin⟩
  · intro h
    split at h
    · next heq => exact ⟨row, .inl rfl, heq.symm, h⟩
    · next hne =>
        obtain ⟨found, hmem, hkey, hjoin⟩ := h
        exact ⟨found, .inr ⟨hmem, fun heq => hne (hkey.symm.trans heq)⟩, hkey, hjoin⟩

theorem Reflects.put_member (h : Reflects yyjson tables) (hnew : New event tables)
    {rooms : List LocalRoom}
    (htuple : eventTuple yyjson event = some (memberTuple row.roomId row.userId))
    (hcontent : contentText yyjson "membership" event = some row.membership)
    (hmembers : MembersFollow tables.rooms rooms row) :
    Reflects yyjson ((tables.putEvent yyjson event).putMembership row rooms) := by
  have htracks := h.toTracks.put_event hnew
  refine ⟨⟨htracks.ids, htracks.tuples, htracks.current⟩, nodup_keys_putRow h.keys, ?_,
    hmembers.distinct, ?_⟩
  · intro found hfound
    change membershipAt yyjson (tables.events ++ [event]) found.roomId found.userId = _
    rw [membershipAt_append, htuple]
    rcases (mem_putRow h.keys).mp hfound with rfl | ⟨hbefore, hkey⟩
    · rw [if_pos rfl, hcontent]
    · rw [if_neg, h.recorded found hbefore]
      simp only [memberTuple, Option.some.injEq, StateTuple.mk.injEq, true_and]
      rintro ⟨hroom, huser⟩
      exact hkey (Prod.ext hroom.symm huser.symm)
  · intro roomId userId hlists
    change HasJoined (putRow membershipKey row tables.memberships) roomId userId
    rw [hasJoined_putRow h.keys]
    rcases hmembers.listed roomId userId hlists with ⟨hkey, hjoin⟩ | ⟨hne, hbefore⟩
    · rw [if_pos hkey]
      exact hjoin
    · rw [if_neg hne]
      exact h.listed roomId userId hbefore

theorem Reflects.drop_membership (h : Reflects yyjson tables)
    (hrow : row ∈ tables.memberships) (hleft : row.membership ≠ utf8 "join") :
    Reflects yyjson
      { tables with
        memberships := tables.memberships.eraseP fun found =>
          membershipKey found = membershipKey row } := by
  -- a joined user has another row, which stays
  have hkept : ∀ roomId userId, HasJoined tables.memberships roomId userId →
      HasJoined (tables.memberships.eraseP fun found => membershipKey found = membershipKey row)
        roomId userId := by
    rintro roomId userId ⟨found, hfound, hkey, hjoin⟩
    refine ⟨found, (mem_eraseP_of_neg ?_).mpr hfound, hkey, hjoin⟩
    rw [decide_eq_true_eq]
    intro heq
    have hsame := inj_on_of_nodup_map h.keys hfound hrow heq
    exact hleft (hsame ▸ hjoin)
  exact ⟨⟨h.ids, h.tuples, h.current⟩, h.keys.sublist (eraseP_sublist.map _),
    fun found hfound => h.recorded found (mem_of_mem_eraseP hfound), h.distinct,
    fun roomId userId hlists => hkept roomId userId (h.listed roomId userId hlists)⟩

end Writes

section Reading

variable {yyjson : Yyjson} {database : LocalDatabase}

theorem Tracks.stateJson_eq (h : Tracks yyjson (roomTables database))
    {roomId eventType stateKey : Bytes} {event : PersistentEvent} {json : Value}
    (hstate : stateAt yyjson database.persistentStore.events ⟨roomId, eventType, stateKey⟩ =
      some event) (hparse : parseLossless yyjson event.json = .ok json) :
    stateJson (roomStateMap yyjson database.persistentStore roomId) eventType stateKey = json := by
  have hcurrent := h.current ⟨roomId, eventType, stateKey⟩
  change _ = (stateAt yyjson database.persistentStore.events _).map _ at hcurrent
  rw [hstate, map_some, map_eq_some_iff] at hcurrent
  obtain ⟨row, hrow, hid⟩ := hcurrent
  have hrows : (database.persistentStore.state.filter fun row =>
      row.roomId = roomId && rowKey row = ⟨eventType, stateKey⟩) = [row] := by
    have hunique := withKey_eq_toList h.tuples ⟨roomId, eventType, stateKey⟩
    rw [rowAt] at hrow
    rw [hrow, toList_some] at hunique
    rw [← hunique, withKey]
    refine filter_congr fun row _ => ?_
    simp [stateTuple, rowKey]
  rw [stateJson_roomStateMap, hrows, getLast?_singleton, map_some, getD_some,
    findEventJson, hid]
  have hmem := (stateAt_spec hstate).1
  cases hfound : database.persistentStore.events.findSome? fun candidate =>
      if candidate.eventId = event.eventId then (parseLossless yyjson candidate.json).toOption
      else none with
  | none =>
    have hnone := findSome?_eq_none_iff.mp hfound event hmem
    simp [hparse, Except.toOption] at hnone
  | some found =>
    obtain ⟨candidate, hcandidate, hvalue⟩ := exists_of_findSome?_eq_some hfound
    split at hvalue
    · next hsame =>
        obtain rfl := inj_on_of_nodup_map h.ids hcandidate hmem hsame
        rw [hparse] at hvalue
        exact (some.inj hvalue).symm
    · cases hvalue

theorem Tracks.membershipIn_eq_join (h : Tracks yyjson (roomTables database))
    {roomId userId : Bytes}
    (hjoined : membershipAt yyjson database.persistentStore.events roomId userId =
      some (utf8 "join")) :
    membershipIn (roomStateMap yyjson database.persistentStore roomId) userId = .join := by
  obtain ⟨event, hstate, hcontent⟩ := bind_eq_some_iff.mp hjoined
  obtain ⟨json, hparse, htext⟩ := bind_eq_some_iff.mp hcontent
  have hparse' : parseLossless yyjson event.json = .ok json := by
    cases hjson : parseLossless yyjson event.json with
    | error code => simp [hjson, Except.toOption] at hparse
    | ok value => simpa [hjson, Except.toOption] using hparse
  rw [membershipIn, h.stateJson_eq hstate hparse', currentMembership_eq_join_iff]
  refine ⟨?_, requestedMembership_eq_some_iff.mpr ⟨by decide, htext⟩⟩
  obtain ⟨content, hcontent, -⟩ := bind_eq_some_iff.mp htext
  obtain ⟨object, hobject, -⟩ := bind_eq_some_iff.mp hcontent
  exact valueHasContent_of_isObject hobject

end Reading

end RoomTables

end Merovingian.RoomHistory
