import Merovingian.RoomState
import Merovingian.StoreTables

/-!
The selections of auth events from the store: for events sent locally and for
inbound PDUs. Both walk the rows of a room's state; here each field they fill
is read from the state map of those rows, the form in which state resolution
makes its own selection.
-/

namespace Merovingian.AuthEventMaps

open ByteString JsonValue CanonicalParser EventAuthorization KeyedFold StateResolution RoomState
  StoreTables

section

variable (yyjson : Yyjson) (store : PersistentStore) (roomId sender targetStateKey : Bytes)

def findEventJson (eventId : Bytes) : Value :=
  (store.events.findSome? fun event =>
    if event.eventId = eventId then (parseLossless yyjson event.json).toOption else none).getD
    .null

/-- The loop body for events sent locally: every condition is tried. -/
def selectLocal (eventType inviteToken : Bytes) (result : AuthEventMap)
    (state : PersistentStateEvent) : AuthEventMap :=
  let json := findEventJson yyjson store state.eventId
  let select := fun (condition : Bool) (current : Value) =>
    if condition then json else current
  if state.roomId ≠ roomId then result
  else
    { result with
      create := select (state.eventType = "m.room.create" && state.stateKey.isEmpty)
        result.create
      powerLevels := select
        (state.eventType = "m.room.power_levels" && state.stateKey.isEmpty)
        result.powerLevels
      joinRules := select (state.eventType = "m.room.join_rules" && state.stateKey.isEmpty)
        result.joinRules
      senderMember := select
        (state.eventType = "m.room.member" && state.stateKey = sender)
        result.senderMember
      targetMember := select
        (state.eventType = "m.room.member" && eventType = "m.room.member" &&
          state.stateKey = targetStateKey)
        result.targetMember
      thirdPartyInvite := select
        (state.eventType = "m.room.third_party_invite" && !inviteToken.isEmpty &&
          state.stateKey = inviteToken)
        result.thirdPartyInvite }

def buildAuthEventMap (eventType : Bytes) (event : Value) : AuthEventMap :=
  store.state.foldl
    (selectLocal yyjson store roomId sender targetStateKey eventType
      ((thirdPartyInviteToken event).getD []))
    {}

/-- The loop body for inbound PDUs: the first condition that holds decides. -/
def selectPdu (eventType thirdPartyInviteToken : Bytes) (result : AuthEventMap)
    (state : PersistentStateEvent) : AuthEventMap :=
  let json := findEventJson yyjson store state.eventId
  if state.roomId ≠ roomId then result
  else if state.eventType = "m.room.create" && state.stateKey.isEmpty then
    { result with create := json }
  else if state.eventType = "m.room.power_levels" && state.stateKey.isEmpty then
    { result with powerLevels := json }
  else if state.eventType = "m.room.join_rules" && state.stateKey.isEmpty then
    { result with joinRules := json }
  else if state.eventType = "m.room.member" && state.stateKey = sender then
    { result with senderMember := json }
  else if state.eventType = "m.room.member" && eventType = "m.room.member" &&
      state.stateKey = targetStateKey then
    { result with targetMember := json }
  else if state.eventType = "m.room.third_party_invite" && !thirdPartyInviteToken.isEmpty &&
      state.stateKey = thirdPartyInviteToken then
    { result with thirdPartyInvite := json }
  else result

def buildPduAuthEventMap (eventType thirdPartyInviteToken : Bytes) : AuthEventMap :=
  store.state.foldl
    (selectPdu yyjson store roomId sender targetStateKey eventType thirdPartyInviteToken) {}

def rowKey (row : PersistentStateEvent) : StateKey := ⟨row.eventType, row.stateKey⟩

/-- The state of a room as a state map; a later row replaces an earlier one
with the same key. -/
def roomStateMap : StateMap :=
  (store.state.filter fun row => row.roomId = roomId).foldl
    (fun map row =>
      map.insert (rowKey row)
        (stateReference (rowKey row) row.eventId (findEventJson yyjson store row.eventId)))
    ∅

end

section Selection

variable {yyjson : Yyjson} {store : PersistentStore} {roomId : Bytes}

theorem stateJson_roomStateMap (eventType stateKey : Bytes) :
    stateJson (roomStateMap yyjson store roomId) eventType stateKey =
      ((store.state.filter fun row =>
          row.roomId = roomId && rowKey row = ⟨eventType, stateKey⟩).getLast?.map fun row =>
        findEventJson yyjson store row.eventId).getD .null := by
  rw [stateJson, roomStateMap, lookup_foldl_insert, withKey, List.filter_filter]
  simp only [Finmap.lookup_empty, Option.or_none, Option.map_map]
  congr 3
  exact List.filter_congr fun row _ => Bool.and_comm ..

def selectedJson (state : StateMap) (asked : Bool) (eventType stateKey : Bytes) : Value :=
  if asked then stateJson state eventType stateKey else .null

theorem field_eq_selectedJson {field : AuthEventMap → Value}
    {step : AuthEventMap → PersistentStateEvent → AuthEventMap} (asked : Bool)
    (eventType stateKey : Bytes) (hstart : field {} = .null)
    (hstep : ∀ result row, field (step result row) =
      if row.roomId = roomId ∧ row.eventType = eventType ∧ asked ∧ row.stateKey = stateKey then
        findEventJson yyjson store row.eventId
      else field result) :
    field (store.state.foldl step {}) =
      selectedJson (roomStateMap yyjson store roomId) asked eventType stateKey := by
  have hfield : field (store.state.foldl step {}) = _ :=
    field_foldl (fun row => row.roomId = roomId ∧ row.eventType = eventType ∧ asked ∧
        row.stateKey = stateKey)
      (fun row => findEventJson yyjson store row.eventId) (by simpa using hstep)
      store.state _
  rw [hfield, hstart, selectedJson]
  cases asked with
  | true => simp [stateJson_roomStateMap, rowKey]
  | false => simp

/-- What both selections from the store fill in: never an authorising user, and a
third-party invite only for a token that is not empty. -/
structure StoreSelection (state : StateMap) (sender token : Bytes) (authEvents : AuthEventMap) :
    Prop extends SelectedFrom state sender authEvents where
  authorisingUserMember : authEvents.authorisingUserMember = .null
  thirdPartyInvite : authEvents.thirdPartyInvite =
    selectedJson state (!token.isEmpty) "m.room.third_party_invite" token

variable {sender targetStateKey eventType token : Bytes}

theorem storeSelection_foldl {step : AuthEventMap → PersistentStateEvent → AuthEventMap}
    (hstep : ∀ result row, ∃ targetMember, step result row =
      { selectLocal yyjson store roomId sender targetStateKey eventType token result row with
        targetMember := targetMember }) :
    StoreSelection (roomStateMap yyjson store roomId) sender token
      (store.state.foldl step {}) := by
  constructor
  · constructor
    all_goals
      refine field_eq_selectedJson true _ _ rfl fun result row => ?_
      obtain ⟨targetMember, hrow⟩ := hstep result row
      simp only [hrow, selectLocal]
      split <;> simp_all
  · change _ = selectedJson (roomStateMap yyjson store roomId) false [] []
    refine field_eq_selectedJson _ _ _ rfl fun result row => ?_
    obtain ⟨targetMember, hrow⟩ := hstep result row
    simp only [hrow, selectLocal]
    split <;> simp
  · refine field_eq_selectedJson _ _ _ rfl fun result row => ?_
    obtain ⟨targetMember, hrow⟩ := hstep result row
    simp only [hrow, selectLocal]
    split <;> simp_all [and_assoc]

/-- The chain of the inbound loop differs in the target alone: the branch of the
sender's own member event comes before it. -/
theorem selectPdu_eq (result : AuthEventMap) (row : PersistentStateEvent) :
    selectPdu yyjson store roomId sender targetStateKey eventType token result row =
      { selectLocal yyjson store roomId sender targetStateKey eventType token result row with
        targetMember :=
          if row.roomId = roomId ∧ row.eventType = "m.room.member" ∧
              (eventType = "m.room.member" ∧ targetStateKey ≠ sender) ∧
              row.stateKey = targetStateKey then
            findEventJson yyjson store row.eventId
          else result.targetMember } := by
  by_cases hroom : row.roomId = roomId
  · by_cases hcreate : row.eventType = "m.room.create"
    · by_cases hkey : row.stateKey = [] <;>
        simp [selectPdu, selectLocal, hroom, hcreate, hkey]
    by_cases hpowerLevels : row.eventType = "m.room.power_levels"
    · by_cases hkey : row.stateKey = [] <;>
        simp [selectPdu, selectLocal, hroom, hpowerLevels, hkey]
    by_cases hjoinRules : row.eventType = "m.room.join_rules"
    · by_cases hkey : row.stateKey = [] <;>
        simp [selectPdu, selectLocal, hroom, hjoinRules, hkey]
    by_cases hmember : row.eventType = "m.room.member"
    · by_cases hkey : row.stateKey = sender
      · have htarget : ¬((eventType = "m.room.member" ∧ targetStateKey ≠ sender) ∧
            row.stateKey = targetStateKey) := fun h => h.1.2 (h.2 ▸ hkey)
        simp only [htarget, and_false, if_false]
        simp [selectPdu, selectLocal, hroom, hmember, hkey]
      · by_cases htarget : eventType = "m.room.member" ∧ row.stateKey = targetStateKey
        · have hother : targetStateKey ≠ sender := htarget.2 ▸ hkey
          simp [selectPdu, selectLocal, hroom, hmember, htarget.1, htarget.2, hother]
        · have hother : ¬((eventType = "m.room.member" ∧ targetStateKey ≠ sender) ∧
              row.stateKey = targetStateKey) := fun h => htarget ⟨h.1.1, h.2⟩
          simp only [hother, and_false, if_false]
          simp [selectPdu, selectLocal, hroom, hmember, hkey, htarget]
    by_cases htoken : (row.eventType = "m.room.third_party_invite" ∧ ¬token = []) ∧
        row.stateKey = token
    · simp [selectPdu, selectLocal, hroom, htoken.1, htoken.2]
    · simp [selectPdu, selectLocal, hroom, hcreate, hpowerLevels, hjoinRules, hmember, htoken]
  · simp [selectPdu, selectLocal, hroom]

theorem buildAuthEventMap_storeSelection (event : Value) :
    StoreSelection (roomStateMap yyjson store roomId) sender
      ((thirdPartyInviteToken event).getD [])
      (buildAuthEventMap yyjson store roomId sender targetStateKey eventType event) :=
  storeSelection_foldl fun _ _ => ⟨_, rfl⟩

theorem buildAuthEventMap_targetMember (event : Value) :
    (buildAuthEventMap yyjson store roomId sender targetStateKey eventType
        event).targetMember =
      selectedJson (roomStateMap yyjson store roomId) (eventType = "m.room.member")
        "m.room.member" targetStateKey := by
  refine field_eq_selectedJson _ _ _ rfl fun result row => ?_
  simp only [selectLocal]
  split <;> simp_all [and_assoc]

theorem buildPduAuthEventMap_storeSelection :
    StoreSelection (roomStateMap yyjson store roomId) sender token
      (buildPduAuthEventMap yyjson store roomId sender targetStateKey eventType token) :=
  storeSelection_foldl fun result row => ⟨_, selectPdu_eq result row⟩

theorem buildPduAuthEventMap_targetMember :
    (buildPduAuthEventMap yyjson store roomId sender targetStateKey eventType
        token).targetMember =
      selectedJson (roomStateMap yyjson store roomId)
        (eventType = "m.room.member" ∧ targetStateKey ≠ sender) "m.room.member"
        targetStateKey := by
  refine field_eq_selectedJson _ _ _ rfl fun result row => ?_
  simp only [selectPdu_eq, decide_eq_true_eq]

end Selection

end Merovingian.AuthEventMaps
