import Merovingian.MembershipRules
import Merovingian.StateResolution

/-!
A room's state as the authorization rules read it: the create event, the
membership of a user, the power of a user and the levels of the room, and the
auth events that the state offers to an event.
-/

namespace Merovingian.RoomState

open ByteString JsonValue RoomVersions PowerLevels EventAuthorization StateResolution

def eventSender (event : Value) : Option Bytes :=
  (valueIsObject event).bind fun object => stringMember object "sender"

def eventStateKey (event : Value) : Option StateKey :=
  (valueIsObject event).bind fun object =>
    (stringMember object "type").bind fun eventType =>
      (stringMember object "state_key").map fun stateKey => ⟨eventType, stateKey⟩

def stateReference (key : StateKey) (eventId : Bytes) (eventJson : Value) :
    StateEventReference where
  key := key
  eventId := eventId
  sender := (eventSender eventJson).getD []
  originServerTs :=
    ((valueIsObject eventJson).bind fun object =>
      integerMember object "origin_server_ts").getD 0
  eventJson := eventJson

def createKey : StateKey := ⟨"m.room.create", ""⟩

section

variable (policy : RoomVersionPolicy) (state : StateMap) (userId : Bytes)

def memberKey : StateKey := ⟨"m.room.member", userId⟩

def membershipIn : MembershipState :=
  currentMembership (stateJson state "m.room.member" userId)

def powerIn : Int64 :=
  effectiveSenderPower (stateJson state "m.room.power_levels" "") userId
    (stateJson state "m.room.create" "") policy

def levelIn (key : Bytes) (defaultValue : Int64) : Int64 :=
  levelOrDefault (stateJson state "m.room.power_levels" "") key defaultValue policy

end

variable {state : StateMap}

section

variable {json : Value} {object : Object} {eventType sender : Bytes}
  (hhead : EventHead json object eventType sender)
include hhead

theorem eventStateKey_of_head {stateKey : Bytes}
    (hkey : stringMember object "state_key" = some stateKey) :
    eventStateKey json = some ⟨eventType, stateKey⟩ := by
  simp [eventStateKey, hhead.isObject, hhead.type_eq, hkey]

theorem eventSender_of_head : eventSender json = some sender := by
  simp [eventSender, hhead.isObject, hhead.sender_eq]

end

theorem stateJson_of_lookup {eventType stateKey : Bytes} {bound : StateEventReference}
    (h : state.lookup ⟨eventType, stateKey⟩ = some bound) :
    stateJson state eventType stateKey = bound.eventJson := by
  simp [stateJson, h]

/-- The fields that every selection from a state fills alike. -/
structure SelectedFrom (state : StateMap) (sender : Bytes) (authEvents : AuthEventMap) : Prop where
  create : authEvents.create = stateJson state "m.room.create" ""
  powerLevels : authEvents.powerLevels = stateJson state "m.room.power_levels" ""
  joinRules : authEvents.joinRules = stateJson state "m.room.join_rules" ""
  senderMember : authEvents.senderMember = stateJson state "m.room.member" sender

section Selection

variable {event : Value} {object : Object} {sender stateKey : Bytes}

theorem buildAuthEventMapFromState_selectedFrom (state : StateMap) {eventType : Bytes}
    (hhead : EventHead event object eventType sender) :
    SelectedFrom state sender (buildAuthEventMapFromState event state) := by
  constructor <;> simp [buildAuthEventMapFromState, hhead.isObject, hhead.sender_eq]

variable (hhead : EventHead event object "m.room.member" sender)

include hhead

variable (hkey : stringMember object "state_key" = some stateKey)

include hkey

theorem buildAuthEventMapFromState_targetMember :
    (buildAuthEventMapFromState event state).targetMember =
      stateJson state "m.room.member" stateKey := by
  simp [buildAuthEventMapFromState, hhead.isObject, hhead.type_eq, hkey]

theorem targetMembership_eq_membershipIn :
    targetMembership (buildAuthEventMapFromState event state) stateKey sender =
      membershipIn state stateKey := by
  rw [targetMembership, (buildAuthEventMapFromState_selectedFrom state hhead).senderMember,
    buildAuthEventMapFromState_targetMember hhead hkey, membershipIn]
  split
  · next hself => rw [hself.1]
  · rfl

theorem buildAuthEventMapFromState_thirdPartyInvite :
    (buildAuthEventMapFromState event state).thirdPartyInvite =
      ((thirdPartyInviteToken event).map fun token =>
        stateJson state "m.room.third_party_invite" token).getD .null := by
  simp [buildAuthEventMapFromState, hhead.isObject, hhead.type_eq, hkey]

theorem buildAuthEventMapFromState_authorisingUser {authorisingUser : Bytes}
    (hjoin : eventContentString event "membership" = some (utf8 "join"))
    (hnamed : eventContentString event "join_authorised_via_users_server" = some authorisingUser)
    (hnonEmpty : authorisingUser ≠ []) :
    (buildAuthEventMapFromState event state).authorisingUserMember =
      stateJson state "m.room.member" authorisingUser := by
  rw [eventContentString, eventContent, hhead.isObject, Option.bind_some] at hjoin hnamed
  obtain ⟨content, hcontent, hmembership⟩ := Option.bind_eq_some_iff.mp hjoin
  rw [hcontent, Option.bind_some] at hnamed
  have huser : nonEmptyStringMember content "join_authorised_via_users_server" =
      some authorisingUser := nonEmptyStringMember_eq_some_iff.mpr ⟨hnamed, hnonEmpty⟩
  simp [buildAuthEventMapFromState, hhead.isObject, hhead.type_eq, hkey, hcontent, hmembership,
    huser]

end Selection

end Merovingian.RoomState
