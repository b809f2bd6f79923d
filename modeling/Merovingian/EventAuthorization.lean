import Merovingian.EventSigning
import Merovingian.PowerLevelRules

/-!
The authorization rules: whether an event may follow a selection of auth
events. The decision procedure is one long function in the source; here each
of its blocks has a name, in the order in which they run.
-/

namespace Merovingian.EventAuthorization

open ByteString JsonValue EventSigning RoomVersions PowerLevels PowerLevelRules

inductive MembershipState where
  | leave
  | invite
  | join
  | ban
  | knock
  | restricted
deriving DecidableEq

structure EventAuthorizationDecision where
  allowed : Bool
  ruleHook : Bytes
  ruleStep : Bytes
  reason : Bytes
deriving DecidableEq

/-- The auth events a decision may consult; `null` stands for an absent one. -/
structure AuthEventMap where
  create : Value := .null
  powerLevels : Value := .null
  joinRules : Value := .null
  senderMember : Value := .null
  targetMember : Value := .null
  authorisingUserMember : Value := .null
  thirdPartyInvite : Value := .null

def makeDenied (step reason : Bytes) : EventAuthorizationDecision :=
  ⟨false, [], step, reason⟩

def makeAllowed (step : Bytes) : EventAuthorizationDecision :=
  ⟨true, [], step, []⟩

@[simp] theorem makeDenied_allowed (step reason : Bytes) :
    (makeDenied step reason).allowed = false := rfl

@[simp] theorem makeAllowed_allowed (step : Bytes) : (makeAllowed step).allowed = true := rfl

def parseMembershipState (membership : Bytes) : Option MembershipState :=
  if membership = "join" then some .join
  else if membership = "invite" then some .invite
  else if membership = "leave" then some .leave
  else if membership = "ban" then some .ban
  else if membership = "knock" then some .knock
  else none

def domainOf (matrixId : Bytes) : Bytes :=
  match splitAtFirst (byte ':') matrixId with
  | none => []
  | some (_, domain) => domain

def extractContentMembership (event : Value) : Bytes :=
  (eventContentString event "membership").getD []

/-- The membership a member event grants, with `leave` for an absent event and
for an unrecognised membership. -/
def currentMembership (memberEvent : Value) : MembershipState :=
  if valueHasContent memberEvent then
    (parseMembershipState (extractContentMembership memberEvent)).getD .leave
  else .leave

def levelOrDefault (powerLevels : Value) (key : Bytes) (defaultValue : Int64)
    (policy : RoomVersionPolicy) : Int64 :=
  if valueHasContent powerLevels then
    extractPowerLevelKey powerLevels key defaultValue (allowStrings policy)
  else defaultValue

def collectThirdPartyInvitePublicKeys (thirdPartyInviteEvent : Value) : List Bytes :=
  match eventContent thirdPartyInviteEvent with
  | none => []
  | some content =>
    (stringMember content "public_key").toList ++
      ((arrayMember content "public_keys").getD []).filterMap fun entry =>
        (valueIsObject entry).bind fun object => stringMember object "public_key"

def thirdPartyInviteSignatureIsValid (sodium : Libsodium) (signedObject : Object)
    (thirdPartyInviteEvent : Value) : Bool :=
  match objectMemberAsObject signedObject "signatures" with
  | none => false
  | some signatures =>
    let candidateKeys := collectThirdPartyInvitePublicKeys thirdPartyInviteEvent
    if candidateKeys.isEmpty then false
    else
      match makeEventSigningPayload (.object signedObject) with
      | .error _ => false
      | .ok payload =>
        signatures.any fun serverEntry =>
          ((valueIsObject serverEntry.2).getD []).any fun keyEntry =>
            match valueIsString keyEntry.2 with
            | none => false
            | some signatureBase64 =>
              let signature := matrixBytesFromBase64 sodium signatureBase64
              ed25519SignatureShapeIsValid signature && candidateKeys.any fun publicKeyBase64 =>
                  let publicKey := matrixBytesFromBase64 sodium publicKeyBase64
                  ed25519PublicKeyShapeIsValid publicKey &&
                    ed25519Verify sodium publicKey payload signature

/-- Rule 4.3.1: an invite that redeems a third-party token is decided here
alone. -/
def authorizeThirdPartyInvite (sodium : Libsodium) (thirdPartyInviteContent : Value)
    (stateKey sender : Bytes) (targetCurrentMembership : MembershipState)
    (thirdPartyInviteEvent : Value) : EventAuthorizationDecision :=
  if targetCurrentMembership = .ban then
    makeDenied "6" "banned user cannot accept a third-party invite"
  else
    match (valueIsObject thirdPartyInviteContent).bind fun object =>
        objectMemberAsObject object "signed" with
    | none => makeDenied "6" "third_party_invite missing signed property"
    | some signedObject =>
      match stringMember signedObject "mxid", stringMember signedObject "token" with
      | some mxid, some token =>
        if mxid ≠ stateKey then
          makeDenied "6" "third_party_invite signed mxid does not match state_key"
        else
          match valueIsObject thirdPartyInviteEvent with
          | none => makeDenied "6" "no matching m.room.third_party_invite event for token"
          | some inviteObject =>
            if stringMember inviteObject "state_key" ≠ some token then
              makeDenied "6" "no matching m.room.third_party_invite event for token"
            else if stringMember inviteObject "sender" ≠ some sender then
              makeDenied "6" "sender does not match m.room.third_party_invite sender"
            else if !thirdPartyInviteSignatureIsValid sodium signedObject
                thirdPartyInviteEvent then
              makeDenied "6" "third_party_invite signature does not match any public key"
            else makeAllowed "6"
      | _, _ => makeDenied "6" "third_party_invite signed is missing mxid or token"

/-- Sub-rules 1.1 to 1.4 for `m.room.create`. -/
def createEventRejectionReason (event : Object) (policy : RoomVersionPolicy) : Option Bytes :=
  let sender := stringMember event "sender"
  let roomId := stringMember event "room_id"
  let content := objectMemberAsObject event "content"
  let creatorFieldRequired :=
    !policy.createEventIsRoomId && policy.redactionRules ≠ .roomV11Plus
  if (arrayMember event "prev_events").any fun entries => !entries.isEmpty then
    some "create event must not have prev_events"
  else if policy.createEventIsRoomId && roomId.isSome then
    some "v12 create event must not carry a room_id"
  else if !policy.createEventIsRoomId && roomId.isNone then
    some "create event requires a room_id"
  else if !policy.createEventIsRoomId && sender.map domainOf ≠ some (domainOf (roomId.getD [])) then
    some "create event room_id domain does not match the sender domain"
  else if creatorFieldRequired &&
      (content.bind fun members => objectMember members "creator").isNone then
    some "create event content requires a creator"
  else
    match content with
    | none => none
    | some content =>
      if (stringMember content "room_version").any fun version =>
          !roomVersionIsSupported version then
        some "create event declares an unrecognised room_version"
      else if !policy.createEventIsRoomId then none
      else
        match objectMember content "additional_creators" with
        | none => none
        | some additional =>
          match valueIsArray additional with
          | none => some "additional_creators must be an array"
          | some entries =>
            if entries.any fun entry =>
                !(valueIsString entry).any userIdIsWellFormed then
              some "additional_creators must contain only valid user IDs"
            else none

/-- Step 3, for the room versions that have it: the domain check of a room
whose create event turns federation off. -/
def federationRejectionReason (policy : RoomVersionPolicy) (create : Value)
    (sender : Bytes) : Option Bytes :=
  if policy.authRules = .roomV6Plus || policy.authRules = .roomV12 then
    match (eventContent create).bind fun content => objectMember content "m.federate" with
    | some (.boolean false) =>
      let creatorDomainSource :=
        match eventContentString create "creator" with
        | some creator => creator
        | none =>
          ((valueIsObject create).bind fun object => stringMember object "sender").getD []
      if creatorDomainSource.isEmpty then some "create event has no identifiable creator"
      else if domainOf sender ≠ domainOf creatorDomainSource then
        some "sender domain does not match creator domain"
      else none
    | _ => none
  else none

section

variable (event : Value) (policy : RoomVersionPolicy) (authEvents : AuthEventMap) (sender : Bytes)

/-- The room's join rule, `invite` unless a join rules event states one. -/
def roomJoinRule (joinRules : Value) : Bytes :=
  if valueHasContent joinRules then
    (eventContentString joinRules "join_rule").getD "invite"
  else "invite"

/-- The restricted join of a user who is neither invited nor joined: it rests
on the membership and the power of the authorising user. -/
def authorizeRestrictedJoin : EventAuthorizationDecision :=
  match (eventContentString event "join_authorised_via_users_server").filter
      fun user => !user.isEmpty with
  | none => makeDenied "5" "restricted join requires join_authorised_via_users_server"
  | some authorisingUser =>
    match valueIsObject authEvents.authorisingUserMember with
    | none => makeDenied "5" "restricted join missing authorising user membership"
    | some authorisingMember =>
      if stringMember authorisingMember "state_key" ≠ some authorisingUser then
        makeDenied "5" "restricted join authorising user does not match membership event"
      else if parseMembershipState
          (extractContentMembership authEvents.authorisingUserMember) ≠ some .join then
        makeDenied "5" "restricted join authorising user is not joined"
      else if effectiveSenderPower authEvents.powerLevels authorisingUser
          authEvents.create policy < levelOrDefault authEvents.powerLevels "invite" 0 policy then
        makeDenied "5" "restricted join authorising user lacks invite power"
      else makeAllowed "5"

/-- The creator's first join, before any membership exists. -/
def isCreatorBootstrap : Bool :=
  !valueHasContent authEvents.senderMember && !valueHasContent authEvents.targetMember &&
    eventContentString authEvents.create "creator" = some sender

/-- Step 5 for a join of the sender's own user. -/
def authorizeJoin (targetCurrentMembership : MembershipState) : EventAuthorizationDecision :=
  let joinRule := roomJoinRule authEvents.joinRules
  let invitedOrJoined :=
    targetCurrentMembership = .invite || targetCurrentMembership = .join
  if targetCurrentMembership = .ban then makeDenied "5" "banned user cannot join"
  else if isCreatorBootstrap authEvents sender then makeAllowed "5"
  else if joinRule = "public" then makeAllowed "5"
  else if joinRule = "invite" then
    if invitedOrJoined then makeAllowed "5"
    else makeDenied "5" "user was not invited to this invite-only room"
  else if joinRule = "knock" then
    if invitedOrJoined then makeAllowed "5"
    else makeDenied "5" "user was not invited to knock-restricted room"
  else if joinRule = "restricted" || joinRule = "restricted_v2" then
    if invitedOrJoined then makeAllowed "5"
    else authorizeRestrictedJoin event policy authEvents
  else makeDenied "5" "unknown join rule"

end

def authorizeKnock (authEvents : AuthEventMap) (targetIsSender : Bool)
    (targetCurrentMembership : MembershipState) : EventAuthorizationDecision :=
  let knockJoinRule := roomJoinRule authEvents.joinRules
  if !targetIsSender then makeDenied "5" "cannot knock on behalf of another user"
  else if targetCurrentMembership = .ban then makeDenied "5" "banned user cannot knock"
  else if targetCurrentMembership = .join || targetCurrentMembership = .invite then
    makeDenied "5" "already joined or invited user cannot knock"
  else if knockJoinRule = "knock" || knockJoinRule = "knock_restricted" then makeAllowed "5"
  else makeDenied "5" "join_rule does not permit knocking"

def thirdPartyInviteContent (object : Object) : Option Value :=
  (objectMemberAsObject object "content").bind fun content =>
    (objectMember content "third_party_invite").filter fun value =>
      (valueIsObject value).isSome

section

variable (sodium : Libsodium) (object : Object) (policy : RoomVersionPolicy)
  (authEvents : AuthEventMap) (stateKey : Bytes)

section

variable (sender : Bytes) (senderCurrentMembership targetCurrentMembership : MembershipState)

def authorizeInvite : EventAuthorizationDecision :=
  match thirdPartyInviteContent object with
  | some invite =>
    authorizeThirdPartyInvite sodium invite stateKey sender targetCurrentMembership
      authEvents.thirdPartyInvite
  | none =>
    if targetCurrentMembership = .join then
      makeDenied "6" "cannot invite already-joined user"
    else if targetCurrentMembership = .ban then makeDenied "6" "cannot invite banned user"
    else if senderCurrentMembership ≠ .join then makeDenied "6" "inviter must be joined"
    else if effectiveSenderPower authEvents.powerLevels sender authEvents.create policy <
        levelOrDefault authEvents.powerLevels "invite" 0 policy then
      makeDenied "6" "insufficient power to invite"
    else makeAllowed "6"

/-- Step 7: leaving, kicking and unbanning. -/
def authorizeLeave : EventAuthorizationDecision :=
  if sender = stateKey then
    if targetCurrentMembership = .invite || targetCurrentMembership = .join ||
        targetCurrentMembership = .knock then makeAllowed "7"
    else makeDenied "7" "self-leave requires current membership of invite, join, or knock"
  else if senderCurrentMembership ≠ .join then makeDenied "7" "kicker must be joined"
  else
    let senderPower :=
      effectiveSenderPower authEvents.powerLevels sender authEvents.create policy
    let targetPower :=
      effectiveSenderPower authEvents.powerLevels stateKey authEvents.create policy
    if targetCurrentMembership = .ban &&
        senderPower < levelOrDefault authEvents.powerLevels "ban" 50 policy then
      makeDenied "7" "insufficient power to unban"
    else if senderPower ≥ levelOrDefault authEvents.powerLevels "kick" 50 policy &&
        targetPower < senderPower then makeAllowed "7"
    else makeDenied "7" "insufficient power to kick or unban target"

def authorizeBan : EventAuthorizationDecision :=
  if senderCurrentMembership ≠ .join then makeDenied "8" "banner must be joined"
  else
    let senderPower :=
      effectiveSenderPower authEvents.powerLevels sender authEvents.create policy
    let targetPower :=
      effectiveSenderPower authEvents.powerLevels stateKey authEvents.create policy
    if senderPower ≥ levelOrDefault authEvents.powerLevels "ban" 50 policy &&
        targetPower < senderPower then makeAllowed "8"
    else makeDenied "8" "insufficient power to ban"

def targetMembership : MembershipState :=
  if sender = stateKey ∧ valueHasContent authEvents.senderMember then
    currentMembership authEvents.senderMember
  else currentMembership authEvents.targetMember

end

/-- Steps 4 to 9: `m.room.member`. -/
def authorizeMemberEvent (event : Value) (object : Object) (policy : RoomVersionPolicy)
    (authEvents : AuthEventMap) (sender : Bytes) : EventAuthorizationDecision :=
  match nonEmptyStringMember object "state_key" with
  | none => makeDenied "4" "m.room.member requires a state_key"
  | some stateKey =>
    let senderCurrent := currentMembership authEvents.senderMember
    let targetCurrent := targetMembership authEvents stateKey sender
    match parseMembershipState (extractContentMembership event) with
    | none => makeDenied "4" "membership value is unrecognized"
    | some .join =>
      if sender ≠ stateKey then makeDenied "5" "cannot force another user to join"
      else authorizeJoin event policy authEvents sender targetCurrent
    | some .knock => authorizeKnock authEvents (sender = stateKey) targetCurrent
    | some .invite =>
      authorizeInvite sodium object policy authEvents stateKey sender senderCurrent
        targetCurrent
    | some .leave =>
      authorizeLeave policy authEvents stateKey sender senderCurrent targetCurrent
    | some .ban => authorizeBan policy authEvents stateKey sender senderCurrent
    | some .restricted => makeDenied "4" "unsupported membership type"

/-- Step 10: the sender's membership, where a creator without a member event
counts as joined. -/
def senderMembership (sender : Bytes) : MembershipState :=
  if valueHasContent authEvents.senderMember then
    currentMembership authEvents.senderMember
  else if eventContentString authEvents.create "creator" = some sender then .join
  else .leave

def eventTypeLevel (powerLevels : Value) (eventType : Bytes) (defaultLevel : Int64) : Int64 :=
  let events := (eventContent powerLevels).bind fun content =>
    objectMemberAsObject content "events"
  (events.bind fun members => integerMember members eventType).getD defaultLevel

/-- The checks on an `m.room.power_levels` event before its required level. -/
def powerLevelsEventRejection (sender : Bytes) : Option Bytes :=
  let senderPower :=
    effectiveSenderPower authEvents.powerLevels sender authEvents.create policy
  match objectMemberAsObject object "content" with
  | none => some "m.room.power_levels requires a content object"
  | some content =>
    let newUsers := (objectMemberAsObject content "users").getD []
    match powerLevelsContentRejectionReason content policy with
    | some reason => some reason
    | none =>
      if policy.privilegeRoomCreators && newUsers.any fun entry =>
          userIsRoomCreator authEvents.create entry.1 policy then
        some "creator cannot be specified in m.room.power_levels content.users"
      else if valueHasContent authEvents.powerLevels then
        powerLevelsChangeRejection authEvents.powerLevels content sender senderPower policy
      else none

/-- Step 11 for `m.room.power_levels`. -/
def authorizePowerLevelsEvent (sender : Bytes) : EventAuthorizationDecision :=
  match powerLevelsEventRejection object policy authEvents sender with
  | some reason => makeDenied "11" reason
  | none =>
    if effectiveSenderPower authEvents.powerLevels sender authEvents.create policy <
        levelOrDefault authEvents.powerLevels "state_default" 50 policy then
      makeDenied "11" "insufficient power to send power_levels event"
    else makeAllowed "11"

/-- Steps 10 to 14: every type but `m.room.create` and `m.room.member`. -/
def authorizeRoomEvent (eventType sender : Bytes) : EventAuthorizationDecision :=
  let senderPower :=
    effectiveSenderPower authEvents.powerLevels sender authEvents.create policy
  if senderMembership authEvents sender ≠ .join then
    makeDenied "10" "sender is not joined to the room"
  else if eventType = "m.room.third_party_invite" then
    if senderPower < levelOrDefault authEvents.powerLevels "invite" 0 policy then
      makeDenied "6" "insufficient power to create a third-party invite"
    else makeAllowed "6"
  else if (stringMember object "state_key").any fun stateKey =>
      stateKey.head? = some (byte '@') && stateKey ≠ sender then
    makeDenied "8" "state_key belongs to another user"
  else if eventType = "m.room.power_levels" then
    authorizePowerLevelsEvent object policy authEvents sender
  else if (stringMember object "state_key").isSome then
    if senderPower < eventTypeLevel authEvents.powerLevels eventType
        (levelOrDefault authEvents.powerLevels "state_default" 50 policy) then
      makeDenied "13" "insufficient power for state event"
    else makeAllowed "13"
  else
    if senderPower < eventTypeLevel authEvents.powerLevels eventType
        (levelOrDefault authEvents.powerLevels "events_default" 0 policy) then
      makeDenied "14" "insufficient power for message event"
    else makeAllowed "14"

/-- Everything after the head of the event has been read: create events, then
the steps that need a create event. -/
def authorizeTypedEvent (event : Value) (object : Object) (policy : RoomVersionPolicy)
    (authEvents : AuthEventMap) (eventType sender : Bytes) : EventAuthorizationDecision :=
  if eventType = "m.room.create" then
    if valueHasContent authEvents.create then
      makeDenied "1" "room already has a create event"
    else
      match createEventRejectionReason object policy with
      | some reason => makeDenied "1" reason
      | none => makeAllowed "1"
  else if !valueHasContent authEvents.create then
    makeDenied "2" "room has no create event"
  else
    match federationRejectionReason policy authEvents.create sender with
    | some reason => makeDenied "3" reason
    | none =>
      if eventType = "m.room.member" then
        authorizeMemberEvent sodium event object policy authEvents sender
      else authorizeRoomEvent object policy authEvents eventType sender

def authorizeEventAgainstAuthEvents (event : Value) (policy : RoomVersionPolicy)
    (authEvents : AuthEventMap) : EventAuthorizationDecision :=
  match valueIsObject event with
  | none => makeDenied "0" "event must be an object"
  | some object =>
    match nonEmptyStringMember object "type" with
    | none => makeDenied "0" "missing event type"
    | some eventType =>
      match nonEmptyStringMember object "sender" with
      | none => makeDenied "0" "missing sender"
      | some sender =>
        authorizeTypedEvent sodium event object policy authEvents eventType sender

end

structure EventHead (event : Value) (object : Object) (eventType sender : Bytes) : Prop where
  isObject : valueIsObject event = some object
  hasType : nonEmptyStringMember object "type" = some eventType
  hasSender : nonEmptyStringMember object "sender" = some sender

section Head

variable {event : Value} {object : Object} {eventType sender : Bytes}
  (hhead : EventHead event object eventType sender)
include hhead

theorem EventHead.type_eq : stringMember object "type" = some eventType :=
  (nonEmptyStringMember_eq_some_iff.mp hhead.hasType).1

theorem EventHead.sender_eq : stringMember object "sender" = some sender :=
  (nonEmptyStringMember_eq_some_iff.mp hhead.hasSender).1

end Head

section Decision

variable {sodium : Libsodium} {event : Value} {object : Object}
  {policy : RoomVersionPolicy} {authEvents : AuthEventMap} {eventType sender : Bytes}

theorem authorize_of_head (hhead : EventHead event object eventType sender) :
    authorizeEventAgainstAuthEvents sodium event policy authEvents =
      authorizeTypedEvent sodium event object policy authEvents eventType sender := by
  simp only [authorizeEventAgainstAuthEvents, hhead.isObject, hhead.hasType, hhead.hasSender]

theorem eventHead_of_allowed
    (h : (authorizeEventAgainstAuthEvents sodium event policy authEvents).allowed = true) :
    ∃ object eventType sender, EventHead event object eventType sender := by
  unfold authorizeEventAgainstAuthEvents at h
  cases hobject : valueIsObject event with
  | none => simp [hobject] at h
  | some object =>
    cases htype : nonEmptyStringMember object "type" with
    | none => simp [hobject, htype] at h
    | some eventType =>
      cases hsender : nonEmptyStringMember object "sender" with
      | none => simp [hobject, htype, hsender] at h
      | some sender => exact ⟨object, eventType, sender, hobject, htype, hsender⟩

theorem authorizeTypedEvent_create_allowed_iff :
    (authorizeTypedEvent sodium event object policy authEvents "m.room.create"
        sender).allowed = true ↔
      valueHasContent authEvents.create = false ∧
        createEventRejectionReason object policy = none := by
  unfold authorizeTypedEvent
  cases valueHasContent authEvents.create <;>
    cases createEventRejectionReason object policy <;> simp

def roomAdmits (policy : RoomVersionPolicy) (authEvents : AuthEventMap)
    (sender : Bytes) : Bool :=
  valueHasContent authEvents.create &&
    (federationRejectionReason policy authEvents.create sender).isNone

theorem authorizeTypedEvent_member_allowed_iff :
    (authorizeTypedEvent sodium event object policy authEvents "m.room.member"
        sender).allowed = true ↔
      roomAdmits policy authEvents sender = true ∧
        (authorizeMemberEvent sodium event object policy authEvents sender).allowed = true := by
  unfold authorizeTypedEvent roomAdmits
  cases valueHasContent authEvents.create <;>
    cases federationRejectionReason policy authEvents.create sender <;> simp

theorem authorizeTypedEvent_room_allowed_iff (hcreate : eventType ≠ "m.room.create")
    (hmember : eventType ≠ "m.room.member") :
    (authorizeTypedEvent sodium event object policy authEvents eventType
        sender).allowed = true ↔
      roomAdmits policy authEvents sender = true ∧
        (authorizeRoomEvent object policy authEvents eventType sender).allowed = true := by
  unfold authorizeTypedEvent roomAdmits
  rw [if_neg hcreate]
  cases valueHasContent authEvents.create <;>
    cases federationRejectionReason policy authEvents.create sender <;>
    simp [hmember]

theorem authorizePowerLevelsEvent_allowed_iff :
    (authorizePowerLevelsEvent object policy authEvents sender).allowed = true ↔
      powerLevelsEventRejection object policy authEvents sender = none ∧
        levelOrDefault authEvents.powerLevels "state_default" 50 policy ≤
          effectiveSenderPower authEvents.powerLevels sender authEvents.create policy := by
  unfold authorizePowerLevelsEvent
  cases powerLevelsEventRejection object policy authEvents sender with
  | some reason => simp
  | none =>
    simp only [true_and]
    split
    · next hlow => simp [hlow]
    · next hhigh => simpa using hhigh

abbrev ContentAccepted (policy : RoomVersionPolicy) (authEvents : AuthEventMap) (sender : Bytes)
    (content : Object) : Prop :=
  powerLevelsContentRejectionReason content policy = none ∧
    (policy.privilegeRoomCreators = true →
      ∀ entry ∈ (objectMemberAsObject content "users").getD [],
        userIsRoomCreator authEvents.create entry.1 policy = false) ∧
    (valueHasContent authEvents.powerLevels = true →
      powerLevelsChangeRejection authEvents.powerLevels content sender
        (effectiveSenderPower authEvents.powerLevels sender authEvents.create policy)
        policy = none)

theorem powerLevelsEventRejection_eq_none_iff :
    powerLevelsEventRejection object policy authEvents sender = none ↔
      ∃ content, objectMemberAsObject object "content" = some content ∧
        ContentAccepted policy authEvents sender content := by
  unfold powerLevelsEventRejection ContentAccepted
  cases objectMemberAsObject object "content" with
  | none => simp
  | some content =>
    simp only [Option.some.injEq, exists_eq_left']
    cases powerLevelsContentRejectionReason content policy with
    | some reason => simp
    | none =>
      simp only [true_and]
      split
      · next hcreator =>
          simp only [Bool.and_eq_true, List.any_eq_true] at hcreator
          obtain ⟨hprivilege, entry, hentry, hlisted⟩ := hcreator
          simp only [reduceCtorEq, false_iff, not_and]
          intro hnone
          simp [hnone hprivilege entry hentry] at hlisted
      · next hcreator =>
          simp only [Bool.and_eq_true, List.any_eq_true, not_and, not_exists,
            Bool.not_eq_true] at hcreator
          rw [and_iff_right hcreator]
          split
          · next hcontent => simp [hcontent]
          · next hcontent => simp [hcontent]

end Decision

end Merovingian.EventAuthorization
