import Merovingian.AuthEventMaps

/-!
The verdicts that the three selections of auth events lead to. Events sent
locally and inbound PDUs are always judged alike. State resolution allows two
kinds of event that both deny: a restricted join that rests on its authorising
user, and a third-party invite redeemed with an empty token.
-/

namespace Merovingian.AuthVerdicts

open ByteString JsonValue CanonicalParser EventSigning RoomVersions EventAuthorization
  MembershipRules StateResolution RoomState StoreTables AuthEventMaps

section Decision

variable {sodium : Libsodium} {policy : RoomVersionPolicy} {state : StateMap} {event : Value}
  {object : Object} {sender stateKey : Bytes} {first second : AuthEventMap}

theorem authorizeRoomEvent_congr {eventType : Bytes} (hcreate : first.create = second.create)
    (hpowerLevels : first.powerLevels = second.powerLevels)
    (hsender : first.senderMember = second.senderMember) :
    authorizeRoomEvent object policy first eventType sender =
      authorizeRoomEvent object policy second eventType sender := by
  obtain ⟨create, powerLevels, _, senderMember, _, _, _⟩ := first
  obtain ⟨rfl, rfl, rfl⟩ : create = second.create ∧ powerLevels = second.powerLevels ∧
      senderMember = second.senderMember := ⟨hcreate, hpowerLevels, hsender⟩
  rfl

/-- Two selections that the member rules do not tell apart, the authorising user
and the third-party invite aside. -/
structure Interchangeable (sender stateKey : Bytes) (first second : AuthEventMap) : Prop where
  create : first.create = second.create
  powerLevels : first.powerLevels = second.powerLevels
  joinRules : first.joinRules = second.joinRules
  senderMember : first.senderMember = second.senderMember
  target : targetMembership first stateKey sender = targetMembership second stateKey sender
  bootstrap : isCreatorBootstrap first sender = isCreatorBootstrap second sender

/-- A selection may leave out a target that is the sender. -/
theorem interchangeable_of_selected (hfirst : SelectedFrom state sender first)
    (hsecond : SelectedFrom state sender second)
    (htarget : first.targetMember = second.targetMember ∨
      stateKey = sender ∧ first.targetMember = .null ∧
        second.targetMember = stateJson state "m.room.member" sender) :
    Interchangeable sender stateKey first second := by
  have hcreate := hfirst.create.trans hsecond.create.symm
  have hmember := hfirst.senderMember.trans hsecond.senderMember.symm
  refine ⟨hcreate, hfirst.powerLevels.trans hsecond.powerLevels.symm,
    hfirst.joinRules.trans hsecond.joinRules.symm, hmember, ?_, ?_⟩
  · rcases htarget with htarget | ⟨rfl, hnull, hown⟩
    · rw [targetMembership, targetMembership, hmember, htarget]
    · rw [targetMembership, targetMembership, hmember, hnull, hown, hsecond.senderMember]
      cases hcontent : valueHasContent (stateJson state "m.room.member" stateKey) with
      | true => simp
      | false => rw [valueHasContent_eq_false_iff.mp hcontent]
  · rcases htarget with htarget | ⟨rfl, hnull, hown⟩
    · rw [isCreatorBootstrap, isCreatorBootstrap, hmember, htarget, hcreate]
    · rw [isCreatorBootstrap, isCreatorBootstrap, hmember, hnull, hown, hcreate,
        hsecond.senderMember]
      cases hcontent : valueHasContent (stateJson state "m.room.member" stateKey) <;> rfl

structure RestrictedJoin (policy : RoomVersionPolicy) (state : StateMap) (event : Value)
    (object : Object) (sender authorisingUser : Bytes) : Prop where
  head : EventHead event object "m.room.member" sender
  own : stringMember object "state_key" = some sender
  join : eventContentString event "membership" = some (utf8 "join")
  admitted : roomAdmits policy (buildAuthEventMapFromState event state) sender = true
  lastResort : needsAuthorisingUser (buildAuthEventMapFromState event state) sender
    (membershipIn state sender) = true
  named : eventContentString event "join_authorised_via_users_server" = some authorisingUser
  nonEmpty : authorisingUser ≠ []
  keyed : ((valueIsObject (stateJson state "m.room.member" authorisingUser)).bind
    fun member => stringMember member "state_key") = some authorisingUser
  joined : membershipIn state authorisingUser = .join
  mayInvite : levelIn policy state "invite" 0 ≤ powerIn policy state authorisingUser

structure EmptyTokenInvite (sodium : Libsodium) (policy : RoomVersionPolicy) (state : StateMap)
    (event : Value) (object : Object) (sender stateKey : Bytes) (invite : Value) : Prop where
  head : EventHead event object "m.room.member" sender
  target : nonEmptyStringMember object "state_key" = some stateKey
  requested : eventContentString event "membership" = some (utf8 "invite")
  admitted : roomAdmits policy (buildAuthEventMapFromState event state) sender = true
  carried : thirdPartyInviteContent object = some invite
  emptyToken : thirdPartyInviteToken event = some []
  redeemed : (authorizeThirdPartyInvite sodium invite stateKey sender
    (membershipIn state stateKey)
    (stateJson state "m.room.third_party_invite" "")).allowed = true

theorem restrictedJoin_allowed_iff (hhead : EventHead event object "m.room.member" sender)
    (hkey : stringMember object "state_key" = some stateKey)
    (hjoin : eventContentString event "membership" = some (utf8 "join")) :
    (authorizeRestrictedJoin event policy (buildAuthEventMapFromState event state)).allowed = true ↔
      ∃ authorisingUser,
        eventContentString event "join_authorised_via_users_server" = some authorisingUser ∧
        authorisingUser ≠ [] ∧
        ((valueIsObject (stateJson state "m.room.member" authorisingUser)).bind
          fun member => stringMember member "state_key") = some authorisingUser ∧
        membershipIn state authorisingUser = .join ∧
        levelIn policy state "invite" 0 ≤ powerIn policy state authorisingUser := by
  have hselected := buildAuthEventMapFromState_selectedFrom state hhead
  simp only [authorizeRestrictedJoin_allowed_iff, authorisedBy_iff, hselected.create,
    hselected.powerLevels]
  refine exists_congr fun authorisingUser => ?_
  constructor
  · rintro ⟨member, hnamed, hnonEmpty, hmember, hkeyed, hjoined, hpower⟩
    rw [buildAuthEventMapFromState_authorisingUser hhead hkey hjoin hnamed hnonEmpty]
      at hmember hjoined
    refine ⟨hnamed, hnonEmpty, ?_, ?_, hpower⟩
    · rw [hmember, Option.bind_some, hkeyed]
    · exact currentMembership_eq_join_iff.mpr
        ⟨valueHasContent_of_isObject hmember, hjoined⟩
  · rintro ⟨hnamed, hnonEmpty, hkeyed, hjoined, hpower⟩
    obtain ⟨member, hmember, hkeyed⟩ := Option.bind_eq_some_iff.mp hkeyed
    refine ⟨member, hnamed, hnonEmpty, ?_, hkeyed, ?_, hpower⟩
    · rw [buildAuthEventMapFromState_authorisingUser hhead hkey hjoin hnamed hnonEmpty, hmember]
    · rw [buildAuthEventMapFromState_authorisingUser hhead hkey hjoin hnamed hnonEmpty]
      exact (currentMembership_eq_join_iff.mp hjoined).2

theorem authorizeRestrictedJoin_of_null (h : first.authorisingUserMember = .null) :
    (authorizeRestrictedJoin event policy first).allowed = false := by
  rw [← Bool.not_eq_true, authorizeRestrictedJoin_allowed_iff]
  rintro ⟨authorisingUser, member, hauthorised⟩
  have hmember := hauthorised.isMember
  rw [h] at hmember
  cases hmember

theorem Interchangeable.needs_eq (h : Interchangeable sender stateKey first second)
    (membership : MembershipState) :
    needsAuthorisingUser first sender membership =
      needsAuthorisingUser second sender membership := by
  rw [needsAuthorisingUser, needsAuthorisingUser, h.joinRules, h.bootstrap]

variable {membership : MembershipState}

theorem Interchangeable.join_allowed_eq (h : Interchangeable sender stateKey first second)
    (hnull : first.authorisingUserMember = .null)
    (hdenied : needsAuthorisingUser second sender membership = true →
      (authorizeRestrictedJoin event policy second).allowed = false) :
    (authorizeJoin event policy first sender membership).allowed =
      (authorizeJoin event policy second sender membership).allowed := by
  have hneeds := h.needs_eq membership
  cases hsecond : needsAuthorisingUser second sender membership with
  | false => rw [authorizeJoin_congr h.joinRules h.bootstrap (hneeds.trans hsecond)]
  | true =>
    rw [authorizeJoin_of_needs hsecond, authorizeJoin_of_needs (hneeds.trans hsecond),
      authorizeRestrictedJoin_of_null hnull, hdenied hsecond]

theorem authorizeThirdPartyInvite_of_null (invite : Value) (membership : MembershipState) :
    (authorizeThirdPartyInvite sodium invite stateKey sender membership .null).allowed = false := by
  unfold authorizeThirdPartyInvite
  split
  · rfl
  · split
    · rfl
    · split
      · split <;> rfl
      · rfl

theorem invite_allowed_eq
    (hselection : StoreSelection state sender ((thirdPartyInviteToken event).getD []) first)
    (h : Interchangeable sender stateKey first (buildAuthEventMapFromState event state))
    (hhead : EventHead event object "m.room.member" sender)
    (hkey : stringMember object "state_key" = some stateKey)
    {senderCurrent targetCurrent : MembershipState}
    (hdenied : ∀ invite, thirdPartyInviteContent object = some invite →
      thirdPartyInviteToken event = some [] →
      (authorizeThirdPartyInvite sodium invite stateKey sender targetCurrent
        (stateJson state "m.room.third_party_invite" "")).allowed = false) :
    (authorizeInvite sodium object policy first stateKey sender senderCurrent
        targetCurrent).allowed =
      (authorizeInvite sodium object policy (buildAuthEventMapFromState event state) stateKey
        sender senderCurrent targetCurrent).allowed := by
  unfold authorizeInvite
  cases hcontent : thirdPartyInviteContent object with
  | none => simp only [h.powerLevels, h.create]
  | some invite =>
    simp only [hselection.thirdPartyInvite, buildAuthEventMapFromState_thirdPartyInvite hhead hkey]
    cases htoken : thirdPartyInviteToken event with
    | none => simp [selectedJson]
    | some token =>
      cases token with
      | nil =>
        have hsecond := hdenied invite hcontent htoken
        simpa [selectedJson, authorizeThirdPartyInvite_of_null] using hsecond.symm
      | cons first rest => simp [selectedJson]

section

variable (hhead : EventHead event object "m.room.member" sender)
  (hrequested : parseMembershipState (extractContentMembership event) = some membership)
include hhead hrequested

theorem memberChecked_of_decision (hkey : stringMember object "state_key" = some stateKey)
    (hallowed : (authorizeEventAgainstAuthEvents sodium event policy first).allowed = true) :
    MemberChecked sodium event object policy first sender stateKey membership := by
  rw [authorize_of_head hhead] at hallowed
  obtain ⟨found, hfound, hchecked⟩ := memberChecked_of_allowed hkey hallowed
  rw [hrequested, Option.some.injEq] at hfound
  exact hfound ▸ hchecked

theorem decision_of_memberChecked
    (htarget : nonEmptyStringMember object "state_key" = some stateKey)
    (hadmits : roomAdmits policy first sender = true)
    (hchecked : MemberChecked sodium event object policy first sender stateKey membership) :
    (authorizeEventAgainstAuthEvents sodium event policy first).allowed = true := by
  rw [authorize_of_head hhead, authorizeTypedEvent_member_allowed_iff]
  exact ⟨hadmits, authorizeMemberEvent_allowed_iff.mpr
    ⟨stateKey, membership, htarget, hrequested, hchecked⟩⟩

end

/-- The events that state resolution allows and the selections from the store
deny. -/
def Overlooked (sodium : Libsodium) (policy : RoomVersionPolicy) (state : StateMap)
    (event : Value) : Prop :=
  (∃ object sender authorisingUser,
      RestrictedJoin policy state event object sender authorisingUser) ∨
    ∃ object sender stateKey invite,
      EmptyTokenInvite sodium policy state event object sender stateKey invite

structure SelectsFor (state : StateMap) (event : Value) (authEvents : AuthEventMap) : Prop where
  selection : ∀ object eventType sender, EventHead event object eventType sender →
    StoreSelection state sender ((thirdPartyInviteToken event).getD []) authEvents
  interchangeable : ∀ object sender stateKey, EventHead event object "m.room.member" sender →
    stringMember object "state_key" = some stateKey →
    Interchangeable sender stateKey authEvents (buildAuthEventMapFromState event state)

variable (h : SelectsFor state event first)

include h

theorem SelectsFor.admits_eq {eventType : Bytes} (hhead : EventHead event object eventType sender) :
    roomAdmits policy first sender =
      roomAdmits policy (buildAuthEventMapFromState event state) sender := by
  rw [roomAdmits, roomAdmits, (h.selection object eventType sender hhead).create,
    (buildAuthEventMapFromState_selectedFrom state hhead).create]

theorem SelectsFor.member_eq (hnot : ¬Overlooked sodium policy state event)
    (hhead : EventHead event object "m.room.member" sender)
    (hadmits : roomAdmits policy (buildAuthEventMapFromState event state) sender = true) :
    (authorizeMemberEvent sodium event object policy first sender).allowed =
      (authorizeMemberEvent sodium event object policy (buildAuthEventMapFromState event state)
        sender).allowed := by
  cases htarget : nonEmptyStringMember object "state_key" with
  | none => simp only [authorizeMemberEvent, htarget]
  | some stateKey =>
    obtain ⟨hkey, -⟩ := nonEmptyStringMember_eq_some_iff.mp htarget
    have hselection := h.selection object _ sender hhead
    have hinter := h.interchangeable object sender stateKey hhead hkey
    simp only [authorizeMemberEvent, htarget, hinter.senderMember, hinter.target]
    cases hparse : parseMembershipState (extractContentMembership event) with
    | none => rfl
    | some membership =>
      have hrequested := (requestedMembership_eq_some_iff.mp hparse).2
      cases membership with
      | join =>
        by_cases hself : sender = stateKey
        · subst hself
          rw [if_neg (not_not.mpr rfl), if_neg (not_not.mpr rfl)]
          refine hinter.join_allowed_eq hselection.authorisingUserMember fun hneeds => ?_
          rw [← Bool.not_eq_true, restrictedJoin_allowed_iff hhead hkey hrequested]
          rintro ⟨authorisingUser, hnamed, hnonEmpty, hkeyed, hjoined, hpower⟩
          rw [targetMembership_eq_membershipIn hhead hkey] at hneeds
          exact hnot (Or.inl ⟨object, sender, authorisingUser, hhead, hkey, hrequested, hadmits,
            hneeds, hnamed, hnonEmpty, hkeyed, hjoined, hpower⟩)
        · simp [hself]
      | knock => simp only [authorizeKnock, hinter.joinRules]
      | invite =>
        refine invite_allowed_eq hselection hinter hhead hkey fun invite hcarried hempty => ?_
        rw [← Bool.not_eq_true, targetMembership_eq_membershipIn hhead hkey]
        intro hredeemed
        exact hnot (Or.inr ⟨object, sender, stateKey, invite, hhead, htarget, hrequested, hadmits,
          hcarried, hempty, hredeemed⟩)
      | leave => simp only [authorizeLeave, hinter.powerLevels, hinter.create]
      | ban => simp only [authorizeBan, hinter.powerLevels, hinter.create]
      | restricted => rfl

theorem SelectsFor.decision_eq (hnot : ¬Overlooked sodium policy state event) :
    (authorizeEventAgainstAuthEvents sodium event policy first).allowed =
      (authorizeEventAgainstAuthEvents sodium event policy
        (buildAuthEventMapFromState event state)).allowed := by
  by_cases hexists : ∃ object eventType sender, EventHead event object eventType sender
  · obtain ⟨object, eventType, sender, hhead⟩ := hexists
    have hselection := h.selection object eventType sender hhead
    have hresolution := buildAuthEventMapFromState_selectedFrom state hhead
    rw [authorize_of_head hhead, authorize_of_head hhead, Bool.eq_iff_iff]
    by_cases hcreate : eventType = "m.room.create"
    · subst hcreate
      rw [authorizeTypedEvent_create_allowed_iff, authorizeTypedEvent_create_allowed_iff,
        hselection.create, hresolution.create]
    by_cases hmember : eventType = "m.room.member"
    · subst hmember
      rw [authorizeTypedEvent_member_allowed_iff, authorizeTypedEvent_member_allowed_iff,
        h.admits_eq hhead]
      refine and_congr_right fun hadmits => ?_
      rw [h.member_eq hnot hhead hadmits]
    · rw [authorizeTypedEvent_room_allowed_iff hcreate hmember,
        authorizeTypedEvent_room_allowed_iff hcreate hmember, h.admits_eq hhead,
        authorizeRoomEvent_congr (hselection.create.trans hresolution.create.symm)
          (hselection.powerLevels.trans hresolution.powerLevels.symm)
          (hselection.senderMember.trans hresolution.senderMember.symm)]
  · have hdenied : ∀ authEvents,
        (authorizeEventAgainstAuthEvents sodium event policy authEvents).allowed = false := by
      intro authEvents
      rw [← Bool.not_eq_true]
      exact fun hallowed => hexists (eventHead_of_allowed hallowed)
    rw [hdenied, hdenied]

theorem RestrictedJoin.decisions {authorisingUser : Bytes}
    (hjoin : RestrictedJoin policy state event object sender authorisingUser) :
    (authorizeEventAgainstAuthEvents sodium event policy first).allowed = false ∧
      (authorizeEventAgainstAuthEvents sodium event policy
        (buildAuthEventMapFromState event state)).allowed = true := by
  have hrequested : parseMembershipState (extractContentMembership event) = some .join :=
    requestedMembership_eq_some_iff.mpr ⟨by decide, hjoin.join⟩
  have hinter := h.interchangeable object sender sender hjoin.head hjoin.own
  constructor
  · rw [← Bool.not_eq_true]
    intro hallowed
    cases memberChecked_of_decision hjoin.head hrequested hjoin.own hallowed with
    | join _ hallowed =>
      have hneeds := (hinter.needs_eq (membershipIn state sender)).trans hjoin.lastResort
      have hnull := (h.selection object _ sender hjoin.head).authorisingUserMember
      rw [hinter.target, targetMembership_eq_membershipIn hjoin.head hjoin.own,
        authorizeJoin_of_needs hneeds, authorizeRestrictedJoin_of_null hnull] at hallowed
      cases hallowed
  · obtain ⟨hsender, hnonEmpty⟩ := nonEmptyStringMember_eq_some_iff.mp hjoin.head.hasSender
    refine decision_of_memberChecked hjoin.head hrequested
      (nonEmptyStringMember_eq_some_iff.mpr ⟨hjoin.own, hnonEmpty⟩) hjoin.admitted
      (.join rfl ?_)
    rw [targetMembership_eq_membershipIn hjoin.head hjoin.own,
      authorizeJoin_of_needs hjoin.lastResort,
      restrictedJoin_allowed_iff hjoin.head hjoin.own hjoin.join]
    exact ⟨authorisingUser, hjoin.named, hjoin.nonEmpty, hjoin.keyed, hjoin.joined, hjoin.mayInvite⟩

theorem EmptyTokenInvite.decisions {invite : Value}
    (hinvite : EmptyTokenInvite sodium policy state event object sender stateKey invite) :
    (authorizeEventAgainstAuthEvents sodium event policy first).allowed = false ∧
      (authorizeEventAgainstAuthEvents sodium event policy
        (buildAuthEventMapFromState event state)).allowed = true := by
  obtain ⟨hkey, -⟩ := nonEmptyStringMember_eq_some_iff.mp hinvite.target
  have hrequested : parseMembershipState (extractContentMembership event) = some .invite :=
    requestedMembership_eq_some_iff.mpr ⟨by decide, hinvite.requested⟩
  have hselection := h.selection object _ sender hinvite.head
  constructor
  · rw [← Bool.not_eq_true]
    intro hallowed
    cases memberChecked_of_decision hinvite.head hrequested hkey hallowed with
    | invite hallowed =>
      simp [authorizeInvite, hinvite.carried, hselection.thirdPartyInvite,
        hinvite.emptyToken, selectedJson, authorizeThirdPartyInvite_of_null] at hallowed
  · refine decision_of_memberChecked hinvite.head hrequested hinvite.target hinvite.admitted
      (.invite ?_)
    simp only [authorizeInvite, hinvite.carried, targetMembership_eq_membershipIn hinvite.head hkey,
      buildAuthEventMapFromState_thirdPartyInvite hinvite.head hkey, hinvite.emptyToken,
      Option.map_some, Option.getD_some]
    exact hinvite.redeemed

theorem SelectsFor.decisions_of_overlooked (hoverlooked : Overlooked sodium policy state event) :
    (authorizeEventAgainstAuthEvents sodium event policy first).allowed = false ∧
      (authorizeEventAgainstAuthEvents sodium event policy
        (buildAuthEventMapFromState event state)).allowed = true := by
  rcases hoverlooked with ⟨_, _, _, hjoin⟩ | ⟨_, _, _, _, hinvite⟩
  · exact hjoin.decisions h
  · exact hinvite.decisions h

end Decision

def eventText (event : Value) (key : Bytes) : Bytes :=
  ((valueIsObject event).bind fun object => stringMember object key).getD []

section OneDecision

variable (sodium : Libsodium) (yyjson : Yyjson) (store : PersistentStore) (roomId : Bytes)
  (policy : RoomVersionPolicy) (event : Value)

def localDecision : EventAuthorizationDecision :=
  authorizeEventAgainstAuthEvents sodium event policy
    (buildAuthEventMap yyjson store roomId (eventText event "sender")
      (eventText event "state_key") (eventText event "type") event)

def pduDecision : EventAuthorizationDecision :=
  authorizeEventAgainstAuthEvents sodium event policy
    (buildPduAuthEventMap yyjson store roomId (eventText event "sender")
      (eventText event "state_key") (eventText event "type")
      ((thirdPartyInviteToken event).getD []))

def resolutionDecision : EventAuthorizationDecision :=
  authorizeEventAgainstAuthEvents sodium event policy
    (buildAuthEventMapFromState event (roomStateMap yyjson store roomId))

theorem eventText_of_head {object : Object} {eventType sender : Bytes}
    (hhead : EventHead event object eventType sender) :
    eventText event "type" = eventType ∧ eventText event "sender" = sender := by
  simp [eventText, hhead.isObject, hhead.type_eq, hhead.sender_eq]

theorem buildAuthEventMap_selectsFor : SelectsFor (roomStateMap yyjson store roomId) event
      (buildAuthEventMap yyjson store roomId (eventText event "sender")
        (eventText event "state_key") (eventText event "type") event) := by
  constructor
  · intro object eventType sender hhead
    rw [(eventText_of_head event hhead).2]
    exact buildAuthEventMap_storeSelection ..
  · intro object sender stateKey hhead hkey
    obtain ⟨htype, hsender⟩ := eventText_of_head event hhead
    have hstateKey : eventText event "state_key" = stateKey := by
      simp [eventText, hhead.isObject, hkey]
    rw [htype, hsender, hstateKey]
    refine interchangeable_of_selected
      (buildAuthEventMap_storeSelection ..).toSelectedFrom
      (buildAuthEventMapFromState_selectedFrom _ hhead) (Or.inl ?_)
    rw [buildAuthEventMap_targetMember, buildAuthEventMapFromState_targetMember hhead hkey]
    simp [selectedJson]

theorem buildPduAuthEventMap_selectsFor : SelectsFor (roomStateMap yyjson store roomId) event
      (buildPduAuthEventMap yyjson store roomId (eventText event "sender")
        (eventText event "state_key") (eventText event "type")
        ((thirdPartyInviteToken event).getD [])) := by
  constructor
  · intro object eventType sender hhead
    rw [(eventText_of_head event hhead).2]
    exact buildPduAuthEventMap_storeSelection ..
  · intro object sender stateKey hhead hkey
    obtain ⟨htype, hsender⟩ := eventText_of_head event hhead
    have hstateKey : eventText event "state_key" = stateKey := by
      simp [eventText, hhead.isObject, hkey]
    rw [htype, hsender, hstateKey]
    refine interchangeable_of_selected
      (buildPduAuthEventMap_storeSelection ..).toSelectedFrom
      (buildAuthEventMapFromState_selectedFrom _ hhead) ?_
    rw [buildPduAuthEventMap_targetMember, buildAuthEventMapFromState_targetMember hhead hkey]
    by_cases hself : stateKey = sender
    · exact Or.inr ⟨hself, by simp [selectedJson, hself], by rw [hself]⟩
    · exact Or.inl (by simp [selectedJson, hself])

theorem localDecision_eq_pduDecision :
    (localDecision sodium yyjson store roomId policy event).allowed =
      (pduDecision sodium yyjson store roomId policy event).allowed := by
  have hlocal := buildAuthEventMap_selectsFor yyjson store roomId event
  have hpdu := buildPduAuthEventMap_selectsFor yyjson store roomId event
  by_cases hoverlooked : Overlooked sodium policy (roomStateMap yyjson store roomId) event
  · exact (hlocal.decisions_of_overlooked hoverlooked).1.trans
      (hpdu.decisions_of_overlooked hoverlooked).1.symm
  · exact (hlocal.decision_eq hoverlooked).trans (hpdu.decision_eq hoverlooked).symm

/-- The three selections lead to one verdict exactly on the events that the store
selections do not overlook. -/
theorem oneDecision_iff : ((localDecision sodium yyjson store roomId policy event).allowed =
        (pduDecision sodium yyjson store roomId policy event).allowed ∧
      (pduDecision sodium yyjson store roomId policy event).allowed =
        (resolutionDecision sodium yyjson store roomId policy event).allowed) ↔
      ¬Overlooked sodium policy (roomStateMap yyjson store roomId) event := by
  have hpdu := buildPduAuthEventMap_selectsFor yyjson store roomId event
  rw [and_iff_right (localDecision_eq_pduDecision sodium yyjson store roomId policy event)]
  constructor
  · intro hsame hoverlooked
    obtain ⟨hdenied, hallowed⟩ := hpdu.decisions_of_overlooked hoverlooked
    rw [pduDecision, resolutionDecision, hdenied, hallowed] at hsame
    cases hsame
  · exact hpdu.decision_eq

end OneDecision

section JoinRules

variable {sodium : Libsodium} {event : Value} {object : Object} {policy : RoomVersionPolicy}
  {authEvents : AuthEventMap} {sender : Bytes}

theorem join_allowed_iff (hhead : EventHead event object "m.room.member" sender)
    (hjoin : eventContentString event "membership" = some (utf8 "join")) :
    (authorizeEventAgainstAuthEvents sodium event policy authEvents).allowed = true ↔
      roomAdmits policy authEvents sender = true ∧ stringMember object "state_key" = some sender ∧
        (authorizeJoin event policy authEvents sender
          (targetMembership authEvents sender sender)).allowed = true := by
  have hparse : parseMembershipState (extractContentMembership event) = some .join :=
    requestedMembership_eq_some_iff.mpr ⟨by decide, hjoin⟩
  obtain ⟨-, hnonEmpty⟩ := nonEmptyStringMember_eq_some_iff.mp hhead.hasSender
  rw [authorize_of_head hhead, authorizeTypedEvent_member_allowed_iff,
    authorizeMemberEvent_allowed_iff]
  refine and_congr_right fun _ => ⟨?_, ?_⟩
  · rintro ⟨stateKey, membership, hkey, hmembership, hchecked⟩
    cases hparse.symm.trans hmembership
    obtain ⟨rfl, hallowed⟩ := hchecked
    exact ⟨(nonEmptyStringMember_eq_some_iff.mp hkey).1, hallowed⟩
  · rintro ⟨hkey, hallowed⟩
    exact ⟨sender, .join, nonEmptyStringMember_eq_some_iff.mpr ⟨hkey, hnonEmpty⟩, hparse,
      .join rfl hallowed⟩

structure MeetsRestriction (event : Value) (object : Object) (policy : RoomVersionPolicy)
    (authEvents : AuthEventMap) (sender : Bytes) : Prop where
  admitted : roomAdmits policy authEvents sender = true
  own : stringMember object "state_key" = some sender
  notBanned : targetMembership authEvents sender sender ≠ .ban
  way : targetMembership authEvents sender sender = .invite ∨
    targetMembership authEvents sender sender = .join ∨
    ∃ authorisingUser member, AuthorisedBy event policy authEvents authorisingUser member

/-- A join is checked against no rule named `knock_restricted`, so that the rules agree on
the creator's first and on what a restricted room refuses. -/
theorem knock_restricted_join_iff (hhead : EventHead event object "m.room.member" sender)
    (hjoin : eventContentString event "membership" = some (utf8 "join")) {rules knockRules : Value}
    (hrules : roomJoinRule rules = "restricted")
    (hknock : roomJoinRule knockRules = "knock_restricted") :
    (authorizeEventAgainstAuthEvents sodium event policy
        { authEvents with joinRules := knockRules }).allowed =
      (authorizeEventAgainstAuthEvents sodium event policy
        { authEvents with joinRules := rules }).allowed ↔
      isCreatorBootstrap authEvents sender = true ∨
        ¬ MeetsRestriction event object policy authEvents sender := by
  have hboot : ∀ rules, isCreatorBootstrap { authEvents with joinRules := rules } sender =
    isCreatorBootstrap authEvents sender := fun _ => rfl
  rw [Bool.eq_iff_iff, join_allowed_iff hhead hjoin, join_allowed_iff hhead hjoin]
  cases hcreator : isCreatorBootstrap authEvents sender with
  | true =>
    refine iff_of_true ?_ (.inl rfl)
    simp only [authorizeJoin, hboot, hcreator, if_true]
    exact Iff.rfl
  | false =>
    have hdenied : ∀ target, (authorizeJoin event policy { authEvents with joinRules := knockRules }
        sender target).allowed = false := by
      simp [authorizeJoin, hboot, hcreator, hknock, apply_ite EventAuthorizationDecision.allowed]
    have hmeets : ∀ target, (authorizeJoin event policy { authEvents with joinRules := rules }
        sender target).allowed = true ↔ target ≠ .ban ∧ (target = .invite ∨ target = .join ∨
          ∃ authorisingUser member,
            AuthorisedBy event policy authEvents authorisingUser member) := by
      intro target
      rw [← authorizeRestrictedJoin_allowed_iff]
      cases target <;> simp [authorizeJoin, hboot, hcreator, hrules] <;> rfl
    simp only [hdenied, hmeets, Bool.false_eq_true, and_false, false_iff, false_or]
    refine not_congr ⟨?_, fun h => ⟨h.admitted, h.own, h.notBanned, h.way⟩⟩
    rintro ⟨hadmitted, hown, hbanned, hway⟩
    exact ⟨hadmitted, hown, hbanned, hway⟩

end JoinRules

def clubEvent (content : Object) (eventType sender stateKey : Bytes) : Value :=
  .object [("content", .object content), ("room_id", .string "!club:example.org"),
    ("sender", .string sender), ("state_key", .string stateKey), ("type", .string eventType)]

def clubEvents : List (Bytes × Value) :=
  [("$create", clubEvent [("room_version", .string "11")] "m.room.create"
      "@alice:example.org" ""),
    ("$alice", clubEvent [("membership", .string "join")] "m.room.member"
      "@alice:example.org" "@alice:example.org"),
    ("$levels", clubEvent [("users", .object [("@alice:example.org", .integer 100)])]
      "m.room.power_levels" "@alice:example.org" ""),
    ("$rules", clubEvent [("join_rule", .string "restricted")] "m.room.join_rules"
      "@alice:example.org" "")]

def clubStore : PersistentStore :=
  { events := clubEvents.map fun (eventId, json) =>
      ⟨eventId, "!club:example.org", "@alice:example.org", canonicalText json, 1, 1, [], [], []⟩
    state := clubEvents.map fun (eventId, json) =>
      ⟨"!club:example.org", eventText json "type", eventText json "state_key", eventId⟩ }

def joinViaAlice : Value :=
  clubEvent
    [("join_authorised_via_users_server", .string "@alice:example.org"),
      ("membership", .string "join")]
    "m.room.member" "@bob:example.org" "@bob:example.org"

def clubReader : Yyjson := readerOf (clubEvents.map Prod.snd)

theorem restrictedJoin_denied_live :
    (localDecision notReady clubReader clubStore "!club:example.org" roomVersion11
        joinViaAlice).allowed = false ∧
      (pduDecision notReady clubReader clubStore "!club:example.org" roomVersion11
        joinViaAlice).allowed = false ∧
      (resolutionDecision notReady clubReader clubStore "!club:example.org" roomVersion11
        joinViaAlice).allowed = true := by
  decide +kernel

def clubAuthEvents (joinRule : Bytes) : AuthEventMap where
  create := clubEvent [] "m.room.create" "@alice:example.org" ""
  joinRules := clubEvent [("join_rule", .string joinRule)] "m.room.join_rules"
    "@alice:example.org" ""
  authorisingUserMember := clubEvent [("membership", .string "join")] "m.room.member"
    "@alice:example.org" "@alice:example.org"

theorem creator_joins_under_both_rules :
    let authEvents : AuthEventMap :=
      { create := clubEvent [("creator", .string "@alice:example.org")] "m.room.create"
          "@alice:example.org" "" }
    let join := clubEvent [("membership", .string "join")] "m.room.member" "@alice:example.org"
      "@alice:example.org"
    (authorizeEventAgainstAuthEvents notReady join roomVersion11
        { authEvents with joinRules := (clubAuthEvents "knock_restricted").joinRules }).allowed =
      (authorizeEventAgainstAuthEvents notReady join roomVersion11
        { authEvents with joinRules := (clubAuthEvents "restricted").joinRules }).allowed :=
  (knock_restricted_join_iff ⟨rfl, by decide, show _ = some (utf8 "@alice:example.org") by decide⟩
    (by decide) (by decide) (by decide)).mpr (.inl (by decide))

theorem joinViaAlice_refused_with_knocking :
    (authorizeEventAgainstAuthEvents notReady joinViaAlice roomVersion11
        (clubAuthEvents "restricted")).allowed = true ∧
      (authorizeEventAgainstAuthEvents notReady joinViaAlice roomVersion11
        (clubAuthEvents "knock_restricted")).allowed = false := by
  decide +kernel

end Merovingian.AuthVerdicts
