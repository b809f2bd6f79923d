import Merovingian.EventAuthorization

/-!
What an allowed `m.room.member` event has passed, for each requested
membership. The runs of a room and the comparison of auth event selections
rest on these inversions and do not unfold the rules again.
-/

namespace Merovingian.MembershipRules

open ByteString JsonValue EventSigning RoomVersions PowerLevels EventAuthorization

variable {sodium : Libsodium} {event : Value} {object : Object}
  {policy : RoomVersionPolicy} {authEvents : AuthEventMap} {sender stateKey : Bytes}
  {senderCurrent targetCurrent : MembershipState}

def membershipName : MembershipState → Bytes
  | .leave => "leave"
  | .invite => "invite"
  | .join => "join"
  | .ban => "ban"
  | .knock => "knock"
  | .restricted => "restricted"

theorem parseMembershipState_eq_some_iff {text : Bytes} {membership : MembershipState} :
    parseMembershipState text = some membership ↔
      membership ≠ .restricted ∧ text = membershipName membership := by
  constructor
  · intro h
    unfold parseMembershipState at h
    split_ifs at h with hjoin hinvite hleave hban hknock <;> cases h <;>
      exact ⟨by decide, by assumption⟩
  · rintro ⟨hrestricted, rfl⟩
    cases membership with
    | restricted => exact absurd rfl hrestricted
    | leave => rfl
    | invite => rfl
    | join => rfl
    | ban => rfl
    | knock => rfl

theorem requestedMembership_eq_some_iff {membership : MembershipState} :
    parseMembershipState (extractContentMembership event) = some membership ↔
      membership ≠ .restricted ∧
        eventContentString event "membership" = some (membershipName membership) := by
  rw [parseMembershipState_eq_some_iff, extractContentMembership]
  cases eventContentString event "membership" with
  | none => cases membership <;> simp [membershipName]
  | some text => simp

theorem currentMembership_eq_join_iff {json : Value} : currentMembership json = .join ↔
      valueHasContent json = true ∧
        parseMembershipState (extractContentMembership json) = some .join := by
  unfold currentMembership
  cases valueHasContent json with
  | false => simp
  | true => cases parseMembershipState (extractContentMembership json) <;> simp

/-- The join is left to a restricted room's last resort, the authorising user. -/
def needsAuthorisingUser (authEvents : AuthEventMap) (sender : Bytes)
    (targetCurrent : MembershipState) : Bool :=
  let joinRule := roomJoinRule authEvents.joinRules
  targetCurrent ≠ .ban && !isCreatorBootstrap authEvents sender &&
    (joinRule = "restricted" || joinRule = "restricted_v2") &&
    targetCurrent ≠ .invite && targetCurrent ≠ .join

theorem authorizeJoin_of_needs (h : needsAuthorisingUser authEvents sender targetCurrent = true) :
    authorizeJoin event policy authEvents sender targetCurrent =
      authorizeRestrictedJoin event policy authEvents := by
  simp only [needsAuthorisingUser, Bool.and_eq_true, Bool.not_eq_true', Bool.or_eq_true,
    decide_eq_true_eq] at h
  obtain ⟨⟨⟨⟨hban, hbootstrap⟩, hrule⟩, hinvite⟩, hjoin⟩ := h
  unfold authorizeJoin
  rcases hrule with hrule | hrule <;> simp [hban, hbootstrap, hrule, hinvite, hjoin]

theorem authorizeJoin_congr {first second : AuthEventMap}
    (hrules : first.joinRules = second.joinRules)
    (hbootstrap : isCreatorBootstrap first sender = isCreatorBootstrap second sender)
    (hneeds : needsAuthorisingUser first sender targetCurrent = false) :
    authorizeJoin event policy first sender targetCurrent =
      authorizeJoin event policy second sender targetCurrent := by
  unfold authorizeJoin
  rw [hrules, hbootstrap]
  simp only [needsAuthorisingUser, hrules, hbootstrap] at hneeds
  rcases em (targetCurrent = .invite ∨ targetCurrent = .join) with hinvited | hinvited
  · simp [hinvited]
  rcases em (roomJoinRule second.joinRules = "restricted" ∨
    roomJoinRule second.joinRules = "restricted_v2") with hrestricted | hrestricted
  · cases hboot : isCreatorBootstrap second sender with
    | true => simp
    | false =>
      push Not at hinvited
      have hban : targetCurrent = .ban := by
        rcases hrestricted with hrule | hrule <;>
          simpa [hboot, hrule, hinvited.1, hinvited.2] using hneeds
      simp [hban]
  · simp [hrestricted]

@[mk_iff]
structure AuthorisedBy (event : Value) (policy : RoomVersionPolicy) (authEvents : AuthEventMap)
    (authorisingUser : Bytes) (member : Object) : Prop where
  named : eventContentString event "join_authorised_via_users_server" = some authorisingUser
  nonEmpty : authorisingUser ≠ []
  isMember : valueIsObject authEvents.authorisingUserMember = some member
  keyed : stringMember member "state_key" = some authorisingUser
  joined : parseMembershipState (extractContentMembership authEvents.authorisingUserMember) =
    some .join
  mayInvite : levelOrDefault authEvents.powerLevels "invite" 0 policy ≤
    effectiveSenderPower authEvents.powerLevels authorisingUser authEvents.create policy

theorem authorizeRestrictedJoin_allowed_iff :
    (authorizeRestrictedJoin event policy authEvents).allowed = true ↔
      ∃ authorisingUser member, AuthorisedBy event policy authEvents authorisingUser member := by
  simp only [authorisedBy_iff]
  unfold authorizeRestrictedJoin
  cases huser : eventContentString event "join_authorised_via_users_server" with
  | none => simp
  | some authorisingUser =>
    by_cases hempty : authorisingUser = []
    · simp [hempty, Option.filter]
    · cases hmember : valueIsObject authEvents.authorisingUserMember with
      | none => simp [hempty, Option.filter]
      | some member =>
        by_cases hkey : stringMember member "state_key" = some authorisingUser
        · by_cases hjoin : parseMembershipState
              (extractContentMembership authEvents.authorisingUserMember) = some .join
          · simp [hempty, Option.filter, hkey, hjoin, apply_ite
              EventAuthorizationDecision.allowed]
          · simp [hempty, Option.filter, hkey, hjoin]
        · simp [hempty, Option.filter, hkey]

theorem authorizeKnock_allowed {targetIsSender : Bool}
    (h : (authorizeKnock authEvents targetIsSender targetCurrent).allowed = true) :
    targetIsSender = true ∧ targetCurrent ≠ .ban := by
  cases targetIsSender with
  | false => simp [authorizeKnock] at h
  | true =>
    refine ⟨rfl, ?_⟩
    rintro rfl
    simp [authorizeKnock] at h

theorem authorizeLeave_allowed
    (h : (authorizeLeave policy authEvents stateKey sender senderCurrent
      targetCurrent).allowed = true) :
    sender = stateKey ∧ targetCurrent ≠ .ban ∨ sender ≠ stateKey ∧ senderCurrent = .join ∧
        (targetCurrent = .ban → levelOrDefault authEvents.powerLevels "ban" 50 policy ≤
            effectiveSenderPower authEvents.powerLevels sender authEvents.create policy) ∧
        levelOrDefault authEvents.powerLevels "kick" 50 policy ≤
          effectiveSenderPower authEvents.powerLevels sender authEvents.create policy ∧
        effectiveSenderPower authEvents.powerLevels stateKey authEvents.create policy <
          effectiveSenderPower authEvents.powerLevels sender authEvents.create policy := by
  unfold authorizeLeave at h
  by_cases hself : sender = stateKey
  · refine Or.inl ⟨hself, ?_⟩
    rintro rfl
    simp [hself] at h
  · refine Or.inr ⟨hself, ?_⟩
    rw [if_neg hself] at h
    by_cases hjoined : senderCurrent = .join
    · refine ⟨hjoined, ?_⟩
      simp only [hjoined, ne_eq, not_true, if_false] at h
      by_cases hunban : targetCurrent = .ban ∧
          effectiveSenderPower authEvents.powerLevels sender authEvents.create policy <
            levelOrDefault authEvents.powerLevels "ban" 50 policy
      · simp [hunban] at h
      · rw [if_neg (by simpa using hunban)] at h
        split at h
        · next hkick =>
            simp only [ge_iff_le, Bool.and_eq_true, decide_eq_true_eq] at hkick
            exact ⟨fun hban => not_lt.mp fun hlow => hunban ⟨hban, hlow⟩, hkick⟩
        · simp at h
    · simp [hjoined] at h

inductive MemberChecked (sodium : Libsodium) (event : Value) (object : Object)
    (policy : RoomVersionPolicy) (authEvents : AuthEventMap) (sender stateKey : Bytes) :
    MembershipState → Prop where
  | join : sender = stateKey → (authorizeJoin event policy authEvents sender
        (targetMembership authEvents stateKey sender)).allowed = true →
      MemberChecked sodium event object policy authEvents sender stateKey .join
  | knock : (authorizeKnock authEvents (sender = stateKey)
        (targetMembership authEvents stateKey sender)).allowed = true →
      MemberChecked sodium event object policy authEvents sender stateKey .knock
  | invite : (authorizeInvite sodium object policy authEvents stateKey sender
        (currentMembership authEvents.senderMember)
        (targetMembership authEvents stateKey sender)).allowed = true →
      MemberChecked sodium event object policy authEvents sender stateKey .invite
  | leave : (authorizeLeave policy authEvents stateKey sender
        (currentMembership authEvents.senderMember)
        (targetMembership authEvents stateKey sender)).allowed = true →
      MemberChecked sodium event object policy authEvents sender stateKey .leave
  | ban : (authorizeBan policy authEvents stateKey sender
        (currentMembership authEvents.senderMember)).allowed = true →
      MemberChecked sodium event object policy authEvents sender stateKey .ban

theorem authorizeMemberEvent_allowed_iff :
    (authorizeMemberEvent sodium event object policy authEvents sender).allowed = true ↔
      ∃ stateKey membership, nonEmptyStringMember object "state_key" = some stateKey ∧
        parseMembershipState (extractContentMembership event) = some membership ∧
        MemberChecked sodium event object policy authEvents sender stateKey membership := by
  unfold authorizeMemberEvent
  cases hkey : nonEmptyStringMember object "state_key" with
  | none => simp
  | some stateKey =>
    simp only [Option.some.injEq, exists_and_left, exists_eq_left']
    cases hmembership : parseMembershipState (extractContentMembership event) with
    | none => simp
    | some membership =>
      simp only [Option.some.injEq, exists_eq_left']
      cases membership
      case join =>
        by_cases hself : sender = stateKey
        · rw [if_neg (not_not.mpr hself)]
          refine ⟨fun h => .join hself h, fun h => ?_⟩
          cases h with
          | join _ h => exact h
        · rw [if_pos hself]
          refine ⟨fun h => by simp at h, fun h => ?_⟩
          cases h with
          | join h _ => exact absurd h hself
      case restricted =>
        refine ⟨fun h => by simp at h, fun h => ?_⟩
        cases h
      all_goals
        refine ⟨fun h => by constructor; exact h, fun h => ?_⟩
        cases h
        assumption

theorem memberChecked_of_allowed (hkey : stringMember object "state_key" = some stateKey)
    (hallowed : (authorizeTypedEvent sodium event object policy authEvents "m.room.member"
      sender).allowed = true) :
    ∃ membership, parseMembershipState (extractContentMembership event) = some membership ∧
        MemberChecked sodium event object policy authEvents sender stateKey membership := by
  have hmember := (authorizeTypedEvent_member_allowed_iff.mp hallowed).2
  obtain ⟨found, membership, hfound, hparse, hchecked⟩ :=
    authorizeMemberEvent_allowed_iff.mp hmember
  obtain ⟨hsame, -⟩ := nonEmptyStringMember_eq_some_iff.mp hfound
  rw [hkey, Option.some.injEq] at hsame
  exact ⟨membership, hparse, hsame ▸ hchecked⟩

end Merovingian.MembershipRules
