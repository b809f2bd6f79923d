import Merovingian.RoomState

/-!
Runs of a room: events arrive in any order, and a state event is written under
its key when the current state allows it. What the rules guarantee along every
run: the create event is final, nobody is joined or knocking by another user's
hand, and a ban is lifted only by a more powerful joined user.
-/

namespace Merovingian.RoomRuns

open ByteString JsonValue EventSigning RoomVersions EventAuthorization MembershipRules
  StateResolution RoomState Option

structure IncomingEvent where
  eventId : Bytes
  eventJson : Value

/-- One step of the run; an event that is not a state event writes nothing. -/
def processEvent (sodium : Libsodium) (policy : RoomVersionPolicy) (state : StateMap)
    (event : IncomingEvent) : StateMap :=
  match eventStateKey event.eventJson with
  | none => state
  | some key =>
    if (authorizeEventAgainstAuthEvents sodium event.eventJson policy
        (buildAuthEventMapFromState event.eventJson state)).allowed then
      state.insert key (stateReference key event.eventId event.eventJson)
    else state

def roomRun (sodium : Libsodium) (policy : RoomVersionPolicy)
    (events : List IncomingEvent) : StateMap :=
  events.foldl (processEvent sodium policy) ∅

section Step

variable {sodium : Libsodium} {policy : RoomVersionPolicy} {state : StateMap}
  {event : IncomingEvent}

theorem processEvent_cases (sodium : Libsodium) (policy : RoomVersionPolicy) (state : StateMap)
    (event : IncomingEvent) :
    processEvent sodium policy state event = state ∨ ∃ object eventType stateKey sender,
        EventHead event.eventJson object eventType sender ∧
        stringMember object "state_key" = some stateKey ∧
        (authorizeTypedEvent sodium event.eventJson object policy
          (buildAuthEventMapFromState event.eventJson state) eventType sender).allowed = true ∧
        processEvent sodium policy state event = state.insert ⟨eventType, stateKey⟩
            (stateReference ⟨eventType, stateKey⟩ event.eventId event.eventJson) := by
  unfold processEvent
  cases hkey : eventStateKey event.eventJson with
  | none => exact Or.inl rfl
  | some key =>
    cases hallowed : (authorizeEventAgainstAuthEvents sodium event.eventJson policy
        (buildAuthEventMapFromState event.eventJson state)).allowed with
    | false => exact Or.inl rfl
    | true =>
      right
      obtain ⟨object, eventType, sender, hhead⟩ := eventHead_of_allowed hallowed
      rw [authorize_of_head hhead] at hallowed
      simp only [eventStateKey, hhead.isObject, hhead.type_eq, bind_some,
        map_eq_some_iff] at hkey
      obtain ⟨stateKey, hstateKey, rfl⟩ := hkey
      exact ⟨object, eventType, stateKey, sender, hhead, hstateKey, hallowed, rfl⟩

/-- Every entry is the JSON of an event with the entry's key, and nobody joins
or knocks by another user's hand. -/
structure RoomInvariant (state : StateMap) : Prop where
  keyed : ∀ key bound, state.lookup key = some bound → eventStateKey bound.eventJson = some key
  ownHand : ∀ userId bound, state.lookup (memberKey userId) = some bound →
    (parseMembershipState (extractContentMembership bound.eventJson) = some .join ∨
      parseMembershipState (extractContentMembership bound.eventJson) = some .knock) →
    eventSender bound.eventJson = some userId

theorem RoomInvariant.hasContent (hinvariant : RoomInvariant state) {eventType stateKey : Bytes}
    {bound : StateEventReference} (h : state.lookup ⟨eventType, stateKey⟩ = some bound) :
    valueHasContent (stateJson state eventType stateKey) = true := by
  rw [stateJson_of_lookup h]
  obtain ⟨object, hobject, -⟩ := bind_eq_some_iff.mp (hinvariant.keyed _ _ h)
  exact valueHasContent_of_isObject hobject

theorem ownHand_of_allowed {json : Value} {object : Object} {sender stateKey : Bytes}
    {authEvents : AuthEventMap} (hkey : stringMember object "state_key" = some stateKey)
    (hallowed : (authorizeTypedEvent sodium json object policy authEvents "m.room.member"
      sender).allowed = true)
    (hmembership : parseMembershipState (extractContentMembership json) = some .join ∨
      parseMembershipState (extractContentMembership json) = some .knock) : sender = stateKey := by
  obtain ⟨membership, hparse, hchecked⟩ := memberChecked_of_allowed hkey hallowed
  rw [hparse, some.injEq, some.injEq] at hmembership
  rcases hmembership with rfl | rfl
  · cases hchecked with
    | join hself _ => exact hself
  · cases hchecked with
    | knock hknock => simpa using (authorizeKnock_allowed hknock).1

theorem RoomInvariant.step (hinvariant : RoomInvariant state) (event : IncomingEvent) :
    RoomInvariant (processEvent sodium policy state event) := by
  rcases processEvent_cases sodium policy state event with
    hstate | ⟨object, eventType, stateKey, sender, hhead, hkey, hallowed, hstate⟩
  · rwa [hstate]
  · rw [hstate]
    constructor
    · intro key bound hbound
      by_cases hwritten : key = ⟨eventType, stateKey⟩
      · subst hwritten
        rw [Finmap.lookup_insert, some.injEq] at hbound
        rw [← hbound]
        exact eventStateKey_of_head hhead hkey
      · rw [Finmap.lookup_insert_of_ne state hwritten] at hbound
        exact hinvariant.keyed key bound hbound
    · intro userId bound hbound hmembership
      by_cases hwritten : memberKey userId = ⟨eventType, stateKey⟩
      · rw [hwritten, Finmap.lookup_insert, some.injEq] at hbound
        obtain ⟨rfl, rfl⟩ := StateKey.mk.injEq .. ▸ hwritten
        subst hbound
        rw [← ownHand_of_allowed hkey hallowed hmembership]
        exact eventSender_of_head hhead
      · rw [Finmap.lookup_insert_of_ne state hwritten] at hbound
        exact hinvariant.ownHand userId bound hbound hmembership

theorem RoomInvariant.create_kept (hinvariant : RoomInvariant state) {created : StateEventReference}
    (hcreated : state.lookup createKey = some created) (event : IncomingEvent) :
    (processEvent sodium policy state event).lookup createKey = some created := by
  rcases processEvent_cases sodium policy state event with
    hstate | ⟨object, eventType, stateKey, sender, hhead, hkey, hallowed, hstate⟩
  · rwa [hstate]
  · rw [hstate]
    by_cases hwritten : createKey = ⟨eventType, stateKey⟩
    · obtain ⟨rfl, rfl⟩ := StateKey.mk.injEq .. ▸ hwritten
      have habsent := (authorizeTypedEvent_create_allowed_iff.mp hallowed).1
      rw [(buildAuthEventMapFromState_selectedFrom state hhead).create,
        hinvariant.hasContent hcreated] at habsent
      cases habsent
    · rw [Finmap.lookup_insert_of_ne state hwritten, hcreated]

/-- A ban lifted by the rules: a leave sent by a joined user who is above the
ban level, the kick level and the banned user. -/
structure LiftsBan (policy : RoomVersionPolicy) (state : StateMap) (event : Value)
    (userId sender : Bytes) : Prop where
  target : eventStateKey event = some (memberKey userId)
  sent : eventSender event = some sender
  leave : eventContentString event "membership" = some (utf8 "leave")
  other : sender ≠ userId
  joined : membershipIn state sender = .join
  banLevel : levelIn policy state "ban" 50 ≤ powerIn policy state sender
  kickLevel : levelIn policy state "kick" 50 ≤ powerIn policy state sender
  stronger : powerIn policy state userId < powerIn policy state sender

theorem membership_of_banned {json : Value} {object : Object} {sender stateKey : Bytes}
    (hhead : EventHead json object "m.room.member" sender)
    (hkey : stringMember object "state_key" = some stateKey)
    (hallowed : (authorizeTypedEvent sodium json object policy
      (buildAuthEventMapFromState json state) "m.room.member" sender).allowed = true)
    (hbanned : membershipIn state stateKey = .ban) :
    parseMembershipState (extractContentMembership json) = some .ban ∨
      LiftsBan policy state json stateKey sender := by
  obtain ⟨membership, hparse, hchecked⟩ := memberChecked_of_allowed hkey hallowed
  have hselected := buildAuthEventMapFromState_selectedFrom state hhead
  have htarget : targetMembership (buildAuthEventMapFromState json state) stateKey sender =
      .ban := (targetMembership_eq_membershipIn hhead hkey).trans hbanned
  cases hchecked with
  | join _ hjoin => simp [htarget, authorizeJoin] at hjoin
  | knock hknock => exact absurd htarget (authorizeKnock_allowed hknock).2
  | invite hinvite =>
    rw [htarget, authorizeInvite] at hinvite
    cases hcontent : thirdPartyInviteContent object with
    | some invite => simp [hcontent, authorizeThirdPartyInvite] at hinvite
    | none => simp [hcontent] at hinvite
  | ban _ => exact Or.inl hparse
  | leave hleave =>
    rcases authorizeLeave_allowed hleave with
      ⟨-, hnot⟩ | ⟨hother, hjoined, hban, hkick, hstronger⟩
    · exact absurd htarget hnot
    · rw [hselected.senderMember] at hjoined
      rw [hselected.create, hselected.powerLevels] at hban hkick hstronger
      exact Or.inr ⟨eventStateKey_of_head hhead hkey, eventSender_of_head hhead,
        (requestedMembership_eq_some_iff.mp hparse).2, hother, hjoined, hban htarget, hkick,
        hstronger⟩

theorem ban_lifted (event : IncomingEvent) {userId : Bytes}
    (hbanned : membershipIn state userId = .ban)
    (hlifted : membershipIn (processEvent sodium policy state event) userId ≠ .ban) :
    ∃ sender, LiftsBan policy state event.eventJson userId sender := by
  rcases processEvent_cases sodium policy state event with
    hstate | ⟨object, eventType, stateKey, sender, hhead, hkey, hallowed, hstate⟩ <;>
    rw [hstate] at hlifted
  · exact absurd hbanned hlifted
  · by_cases hwritten : memberKey userId = ⟨eventType, stateKey⟩
    · obtain ⟨rfl, rfl⟩ := StateKey.mk.injEq .. ▸ hwritten
      rcases membership_of_banned hhead hkey hallowed hbanned with hban | hlifts
      · refine absurd ?_ hlifted
        have hcontent : valueHasContent event.eventJson = true :=
          valueHasContent_of_isObject hhead.isObject
        rw [membershipIn, stateJson_of_lookup (Finmap.lookup_insert state), currentMembership,
          if_pos (by exact hcontent)]
        simp [stateReference, hban]
      · exact ⟨sender, hlifts⟩
    · rw [membershipIn, stateJson, show (state.insert _ _).lookup ⟨"m.room.member", userId⟩ = _ from
        Finmap.lookup_insert_of_ne state hwritten] at hlifted
      exact absurd hbanned hlifted

end Step

theorem roomRun_invariant (sodium : Libsodium) (policy : RoomVersionPolicy)
    (events : List IncomingEvent) : RoomInvariant (roomRun sodium policy events) := by
  refine List.foldlRecOn events (processEvent sodium policy) ?_ ?_
  · exact ⟨fun _ _ h => by simp at h, fun _ _ h => by simp at h⟩
  · exact fun state hinvariant event _ => hinvariant.step event

theorem roomRun_safe (sodium : Libsodium) (policy : RoomVersionPolicy)
    (events : List IncomingEvent) :
    (∀ created later, (roomRun sodium policy events).lookup createKey = some created →
      (roomRun sodium policy (events ++ later)).lookup createKey = some created) ∧
    (∀ userId member, (roomRun sodium policy events).lookup (memberKey userId) = some member →
      (eventContentString member.eventJson "membership" = some (utf8 "join") ∨
        eventContentString member.eventJson "membership" = some (utf8 "knock")) →
      eventSender member.eventJson = some userId) ∧
    ∀ event userId, membershipIn (roomRun sodium policy events) userId = .ban →
      membershipIn (roomRun sodium policy (events ++ [event])) userId ≠ .ban →
      ∃ sender, LiftsBan policy (roomRun sodium policy events) event.eventJson userId
        sender := by
  refine ⟨fun created later hcreated => ?_, fun userId member hmember hcontent => ?_,
    fun event userId hbanned hlifted => ?_⟩
  · induction later using List.reverseRecOn with
    | nil => rwa [List.append_nil]
    | append_singleton later event ih =>
      rw [← List.append_assoc, roomRun, List.foldl_append]
      exact (roomRun_invariant sodium policy (events ++ later)).create_kept ih event
  · refine (roomRun_invariant sodium policy events).ownHand userId member hmember ?_
    rcases hcontent with hjoin | hknock
    · exact Or.inl (requestedMembership_eq_some_iff.mpr ⟨by decide, hjoin⟩)
    · exact Or.inr (requestedMembership_eq_some_iff.mpr ⟨by decide, hknock⟩)
  · rw [roomRun, List.foldl_append] at hlifted
    exact ban_lifted event hbanned hlifted

end Merovingian.RoomRuns
