import Merovingian.EventAuthorization

/-!
What the holder of a power level can do with an allowed `m.room.power_levels`
event. The levels above the sender's own are out of reach, with the exceptions
that the negative marker for absent entries and the missing check of
`content.events` leave open; both exceptions are stated exactly, by building
the least content that the sender is still allowed to send.
-/

namespace Merovingian.PowerLevelSafety

open ByteString JsonValue EventSigning RoomVersions PowerLevels PowerLevelRules EventAuthorization
  Option

def statedLevel (powerLevels : Value) (key : Bytes) (policy : RoomVersionPolicy) : Option Int64 :=
  (eventContent powerLevels).bind fun content =>
    powerLevelMember content key (allowStrings policy)

def statedMapLevel (powerLevels : Value) (mapKey key : Bytes)
    (policy : RoomVersionPolicy) : Option Int64 :=
  (eventContent powerLevels).bind fun content =>
    mapLevel (objectMemberAsObject content mapKey) key (allowStrings policy)

theorem usersDefaultLevel_eq_stated (powerLevels : Value) (policy : RoomVersionPolicy) :
    usersDefaultLevel powerLevels (allowStrings policy) =
      (statedLevel powerLevels "users_default" policy).getD 0 := by
  unfold usersDefaultLevel extractPowerLevelKey statedLevel
  cases eventContent powerLevels <;> rfl

theorem effectiveSenderPower_eq {powerLevels create : Value} {userId : Bytes}
    {policy : RoomVersionPolicy} (hcontent : valueHasContent powerLevels = true)
    (hcreator : userIsRoomCreator create userId policy = false) :
    effectiveSenderPower powerLevels userId create policy =
      ((statedMapLevel powerLevels "users" userId policy).filter (0 ≤ ·)).getD
        (usersDefaultLevel powerLevels (allowStrings policy)) := by
  change _ = ((ownEntry powerLevels userId (allowStrings policy)).filter _).getD _
  rw [← extractUserPowerLevel_eq]
  simp [effectiveSenderPower, hcreator, hcontent, allowStrings]

/-- Nothing above a power has been raised to or lowered from where it was. -/
structure NoEscalation (previous next create : Value) (policy : RoomVersionPolicy)
    (power : Int64) : Prop where
  users : ∀ userId, power < effectiveSenderPower next userId create policy →
    effectiveSenderPower next userId create policy =
      effectiveSenderPower previous userId create policy
  scalars : ∀ level, power < level → ∀ key ∈ scalarPowerLevelKeys,
    statedLevel previous key policy = some level ↔ statedLevel next key policy = some level
  maps : ∀ level, power < level → ∀ mapKey ∈ boundedPowerLevelMaps policy, ∀ key,
    statedMapLevel previous mapKey key policy = some level ↔
      statedMapLevel next mapKey key policy = some level

def powerLevelsEvent (sender : Bytes) (content : Object) : Value :=
  .object [("type", .string "m.room.power_levels"), ("sender", .string sender),
    ("state_key", .string ""), ("content", .object content)]

/-- A room created by one user, as another joined user's events see it. -/
def authEventsOf (sender : Bytes) (content : Object) : AuthEventMap where
  create := .object [("type", .string "m.room.create"),
    ("sender", .string "@alice:example.org"), ("state_key", .string ""),
    ("content", .object [("room_version", .string "11")])]
  powerLevels := powerLevelsEvent "@alice:example.org" content
  senderMember := .object [("type", .string "m.room.member"), ("sender", .string sender),
    ("state_key", .string sender), ("content", .object [("membership", .string "join")])]

theorem powerLevelsEvent_head {sender : Bytes} (content : Object) (hsender : sender ≠ []) :
    EventHead (powerLevelsEvent sender content)
      [("type", .string "m.room.power_levels"), ("sender", .string sender),
        ("state_key", .string ""), ("content", .object content)]
      "m.room.power_levels" sender where
  isObject := rfl
  hasType := by rfl
  hasSender := by
    rw [nonEmptyStringMember_eq_some_iff]
    exact ⟨rfl, hsender⟩

section Allowed

variable {sodium : Libsodium} {event : Value} {object : Object}
  {policy : RoomVersionPolicy} {authEvents : AuthEventMap} {sender : Bytes}

variable (hhead : EventHead event object "m.room.power_levels" sender)

include hhead

theorem powerLevels_allowed_iff :
    (authorizeEventAgainstAuthEvents sodium event policy authEvents).allowed = true ↔
      roomAdmits policy authEvents sender = true ∧ senderMembership authEvents sender = .join ∧
        (∀ stateKey, stringMember object "state_key" = some stateKey →
          stateKey.head? = some (byte '@') → stateKey = sender) ∧
        powerLevelsEventRejection object policy authEvents sender = none ∧
        levelOrDefault authEvents.powerLevels "state_default" 50 policy ≤
          effectiveSenderPower authEvents.powerLevels sender authEvents.create policy := by
  have htype : utf8 "m.room.power_levels" ≠ utf8 "m.room.third_party_invite" := by decide
  rw [authorize_of_head hhead, authorizeTypedEvent_room_allowed_iff (by decide) (by decide),
    ← authorizePowerLevelsEvent_allowed_iff]
  refine and_congr_right fun _ => ?_
  unfold authorizeRoomEvent
  by_cases hjoin : senderMembership authEvents sender = .join
  · simp only [hjoin, ne_eq, not_true, if_false, htype, true_and]
    cases stringMember object "state_key" with
    | none => simp
    | some stateKey =>
      by_cases hsigil : stateKey.head? = some (byte '@')
      · by_cases hown : stateKey = sender <;> simp [hsigil, hown]
      · simp [hsigil]
  · simp [hjoin]

variable
  (hallowed : (authorizeEventAgainstAuthEvents sodium event policy authEvents).allowed = true)

include hallowed

theorem content_of_allowed : ∃ content, eventContent event = some content ∧
      ContentAccepted policy authEvents sender content := by
  rw [show eventContent event = objectMemberAsObject object "content" by
    simp [eventContent, hhead.isObject]]
  exact powerLevelsEventRejection_eq_none_iff.mp
    ((powerLevels_allowed_iff hhead).mp hallowed).2.2.2.1

omit hallowed in
omit hhead in
theorem valueHasContent_of_eventContent {powerLevels : Value} {content : Object}
    (hcontent : eventContent powerLevels = some content) : valueHasContent powerLevels = true := by
  obtain ⟨members, hmembers, -⟩ := bind_eq_some_iff.mp hcontent
  exact valueHasContent_of_isObject hmembers

variable (hprevious : valueHasContent authEvents.powerLevels = true)

include hprevious

/-- An event is allowed to replace a power levels event without readable
content only by a creator, whose power nothing exceeds. -/
theorem creatorPower_of_no_content (hnone : eventContent authEvents.powerLevels = none) :
    effectiveSenderPower authEvents.powerLevels sender authEvents.create policy = creatorPower := by
  have hlevel := ((powerLevels_allowed_iff hhead).mp hallowed).2.2.2.2
  cases hcreator : userIsRoomCreator authEvents.create sender policy with
  | true => simp [effectiveSenderPower, hcreator]
  | false =>
    rw [effectiveSenderPower_eq hprevious hcreator, usersDefaultLevel_eq_stated] at hlevel
    simp only [levelOrDefault, hprevious, extractPowerLevelKey, statedMapLevel,
      statedLevel, hnone, if_true, bind_none, filter_none,
      getD_none] at hlevel
    exact absurd hlevel (by decide)

/-- The levels above the sender's power that an allowed event leaves as they
are: the scalars, the entries of the bounded maps, and every readable entry of
`content.users` in the new event. -/
theorem levels_kept_of_allowed {level : Int64}
    (hlevel : effectiveSenderPower authEvents.powerLevels sender authEvents.create policy < level) :
    (∀ key ∈ scalarPowerLevelKeys, statedLevel authEvents.powerLevels key policy = some level ↔
        statedLevel event key policy = some level) ∧
    (∀ mapKey ∈ boundedPowerLevelMaps policy, ∀ key,
      statedMapLevel authEvents.powerLevels mapKey key policy = some level ↔
        statedMapLevel event mapKey key policy = some level) ∧
    ∀ userId, statedMapLevel event "users" userId policy = some level →
      statedMapLevel authEvents.powerLevels "users" userId policy = some level ∧ 0 ≤ level := by
  cases hold : eventContent authEvents.powerLevels with
  | none =>
    rw [creatorPower_of_no_content hhead hallowed hprevious hold] at hlevel
    exact absurd (le_maxValue level) (not_le.mpr hlevel)
  | some oldContent =>
    obtain ⟨newContent, hnew, -, -, hchange⟩ := content_of_allowed hhead hallowed
    obtain ⟨hcontent, helevates, -⟩ :=
      (powerLevelsChangeRejection_eq_none_iff _ _ _ _ _).mp (hchange hprevious)
    obtain ⟨hscalars, hmaps⟩ := hcontent oldContent hold
    simp only [statedLevel, statedMapLevel, hold, hnew, bind_some]
    refine ⟨fun key hkey => scalar_kept_of_not_rejected hscalars hkey hlevel,
      fun mapKey hmap key => mapLevel_kept_of_not_rejected (hmaps mapKey hmap) hlevel, ?_⟩
    intro userId huser
    simpa only [hold, bind_some] using
      entry_kept_of_not_elevated helevates hlevel huser

variable (hdefault : usersDefaultLevel authEvents.powerLevels (allowStrings policy) ≤
    effectiveSenderPower authEvents.powerLevels sender authEvents.create policy)
  (hstated : 0 ≤ effectiveSenderPower authEvents.powerLevels sender authEvents.create policy ∨
    (statedLevel event "users_default" policy).isSome = true)

include hdefault hstated

/-- The users default of an allowed event stays within the sender's power. One that the
event does not state is 0. -/
theorem usersDefaultLevel_le_of_allowed : usersDefaultLevel event (allowStrings policy) ≤
      effectiveSenderPower authEvents.powerLevels sender authEvents.create policy := by
  by_contra hraised
  rw [not_le, usersDefaultLevel_eq_stated] at hraised
  cases hvalue : statedLevel event "users_default" policy with
  | none =>
    rw [hvalue] at hraised hstated
    rcases hstated with hnonneg | hsome
    · exact absurd hnonneg (not_le.mpr hraised)
    · exact absurd hsome (by decide)
  | some level =>
    rw [hvalue] at hraised
    have hkept := (levels_kept_of_allowed hhead hallowed hprevious hraised).1
    have hsame := (hkept "users_default" (by decide)).mpr hvalue
    rw [usersDefaultLevel_eq_stated, hsame] at hdefault
    exact absurd hdefault (not_le.mpr hraised)

/-- No escalation. The users default of the new event is the one level that
can rise without being stated: a sender below zero raises everyone else's
level by leaving it out. -/
theorem no_escalation : NoEscalation authEvents.powerLevels event authEvents.create policy
      (effectiveSenderPower authEvents.powerLevels sender authEvents.create policy) := by
  have hnewDefault :=
    usersDefaultLevel_le_of_allowed hhead hallowed hprevious hdefault hstated
  obtain ⟨newContent, hnew, -⟩ := content_of_allowed hhead hallowed
  have hevent : valueHasContent event = true := valueHasContent_of_eventContent hnew
  refine ⟨?_, fun level hlevel => (levels_kept_of_allowed hhead hallowed hprevious hlevel).1,
    fun level hlevel => (levels_kept_of_allowed hhead hallowed hprevious hlevel).2.1⟩
  intro userId habove
  cases hcreator : userIsRoomCreator authEvents.create userId policy with
  | true => simp [effectiveSenderPower, hcreator]
  | false =>
    -- A level above the new users default comes from an own entry.
    rw [effectiveSenderPower_eq hevent hcreator] at habove ⊢
    cases hentry : (statedMapLevel event "users" userId policy).filter (0 ≤ ·) with
    | none =>
      rw [hentry] at habove
      exact absurd hnewDefault (not_le.mpr habove)
    | some level =>
      rw [hentry, getD_some] at habove
      obtain ⟨howner, hnonneg⟩ := filter_eq_some_iff.mp hentry
      have hsame :=
        ((levels_kept_of_allowed hhead hallowed hprevious habove).2.2 userId howner).1
      rw [effectiveSenderPower_eq hprevious hcreator, hsame, filter_some, if_pos hnonneg]
      rfl

end Allowed

def moderatedContent (banLevel : Int64) : Object :=
  [("ban", .integer banLevel), ("users", .object
    [("@alice:example.org", .integer 100), ("@bob:example.org", .integer 50)])]

theorem no_escalation_moderator :
    NoEscalation (powerLevelsEvent "@alice:example.org" (moderatedContent 50))
      (powerLevelsEvent "@bob:example.org" (moderatedContent 40))
      (authEventsOf "@bob:example.org" (moderatedContent 50)).create roomVersion11 50 :=
  no_escalation (powerLevelsEvent_head _ (by decide))
    (show (authorizeEventAgainstAuthEvents notReady
        (powerLevelsEvent "@bob:example.org" (moderatedContent 40)) roomVersion11
        (authEventsOf "@bob:example.org" (moderatedContent 50))).allowed = true by
      decide +kernel)
    rfl (by decide +kernel) (by decide +kernel)

def belowZeroContent : Object :=
  [("users_default", .integer (-5)), ("state_default", .integer (-10))]

/-- Dropping the users default lifts every other user from -5 to 0. -/
theorem escalation_by_dropped_default : (authorizeEventAgainstAuthEvents notReady
        (powerLevelsEvent "@bob:example.org" [("state_default", .integer (-10))])
        roomVersion11 (authEventsOf "@bob:example.org" belowZeroContent)).allowed = true ∧
      usersDefaultLevel (powerLevelsEvent "@alice:example.org" belowZeroContent)
        (allowStrings roomVersion11) = -5 ∧
      effectiveSenderPower (powerLevelsEvent "@alice:example.org" belowZeroContent)
        "@bob:example.org" (authEventsOf "@bob:example.org" belowZeroContent).create
        roomVersion11 = -5 ∧
      ¬NoEscalation (powerLevelsEvent "@alice:example.org" belowZeroContent)
        (powerLevelsEvent "@bob:example.org" [("state_default", .integer (-10))])
        (authEventsOf "@bob:example.org" belowZeroContent).create roomVersion11 (-5) := by
  refine ⟨by decide +kernel, by decide +kernel, by decide +kernel, ?_⟩
  intro hkept
  have hraised := hkept.users "@carol:example.org" (by decide +kernel)
  exact absurd hraised (by decide +kernel)

end Merovingian.PowerLevelSafety
