import Merovingian.PowerLevelSafety

/-!
How far a power level reaches. For any sender there is a least content: what
rules 9.5 to 9.9 force on every power levels event of that sender, and nothing
else. If the sender may send power levels at all, the least content is
allowed, so it decides what every allowed event has in common.
-/

namespace Merovingian.PowerLevelReach

open ByteString JsonValue EventSigning RoomVersions PowerLevels PowerLevelRules EventAuthorization
  PowerLevelSafety List

variable {policy : RoomVersionPolicy} {sender : Bytes}

theorem objectMember_filterMap (select : Bytes → Option Value) (object : Object) (key : Bytes) :
    objectMember (object.filterMap fun entry => (select entry.1).map (Prod.mk entry.1)) key =
      if key ∈ object.map Prod.fst then select key else none := by
  induction object with
  | nil => simp
  | cons head tail ih =>
    by_cases hkey : head.1 = key
    · subst hkey
      cases hselect : select head.1 with
      | none =>
        simpa [hselect] using ih
      | some value => simp [hselect, objectMember_cons]
    · have htail : (key ∈ (head :: tail).map Prod.fst) = (key ∈ tail.map Prod.fst) := by
        simp [Ne.symm hkey]
      simp only [htail, ← ih]
      cases hselect : select head.1 with
      | none => simp [hselect]
      | some value => simp [hselect, objectMember_cons, hkey]

/-- The levels that pass a test, as integers. A repeated key keeps the level
that looking it up finds. -/
def keepLevels (levels : Object) (keep : Bytes → Int64 → Bool) (allowStringValues : Bool) :
    Object :=
  levels.filterMap fun entry =>
    (((powerLevelMember levels entry.1 allowStringValues).filter (keep entry.1)).map
      Value.integer).map (Prod.mk entry.1)

section KeepLevels

variable (levels : Object) (keep : Bytes → Int64 → Bool) (allowStringValues : Bool)

theorem objectMember_keepLevels (key : Bytes) :
    objectMember (keepLevels levels keep allowStringValues) key =
      ((powerLevelMember levels key allowStringValues).filter (keep key)).map
        Value.integer := by
  rw [keepLevels, objectMember_filterMap fun key =>
    ((powerLevelMember levels key allowStringValues).filter (keep key)).map Value.integer]
  split
  · rfl
  · next hkey =>
      have hnone : objectMember levels key = none := by
        by_contra hsome
        obtain ⟨value, hvalue⟩ := Option.ne_none_iff_exists'.mp hsome
        exact hkey (mem_map_of_mem (mem_of_objectMember hvalue))
      simp [powerLevelMember, hnone, powerLevelValue]

theorem powerLevelMember_keepLevels (key : Bytes) :
    powerLevelMember (keepLevels levels keep allowStringValues) key allowStringValues =
      (powerLevelMember levels key allowStringValues).filter (keep key) := by
  rw [powerLevelMember, objectMember_keepLevels]
  cases (powerLevelMember levels key allowStringValues).filter (keep key) <;> rfl

variable {levels keep allowStringValues}

theorem of_mem_keepLevels {entry : Bytes × Value}
    (h : entry ∈ keepLevels levels keep allowStringValues) :
    ∃ level, entry.2 = .integer level ∧ keep entry.1 level = true ∧
      powerLevelMember levels entry.1 allowStringValues = some level := by
  obtain ⟨source, -, hsource⟩ := mem_filterMap.mp h
  simp only [Option.map_eq_some_iff] at hsource
  obtain ⟨_, ⟨level, hfilter, rfl⟩, rfl⟩ := hsource
  obtain ⟨hlevel, hkeep⟩ := Option.filter_eq_some_iff.mp hfilter
  exact ⟨level, rfl, hkeep, hlevel⟩

end KeepLevels

def mapEntries (powerLevels : Value) (mapKey : Bytes) : Object :=
  (objectMemberAsObject ((eventContent powerLevels).getD []) mapKey).getD []

theorem powerLevelMember_mapEntries (powerLevels : Value) (mapKey key : Bytes)
    (policy : RoomVersionPolicy) :
    powerLevelMember (mapEntries powerLevels mapKey) key (allowStrings policy) =
      statedMapLevel powerLevels mapKey key policy := by
  unfold mapEntries statedMapLevel mapLevel
  cases eventContent powerLevels with
  | none => rfl
  | some content =>
    simp only [Option.getD_some, Option.bind_some]
    cases objectMemberAsObject content mapKey <;> rfl

/-- What no power levels event of the sender can leave out. -/
def leastContent (policy : RoomVersionPolicy) (powerLevels : Value) (sender : Bytes)
    (power : Int64) : Object :=
  let above := fun (_ : Bytes) (level : Int64) => decide (power < level)
  ("events", .object (keepLevels (mapEntries powerLevels "events") above
      (allowStrings policy))) ::
    ("notifications", .object (keepLevels (mapEntries powerLevels "notifications") above
      (allowStrings policy))) ::
    ("users", .object (keepLevels (mapEntries powerLevels "users")
      (fun userId level => userId ≠ sender && 0 ≤ level && power ≤ level)
      (allowStrings policy))) ::
    keepLevels ((eventContent powerLevels).getD [])
      (fun key level => key ∈ scalarPowerLevelKeys && power < level) (allowStrings policy)

section LeastContent

variable {powerLevels : Value} {power : Int64}

theorem leastContent_scalar {key : Bytes} (hkey : key ∈ scalarPowerLevelKeys) :
    objectMember (leastContent policy powerLevels sender power) key =
      ((statedLevel powerLevels key policy).filter (power < ·)).map Value.integer := by
  have hevents : utf8 "events" ≠ key := by rintro rfl; revert hkey; decide
  have hnotifications : utf8 "notifications" ≠ key := by rintro rfl; revert hkey; decide
  have husers : utf8 "users" ≠ key := by rintro rfl; revert hkey; decide
  have hstated : powerLevelMember ((eventContent powerLevels).getD []) key (allowStrings policy) =
      statedLevel powerLevels key policy := by
    unfold statedLevel
    cases eventContent powerLevels <;> rfl
  simp [leastContent, objectMember_cons, objectMember_keepLevels, hkey, hevents,
    hnotifications, husers, hstated]

theorem leastContent_map {mapKey : Bytes} (hmap : mapKey ∈ boundedPowerLevelMaps policy) :
    objectMemberAsObject (leastContent policy powerLevels sender power) mapKey =
      some (keepLevels (mapEntries powerLevels mapKey) (fun _ level => power < level)
        (allowStrings policy)) := by
  have hbounded : mapKey = "events" ∨ mapKey = "notifications" := by
    unfold boundedPowerLevelMaps at hmap
    split at hmap <;> simp at hmap <;> tauto
  rcases hbounded with rfl | rfl
  · rfl
  · rfl

theorem leastContent_users (policy : RoomVersionPolicy) (powerLevels : Value) (sender : Bytes)
    (power : Int64) :
    objectMemberAsObject (leastContent policy powerLevels sender power) "users" =
      some (keepLevels (mapEntries powerLevels "users")
        (fun userId level => userId ≠ sender && 0 ≤ level && power ≤ level)
        (allowStrings policy)) := rfl

theorem of_mem_leastContent_users {entry : Bytes × Value}
    (hentry : entry ∈ keepLevels (mapEntries powerLevels "users")
      (fun userId level => userId ≠ sender && 0 ≤ level && power ≤ level)
      (allowStrings policy)) :
    ∃ level, entry.2 = .integer level ∧ entry.1 ≠ sender ∧ 0 ≤ level ∧ power ≤ level ∧
      statedMapLevel powerLevels "users" entry.1 policy = some level := by
  obtain ⟨level, hlevel, hkeep, howner⟩ := of_mem_keepLevels hentry
  simp only [Bool.and_eq_true, decide_eq_true_eq] at hkeep
  rw [powerLevelMember_mapEntries] at howner
  exact ⟨level, hlevel, hkeep.1.1, hkeep.1.2, hkeep.2, howner⟩

theorem leastContent_valid
    (husers : ∀ userId level, userId ≠ sender →
      statedMapLevel powerLevels "users" userId policy = some level → 0 ≤ level →
      power ≤ level → userIdIsWellFormed userId = true) :
    powerLevelsContentRejectionReason (leastContent policy powerLevels sender power) policy =
      none := by
  simp only [powerLevelsContentRejectionReason, Option.or_eq_none_iff, findSome?_eq_none_iff]
  refine ⟨?_, ?_, ?_⟩
  · intro key hkey
    rw [scalarContentRejection, leastContent_scalar hkey]
    cases (statedLevel powerLevels key policy).filter (power < ·) <;> rfl
  · intro mapKey hmap
    obtain ⟨value, hvalue, hobject⟩ := Option.bind_eq_some_iff.mp (leastContent_map hmap)
    rw [mapContentRejection, hvalue]
    simp only [hobject, ite_eq_right_iff, reduceCtorEq, imp_false, any_eq_true, not_exists, not_and]
    intro entry hentry
    obtain ⟨level, hlevel, -⟩ := of_mem_keepLevels hentry
    simp [hlevel, powerLevelValue]
  · obtain ⟨value, hvalue, hobject⟩ := Option.bind_eq_some_iff.mp
      (leastContent_users policy powerLevels sender power)
    rw [usersContentRejection, hvalue]
    simp only [hobject, findSome?_eq_none_iff]
    intro entry hentry
    obtain ⟨level, hlevel, huser, hnonneg, hpower, hstated⟩ :=
      of_mem_leastContent_users hentry
    simp [userEntryRejection, hlevel, powerLevelValue,
      husers entry.1 level huser hstated hnonneg hpower]

theorem leastContent_scalarChange {oldContent : Object}
    (hold : eventContent powerLevels = some oldContent) :
    scalarPowerLevelRejectionReason oldContent (leastContent policy powerLevels sender power)
      power (allowStrings policy) = none := by
  refine findSome?_eq_none_iff.mpr fun key hkey => ?_
  have hstated : statedLevel powerLevels key policy =
      powerLevelMember oldContent key (allowStrings policy) := by
    simp [statedLevel, hold]
  rw [scalarChangeRejection_eq_none_iff, ← hstated, powerLevelMember, leastContent_scalar hkey]
  cases statedLevel powerLevels key policy with
  | none => exact Or.inl rfl
  | some level =>
    by_cases habove : power < level
    · exact Or.inl (by simp [Option.filter_some, habove, powerLevelValue])
    · refine Or.inr ⟨?_, ?_⟩
      · rintro _ ⟨⟩
        exact not_lt.mp habove
      · simp [Option.filter_some, habove, powerLevelValue]

/-- A map whose repeated keys agree above the sender's power. -/
def MapAgrees (powerLevels : Value) (policy : RoomVersionPolicy) (power : Int64)
    (mapKey : Bytes) : Prop :=
  ∀ entry ∈ mapEntries powerLevels mapKey, ∀ level,
    powerLevelValue (some entry.2) (allowStrings policy) = some level → power < level →
      statedMapLevel powerLevels mapKey entry.1 policy = some level

theorem leastContent_mapChange {oldContent : Object} {mapKey : Bytes}
    (hold : eventContent powerLevels = some oldContent)
    (hmap : mapKey ∈ boundedPowerLevelMaps policy)
    (hagrees : MapAgrees powerLevels policy power mapKey) :
    powerLevelMapRejectionReason oldContent (leastContent policy powerLevels sender power)
      mapKey power (allowStrings policy) = none := by
  have hentries : mapEntries powerLevels mapKey =
      (objectMemberAsObject oldContent mapKey).getD [] := by
    simp [mapEntries, hold]
  rw [powerLevelMapRejectionReason_eq_none_iff, ← hentries, leastContent_map hmap, Option.getD_some]
  constructor
  · intro entry hentry
    cases hlevel : powerLevelValue (some entry.2) (allowStrings policy) with
    | none => simp [mapEntryExceeds, hlevel]
    | some level =>
      by_cases habove : power < level
      · have hstated := hagrees entry hentry level hlevel habove
        simp [mapEntryExceeds, hlevel, mapLevel, powerLevelMember_keepLevels,
          powerLevelMember_mapEntries, hstated, Option.filter_some, habove]
      · simp [mapEntryExceeds, hlevel, habove]
  · intro entry hentry
    obtain ⟨level, hlevel, -, hstated⟩ := of_mem_keepLevels hentry
    have hlookup : mapLevel (objectMemberAsObject oldContent mapKey) entry.1
        (allowStrings policy) = some level := by
      rw [powerLevelMember_mapEntries] at hstated
      simpa [statedMapLevel, hold] using hstated
    simp [mapEntryExceeds, hlevel, powerLevelValue, hlookup]

theorem leastContent_elevates_none : (keepLevels (mapEntries powerLevels "users")
        (fun userId level => userId ≠ sender && 0 ≤ level && power ≤ level)
        (allowStrings policy)).any
      (elevatesUser
        ((eventContent powerLevels).bind fun content => objectMemberAsObject content "users")
        power (allowStrings policy)) = false := by
  refine any_eq_false.mpr fun entry hentry => ?_
  obtain ⟨level, hlevel, -, hnonneg, -, hstated⟩ := of_mem_leastContent_users hentry
  obtain ⟨oldContent, hold, hmap⟩ := Option.bind_eq_some_iff.mp hstated
  obtain ⟨oldUsers, husers, howner⟩ := Option.bind_eq_some_iff.mp hmap
  have hextract := (extractUserLevelFromUsers_of_nonneg hnonneg).mpr howner
  simp [elevatesUser, hlevel, powerLevelValue, hold, husers, hextract, not_lt.mpr hnonneg]

theorem leastContent_demotes_none {oldUsers : Object}
    (husers : ((eventContent powerLevels).bind fun content =>
      objectMemberAsObject content "users") = some oldUsers) :
    oldUsers.any (demotesPeer oldUsers
      (objectMemberAsObject (leastContent policy powerLevels sender power) "users") sender
      power (allowStrings policy)) = false := by
  obtain ⟨oldContent, hold, hmap⟩ := Option.bind_eq_some_iff.mp husers
  refine any_eq_false.mpr fun entry _ => ?_
  by_cases huser : entry.1 = sender
  · simp [demotesPeer, huser]
  · cases howner : powerLevelMember oldUsers entry.1 (allowStrings policy) with
    | none => simp [demotesPeer, extractUserLevelFromUsers, howner]
    | some level =>
      have hstated : statedMapLevel powerLevels "users" entry.1 policy = some level := by
        simp [statedMapLevel, mapLevel, hold, hmap, howner]
      simp only [demotesPeer, huser, if_false, extractUserLevelFromUsers, howner,
        Option.getD_some, leastContent_users, mapLevel, Option.bind_some,
        powerLevelMember_keepLevels, powerLevelMember_mapEntries, hstated]
      by_cases hpeer : 0 ≤ level ∧ power ≤ level
      · simp [Option.filter_some, huser, hpeer]
      · rcases not_and_or.mp hpeer with hnegative | hbelow
        · simp [not_le.mp hnegative]
        · simp [hbelow]

end LeastContent

/-- A sender whose power levels events are not all denied, by the auth events
alone. The last two fields ask that what the sender must repeat from the
previous event is itself valid. -/
structure MaySendPowerLevels (policy : RoomVersionPolicy) (authEvents : AuthEventMap)
    (sender : Bytes) : Prop where
  named : sender ≠ []
  admitted : roomAdmits policy authEvents sender = true
  joined : senderMembership authEvents sender = .join
  powerful : levelOrDefault authEvents.powerLevels "state_default" 50 policy ≤
    effectiveSenderPower authEvents.powerLevels sender authEvents.create policy
  peers : ∀ userId level, userId ≠ sender →
    statedMapLevel authEvents.powerLevels "users" userId policy = some level → 0 ≤ level →
    effectiveSenderPower authEvents.powerLevels sender authEvents.create policy ≤ level →
    userIdIsWellFormed userId = true ∧ userIsRoomCreator authEvents.create userId policy = false
  maps : ∀ mapKey ∈ boundedPowerLevelMaps policy, MapAgrees authEvents.powerLevels policy
      (effectiveSenderPower authEvents.powerLevels sender authEvents.create policy) mapKey

def leastEvent (policy : RoomVersionPolicy) (authEvents : AuthEventMap) (sender : Bytes)
    (isStateEvent : Bool) : Object :=
  ("type", .string "m.room.power_levels") :: ("sender", .string sender) ::
    ("content", .object (leastContent policy authEvents.powerLevels sender
      (effectiveSenderPower authEvents.powerLevels sender authEvents.create policy))) ::
    if isStateEvent then [("state_key", .string "")] else []

section Reach

variable {sodium : Libsodium} {event : Value} {object : Object} {authEvents : AuthEventMap}

theorem leastEvent_head (hsender : sender ≠ []) (isStateEvent : Bool) :
    EventHead (.object (leastEvent policy authEvents sender isStateEvent))
      (leastEvent policy authEvents sender isStateEvent) "m.room.power_levels" sender where
  isObject := rfl
  hasType := rfl
  hasSender := nonEmptyStringMember_eq_some_iff.mpr ⟨rfl, hsender⟩

theorem leastEvent_allowed (hmay : MaySendPowerLevels policy authEvents sender)
    (isStateEvent : Bool) :
    (authorizeEventAgainstAuthEvents sodium
      (.object (leastEvent policy authEvents sender isStateEvent)) policy
      authEvents).allowed = true := by
  rw [powerLevels_allowed_iff (leastEvent_head hmay.named isStateEvent)]
  refine ⟨hmay.admitted, hmay.joined, ?_, ?_, hmay.powerful⟩
  · intro stateKey hkey hsigil
    cases isStateEvent with
    | false => cases hkey
    | true =>
      cases hkey
      simp at hsigil
  · refine powerLevelsEventRejection_eq_none_iff.mpr ⟨_, rfl, ?_, ?_, ?_⟩
    · exact leastContent_valid fun userId level huser hstated hnonneg hlevel =>
        (hmay.peers userId level huser hstated hnonneg hlevel).1
    · intro _ entry hentry
      obtain ⟨level, -, huser, hnonneg, hlevel, hstated⟩ := of_mem_leastContent_users hentry
      exact (hmay.peers entry.1 level huser hstated hnonneg hlevel).2
    · refine fun _ => (powerLevelsChangeRejection_eq_none_iff ..).mpr ⟨fun oldContent hold =>
        ⟨leastContent_scalarChange hold, fun mapKey hmap =>
          leastContent_mapChange hold hmap (hmay.maps mapKey hmap)⟩, ?_, ?_⟩
      · exact leastContent_elevates_none
      · exact fun oldUsers husers => leastContent_demotes_none husers

theorem peer_kept_of_allowed (hhead : EventHead event object "m.room.power_levels" sender)
    (hallowed : (authorizeEventAgainstAuthEvents sodium event policy authEvents).allowed = true)
    {userId : Bytes} {level : Int64} (huser : userId ≠ sender)
    (hstated : statedMapLevel authEvents.powerLevels "users" userId policy = some level)
    (hnonneg : 0 ≤ level)
    (hlevel : effectiveSenderPower authEvents.powerLevels sender authEvents.create policy ≤ level) :
    statedMapLevel event "users" userId policy = some level := by
  obtain ⟨oldContent, hold, hmap⟩ := Option.bind_eq_some_iff.mp hstated
  obtain ⟨oldUsers, husers, howner⟩ := Option.bind_eq_some_iff.mp hmap
  obtain ⟨newContent, hnew, -, -, hchange⟩ := content_of_allowed hhead hallowed
  have hdemotes := ((powerLevelsChangeRejection_eq_none_iff _ _ _ _ _).mp
    (hchange (valueHasContent_of_eventContent hold))).2.2 oldUsers (by simp [hold, husers])
  simpa only [statedMapLevel, hnew, Option.bind_some] using
    entry_kept_of_not_demoted hdemotes huser hnonneg hlevel howner

theorem user_valid_of_stated {content : Object} {userId : Bytes} {level : Int64}
    (hvalid : powerLevelsContentRejectionReason content policy = none)
    (hstated : mapLevel (objectMemberAsObject content "users") userId
      (allowStrings policy) = some level) :
    userIdIsWellFormed userId = true ∧
      ∃ entry ∈ (objectMemberAsObject content "users").getD [], entry.1 = userId := by
  obtain ⟨users, husers, howner⟩ := Option.bind_eq_some_iff.mp hstated
  obtain ⟨value, hmem, -⟩ := mem_of_powerLevelMember howner
  obtain ⟨member, hmember, hobject⟩ := Option.bind_eq_some_iff.mp husers
  simp only [powerLevelsContentRejectionReason, Option.or_eq_none_iff] at hvalid
  have husersValid := hvalid.2.2
  simp only [usersContentRejection, hmember, hobject, findSome?_eq_none_iff]
    at husersValid
  have hchecked := husersValid (userId, value) hmem
  rw [userEntryRejection, check_eq_none_iff] at hchecked
  refine ⟨by simpa using hchecked.1, (userId, value), by simpa [husers] using hmem, rfl⟩

theorem maySend_of_allowed (hhead : EventHead event object "m.room.power_levels" sender)
    (hallowed : (authorizeEventAgainstAuthEvents sodium event policy authEvents).allowed = true) :
    MaySendPowerLevels policy authEvents sender := by
  obtain ⟨hadmitted, hjoined, -, -, hpowerful⟩ := (powerLevels_allowed_iff hhead).mp hallowed
  obtain ⟨newContent, hnew, hvalid, hcreators, hchange⟩ := content_of_allowed hhead hallowed
  refine ⟨(nonEmptyStringMember_eq_some_iff.mp hhead.hasSender).2, hadmitted, hjoined,
    hpowerful, ?_, ?_⟩
  · intro userId level huser hstated hnonneg hlevel
    have hkept := peer_kept_of_allowed hhead hallowed huser hstated hnonneg hlevel
    simp only [statedMapLevel, hnew, Option.bind_some] at hkept
    obtain ⟨hwellFormed, entry, hentry, rfl⟩ := user_valid_of_stated hvalid hkept
    refine ⟨hwellFormed, ?_⟩
    cases hprivilege : policy.privilegeRoomCreators with
    | false => simp [userIsRoomCreator, hprivilege]
    | true => exact hcreators hprivilege entry hentry
  · intro mapKey hmap entry hentry level hlevel habove
    cases hold : eventContent authEvents.powerLevels with
    | none => simp [mapEntries, hold, objectMemberAsObject] at hentry
    | some oldContent =>
      have hmaps := (((powerLevelsChangeRejection_eq_none_iff _ _ _ _ _).mp
        (hchange (valueHasContent_of_eventContent hold))).1 oldContent hold).2 mapKey hmap
      simp only [mapEntries, hold, Option.getD_some] at hentry
      have hexceeds :=
        ((powerLevelMapRejectionReason_eq_none_iff _ _ _ _ _).mp hmaps).1 entry hentry
      have hnewLevel : mapLevel (objectMemberAsObject newContent mapKey) entry.1
          (allowStrings policy) = some level := by
        by_contra hdiffers
        simp [mapEntryExceeds, hlevel, hdiffers, habove] at hexceeds
      simpa [statedMapLevel, hold] using
        (mapLevel_kept_of_not_rejected hmaps habove).mpr hnewLevel

end Reach

/-- Peers are untouchable, for every event of the sender, exactly when no other
user at or above the sender's power has a negative entry. -/
theorem peers_untouchable_iff (sodium : Libsodium) (policy : RoomVersionPolicy)
    (authEvents : AuthEventMap) (sender : Bytes) :
    (∀ event object, EventHead event object "m.room.power_levels" sender →
      (authorizeEventAgainstAuthEvents sodium event policy authEvents).allowed = true →
      ∀ userId level, userId ≠ sender →
        statedMapLevel authEvents.powerLevels "users" userId policy = some level →
        effectiveSenderPower authEvents.powerLevels sender authEvents.create policy ≤ level →
        statedMapLevel event "users" userId policy = some level) ↔
      (MaySendPowerLevels policy authEvents sender → ∀ userId level, userId ≠ sender →
          statedMapLevel authEvents.powerLevels "users" userId policy = some level →
          effectiveSenderPower authEvents.powerLevels sender authEvents.create policy ≤ level →
          0 ≤ level) := by
  constructor
  · intro hkept hmay userId level huser hstated hlevel
    have hleast := hkept _ _ (leastEvent_head hmay.named true)
      (leastEvent_allowed hmay true) userId level huser hstated hlevel
    obtain ⟨users, husers, howner⟩ := Option.bind_eq_some_iff.mp hleast
    obtain rfl : leastContent policy authEvents.powerLevels sender
        (effectiveSenderPower authEvents.powerLevels sender authEvents.create policy) =
          users := Option.some.inj husers
    rw [leastContent_users, mapLevel, Option.bind_some, powerLevelMember_keepLevels,
      Option.filter_eq_some_iff] at howner
    simp only [Bool.and_eq_true, decide_eq_true_eq] at howner
    exact howner.2.1.2
  · intro hnonneg event object hhead hallowed userId level huser hstated hlevel
    exact peer_kept_of_allowed hhead hallowed huser hstated
      (hnonneg (maySend_of_allowed hhead hallowed) userId level huser hstated hlevel) hlevel

/-- A room in which the moderator's power is negative too. -/
def mutedContent : Object :=
  [("users_default", .integer (-10)), ("state_default", .integer (-10)),
    ("users", .object [("@muted:example.org", .integer (-5))])]

theorem negative_peer_removed : (authorizeEventAgainstAuthEvents notReady
        (powerLevelsEvent "@bob:example.org" [("users_default", .integer (-10)),
          ("state_default", .integer (-10))])
        roomVersion11 (authEventsOf "@bob:example.org" mutedContent)).allowed = true ∧
      effectiveSenderPower (powerLevelsEvent "@alice:example.org" mutedContent)
        "@bob:example.org" (authEventsOf "@bob:example.org" mutedContent).create
        roomVersion11 = -10 ∧
      statedMapLevel (powerLevelsEvent "@alice:example.org" mutedContent) "users"
        "@muted:example.org" roomVersion11 = some (-5) ∧
      statedMapLevel
        (powerLevelsEvent "@bob:example.org" [("users_default", .integer (-10)),
          ("state_default", .integer (-10))])
        "users" "@muted:example.org" roomVersion11 = none := by
  decide +kernel

/-- The level an event type requires: the integer that `content.events` gives
it, else the default for state events or for messages. -/
def requiredPowerLevel (powerLevels : Value) (eventType : Bytes) (isStateEvent : Bool)
    (policy : RoomVersionPolicy) : Int64 :=
  eventTypeLevel powerLevels eventType
    (if isStateEvent then levelOrDefault powerLevels "state_default" 50 policy
      else levelOrDefault powerLevels "events_default" 0 policy)

theorem required_of_allowed {object : Object} {authEvents : AuthEventMap} {eventType sender : Bytes}
    (hinvite : eventType ≠ "m.room.third_party_invite")
    (hpowerLevels : eventType ≠ "m.room.power_levels")
    (hallowed : (authorizeRoomEvent object policy authEvents eventType sender).allowed = true) :
    requiredPowerLevel authEvents.powerLevels eventType
        (stringMember object "state_key").isSome policy ≤
      effectiveSenderPower authEvents.powerLevels sender authEvents.create policy := by
  unfold authorizeRoomEvent at hallowed
  by_contra hlow
  rw [not_le, requiredPowerLevel] at hlow
  cases hkey : stringMember object "state_key" with
  | none =>
    simp only [hkey, Option.isSome_none, Bool.false_eq_true, if_false] at hlow
    simp [hinvite, hpowerLevels, hkey, hlow,
      apply_ite EventAuthorizationDecision.allowed] at hallowed
  | some stateKey =>
    simp only [hkey, Option.isSome_some, if_true] at hlow
    simp [hinvite, hpowerLevels, hkey, hlow,
      apply_ite EventAuthorizationDecision.allowed] at hallowed

/-- The sender's power meets the required level of every allowed event,
except that `m.room.power_levels` is checked against the state default only. -/
theorem requiredPower_iff (sodium : Libsodium) (policy : RoomVersionPolicy)
    (authEvents : AuthEventMap) (eventType sender : Bytes) (isStateEvent : Bool)
    (hcreate : eventType ≠ "m.room.create") (hmember : eventType ≠ "m.room.member")
    (hinvite : eventType ≠ "m.room.third_party_invite") :
    (∀ event object, EventHead event object eventType sender →
      (stringMember object "state_key").isSome = isStateEvent →
      (authorizeEventAgainstAuthEvents sodium event policy authEvents).allowed = true →
      requiredPowerLevel authEvents.powerLevels eventType isStateEvent policy ≤
        effectiveSenderPower authEvents.powerLevels sender authEvents.create policy) ↔
      (eventType = "m.room.power_levels" → MaySendPowerLevels policy authEvents sender →
        requiredPowerLevel authEvents.powerLevels "m.room.power_levels" isStateEvent policy ≤
          effectiveSenderPower authEvents.powerLevels sender authEvents.create policy) := by
  constructor
  · rintro hrequired rfl hmay
    refine hrequired _ _ (leastEvent_head hmay.named isStateEvent) ?_
      (leastEvent_allowed hmay isStateEvent)
    cases isStateEvent <;> rfl
  · rintro hrequired event object hhead rfl hallowed
    by_cases htype : eventType = "m.room.power_levels"
    · subst htype
      exact hrequired rfl (maySend_of_allowed hhead hallowed)
    · rw [authorize_of_head hhead, authorizeTypedEvent_room_allowed_iff hcreate hmember] at hallowed
      exact required_of_allowed hinvite htype hallowed.2

theorem requiredPower_moderated :
    requiredPowerLevel (powerLevelsEvent "@alice:example.org" (moderatedContent 50))
        "m.room.power_levels" true roomVersion11 ≤
      effectiveSenderPower (powerLevelsEvent "@alice:example.org" (moderatedContent 50))
        "@bob:example.org" (authEventsOf "@bob:example.org" (moderatedContent 50)).create
        roomVersion11 :=
  (requiredPower_iff notReady roomVersion11
    (authEventsOf "@bob:example.org" (moderatedContent 50)) "m.room.power_levels"
    "@bob:example.org" true (by decide) (by decide) (by decide)).mpr
    (fun _ _ => by decide +kernel) (powerLevelsEvent "@bob:example.org" (moderatedContent 40))
    _ (powerLevelsEvent_head _ (by decide)) rfl (by decide +kernel)

/-- Power levels events are reserved for level 100, state for level 50. -/
def reservedContent : Object :=
  [("events", .object [("m.room.power_levels", .integer 100)]),
    ("users", .object [("@alice:example.org", .integer 100), ("@bob:example.org", .integer 50)])]

theorem powerLevels_sent_below_required : (authorizeEventAgainstAuthEvents notReady
        (powerLevelsEvent "@bob:example.org" reservedContent) roomVersion11
        (authEventsOf "@bob:example.org" reservedContent)).allowed = true ∧
      effectiveSenderPower (powerLevelsEvent "@alice:example.org" reservedContent)
        "@bob:example.org" (authEventsOf "@bob:example.org" reservedContent).create
        roomVersion11 = 50 ∧
      requiredPowerLevel (powerLevelsEvent "@alice:example.org" reservedContent)
        "m.room.power_levels" true roomVersion11 = 100 := by
  decide +kernel

end Merovingian.PowerLevelReach
