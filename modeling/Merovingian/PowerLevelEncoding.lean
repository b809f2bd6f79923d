import Merovingian.EventAuthorization

/-!
String-encoded power levels. Some room versions accept a level written as a
decimal string. This module compares the verdict under an
`m.room.power_levels` event with the verdict under the same event after some of
its decimal strings have been rewritten into the integers they denote.
-/

namespace Merovingian.PowerLevelEncoding

open ByteString JsonValue EventSigning RoomVersions PowerLevels PowerLevelRules EventAuthorization
  Option

variable {policy : RoomVersionPolicy} {powerLevels' powerLevels : Value}

inductive LevelRewrite : Value → Value → Prop where
  | same (value : Value) : LevelRewrite value value
  | decimal {text : Bytes} {level : Int64} (h : fromChars text = .ok level []) :
      LevelRewrite (.string text) (.integer level)

/-- Two objects with the same keys in the same order, whose values are related
key by key. -/
def MembersRel (related : Bytes → Value → Value → Prop) : Object → Object → Prop :=
  List.Forall₂ fun member member' => member.1 = member'.1 ∧ related member.1 member.2 member'.2

/-- Rewriting one member of the content: a scalar level, or the entries of the
map of users or of event types. -/
inductive ContentRewrite (key : Bytes) : Value → Value → Prop where
  | same (value : Value) : ContentRewrite key value value
  | scalar {value value' : Value} (hkey : key ∈ scalarPowerLevelKeys)
      (h : LevelRewrite value value') : ContentRewrite key value value'
  | entries {map map' : Object} (hkey : key = "users" ∨ key = "events")
      (h : MembersRel (fun _ => LevelRewrite) map map') :
      ContentRewrite key (.object map) (.object map')

inductive EventRewrite : Value → Value → Prop where
  | same (event : Value) : EventRewrite event event
  | content {members members' : Object}
      (h : MembersRel
        (fun key value value' => value = value' ∨
          key = "content" ∧ ∃ content content', value = .object content ∧
            value' = .object content' ∧ MembersRel ContentRewrite content content')
        members members') :
      EventRewrite (.object members) (.object members')

@[elab_as_elim]
theorem optionRel_elim {α β : Type} {related : α → β → Prop} {motive : Option α → Option β → Prop}
    {first : Option α} {second : Option β} (h : Option.Rel related first second)
    (hnone : motive none none) (hsome : ∀ a b, related a b → motive (some a) (some b)) :
    motive first second := by
  cases h with
  | none => exact hnone
  | some hab => exact hsome _ _ hab

theorem optionRel_refl {α : Type} {related : α → α → Prop} (hrefl : ∀ a, related a a) :
    ∀ value, Option.Rel related value value
  | none => .none
  | some a => .some (hrefl a)

variable {related : Bytes → Value → Value → Prop}

theorem MembersRel.refl (hrefl : ∀ key value, related key value value) (members : Object) :
    MembersRel related members members :=
  List.forall₂_same.mpr fun member _ => ⟨rfl, hrefl member.1 member.2⟩

theorem MembersRel.objectMember {members members' : Object}
    (h : MembersRel related members members') (key : Bytes) :
    Option.Rel (related key) (objectMember members key) (objectMember members' key) := by
  induction h with
  | nil => exact .none
  | @cons member member' rest rest' hmember _ ih =>
    obtain ⟨hkey, hrelated⟩ := hmember
    rw [objectMember_cons, objectMember_cons, ← hkey]
    split
    · next hfound => exact .some (hfound ▸ hrelated)
    · exact ih

/-- Two objects that state the same levels under the same keys, as far as the
readers that accept strings can see. -/
def SameLevels : Object → Object → Prop :=
  MembersRel fun _ value value' =>
    powerLevelValue (some value) true = powerLevelValue (some value') true

theorem SameLevels.refl (members : Object) : SameLevels members members :=
  List.forall₂_same.mpr fun _ _ => ⟨rfl, rfl⟩

theorem powerLevelValue_of_levelRewrite {value value' : Value} (h : LevelRewrite value value') :
    powerLevelValue (some value) true = powerLevelValue (some value') true := by
  cases h with
  | same => rfl
  | @decimal text level hchars =>
    cases text with
    | nil => cases hchars
    | cons first rest => simp [powerLevelValue, hchars]

theorem MembersRel.sameLevels {members members' : Object} (h : MembersRel related members members')
    (hlevels : ∀ key value value', related key value value' →
      powerLevelValue (some value) true = powerLevelValue (some value') true) :
    SameLevels members members' :=
  List.Forall₂.imp (fun _ _ hmember => ⟨hmember.1, hlevels _ _ _ hmember.2⟩) h

section Readers

variable {members members' : Object}

section

variable (h : SameLevels members members')
include h

theorem SameLevels.powerLevelMember (key : Bytes) :
    powerLevelMember members key true = powerLevelMember members' key true := by
  unfold PowerLevels.powerLevelMember
  exact optionRel_elim (h.objectMember key) rfl fun _ _ hlevel => hlevel

theorem SameLevels.extractUserLevelFromUsers (userId : Bytes) :
    extractUserLevelFromUsers members userId true =
      extractUserLevelFromUsers members' userId true := by
  unfold PowerLevels.extractUserLevelFromUsers
  rw [h.powerLevelMember]

theorem SameLevels.mapLevel (key : Bytes) :
    mapLevel (some members) key true = mapLevel (some members') key true :=
  h.powerLevelMember key

theorem SameLevels.findSome? {reason : Type} {f g : Bytes × Value → Option reason}
    (hstep : ∀ key value value', powerLevelValue (some value) true = powerLevelValue (some value')
      true → f (key, value) = g (key, value')) : members.findSome? f = members'.findSome? g := by
  induction h with
  | nil => rfl
  | @cons member member' rest rest' hmember _ ih =>
    obtain ⟨key, value⟩ := member
    obtain ⟨key', value'⟩ := member'
    obtain ⟨rfl, hlevel⟩ := hmember
    rw [List.findSome?_cons, List.findSome?_cons, hstep key value value' hlevel, ih]

end

theorem SameLevels.any {f g : Bytes × Value → Bool} (h : SameLevels members members')
    (hstep : ∀ key value value', f (key, value) = g (key, value')) :
    members.any f = members'.any g := by
  induction h with
  | nil => rfl
  | @cons member member' rest rest' hmember _ ih =>
    obtain ⟨key, value⟩ := member
    obtain ⟨key', value'⟩ := member'
    obtain ⟨rfl, -⟩ := hmember
    rw [List.any_cons, List.any_cons, hstep key value value', ih]

end Readers

structure AlikeContents (content content' : Object) : Prop where
  scalars : SameLevels content content'
  maps : ∀ key, Option.Rel SameLevels (objectMemberAsObject content key)
    (objectMemberAsObject content' key)

theorem alikeContents_of_rewrite {content content' : Object}
    (h : MembersRel ContentRewrite content content') : AlikeContents content content' := by
  refine ⟨h.sameLevels fun _ _ _ hrewrite => ?_, fun key => ?_⟩
  · cases hrewrite with
    | same | entries => rfl
    | scalar _ hlevel => exact powerLevelValue_of_levelRewrite hlevel
  unfold objectMemberAsObject
  refine optionRel_elim (h.objectMember key) .none fun value value' hrewrite => ?_
  cases hrewrite with
  | same => exact optionRel_refl SameLevels.refl _
  | scalar _ hlevel =>
    cases hlevel with
    | same => exact optionRel_refl SameLevels.refl _
    | decimal => exact .none
  | entries _ hmap =>
    exact .some (hmap.sameLevels fun _ _ _ => powerLevelValue_of_levelRewrite)

structure AlikeEvents (event event' : Value) : Prop where
  hasContent : valueHasContent event = valueHasContent event'
  contents : Option.Rel AlikeContents (eventContent event) (eventContent event')

theorem eventContent_of_rewrite {event event' : Value} (h : EventRewrite event event') :
    Option.Rel (MembersRel ContentRewrite) (eventContent event) (eventContent event') := by
  cases h with
  | same => exact optionRel_refl (MembersRel.refl fun _ => .same) _
  | @content members members' hmembers =>
    simp only [eventContent, valueIsObject_object, bind_some, objectMemberAsObject]
    refine optionRel_elim (hmembers.objectMember "content") .none fun value value' hrewrite => ?_
    rcases hrewrite with rfl | ⟨-, content, content', rfl, rfl, hcontent⟩
    · exact optionRel_refl (MembersRel.refl fun _ => .same) _
    · exact .some hcontent

theorem alikeEvents_of_rewrite {event event' : Value} (h : EventRewrite event event') :
    AlikeEvents event event' := by
  constructor
  · cases h <;> rfl
  · exact optionRel_elim (eventContent_of_rewrite h) .none fun _ _ hrewrite =>
      .some (alikeContents_of_rewrite hrewrite)

section Alike

variable (h : AlikeEvents powerLevels powerLevels')
include h

theorem AlikeEvents.extractPowerLevelKey (key : Bytes) (defaultValue : Int64) :
    extractPowerLevelKey powerLevels key defaultValue true =
      extractPowerLevelKey powerLevels' key defaultValue true := by
  unfold PowerLevels.extractPowerLevelKey
  refine optionRel_elim h.contents rfl fun content content' halike => ?_
  simp only [halike.scalars.powerLevelMember]

theorem AlikeEvents.extractUserPowerLevel (userId : Bytes) :
    extractUserPowerLevel powerLevels userId true =
      extractUserPowerLevel powerLevels' userId true := by
  unfold PowerLevels.extractUserPowerLevel
  rw [h.extractPowerLevelKey]
  refine optionRel_elim h.contents rfl fun content content' halike => ?_
  dsimp only
  refine optionRel_elim (halike.maps "users") rfl fun users users' hsame => ?_
  simp only [hsame.extractUserLevelFromUsers]

variable (hstrings : policy.powerLevelsRequireIntegers = false)
include hstrings

theorem AlikeEvents.effectiveSenderPower (sender : Bytes) (create : Value) :
    effectiveSenderPower powerLevels sender create policy =
      effectiveSenderPower powerLevels' sender create policy := by
  unfold PowerLevels.effectiveSenderPower
  rw [h.hasContent, hstrings, Bool.not_false, h.extractUserPowerLevel]

theorem AlikeEvents.levelOrDefault (key : Bytes) (defaultValue : Int64) :
    levelOrDefault powerLevels key defaultValue policy =
      levelOrDefault powerLevels' key defaultValue policy := by
  unfold EventAuthorization.levelOrDefault allowStrings
  rw [h.hasContent, hstrings, Bool.not_false, h.extractPowerLevelKey]

end Alike

section

variable {content content' : Object} (h : AlikeContents content content') (newContent : Object)
include h

/-- Rules 9.5 to 9.7 see the old content only through its levels. -/
theorem AlikeContents.mapRejection (mapKey : Bytes) (senderPower : Int64) :
    powerLevelMapRejectionReason content newContent mapKey senderPower true =
      powerLevelMapRejectionReason content' newContent mapKey senderPower true := by
  have hentry : ∀ (other : Option Object) (key : Bytes) (value value' : Value),
      powerLevelValue (some value) true = powerLevelValue (some value') true →
      mapEntryExceeds other senderPower true (key, value) =
        mapEntryExceeds other senderPower true (key, value') := by
    intro other key value value' hlevel
    simp only [mapEntryExceeds, hlevel]
  unfold powerLevelMapRejectionReason
  refine optionRel_elim (h.maps mapKey) rfl fun map map' hsame => ?_
  have hother : mapEntryExceeds (some map) senderPower true =
      mapEntryExceeds (some map') senderPower true := by
    funext entry
    unfold mapEntryExceeds
    rw [hsame.mapLevel]
  simp only [getD_some, hother]
  congr 1
  apply hsame.findSome?
  intro key value value' hlevel
  simp only [hentry _ key value value' hlevel]

theorem AlikeContents.scalarRejection (senderPower : Int64) :
    scalarPowerLevelRejectionReason content newContent senderPower true =
      scalarPowerLevelRejectionReason content' newContent senderPower true := by
  unfold scalarPowerLevelRejectionReason
  congr 1
  funext key
  simp only [scalarChangeRejection, h.scalars.powerLevelMember]

end

section ChangeRules

variable (h : AlikeEvents powerLevels powerLevels')
  (hstrings : policy.powerLevelsRequireIntegers = false)
include h hstrings

/-- Rules 9.5 to 9.9 see the replaced event only through its levels. -/
theorem AlikeEvents.changeRejection (newContent : Object) (sender : Bytes) (senderPower : Int64) :
    powerLevelsChangeRejection powerLevels newContent sender senderPower policy =
      powerLevelsChangeRejection powerLevels' newContent sender senderPower policy := by
  have hallow : allowStrings policy = true := by
    simp [allowStrings, hstrings]
  unfold powerLevelsChangeRejection
  rw [hallow]
  refine optionRel_elim h.contents rfl fun content content' halike => ?_
  simp only [halike.scalarRejection, halike.mapRejection]
  rw [bind_some, bind_some]
  refine optionRel_elim (halike.maps "users") rfl fun users users' hsame => ?_
  have helevates : elevatesUser (some users) senderPower true =
      elevatesUser (some users') senderPower true := by
    funext entry
    cases hlevel : powerLevelValue (some entry.2) true <;>
      simp [elevatesUser, hlevel, hsame.extractUserLevelFromUsers]
  have hdemotes : users.any (demotesPeer users
        (objectMemberAsObject newContent "users") sender senderPower true) =
      users'.any (demotesPeer users'
        (objectMemberAsObject newContent "users") sender senderPower true) := by
    apply hsame.any
    intro key value value'
    unfold demotesPeer
    rw [hsame.extractUserLevelFromUsers]
  simp only [helevates, getD_some, hdemotes]

end ChangeRules

def typeEntry (powerLevels : Value) (eventType : Bytes) : Option Value :=
  ((eventContent powerLevels).bind fun content =>
    objectMemberAsObject content "events").bind fun members => objectMember members eventType

theorem eventTypeLevel_eq (powerLevels : Value) (eventType : Bytes) (defaultLevel : Int64) :
    eventTypeLevel powerLevels eventType defaultLevel =
      ((typeEntry powerLevels eventType).bind valueIsInteger).getD defaultLevel := by
  simp only [eventTypeLevel, typeEntry, integerMember, bind_assoc]

theorem typeEntry_of_rewrite (h : EventRewrite powerLevels powerLevels') (eventType : Bytes) :
    Option.Rel LevelRewrite (typeEntry powerLevels eventType)
      (typeEntry powerLevels' eventType) := by
  unfold typeEntry
  refine optionRel_elim (eventContent_of_rewrite h) .none fun content content' hrewrite => ?_
  simp only [bind_some, objectMemberAsObject]
  refine optionRel_elim (hrewrite.objectMember "events") .none fun value value' hentry => ?_
  cases hentry with
  | same => exact optionRel_refl LevelRewrite.same _
  | scalar hkey => exact absurd hkey (by decide)
  | entries _ hmap => exact hmap.objectMember eventType

def unlistedLevel (object : Object) (policy : RoomVersionPolicy) (authEvents : AuthEventMap) :
    Int64 :=
  if (stringMember object "state_key").isSome then
    levelOrDefault authEvents.powerLevels "state_default" 50 policy
  else levelOrDefault authEvents.powerLevels "events_default" 0 policy

/-- The events that steps 13 and 14 decide: those that no earlier step accepts
or rejects. -/
structure DecidedByLevel (object : Object) (policy : RoomVersionPolicy)
    (authEvents : AuthEventMap) (eventType sender : Bytes) : Prop where
  notCreate : eventType ≠ "m.room.create"
  notMember : eventType ≠ "m.room.member"
  notThirdPartyInvite : eventType ≠ "m.room.third_party_invite"
  notPowerLevels : eventType ≠ "m.room.power_levels"
  admitted : roomAdmits policy authEvents sender = true
  joined : senderMembership authEvents sender = .join
  ownStateKey : ∀ stateKey, stringMember object "state_key" = some stateKey →
    stateKey.head? = some (byte '@') → stateKey = sender

section Verdict

variable {sodium : Libsodium} {event : Value} {object : Object} {authEvents : AuthEventMap}
  {eventType sender : Bytes}

theorem DecidedByLevel.allowed_iff (h : DecidedByLevel object policy authEvents eventType sender) :
    (authorizeTypedEvent sodium event object policy authEvents eventType sender).allowed = true ↔
      eventTypeLevel authEvents.powerLevels eventType (unlistedLevel object policy authEvents) ≤
        effectiveSenderPower authEvents.powerLevels sender authEvents.create policy := by
  rw [authorizeTypedEvent_room_allowed_iff h.notCreate h.notMember, and_iff_right h.admitted]
  have hkey : ((stringMember object "state_key").any fun stateKey =>
      stateKey.head? = some (byte '@') && stateKey ≠ sender) = false := by
    cases hstate : stringMember object "state_key" with
    | none => rfl
    | some stateKey =>
      simp only [any_some, Bool.and_eq_false_iff, decide_eq_false_iff_not, not_not]
      exact or_iff_not_imp_left.mpr fun hsigil =>
        h.ownStateKey stateKey hstate (not_not.mp hsigil)
  simp only [authorizeRoomEvent, h.joined, h.notThirdPartyInvite, h.notPowerLevels, hkey,
    ne_eq, not_true, if_false, Bool.false_eq_true, unlistedLevel]
  split
  · split
    · next hlow => simpa using hlow
    · next hhigh => simpa using hhigh
  · split
    · next hlow => simpa using hlow
    · next hhigh => simpa using hhigh

section Unaffected

variable (hstrings : policy.powerLevelsRequireIntegers = false)
  (halike : AlikeEvents authEvents.powerLevels powerLevels')
include hstrings halike

theorem authorizeRestrictedJoin_eq_of_alike :
    authorizeRestrictedJoin event policy { authEvents with powerLevels := powerLevels' } =
      authorizeRestrictedJoin event policy authEvents := by
  unfold authorizeRestrictedJoin
  cases (eventContentString event "join_authorised_via_users_server").filter
      fun user => !user.isEmpty with
  | none => rfl
  | some authorisingUser =>
    simp only
    rw [halike.effectiveSenderPower hstrings, halike.levelOrDefault hstrings]

theorem authorizeMemberEvent_eq_of_alike : authorizeMemberEvent sodium event object policy
        { authEvents with powerLevels := powerLevels' } sender =
      authorizeMemberEvent sodium event object policy authEvents sender := by
  unfold authorizeMemberEvent authorizeJoin authorizeInvite authorizeLeave authorizeBan
  simp only [authorizeRestrictedJoin_eq_of_alike hstrings halike,
    halike.effectiveSenderPower hstrings, halike.levelOrDefault hstrings]
  rfl

theorem authorizePowerLevelsEvent_eq_of_alike :
    authorizePowerLevelsEvent object policy { authEvents with powerLevels := powerLevels' }
        sender =
      authorizePowerLevelsEvent object policy authEvents sender := by
  unfold authorizePowerLevelsEvent powerLevelsEventRejection
  rw [halike.effectiveSenderPower hstrings, halike.levelOrDefault hstrings, halike.hasContent]
  simp only [halike.changeRejection hstrings]

theorem authorizeRoomEvent_eq_of_alike (hcreate : eventType ≠ "m.room.create")
    (hmember : eventType ≠ "m.room.member") (hadmitted : roomAdmits policy authEvents sender = true)
    (hundecided : ¬DecidedByLevel object policy authEvents eventType sender) :
    authorizeRoomEvent object policy { authEvents with powerLevels := powerLevels' }
        eventType sender =
      authorizeRoomEvent object policy authEvents eventType sender := by
  have hmembership : senderMembership { authEvents with powerLevels := powerLevels' } sender =
      senderMembership authEvents sender := rfl
  simp only [authorizeRoomEvent, hmembership, authorizePowerLevelsEvent_eq_of_alike hstrings halike]
  rw [halike.effectiveSenderPower hstrings]
  split
  · rfl
  · next hjoin =>
      split
      · rw [halike.levelOrDefault hstrings]
      · next hinvite =>
          split
          · rfl
          · next hkey =>
              split
              · rfl
              · next hlevels =>
                  refine absurd ?_ hundecided
                  refine ⟨hcreate, hmember, hinvite, hlevels, hadmitted, not_not.mp hjoin, ?_⟩
                  intro stateKey hstate hsigil
                  rw [hstate, any_some] at hkey
                  simpa [hsigil] using hkey

theorem authorizeTypedEvent_eq_of_alike
    (hundecided : ¬DecidedByLevel object policy authEvents eventType sender) :
    (authorizeTypedEvent sodium event object policy
        { authEvents with powerLevels := powerLevels' } eventType sender).allowed =
      (authorizeTypedEvent sodium event object policy authEvents eventType sender).allowed := by
  rw [Bool.eq_iff_iff]
  rcases eq_or_ne eventType "m.room.create" with rfl | hcreate
  · rw [authorizeTypedEvent_create_allowed_iff, authorizeTypedEvent_create_allowed_iff]
  · rcases eq_or_ne eventType "m.room.member" with rfl | hmember
    · rw [authorizeTypedEvent_member_allowed_iff, authorizeTypedEvent_member_allowed_iff,
        authorizeMemberEvent_eq_of_alike hstrings halike]
      rfl
    · rw [authorizeTypedEvent_room_allowed_iff hcreate hmember,
        authorizeTypedEvent_room_allowed_iff hcreate hmember]
      refine and_congr_right ?_
      intro hadmitted
      rw [authorizeRoomEvent_eq_of_alike hstrings halike hcreate hmember hadmitted hundecided]

theorem DecidedByLevel.allowed_of_alike
    (h : DecidedByLevel object policy authEvents eventType sender) :
    (authorizeTypedEvent sodium event object policy
        { authEvents with powerLevels := powerLevels' } eventType sender).allowed = true ↔
      eventTypeLevel powerLevels' eventType (unlistedLevel object policy authEvents) ≤
        effectiveSenderPower authEvents.powerLevels sender authEvents.create policy := by
  have hother : DecidedByLevel object policy { authEvents with powerLevels := powerLevels' }
      eventType sender :=
    ⟨h.notCreate, h.notMember, h.notThirdPartyInvite, h.notPowerLevels, h.admitted,
      h.joined, h.ownStateKey⟩
  rw [hother.allowed_iff]
  simp only [unlistedLevel, halike.levelOrDefault hstrings, halike.effectiveSenderPower hstrings]

end Unaffected

/-- The level that an event type requires before and after its entry has been
rewritten: only a string that became an integer makes a difference. -/
theorem eventTypeLevel_verdict_iff (hrewrite : EventRewrite powerLevels powerLevels')
    (unlisted power : Int64) :
    (eventTypeLevel powerLevels' eventType unlisted ≤ power ↔
        eventTypeLevel powerLevels eventType unlisted ≤ power) ↔
      ∀ text level, typeEntry powerLevels eventType = some (.string text) →
        typeEntry powerLevels' eventType = some (.integer level) →
        (level ≤ power ↔ unlisted ≤ power) := by
  rw [eventTypeLevel_eq, eventTypeLevel_eq]
  refine optionRel_elim (typeEntry_of_rewrite hrewrite eventType) (by simp)
    fun value value' hlevel => ?_
  simp only [bind_some, some.injEq]
  cases hlevel with
  | same =>
    refine iff_of_true Iff.rfl ?_
    rintro text level rfl hinteger
    cases hinteger
  | decimal => simp [valueIsInteger]

/-- Rewriting decimal strings of the power levels event into integers keeps the
verdict exactly when no string entry of `content.events` for the event's own
type becomes an integer on the other side of the sender's power than the
default that stood in for it. -/
theorem rewrite_keeps_verdict_iff (sodium : Libsodium) (event : Value) (policy : RoomVersionPolicy)
    (hstrings : policy.powerLevelsRequireIntegers = false) (authEvents : AuthEventMap)
    (powerLevels' : Value) (hrewrite : EventRewrite authEvents.powerLevels powerLevels') :
    (authorizeEventAgainstAuthEvents sodium event policy
          { authEvents with powerLevels := powerLevels' }).allowed =
        (authorizeEventAgainstAuthEvents sodium event policy authEvents).allowed ↔
      ∀ object eventType sender, EventHead event object eventType sender →
        DecidedByLevel object policy authEvents eventType sender →
        ∀ text level, typeEntry authEvents.powerLevels eventType = some (.string text) →
          typeEntry powerLevels' eventType = some (.integer level) →
          (level ≤ effectiveSenderPower authEvents.powerLevels sender authEvents.create policy ↔
            unlistedLevel object policy authEvents ≤
              effectiveSenderPower authEvents.powerLevels sender authEvents.create policy) := by
  have halike := alikeEvents_of_rewrite hrewrite
  constructor
  · intro hverdict object eventType sender hhead hdecided
    rw [authorize_of_head hhead, authorize_of_head hhead, Bool.eq_iff_iff,
      hdecided.allowed_of_alike hstrings halike, hdecided.allowed_iff] at hverdict
    exact (eventTypeLevel_verdict_iff hrewrite _ _).mp hverdict
  · intro hentries
    by_cases hhead : ∃ object eventType sender, EventHead event object eventType sender
    · obtain ⟨object, eventType, sender, hhead⟩ := hhead
      rw [authorize_of_head hhead, authorize_of_head hhead]
      by_cases hdecided : DecidedByLevel object policy authEvents eventType sender
      · rw [Bool.eq_iff_iff, hdecided.allowed_of_alike hstrings halike, hdecided.allowed_iff]
        exact (eventTypeLevel_verdict_iff hrewrite _ _).mpr
          (hentries object eventType sender hhead hdecided)
      · exact authorizeTypedEvent_eq_of_alike hstrings halike hdecided
    · have hdenied : ∀ authEvents,
          (authorizeEventAgainstAuthEvents sodium event policy authEvents).allowed = false := by
        intro authEvents
        rw [← Bool.not_eq_true]
        exact fun hallowed => hhead (eventHead_of_allowed hallowed)
      rw [hdenied, hdenied]

end Verdict

def topicPowerLevels (topicLevel : Value) : Value :=
  .object [("type", .string "m.room.power_levels"),
    ("content", .object [("users", .object [("@bob:example.org", .integer 50)]),
      ("events", .object [("m.room.topic", topicLevel)])])]

def topicAuthEvents (topicLevel : Value) : AuthEventMap where
  create := .object [("type", .string "m.room.create"),
    ("content", .object [("creator", .string "@alice:example.org")])]
  powerLevels := topicPowerLevels topicLevel
  senderMember := .object [("type", .string "m.room.member"),
    ("content", .object [("membership", .string "join")])]

def topicEvent : Value :=
  .object [("type", .string "m.room.topic"), ("sender", .string "@bob:example.org"),
    ("state_key", .string ""), ("content", .object [])]

theorem topicPowerLevels_rewrite {text : Bytes} {level : Int64}
    (h : fromChars text = .ok level []) :
    EventRewrite (topicPowerLevels (.string text)) (topicPowerLevels (.integer level)) := by
  refine .content (.cons ⟨rfl, .inl rfl⟩ (.cons ⟨rfl, .inr ⟨rfl, _, _, rfl, rfl, ?_⟩⟩ .nil))
  refine .cons ⟨rfl, .same _⟩ (.cons ⟨rfl, .entries (.inr rfl) ?_⟩ .nil)
  exact .cons ⟨rfl, .decimal h⟩ .nil

theorem rewrite_keeps_verdict_at_or_below_default :
    roomVersion9.powerLevelsRequireIntegers = false ∧
      EventRewrite (topicPowerLevels (.string "40")) (topicPowerLevels (.integer 40)) ∧
      (authorizeEventAgainstAuthEvents notReady topicEvent roomVersion9
          (topicAuthEvents (.integer 40))).allowed =
        (authorizeEventAgainstAuthEvents notReady topicEvent roomVersion9
          (topicAuthEvents (.string "40"))).allowed := by
  have hrewrite := topicPowerLevels_rewrite
    (show fromChars "40" = .ok 40 [] by decide +kernel)
  refine ⟨by decide, hrewrite, ?_⟩
  refine (rewrite_keeps_verdict_iff notReady topicEvent roomVersion9 (by decide)
    (topicAuthEvents (.string "40")) _ hrewrite).mpr ?_
  rintro object eventType sender ⟨hobject, htype, hsender⟩ hdecided text level - hinteger
  cases hobject
  have htopic : eventType = "m.room.topic" :=
    some.inj (htype.symm.trans (by decide +kernel))
  have hbob : sender = "@bob:example.org" :=
    some.inj (hsender.symm.trans (by decide +kernel))
  subst htopic hbob
  cases hinteger
  decide +kernel

/-- The topic may be set while its level is written as a string above the
moderator's power, and not once the same level is an integer. -/
theorem string_entry_is_ignored : roomVersion9.powerLevelsRequireIntegers = false ∧
      EventRewrite (topicPowerLevels (.string "100")) (topicPowerLevels (.integer 100)) ∧
      (authorizeEventAgainstAuthEvents notReady topicEvent roomVersion9
        (topicAuthEvents (.string "100"))).allowed = true ∧
      (authorizeEventAgainstAuthEvents notReady topicEvent roomVersion9
        (topicAuthEvents (.integer 100))).allowed = false := by
  refine ⟨by decide, topicPowerLevels_rewrite (by decide +kernel), ?_, ?_⟩
  · decide +kernel
  · decide +kernel

end Merovingian.PowerLevelEncoding
