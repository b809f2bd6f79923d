import Merovingian.CanonicalRoundTrip
import Merovingian.EventEnvelopes

/-!
What redaction and the members that servers attach to an event do to its
identity. Redaction keeps the signing payload and the reference hash. Of the
attached members the signing payload depends on none, and the reference hash on
`event_id`, which is among the members that survive redaction.
-/

namespace Merovingian.EventRedaction

open ByteString JsonValue CanonicalSerializer CanonicalParser CanonicalForm CanonicalRoundTrip
  EventSigning RoomVersions EventEnvelopes

section Members

variable (keep : Bytes → Bool) (change : Bytes → Value → Value)

/-- A change of an object that goes by its keys: some are dropped, and the values
under the others are changed. -/
def changeMembers (members : Object) : Object :=
  (members.filter fun member => keep member.1).map fun member =>
    (member.1, change member.1 member.2)

theorem changeMembers_cons (member : Bytes × Value) (members : Object) :
    changeMembers keep change (member :: members) =
      if keep member.1 then (member.1, change member.1 member.2) ::
        changeMembers keep change members
      else changeMembers keep change members := by
  rw [changeMembers, List.filter_cons]
  split_ifs <;> rfl

theorem objectMember_changeMembers (members : Object) (key : Bytes) :
    objectMember (changeMembers keep change members) key =
      if keep key then (objectMember members key).map (change key) else none := by
  induction members with
  | nil => simp [changeMembers]
  | cons member members ih =>
    rw [changeMembers_cons, objectMember_cons]
    rcases eq_or_ne member.1 key with rfl | hne
    · rcases hkeep : keep member.1
      · simp [ih, hkeep]
      · simp [objectMember_cons]
    · rw [if_neg hne, ← ih]
      split_ifs
      · rw [objectMember_cons, if_neg hne]
      · rfl

theorem changeMembers_changeMembers (keep' : Bytes → Bool) (change' : Bytes → Value → Value)
    (members : Object) :
    changeMembers keep' change' (changeMembers keep change members) =
      changeMembers (fun key => keep key && keep' key)
        (fun key value => change' key (change key value)) members := by
  induction members with
  | nil => rfl
  | cons member members ih =>
    simp only [changeMembers_cons, Bool.and_eq_true]
    rcases hkeep : keep member.1
    · simpa using ih
    · simp [changeMembers_cons, ih]

theorem changeMembers_eq_iff {keep keep' : Bytes → Bool} {change change' : Bytes → Value → Value}
    {members : Object} : changeMembers keep change members = changeMembers keep' change' members ↔
      ∀ member ∈ members, keep member.1 = keep' member.1 ∧
        (keep member.1 = true → change member.1 member.2 = change' member.1 member.2) := by
  have hkeys : ∀ (keep : Bytes → Bool) (change : Bytes → Value → Value) key,
      key ∈ (changeMembers keep change members).map Prod.fst ↔
        key ∈ members.map Prod.fst ∧ keep key = true := by
    intro keep change key
    simp only [changeMembers, List.mem_map, List.mem_filter]
    grind
  constructor
  · intro h
    have hkeep : ∀ member ∈ members, keep member.1 = keep' member.1 := by
      intro member hmember
      have hiff := (hkeys keep change member.1).symm.trans (h ▸ hkeys keep' change' member.1)
      exact Bool.eq_iff_iff.mpr ((and_congr_right_iff.mp hiff) (List.mem_map_of_mem hmember))
    rw [changeMembers, changeMembers, List.filter_congr hkeep, List.map_inj_left] at h
    intro member hmember
    refine ⟨hkeep member hmember, fun hkept => (Prod.mk.inj (h member ?_)).2⟩
    exact List.mem_filter.mpr ⟨hmember, hkeep member hmember ▸ hkept⟩
  · intro h
    rw [changeMembers, List.map_congr_left fun member hmember => ?_,
      List.filter_congr fun member hmember => ?_]
    · rfl
    · exact (h member hmember).1
    · have hkept := List.mem_filter.mp hmember
      rw [(h member hkept.1).2 hkept.2]

theorem changeMembers_idempotent
    (hchange : ∀ key value, change key (change key value) = change key value) (members : Object) :
    changeMembers keep change (changeMembers keep change members) =
      changeMembers keep change members := by
  rw [changeMembers_changeMembers]
  exact changeMembers_eq_iff.mpr fun _ _ => ⟨Bool.and_self _, fun _ => hchange _ _⟩

theorem filter_eq_changeMembers (members : Object) : (members.filter fun member => keep member.1) =
      changeMembers keep (fun _ value => value) members :=
  (List.map_id _).symm

theorem cloneWithoutFields_eq (members : Object) (fields : List Bytes) :
    cloneWithoutFields members fields =
      changeMembers (fun key => !fields.contains key) (fun _ value => value) members :=
  filter_eq_changeMembers (fun key => !fields.contains key) members

end Members

section Redaction

variable (policy : RoomVersionPolicy)

def survives (eventType : Option Bytes) (key : Bytes) : Bool :=
  !(key = utf8 "room_id" && policy.createEventIsRoomId &&
    eventType = some (utf8 "m.room.create")) && keyIsAllowed key policy

def redactValue (eventType : Option Bytes) (key : Bytes) (value : Value) : Value :=
  match eventType with
  | some eventType => if key = utf8 "content" then redactContent value eventType policy else value
  | none => value

theorem redactEvent_object (members : Object) : redactEvent (.object members) policy =
      some (changeMembers (survives policy (stringMember members "type"))
        (redactValue policy (stringMember members "type")) members) := by
  refine congrArg some (List.map_congr_left fun member _ => ?_)
  rcases stringMember members "type" with - | eventType
  · rfl
  · dsimp only [redactValue]
    split_ifs <;> rfl

def redactContentValue (key : Bytes) (value : Value) : Value :=
  if key = utf8 "third_party_invite" then redactThirdPartyInvite value else value

theorem redactContent_eq (content : Value) (eventType : Bytes) :
    redactContent content eventType policy =
      .object (changeMembers (fun key => contentKeyAllowed eventType key policy)
        redactContentValue ((valueIsObject content).getD [])) := by
  refine congrArg Value.object (List.map_congr_left fun member _ => ?_)
  rw [redactContentValue]
  split_ifs <;> rfl

theorem redactThirdPartyInvite_idempotent (value : Value) :
    redactThirdPartyInvite (redactThirdPartyInvite value) = redactThirdPartyInvite value := by
  simp only [redactThirdPartyInvite, valueIsObject_object, Option.bind_some]
  rcases (valueIsObject value).bind fun object => objectMember object "signed" with - | signed
  · rfl
  · simp [objectMember_cons]

theorem redactContent_idempotent (content : Value) (eventType : Bytes) :
    redactContent (redactContent content eventType policy) eventType policy =
      redactContent content eventType policy := by
  rw [redactContent_eq policy (redactContent _ _ _), redactContent_eq policy content,
    valueIsObject_object, Option.getD_some, changeMembers_idempotent]
  intro key value
  rw [redactContentValue, redactContentValue]
  split_ifs
  · exact redactThirdPartyInvite_idempotent value
  · rfl

variable (eventType : Option Bytes)

theorem redactValue_idempotent (key : Bytes) (value : Value) :
    redactValue policy eventType key (redactValue policy eventType key value) =
      redactValue policy eventType key value := by
  rcases eventType with - | eventType
  · rfl
  · rw [redactValue, redactValue]
    split_ifs
    · exact redactContent_idempotent policy value eventType
    · rfl

theorem survives_of_base {key : Bytes} (hroom : key ≠ "room_id")
    (hbase : baseKeyIsAllowed key = true) : survives policy eventType key = true := by
  simp [survives, keyIsAllowed, hroom, hbase]

theorem redactValue_of_ne {key : Bytes} (hcontent : key ≠ "content")
    (value : Value) : redactValue policy eventType key value = value := by
  rcases eventType with - | eventType
  · rfl
  · exact if_neg hcontent

theorem objectMember_redacted {key : Bytes} (members : Object)
    (hroom : key ≠ "room_id") (hcontent : key ≠ "content") (hbase : baseKeyIsAllowed key = true) :
    objectMember (changeMembers (survives policy eventType) (redactValue policy eventType)
      members) key = objectMember members key := by
  rw [objectMember_changeMembers, survives_of_base policy eventType hroom hbase, if_pos rfl,
    funext (redactValue_of_ne policy eventType hcontent)]
  exact Option.map_id'

theorem redactEvent_redacted {members redacted : Object}
    (h : redactEvent (.object members) policy = some redacted) :
    redactEvent (.object redacted) policy = some redacted ∧
      objectMember redacted "signatures" = objectMember members "signatures" := by
  rw [redactEvent_object, Option.some.injEq] at h
  subst h
  have htype : stringMember (changeMembers (survives policy (stringMember members "type"))
      (redactValue policy (stringMember members "type")) members) "type" =
        stringMember members "type" := by
    rw [stringMember, objectMember_redacted policy _ _ (by decide) (by decide) (by decide)]
    rfl
  constructor
  · rw [redactEvent_object, htype, changeMembers_idempotent _ _ (redactValue_idempotent policy _)]
  · exact objectMember_redacted policy _ _ (by decide) (by decide) (by decide)

/-- Redaction twice is redaction once, and it keeps the reference hash, the
signing payload, the signatures and so the outcome of every verification. -/
theorem redaction_keeps_identity (members : Object) :
    ∃ redacted, redactEvent (.object members) policy = some redacted ∧
      redactEvent (.object redacted) policy = some redacted ∧
      (∀ sodium, makeReferenceHash sodium (.object redacted) policy =
        makeReferenceHash sodium (.object members) policy) ∧
      makeRoomEventSigningPayload (.object redacted) policy =
        makeRoomEventSigningPayload (.object members) policy ∧
      objectMember redacted "signatures" = objectMember members "signatures" ∧
      (∀ sodium, makeReferenceHashEventId sodium (.object redacted) policy =
        makeReferenceHashEventId sodium (.object members) policy) ∧
      ∀ verify sodium keyId publicKey,
        verifyEventSignatureWith verify sodium (.object redacted) policy keyId publicKey =
          verifyEventSignatureWith verify sodium (.object members) policy keyId publicKey := by
  obtain ⟨redacted, hredacted⟩ : ∃ redacted, redactEvent (.object members) policy = some redacted :=
    ⟨_, redactEvent_object policy members⟩
  obtain ⟨htwice, hsignatures⟩ := redactEvent_redacted policy hredacted
  have hhash : ∀ sodium, makeReferenceHash sodium (.object redacted) policy =
      makeReferenceHash sodium (.object members) policy := by
    intro sodium
    rw [makeReferenceHash, makeReferenceHash, htwice, hredacted]
  have hpayload : makeRoomEventSigningPayload (.object redacted) policy =
      makeRoomEventSigningPayload (.object members) policy := by
    rw [makeRoomEventSigningPayload, makeRoomEventSigningPayload, htwice, hredacted]
  refine ⟨redacted, hredacted, htwice, hhash, hpayload, hsignatures, ?_, ?_⟩
  · intro sodium
    rw [makeReferenceHashEventId, makeReferenceHashEventId, hhash]
  · intro verify sodium keyId publicKey
    rw [verifyEventSignatureWith, verifyEventSignatureWith, hpayload, verifyEventSignaturePresence,
      verifyEventSignaturePresence, valueIsObject_object, valueIsObject_object]
    dsimp only
    rw [hsignatures]

end Redaction

section SpecifiedKeys

/-- The keys of an event that redaction keeps in rooms of a version, by the
specification. -/
def protectedKeys (version : Nat) : List Bytes :=
  [utf8 "event_id", utf8 "type", utf8 "room_id", utf8 "sender", utf8 "state_key", utf8 "content",
    utf8 "hashes", utf8 "signatures", utf8 "depth", utf8 "prev_events", utf8 "auth_events",
    utf8 "origin_server_ts"] ++
    if version < 11 then [utf8 "prev_state", utf8 "origin", utf8 "membership"] else []

/-- The keys of the content that it keeps, by the type of the event. -/
def contentKeyProtected (version : Nat) (eventType key : Bytes) : Bool :=
  if eventType = "m.room.member" then
    key = "membership" || (9 ≤ version && key = "join_authorised_via_users_server") ||
      (11 ≤ version && key = "third_party_invite")
  else if eventType = "m.room.create" then key = "creator" || 11 ≤ version
  else if eventType = "m.room.join_rules" then key = "join_rule" || (8 ≤ version && key = "allow")
  else if eventType = "m.room.power_levels" then
    key ∈ ([utf8 "ban", utf8 "events", utf8 "events_default", utf8 "kick", utf8 "redact",
      utf8 "state_default", utf8 "users", utf8 "users_default"] : List Bytes) ||
      (11 ≤ version && key = "invite")
  else if eventType = "m.room.aliases" then version < 6 && key = "aliases"
  else if eventType = "m.room.history_visibility" then key = "history_visibility"
  else eventType = "m.room.redaction" && 11 ≤ version && key = "redacts"

section

variable (version : Nat) (eventType : Bytes)

def specifiedContentValue (key : Bytes) (value : Value) : Value :=
  if eventType = "m.room.member" ∧ key = "third_party_invite" then redactThirdPartyInvite value
  else value

def specifiedContent (content : Value) : Value :=
  .object (changeMembers (contentKeyProtected version eventType) (specifiedContentValue eventType)
    ((valueIsObject content).getD []))

def specifiedRedaction (members : Object) : Object :=
  changeMembers (fun key => key ∈ protectedKeys version)
    (fun key value => if key = "content" then specifiedContent version eventType value else value)
    members

/-- A member of the content on which the code's table and the specification's
agree. They differ on the authorising user of a join before version 9, on
aliases from version 6 to 10, on what is signed in a third-party invite, and
on a third-party invite in the content of a create event. -/
def AgreedMember (member : Bytes × Value) : Prop :=
  (eventType = "m.room.member" → member.1 = "join_authorised_via_users_server" → 9 ≤ version) ∧
  (eventType = "m.room.aliases" → member.1 = "aliases" → version < 6 ∨ 11 ≤ version) ∧
  (eventType = "m.room.third_party_invite" → member.1 ≠ "signed") ∧
  (eventType = "m.room.create" → member.1 = "third_party_invite" → 11 ≤ version →
    redactThirdPartyInvite member.2 = member.2)

def OnlyAgreedMembers (members : Object) : Prop :=
  (eventType = "m.room.create" → version = 12 → ∀ member ∈ members, member.1 ≠ "room_id") ∧
  ∀ content ∈ members, content.1 = "content" → ∀ member ∈ (valueIsObject content.2).getD [],
    AgreedMember version eventType member

end

theorem rules_of_version : ∀ policy ∈ policies,
    (policy.redactionRules = .roomV1V7 ↔ digitsValue policy.id < 8) ∧
      (policy.redactionRules = .roomV11Plus ↔ 11 ≤ digitsValue policy.id) ∧
      (policy.createEventIsRoomId = true ↔ digitsValue policy.id = 12) := by
  decide

section

variable {policy : RoomVersionPolicy} (hpolicy : policy ∈ policies)
include hpolicy

theorem agreedMember_iff (eventType : Bytes) (member : Bytes × Value) :
    (contentKeyAllowed eventType member.1 policy =
        contentKeyProtected (digitsValue policy.id) eventType member.1 ∧
      (contentKeyAllowed eventType member.1 policy = true → redactContentValue member.1 member.2 =
          specifiedContentValue eventType member.1 member.2)) ↔
      AgreedMember (digitsValue policy.id) eventType member := by
  obtain ⟨key, value⟩ := member
  obtain ⟨hold, hnew, -⟩ := rules_of_version policy hpolicy
  simp only [contentKeyAllowed, contentKeyProtected, hold, hnew, ne_eq, redactContentValue,
    specifiedContentValue, AgreedMember]
  by_cases hmember : eventType = "m.room.member"
  · subst hmember
    by_cases hkey : key = "join_authorised_via_users_server" <;> simp [hkey]
  by_cases hcreate : eventType = "m.room.create"
  · subst hcreate
    by_cases hkey : key = "third_party_invite" <;> simp [hkey, Bool.or_comm]
  by_cases haliases : eventType = "m.room.aliases"
  · subst haliases
    by_cases hkey : key = "aliases" <;> simp [hkey]
    grind
  by_cases hinvite : eventType = "m.room.third_party_invite"
  · subst hinvite
    by_cases hkey : key = "signed" <;> simp [hkey]
  -- The other types have the same table, which no third-party invite is in.
  by_cases hkey : key = "third_party_invite" <;>
    simp [hmember, hcreate, haliases, hinvite, hkey, Bool.and_assoc]

theorem survives_iff (eventType key : Bytes) :
    survives policy (some eventType) key = decide (key ∈ protectedKeys (digitsValue policy.id)) ↔
      (eventType = "m.room.create" → digitsValue policy.id = 12 → key ≠ "room_id") := by
  obtain ⟨-, hnew, hcreate⟩ := rules_of_version policy hpolicy
  by_cases hkey : key = "room_id"
  · simp [survives, keyIsAllowed, baseKeyIsAllowed, protectedKeys, hkey]
    grind
  · simp [survives, keyIsAllowed, baseKeyIsAllowed, protectedKeys, hkey, hnew]
    grind

theorem redaction_as_specified_iff {eventType : Bytes} {members : Object}
    (htype : stringMember members "type" = some eventType) :
    redactEvent (.object members) policy =
        some (specifiedRedaction (digitsValue policy.id) eventType members) ↔
      OnlyAgreedMembers (digitsValue policy.id) eventType members := by
  rw [redactEvent_object, htype, Option.some.injEq, specifiedRedaction, changeMembers_eq_iff]
  have hcontent : ∀ content : Value, redactContent content eventType policy =
        specifiedContent (digitsValue policy.id) eventType content ↔
      ∀ member ∈ (valueIsObject content).getD [],
        AgreedMember (digitsValue policy.id) eventType member := by
    intro content
    rw [redactContent_eq, specifiedContent, Value.object.injEq, changeMembers_eq_iff]
    exact forall₂_congr fun member _ => agreedMember_iff hpolicy eventType member
  constructor
  · intro h
    refine ⟨fun hcreate hlast member hmember =>
      (survives_iff hpolicy eventType _).mp (h member hmember).1 hcreate hlast, ?_⟩
    intro member hmember hkey
    have hsame := (h member hmember).2
      (survives_of_base policy _ (by rw [hkey]; decide) (by rw [hkey]; decide))
    rw [redactValue, if_pos hkey, if_pos hkey] at hsame
    exact (hcontent member.2).mp hsame
  · rintro ⟨hroom, hagreed⟩ member hmember
    refine ⟨(survives_iff hpolicy eventType _).mpr fun hcreate hlast =>
      hroom hcreate hlast member hmember, fun _ => ?_⟩
    by_cases hkey : member.1 = "content"
    · rw [redactValue, if_pos hkey, if_pos hkey]
      exact (hcontent member.2).mpr (hagreed member hmember hkey)
    · rw [redactValue_of_ne policy _ hkey, if_neg hkey]

end

def aliasesEvent (content : Object) : Object :=
  [(utf8 "type", .string (utf8 "m.room.aliases")), (utf8 "content", .object content)]

theorem redaction_of_aliases_in_version_11 :
    redactEvent (.object (aliasesEvent [(utf8 "aliases", .array [])])) roomVersion11 =
      some (specifiedRedaction 11 "m.room.aliases" (aliasesEvent [(utf8 "aliases", .array [])])) :=
  (redaction_as_specified_iff (by decide) rfl).mpr ⟨fun h => absurd h (by decide), by
    simp [aliasesEvent, AgreedMember, valueIsObject]
    decide⟩

def joinEvent (content : Object) : Object :=
  [(utf8 "type", .string (utf8 "m.room.member")),
    (utf8 "content", .object ((utf8 "membership", .string (utf8 "join")) :: content))]

/-- In a room of version 7, which has no restricted joins, a join keeps the user who is said
to have authorised it. -/
theorem redaction_keeps_authorising_user :
    let authorised := joinEvent
      [(utf8 "join_authorised_via_users_server", .string (utf8 "@alice:a.example"))]
    (findRoomVersionPolicy "7").bind (redactEvent (.object authorised)) = some authorised ∧
      specifiedRedaction 7 "m.room.member" authorised = joinEvent [] :=
  ⟨rfl, rfl⟩

end SpecifiedKeys

section AttachedMembers

/-- The members that servers attach to an event and that are no part of it. -/
def attachedFields : List Bytes := ["unsigned", "signatures", "event_id"]

def eventIdMembers (members : Object) : Object :=
  members.filter fun member => member.1 = utf8 "event_id"

variable (policy : RoomVersionPolicy)

def hashedMembers (members : Object) : Object :=
  cloneWithoutFields (changeMembers (survives policy (stringMember members "type"))
    (redactValue policy (stringMember members "type")) members) ["signatures", "unsigned"]

def signedMembers (members : Object) : Object :=
  cloneWithoutFields (changeMembers (survives policy (stringMember members "type"))
    (redactValue policy (stringMember members "type")) members) attachedFields

theorem makeRoomEventSigningPayload_object (members : Object) :
    makeRoomEventSigningPayload (.object members) policy =
      serializeCanonicalStrict (.object (signedMembers policy members)) := by
  rw [makeRoomEventSigningPayload, redactEvent_object]
  rfl

theorem stringMember_cloneWithoutFields {members : Object} {fields : List Bytes} {key : Bytes}
    (hkey : key ∉ fields) :
    stringMember (cloneWithoutFields members fields) key = stringMember members key := by
  rw [stringMember, stringMember, cloneWithoutFields_eq, objectMember_changeMembers,
    if_pos (by simpa using hkey), Option.map_id']

theorem signedMembers_eq (members : Object) : signedMembers policy members =
      changeMembers (survives policy (stringMember members "type"))
        (redactValue policy (stringMember members "type"))
        (cloneWithoutFields members attachedFields) := by
  rw [signedMembers, cloneWithoutFields_eq, cloneWithoutFields_eq, changeMembers_changeMembers,
    changeMembers_changeMembers]
  exact changeMembers_eq_iff.mpr fun _ _ => ⟨Bool.and_comm _ _, fun _ => rfl⟩

variable {members members' : Object}

theorem signedMembers_congr
    (h : cloneWithoutFields members attachedFields = cloneWithoutFields members' attachedFields) :
    signedMembers policy members = signedMembers policy members' := by
  have hkept (members : Object) :
      stringMember (cloneWithoutFields members attachedFields) "type" =
        stringMember members "type" :=
    stringMember_cloneWithoutFields (by decide)
  rw [signedMembers_eq, signedMembers_eq, h, ← hkept members, h, hkept]

theorem hashedMembers_without_eventId (members : Object) :
    ((hashedMembers policy members).filter fun member => !decide (member.1 = utf8 "event_id")) =
      signedMembers policy members := by
  rw [filter_eq_changeMembers fun key => !decide (key = utf8 "event_id"), hashedMembers,
    signedMembers, cloneWithoutFields_eq, cloneWithoutFields_eq]
  simp only [changeMembers_changeMembers]
  refine changeMembers_eq_iff.mpr fun ⟨key, _⟩ _ => ⟨?_, fun _ => rfl⟩
  rw [Bool.and_assoc]
  refine congrArg (survives policy _ key && ·) ?_
  have hfields : attachedFields.contains key =
      (decide (key = utf8 "event_id") || [utf8 "signatures", utf8 "unsigned"].contains key) := by
    simp only [attachedFields, List.contains_cons, List.contains_nil, Bool.or_false, beq_eq_decide]
    ac_rfl
  rw [hfields, Bool.not_or, Bool.and_comm]

theorem hashedMembers_eventId (members : Object) :
    ((hashedMembers policy members).filter fun member => member.1 = utf8 "event_id") =
      eventIdMembers members := by
  rw [filter_eq_changeMembers fun key => decide (key = utf8 "event_id"), hashedMembers,
    eventIdMembers, filter_eq_changeMembers fun key => decide (key = utf8 "event_id"),
    cloneWithoutFields_eq]
  simp only [changeMembers_changeMembers]
  refine changeMembers_eq_iff.mpr fun ⟨key, value⟩ _ => ⟨?_, fun hkey => ?_⟩ <;> dsimp only at *
  · rcases eq_or_ne key (utf8 "event_id") with rfl | hne
    · rw [survives_of_base policy _ (by decide) (by decide)]
      rfl
    · simp [hne]
  · rw [Bool.and_eq_true, decide_eq_true_eq] at hkey
    obtain ⟨-, rfl⟩ := hkey
    exact redactValue_of_ne policy _ (by decide) value

theorem hashedMembers_perm (members : Object) : (hashedMembers policy members).Perm
      (signedMembers policy members ++ eventIdMembers members) := by
  have hsplit := List.filter_append_perm
    (fun member => !decide (member.1 = utf8 "event_id")) (hashedMembers policy members)
  simp only [Bool.not_not] at hsplit
  rw [hashedMembers_without_eventId, hashedMembers_eventId] at hsplit
  exact hsplit.symm

theorem eventId_fresh :
    ∀ member ∈ signedMembers policy members, ∀ other ∈ eventIdMembers members',
      member.1 ≠ other.1 := by
  intro member hmember other hother heq
  have hkey : other.1 = utf8 "event_id" := by simpa using (List.mem_filter.mp hother).2
  have hsigned : member.1 ∉ attachedFields := by simpa using (List.mem_filter.mp hmember).2
  rw [heq, hkey] at hsigned
  exact hsigned (by decide)

def hashedEventId (sodium : Libsodium) (text : Option Bytes) : Bytes :=
  match text with
  | none => []
  | some text =>
    match sha256Base64 sodium text with
    | .error _ => []
    | .ok hash => utf8 "$" ++ base64UrlSafe hash

theorem makeReferenceHash_object (sodium : Libsodium) (members : Object) :
    makeReferenceHash sodium (.object members) policy =
      match serializeCanonicalStrict (.object (hashedMembers policy members)) with
      | .error error => .error (canonicalJsonErrorName error)
      | .ok output => (sha256Base64 sodium output).map base64UrlSafe := by
  rw [makeReferenceHash, redactEvent_object]
  rfl

theorem makeReferenceHashEventId_object (sodium : Libsodium) (members : Object) :
    makeReferenceHashEventId sodium (.object members) policy =
      hashedEventId sodium (canonicalForm (.object (hashedMembers policy members))) := by
  rw [makeReferenceHashEventId, makeReferenceHash_object, canonicalForm]
  rcases serializeCanonicalStrict (.object (hashedMembers policy members)) with error | output
  · rfl
  · dsimp only [Except.toOption, hashedEventId]
    rcases sha256Base64 sodium output with error | hash <;> rfl

def letters (character : UInt8) : Bytes :=
  [byte 'a' + (character >>> 4), byte 'a' + (character &&& 0x0F)]

def fromLetters : Bytes → Bytes
  | high :: low :: rest => (((high - byte 'a') <<< 4) ||| (low - byte 'a')) :: fromLetters rest
  | _ => []

/-- A library whose hashes are the texts themselves, spelled in letters. -/
def spellingLibrary : Libsodium where
  ready := true
  base642bin text := some (fromLetters text)
  bin2base64 text := text.flatMap letters
  hashSha256 := some
  signVerifyDetached _ _ _ := false

theorem letters_spec (character : UInt8) : base64UrlSafe (letters character) = letters character ∧
      fromLetters (letters character) = [character] := by
  revert character
  apply forall_byte
  decide +kernel

theorem fromLetters_spelled (text : Bytes) : fromLetters (text.flatMap letters) = text := by
  induction text with
  | nil => rfl
  | cons character text ih =>
    exact congrArg₂ (· :: ·) (List.cons.inj (letters_spec character).2).1 ih

theorem base64UrlSafe_spelled (text : Bytes) :
    base64UrlSafe (text.flatMap letters) = text.flatMap letters := by
  induction text with
  | nil => rfl
  | cons character text ih =>
    rw [List.flatMap_cons, base64UrlSafe, List.map_append, ← base64UrlSafe, ← base64UrlSafe, ih,
      (letters_spec character).1]

theorem hashedEventId_spelled_injective {text text' : Option Bytes}
    (h : hashedEventId spellingLibrary text = hashedEventId spellingLibrary text') :
    text = text' := by
  rcases text with - | text <;> rcases text' with - | text'
  · rfl
  · cases h
  · cases h
  · have hspelled : base64UrlSafe (text.flatMap letters) = base64UrlSafe (text'.flatMap letters) :=
      List.append_cancel_left h
    rw [base64UrlSafe_spelled, base64UrlSafe_spelled] at hspelled
    rw [← fromLetters_spelled text, hspelled, fromLetters_spelled]

variable (members members') in
theorem eventIds_agree_iff :
    (∀ sodium, makeReferenceHashEventId sodium (.object members) policy =
        makeReferenceHashEventId sodium (.object members') policy) ↔
      canonicalForm (.object (hashedMembers policy members)) =
        canonicalForm (.object (hashedMembers policy members')) := by
  constructor
  · intro h
    have hspelled := h spellingLibrary
    rw [makeReferenceHashEventId_object, makeReferenceHashEventId_object] at hspelled
    exact hashedEventId_spelled_injective hspelled
  · intro h sodium
    rw [makeReferenceHashEventId_object, makeReferenceHashEventId_object, h]

/-- The ids that two texts are stored under, where both are accepted. -/
def StoredUnderOneId (policy : RoomVersionPolicy) (members members' : Object) : Prop :=
  ∀ yyjson sodium pduJson pduJson' roomVersion envelope envelope',
    findRoomVersionPolicy (if roomVersion.isEmpty then utf8 "12" else roomVersion) = some policy →
    parseLossless yyjson pduJson = .ok (.object members) →
    parseLossless yyjson pduJson' = .ok (.object members') →
    parseInboundPduEnvelope yyjson sodium pduJson roomVersion = some envelope →
    parseInboundPduEnvelope yyjson sodium pduJson' roomVersion = some envelope' →
    envelope.eventId = envelope'.eventId

theorem storedUnderOneId_of_agree
    (h : ∀ sodium, makeReferenceHashEventId sodium (.object members) policy =
      makeReferenceHashEventId sodium (.object members') policy) :
    StoredUnderOneId policy members members' := by
  intro yyjson sodium pduJson pduJson' roomVersion envelope envelope' hpolicy hparse hparse'
    henvelope henvelope'
  obtain ⟨root, event, policy₁, hroot, -, hpolicy₁, hid, -⟩ :=
    parseInboundPduEnvelope_some henvelope
  obtain ⟨root', event', policy₂, hroot', -, hpolicy₂, hid', -⟩ :=
    parseInboundPduEnvelope_some henvelope'
  rw [hparse, Except.ok.injEq, Value.object.injEq] at hroot
  rw [hparse', Except.ok.injEq, Value.object.injEq] at hroot'
  rw [hpolicy, Option.some.injEq] at hpolicy₁ hpolicy₂
  subst hroot hroot' hpolicy₁ hpolicy₂
  rw [hid, hid', h]

/-- Attaching members changes neither the signing payload nor the event id
exactly when it does not change `event_id`, unless what is left of the event has no
canonical form. -/
theorem attached_members_keep_identity_iff {members members' : Object}
    (hsame : cloneWithoutFields members attachedFields =
      cloneWithoutFields members' attachedFields) :
    (makeRoomEventSigningPayload (.object members) policy =
          makeRoomEventSigningPayload (.object members') policy ∧
        (∀ sodium, makeReferenceHashEventId sodium (.object members) policy =
          makeReferenceHashEventId sodium (.object members') policy) ∧
        StoredUnderOneId policy members members') ↔
      (canonicalForm (.object (signedMembers policy members)) = none ∨
        canonicalForm (.object (eventIdMembers members)) =
          canonicalForm (.object (eventIdMembers members'))) := by
  have hsigned := signedMembers_congr policy hsame
  have hpayload : makeRoomEventSigningPayload (.object members) policy =
      makeRoomEventSigningPayload (.object members') policy := by
    rw [makeRoomEventSigningPayload_object, makeRoomEventSigningPayload_object, hsigned]
  have hids := eventIds_agree_iff policy members members'
  rw [canonicalForm_object_perm (hashedMembers_perm policy members),
    canonicalForm_object_perm (hashedMembers_perm policy members'), ← hsigned,
    canonicalForm_append_eq_iff (eventId_fresh policy) (eventId_fresh policy)] at hids
  constructor
  · rintro ⟨-, hagree, -⟩
    exact hids.mp hagree
  · intro hcondition
    have hagree := hids.mpr hcondition
    exact ⟨hpayload, hagree, storedUnderOneId_of_agree policy hagree⟩

def greeting : Object :=
  [("auth_events", .array []), ("content", .object [("body", .string "hello")]),
    ("depth", .integer 3), ("origin_server_ts", .integer 1000), ("prev_events", .array []),
    ("room_id", .string "!club:a.example"), ("sender", .string "@bob:b.example"),
    ("type", .string "m.room.message")]

def agedGreeting : Object := ("unsigned", .object [("age", .integer 4)]) :: greeting

def greetingWithId : Object := ("event_id", .string "$greeting") :: greeting

theorem aged_greeting_keeps_identity :
    makeRoomEventSigningPayload (.object greeting) roomVersion11 =
        makeRoomEventSigningPayload (.object agedGreeting) roomVersion11 ∧
      (∀ sodium, makeReferenceHashEventId sodium (.object greeting) roomVersion11 =
        makeReferenceHashEventId sodium (.object agedGreeting) roomVersion11) ∧
      StoredUnderOneId roomVersion11 greeting agedGreeting := by
  have hsame : cloneWithoutFields greeting attachedFields =
      cloneWithoutFields agedGreeting attachedFields := rfl
  exact (attached_members_keep_identity_iff roomVersion11 hsame).mpr (.inr rfl)

theorem greeting_with_id_is_another_event : cloneWithoutFields greeting attachedFields =
        cloneWithoutFields greetingWithId attachedFields ∧
      makeRoomEventSigningPayload (.object greeting) roomVersion11 =
        makeRoomEventSigningPayload (.object greetingWithId) roomVersion11 ∧
      ((parseInboundPduEnvelope grammarReader spellingLibrary (canonicalText (.object greeting))
          "11").bind fun envelope =>
        (parseInboundPduEnvelope grammarReader spellingLibrary
          (canonicalText (.object greetingWithId)) "11").map fun envelope' =>
            decide (envelope.eventId = envelope'.eventId)) = some false :=
  ⟨rfl, by decide +kernel⟩

end AttachedMembers

end Merovingian.EventRedaction
