import Merovingian.EventRedaction

/-!
Signing an event: the signature is written into a copy of the event, and the
copy is serialized. Parsing it again gives the event with the one signature
added. What the event is signed, hashed and identified by does not depend on
its signatures, nor on the order of its members.
-/

namespace Merovingian.EventAttachment

open ByteString DecimalText JsonText JsonValue CanonicalSerializer CanonicalParser CanonicalForm
  CanonicalRoundTrip EventSigning RoomVersions EventEnvelopes EventRedaction List

section Signing

def matrixBase64FromBytes (sodium : Libsodium) (bytes : Bytes) : Bytes :=
  if bytes.isEmpty || !sodium.ready then [] else sodium.bin2base64 bytes

def cloneSignatureObject (value : Option Value) : Object :=
  (value.bind valueIsObject).getD []

def upsertMember (key : Bytes) (update : Option Value → Value) : Object → Object
  | [] => [(key, update none)]
  | member :: rest =>
    if member.1 = key then (key, update (some member.2)) :: rest
    else member :: upsertMember key update rest

def upsertServerSignature (serverSignatures : Object) (keyId : SigningKeyId)
    (signature : Bytes) : Object :=
  upsertMember keyId.keyId (fun _ => .string signature) serverSignatures

def upsertSignature (signatures : Object) (keyId : SigningKeyId) (signature : Bytes) : Object :=
  upsertMember keyId.serverName
    (fun serverValue =>
      .object (upsertServerSignature (cloneSignatureObject serverValue) keyId signature))
    signatures

def signaturesOf (object : Object) : Object :=
  cloneSignatureObject (objectMember object "signatures")

def signedObject (object : Object) (keyId : SigningKeyId) (signature : Bytes) : Object :=
  cloneWithoutFields object ["signatures"] ++
    [(utf8 "signatures", .object (upsertSignature (signaturesOf object) keyId signature))]

def attachEventSignature (sodium : Libsodium) (event : Value) (keyId : SigningKeyId)
    (signature : Bytes) : SerializeResult :=
  if !signingKeyIdIsValid keyId || !signatureIsValidShape sodium signature then
    .error .invalidString
  else
    match valueIsObject event with
    | none => .error .invalidString
    | some object => serializeCanonicalStrict (.object (signedObject object keyId signature))

structure SigningKeyRecord where
  serverName : Bytes
  keyId : Bytes
  publicKey : Bytes
  active : Bool

def signingKeyRecordIsUsable (key : SigningKeyRecord) : Bool :=
  key.active && !key.serverName.isEmpty && ed25519KeyIdIsValid key.keyId &&
    ed25519PublicKeyShapeIsValid key.publicKey

structure Ed25519Provider where
  sign : (keyId message : Bytes) → Except Bytes Bytes
  verify : (publicKey message signature : Bytes) → Except Bytes Unit

structure ServerSignature where
  serverName : Bytes
  keyId : Bytes
  signature : Bytes

def signWithKeys (provider : Ed25519Provider) (serverName message lastError : Bytes) :
    List SigningKeyRecord → Except Bytes ServerSignature
  | [] => .error (if lastError.isEmpty then utf8 "no usable active signing key" else lastError)
  | key :: keys =>
    if !signingKeyRecordIsUsable key || key.serverName ≠ serverName then
      signWithKeys provider serverName message lastError keys
    else
      match provider.sign key.keyId message with
      | .error error => signWithKeys provider serverName message error keys
      | .ok signature =>
        if !ed25519SignatureShapeIsValid signature then
          signWithKeys provider serverName message
            "provider returned invalid Ed25519 signature shape" keys
        else .ok ⟨key.serverName, key.keyId, signature⟩

/-- The key store is given by its answers to a server's active keys. -/
def signForServer (activeKeysForServer : Bytes → List SigningKeyRecord)
    (provider : Ed25519Provider) (serverName message : Bytes) : Except Bytes ServerSignature :=
  if serverName.isEmpty then .error "server name is empty"
  else if (activeKeysForServer serverName).isEmpty then .error "no active signing key"
  else signWithKeys provider serverName message [] (activeKeysForServer serverName)

structure SignedEvent where
  signedJson : Bytes
  keyId : SigningKeyId
  signature : Bytes
deriving DecidableEq

def signEventForServer (sodium : Libsodium)
    (activeKeysForServer : Bytes → List SigningKeyRecord) (provider : Ed25519Provider)
    (event : Value) (policy : RoomVersionPolicy) (serverName : Bytes) :
    Except Bytes SignedEvent :=
  match makeRoomEventSigningPayload event policy with
  | .error error => .error (canonicalJsonErrorName error)
  | .ok payload =>
    match signForServer activeKeysForServer provider serverName payload with
    | .error error => .error error
    | .ok signature =>
      let encoded := matrixBase64FromBytes sodium signature.signature
      if encoded.isEmpty then .error "signature base64 encoding failed"
      else
        let keyId : SigningKeyId := ⟨signature.serverName, signature.keyId⟩
        match attachEventSignature sodium event keyId encoded with
        | .error error => .error (canonicalJsonErrorName error)
        | .ok signedJson => .ok ⟨signedJson, keyId, encoded⟩

end Signing

variable {members : Object}

section Lookup

variable {depth : Nat} {value : Value}

theorem objectMember_eq_some_iff_mem (hnodup : (members.map Prod.fst).Nodup)
    {key : Bytes} : objectMember members key = some value ↔ (key, value) ∈ members := by
  constructor
  · exact mem_of_objectMember
  · intro hmem
    induction members with
    | nil => cases hmem
    | cons member members ih =>
      obtain ⟨hfresh, hnodup⟩ := nodup_cons.mp hnodup
      rw [objectMember_cons]
      rcases mem_cons.mp hmem with rfl | hmem
      · exact if_pos rfl
      · rw [if_neg fun heq => hfresh (mem_map.mpr ⟨_, hmem, heq.symm⟩)]
        exact ih hnodup hmem

theorem objectMember_sortedMembers (members : Object) (key : Bytes) :
    objectMember (sortedMembers members) key = (objectMember members key).map sortedValue := by
  induction members with
  | nil => rfl
  | cons member members ih =>
    rw [sortedMembers, objectMember_cons, objectMember_cons, ih]
    split_ifs <;> rfl

theorem objectMember_sorted (hform : HasCanonicalForm (.object members))
    (key : Bytes) :
    objectMember (sortByKey (sortedMembers members)) key =
      (objectMember members key).map sortedValue := by
  have hnodup := (hasCanonicalForm_object_iff.mp hform).1
  have hkeys : ((sortedMembers members).map Prod.fst).Nodup := by
    rw [keys_sortedMembers]
    exact hnodup
  rw [← objectMember_sortedMembers]
  refine Option.ext fun value => ?_
  rw [objectMember_eq_some_iff_mem ((keys_sortByKey_perm members).nodup_iff.mpr hnodup),
    objectMember_eq_some_iff_mem hkeys, mem_sortByKey]

theorem valueIsString_sortedValue (value : Value) :
    valueIsString (sortedValue value) = valueIsString value := by
  cases value <;> rfl

theorem stringMember_sorted (hform : HasCanonicalForm (.object members))
    (key : Bytes) :
    stringMember (sortByKey (sortedMembers members)) key = stringMember members key := by
  rw [stringMember, stringMember, objectMember_sorted hform, Option.bind_map]
  exact congrArg _ (funext valueIsString_sortedValue)

theorem objectMember_upsertMember (key other : Bytes) (update : Option Value → Value)
    (members : Object) :
    objectMember (upsertMember key update members) other =
      if other = key then some (update (objectMember members key))
      else objectMember members other := by
  induction members with
  | nil => simp [upsertMember, objectMember_cons, eq_comm]
  | cons member members ih =>
    rw [upsertMember, objectMember_cons, objectMember_cons]
    split_ifs with hmember hother hother
    all_goals simp_all [objectMember_cons]

theorem objectMember_append (first second : Object) (key : Bytes) :
    objectMember (first ++ second) key = (objectMember first key).or (objectMember second key) := by
  induction first with
  | nil => rfl
  | cons member first ih =>
    rw [cons_append, objectMember_cons, objectMember_cons, ih]
    split_ifs <;> rfl

end Lookup

section Order

variable {keep : Bytes → Bool} {change : Bytes → Value → Value} {value : Value}

theorem sortedMembers_idempotent (members : Object) :
    sortedMembers (sortedMembers members) = sortedMembers members := by
  rw [sortedMembers_eq, sortedMembers_eq, map_map]
  exact map_congr_left fun member _ =>
    congrArg (Prod.mk member.1) (sortedValue_idempotent member.2)

theorem sortedMembers_changeMembers
    (h : ∀ member ∈ members, sortedValue (change member.1 member.2) =
      sortedValue (change member.1 (sortedValue member.2))) :
    sortedMembers (changeMembers keep change members) =
      changeMembers keep (fun key value => sortedValue (change key value))
        (sortedMembers members) := by
  induction members with
  | nil => rfl
  | cons member members ih =>
    obtain ⟨hmember, hmembers⟩ := forall_mem_cons.mp h
    rw [changeMembers_cons, sortedMembers, changeMembers_cons, ← ih hmembers]
    split_ifs
    · rw [sortedMembers, hmember]
    · rfl

/-- A change of values that the order of members does not show in. -/
structure OrderBlind (change : Bytes → Value → Value) : Prop where
  canonical : ∀ key {value}, HasCanonicalForm value → HasCanonicalForm (change key value)
  sorted : ∀ key {value}, HasCanonicalForm value →
    sortedValue (change key value) = sortedValue (change key (sortedValue value))

theorem orderBlind_keep : OrderBlind fun _ value => value where
  canonical _ _ h := h
  sorted _ value _ := (sortedValue_idempotent value).symm

section

variable (hblind : OrderBlind change) {members : Object}
  (hform : HasCanonicalForm (.object members))
include hblind hform

theorem OrderBlind.hasCanonicalForm :
    HasCanonicalForm (.object (changeMembers keep change members)) := by
  obtain ⟨hnodup, hmembers⟩ := hasCanonicalForm_object_iff.mp hform
  refine hasCanonicalForm_object_iff.mpr ⟨?_, ?_⟩
  · rw [changeMembers, map_map]
    exact (filter_sublist.map Prod.fst).nodup hnodup
  · refine forall_mem_map.mpr fun member hmember => ?_
    obtain ⟨hkey, hvalue⟩ := hmembers member (mem_filter.mp hmember).1
    exact ⟨hkey, hblind.canonical _ hvalue⟩

theorem OrderBlind.sortedValue_eq :
    sortedValue (.object (changeMembers keep change (sortByKey (sortedMembers members)))) =
      sortedValue (.object (changeMembers keep change members)) := by
  have hvalues := (hasCanonicalForm_object_iff.mp hform).2
  have hform' : HasCanonicalForm (.object (changeMembers keep change members)) :=
    hblind.hasCanonicalForm hform
  refine ((sortedValue_object_eq_iff (hasCanonicalForm_object_iff.mp hform').1).mpr ?_).symm
  rw [sortedMembers_changeMembers fun member hmember => hblind.sorted _ (hvalues member hmember).2,
    sortedMembers_changeMembers (forall_mem_sorted fun member _ => by
      rw [sortedValue_idempotent])]
  refine List.Perm.map _ (List.Perm.filter _ ?_)
  have hperm := sortedMembers_perm (sortByKey_perm (sortedMembers members))
  rw [sortedMembers_idempotent] at hperm
  exact hperm.symm

theorem OrderBlind.serialize_eq :
    serializeCanonicalStrict
        (.object (changeMembers keep change (sortByKey (sortedMembers members)))) =
      serializeCanonicalStrict (.object (changeMembers keep change members)) := by
  have hsorted : HasCanonicalForm (.object (sortByKey (sortedMembers members))) :=
    hasCanonicalForm_sortedValue hform
  rw [serializeCanonicalStrict_eq_ok_iff.mpr ⟨hblind.hasCanonicalForm hform, rfl⟩,
    serializeCanonicalStrict_eq_ok_iff.mpr ⟨hblind.hasCanonicalForm hsorted, rfl⟩,
    hblind.sortedValue_eq hform]

end

theorem hasCanonicalForm_of_objectMember {key : Bytes}
    (hform : HasCanonicalForm (.object members)) (h : objectMember members key = some value) :
    HasCanonicalForm value :=
  ((hasCanonicalForm_object_iff.mp hform).2 _ (mem_of_objectMember h)).2

theorem hasCanonicalForm_empty : HasCanonicalForm (.object []) :=
  .object nodup_nil (by simp) (by simp)

theorem redactThirdPartyInvite_canonical (hform : HasCanonicalForm value) :
    HasCanonicalForm (redactThirdPartyInvite value) := by
  rw [redactThirdPartyInvite]
  rcases hsigned : (valueIsObject value).bind fun object => objectMember object "signed" with
    - | signed
  · exact hasCanonicalForm_empty
  · obtain ⟨members, hmembers, hsigned⟩ := Option.bind_eq_some_iff.mp hsigned
    rw [valueIsObject_eq_some_iff.mp hmembers] at hform
    refine .object (nodup_singleton _) ?_ ?_
    · simp only [Option.toList_some, map_cons, map_nil, forall_mem_singleton]
      decide
    · simp only [Option.toList_some, map_cons, map_nil, forall_mem_singleton]
      exact hasCanonicalForm_of_objectMember hform hsigned

theorem valueIsObject_sortedValue (value : Value) : valueIsObject (sortedValue value) =
      (valueIsObject value).map fun members => sortByKey (sortedMembers members) := by
  cases value <;> rfl

theorem redactThirdPartyInvite_sorted (hform : HasCanonicalForm value) :
    sortedValue (redactThirdPartyInvite value) =
      sortedValue (redactThirdPartyInvite (sortedValue value)) := by
  rw [redactThirdPartyInvite, redactThirdPartyInvite, valueIsObject_sortedValue]
  rcases hobject : valueIsObject value with - | members
  · rfl
  · rw [valueIsObject_eq_some_iff.mp hobject] at hform
    rw [Option.bind_some, Option.map_some, Option.bind_some,
      objectMember_sorted hform]
    rcases objectMember members "signed" with - | signed
    · rfl
    · simp [sortedValue, sortedMembers, sortByKey, sortedValue_idempotent]

theorem orderBlind_redactContentValue : OrderBlind redactContentValue where
  canonical key value hform := by
    rw [redactContentValue]
    split_ifs
    · exact redactThirdPartyInvite_canonical hform
    · exact hform
  sorted key value hform := by
    rw [redactContentValue, redactContentValue]
    split_ifs
    · exact redactThirdPartyInvite_sorted hform
    · exact (sortedValue_idempotent value).symm

theorem hasCanonicalForm_content (hform : HasCanonicalForm value) :
    HasCanonicalForm (.object ((valueIsObject value).getD [])) := by
  rcases hobject : valueIsObject value with - | members
  · exact hasCanonicalForm_empty
  · exact valueIsObject_eq_some_iff.mp hobject ▸ hform

theorem orderBlind_redactValue (policy : RoomVersionPolicy) (eventType : Option Bytes) :
    OrderBlind (redactValue policy eventType) where
  canonical key value hform := by
    rcases eventType with - | eventType
    · exact hform
    · rw [redactValue, redactContent_eq]
      split_ifs
      · exact orderBlind_redactContentValue.hasCanonicalForm (hasCanonicalForm_content hform)
      · exact hform
  sorted key value hform := by
    rcases eventType with - | eventType
    · exact (sortedValue_idempotent value).symm
    · rw [redactValue, redactValue]
      split_ifs
      · rw [redactContent_eq, redactContent_eq, valueIsObject_sortedValue]
        rcases hobject : valueIsObject value with - | members
        · rfl
        · rw [valueIsObject_eq_some_iff.mp hobject] at hform
          exact (orderBlind_redactContentValue.sortedValue_eq hform).symm
      · exact (sortedValue_idempotent value).symm

end Order

section Attached

variable {object : Object} {keyId : SigningKeyId} {signature : Bytes}

def signedEvent (object : Object) (keyId : SigningKeyId) (signature : Bytes) : Object :=
  sortByKey (sortedMembers (signedObject object keyId signature))

theorem changeMembers_signedObject {keep : Bytes → Bool} (change : Bytes → Value → Value)
    (hkeep : keep "signatures" = false) :
    changeMembers keep change (signedObject object keyId signature) =
      changeMembers keep change object := by
  have hlast : changeMembers keep change
      [(utf8 "signatures", .object (upsertSignature (signaturesOf object) keyId signature))] =
        [] := by
    rw [changeMembers_cons, if_neg (by simp [hkeep])]
    rfl
  rw [signedObject, changeMembers, filter_append, map_append, ← changeMembers,
    ← changeMembers, hlast, append_nil, cloneWithoutFields_eq, changeMembers_changeMembers]
  refine changeMembers_eq_iff.mpr ?_
  rintro ⟨key, _⟩ -
  refine ⟨?_, fun _ => rfl⟩
  rcases eq_or_ne key (utf8 "signatures") with rfl | hne
  · simp [hkeep]
  · simp [hne]

theorem objectMember_signedObject (key : Bytes) :
    objectMember (signedObject object keyId signature) key = if key = utf8 "signatures" then
        some (.object (upsertSignature (signaturesOf object) keyId signature))
      else objectMember object key := by
  rw [signedObject, objectMember_append, cloneWithoutFields_eq, objectMember_changeMembers,
    objectMember_cons]
  split_ifs with h₁ h₂ h₃ <;> simp_all

variable (hform : HasCanonicalForm (.object (signedObject object keyId signature)))

include hform

theorem serialize_signedEvent {keep : Bytes → Bool} {change : Bytes → Value → Value}
    (hblind : OrderBlind change) (hkeep : keep "signatures" = false) :
    serializeCanonicalStrict
        (.object (changeMembers keep change (signedEvent object keyId signature))) =
      serializeCanonicalStrict (.object (changeMembers keep change object)) := by
  rw [signedEvent, hblind.serialize_eq hform, changeMembers_signedObject change hkeep]

theorem stringMember_signedEvent {key : Bytes} (hkey : key ≠ "signatures") :
    stringMember (signedEvent object keyId signature) key = stringMember object key := by
  rw [signedEvent, stringMember_sorted hform, stringMember,
    objectMember_signedObject, if_neg hkey]
  rfl

theorem makeRoomEventSigningPayload_signedEvent (policy : RoomVersionPolicy) :
    makeRoomEventSigningPayload (.object (signedEvent object keyId signature)) policy =
      makeRoomEventSigningPayload (.object object) policy := by
  rw [makeRoomEventSigningPayload_object, makeRoomEventSigningPayload_object, signedMembers,
    signedMembers, stringMember_signedEvent hform (by decide), cloneWithoutFields_eq,
    cloneWithoutFields_eq, changeMembers_changeMembers, changeMembers_changeMembers]
  exact serialize_signedEvent hform (orderBlind_redactValue policy _) (by simp [attachedFields])

end Attached

variable {sodium : Libsodium}

section Signatures

variable {object : Object} {keyId : SigningKeyId} {signature : Bytes}

def serverSignaturesOf (object : Object) (serverName : Bytes) : Object :=
  cloneSignatureObject (objectMember (signaturesOf object) serverName)

theorem objectMember_cloneSignatureObject (value : Option Value) (key : Bytes) :
    objectMember (cloneSignatureObject value) key =
      (value.bind valueIsObject).bind fun members => objectMember members key := by
  rw [cloneSignatureObject]
  rcases value.bind valueIsObject with - | members <;> rfl

theorem eventSignature_eq (root : Object) (keyId : SigningKeyId) : eventSignature root keyId =
      stringMember (serverSignaturesOf root keyId.serverName) keyId.keyId := by
  rw [eventSignature, stringMember, serverSignaturesOf, objectMember_cloneSignatureObject,
    signaturesOf, objectMember_cloneSignatureObject, objectMemberAsObject]
  rcases (objectMember root "signatures").bind valueIsObject with - | signatures
  · rfl
  · rw [Option.bind_some, Option.bind_some, objectMemberAsObject]
    rcases (objectMember signatures keyId.serverName).bind valueIsObject with - | server <;> rfl

theorem cloneSignatureObject_sorted (hform : HasCanonicalForm (.object members))
    (key : Bytes) : cloneSignatureObject (objectMember (sortByKey (sortedMembers members)) key) =
      sortByKey (sortedMembers (cloneSignatureObject (objectMember members key))) := by
  rw [objectMember_sorted hform]
  rcases objectMember members key with - | value
  · rfl
  · rw [Option.map_some, cloneSignatureObject, cloneSignatureObject, Option.bind_some,
      Option.bind_some, valueIsObject_sortedValue]
    rcases valueIsObject value with - | members <;> rfl

theorem hasCanonicalForm_cloneSignatureObject
    (hform : HasCanonicalForm (.object members)) (key : Bytes) :
    HasCanonicalForm (.object (cloneSignatureObject (objectMember members key))) := by
  rcases hvalue : objectMember members key with - | value
  · exact hasCanonicalForm_empty
  · exact hasCanonicalForm_content (hasCanonicalForm_of_objectMember hform hvalue)

theorem signaturesOf_signedObject : signaturesOf (signedObject object keyId signature) =
      upsertSignature (signaturesOf object) keyId signature := by
  rw [signaturesOf, objectMember_signedObject, if_pos rfl]
  rfl

theorem serverSignaturesOf_signedObject (serverName : Bytes) :
    serverSignaturesOf (signedObject object keyId signature) serverName =
      if serverName = keyId.serverName then
        upsertServerSignature (serverSignaturesOf object keyId.serverName) keyId signature
      else serverSignaturesOf object serverName := by
  rw [serverSignaturesOf, signaturesOf_signedObject, upsertSignature, objectMember_upsertMember]
  split_ifs <;> rfl

section Canonical

variable (hform : HasCanonicalForm (.object (signedObject object keyId signature)))

include hform

theorem objectMember_serverSignatures (serverName key : Bytes) :
    objectMember (serverSignaturesOf (signedEvent object keyId signature) serverName) key =
      (objectMember (serverSignaturesOf (signedObject object keyId signature) serverName)
        key).map sortedValue := by
  have hsignatures := hasCanonicalForm_cloneSignatureObject hform "signatures"
  rw [serverSignaturesOf, signaturesOf, signedEvent, cloneSignatureObject_sorted hform,
    cloneSignatureObject_sorted hsignatures, objectMember_sorted
      (hasCanonicalForm_cloneSignatureObject hsignatures serverName)]
  rfl

theorem eventSignature_signedEvent (other : SigningKeyId) :
    eventSignature (signedEvent object keyId signature) other =
      if other = keyId then some signature else eventSignature object other := by
  rw [eventSignature_eq, eventSignature_eq, stringMember, objectMember_serverSignatures hform,
    serverSignaturesOf_signedObject, Option.bind_map,
    show valueIsString ∘ sortedValue = valueIsString from funext valueIsString_sortedValue]
  obtain ⟨serverName, key⟩ := other
  obtain ⟨serverName', key'⟩ := keyId
  rcases eq_or_ne serverName serverName' with rfl | hserver
  · rw [if_pos rfl, upsertServerSignature, objectMember_upsertMember]
    rcases eq_or_ne key key' with rfl | hkey
    · rw [if_pos rfl, if_pos rfl]
      rfl
    · rw [if_neg hkey, if_neg fun heq => hkey (SigningKeyId.mk.inj heq).2]
      rfl
  · rw [if_neg hserver, if_neg fun heq => hserver (SigningKeyId.mk.inj heq).1]
    rfl

end Canonical

theorem verifyEventSignaturePresence_eq_ok_iff {root : Object} :
    verifyEventSignaturePresence sodium (.object root) keyId = .ok signature ↔
      signingKeyIdIsValid keyId = true ∧ eventSignature root keyId = some signature ∧
        signatureIsValidShape sodium signature = true := by
  generalize hevent : Value.object root = event
  fun_cases verifyEventSignaturePresence sodium event keyId <;> subst hevent <;>
    simp_all [eventSignature, objectMemberAsObject, stringMember]
  all_goals grind

end Signatures

section Fit

variable {depth : Nat}

def HasRoom (members : Object) (key : Bytes) : Prop :=
  key ∈ members.map Prod.fst ∨ members.length < maxObjectMembers

structure SignatureFits (object : Object) (keyId : SigningKeyId) : Prop where
  event : HasRoom object "signatures"
  signatures : HasRoom (signaturesOf object) keyId.serverName
  server : HasRoom (serverSignaturesOf object keyId.serverName) keyId.keyId

variable {key : Bytes} {update : Option Value → Value} {members : Object}

theorem length_upsertMember : (upsertMember key update members).length =
      if key ∈ members.map Prod.fst then members.length else members.length + 1 := by
  induction members with
  | nil => rfl
  | cons member members ih =>
    rw [upsertMember]
    rcases eq_or_ne member.1 key with rfl | hne
    · simp
    · simp only [if_neg hne, length_cons, ih, map_cons, mem_cons, hne.symm, false_or]
      split_ifs <;> rfl

theorem mem_upsertMember {member : Bytes × Value} (h : member ∈ upsertMember key update members) :
    member = (key, update (objectMember members key)) ∨ member ∈ members := by
  induction members with
  | nil => exact .inl (mem_singleton.mp h)
  | cons head members ih =>
    rw [upsertMember] at h
    rw [objectMember_cons]
    split_ifs at h ⊢ with hhead
    · rcases mem_cons.mp h with rfl | hmem
      · exact .inl rfl
      · exact .inr (mem_cons_of_mem _ hmem)
    · rcases mem_cons.mp h with rfl | hmem
      · exact .inr mem_cons_self
      · exact (ih hmem).imp_right (mem_cons_of_mem _)

theorem admissible_object_iff : Admissible depth (.object members) ↔ depth ≤ maxDepth ∧
      members.length ≤ maxObjectMembers ∧ (members.map Prod.fst).Nodup ∧
      ∀ member ∈ members, utf8IsValid member.1 = true ∧ Admissible (depth + 1) member.2 := by
  constructor
  · rintro (_ | _ | _ | _ | _ | ⟨hdepth, hwidth, hnodup, hkeys, hvalues⟩)
    exact ⟨hdepth, hwidth, hnodup, fun member hmem => ⟨hkeys member hmem, hvalues member hmem⟩⟩
  · rintro ⟨hdepth, hwidth, hnodup, hmembers⟩
    exact .object hdepth hwidth hnodup (fun member hmem => (hmembers member hmem).1)
      fun member hmem => (hmembers member hmem).2

theorem admissible_upsertMember (h : Admissible depth (.object members))
    (hroom : HasRoom members key)
    (hform : HasCanonicalForm (.object (upsertMember key update members)))
    (hvalue : Admissible (depth + 1) (update (objectMember members key))) :
    Admissible depth (.object (upsertMember key update members)) := by
  obtain ⟨hdepth, hwidth, -, hmembers⟩ := admissible_object_iff.mp h
  obtain ⟨hnodup, hkeys⟩ := hasCanonicalForm_object_iff.mp hform
  refine admissible_object_iff.mpr ⟨hdepth, ?_, hnodup, fun member hmember =>
    ⟨(hkeys member hmember).1, ?_⟩⟩
  · rw [length_upsertMember]
    split_ifs with hmem
    · exact hwidth
    · exact hroom.resolve_left hmem
  · rcases mem_upsertMember hmember with rfl | hmem
    · exact hvalue
    · exact (hmembers member hmem).2

theorem admissible_cloneSignatureObject (h : Admissible depth (.object members))
    (hdepth : depth < maxDepth) (key : Bytes) :
    Admissible (depth + 1) (.object (cloneSignatureObject (objectMember members key))) := by
  have hempty : Admissible (depth + 1) (.object []) :=
    .object hdepth (Nat.zero_le _) nodup_nil (by simp) (by simp)
  rw [cloneSignatureObject]
  rcases hvalue : objectMember members key with - | value
  · exact hempty
  · have hadmissible := ((admissible_object_iff.mp h).2.2.2 _ (mem_of_objectMember hvalue)).2
    rw [Option.bind_some]
    rcases hobject : valueIsObject value with - | members'
    · exact hempty
    · exact valueIsObject_eq_some_iff.mp hobject ▸ hadmissible

variable {object : Object} {keyId : SigningKeyId} {signature : Bytes}

theorem admissible_signedObject (h : Admissible 0 (.object object))
    (hform : HasCanonicalForm (.object (signedObject object keyId signature)))
    (hfits : SignatureFits object keyId) :
    Admissible 0 (.object (signedObject object keyId signature)) := by
  obtain ⟨-, hwidth, -, hmembers⟩ := admissible_object_iff.mp h
  have hsignatures := admissible_cloneSignatureObject h (by decide) "signatures"
  have hserver := admissible_cloneSignatureObject hsignatures (by decide) keyId.serverName
  have hform₁ := hasCanonicalForm_of_objectMember hform
    ((objectMember_signedObject "signatures").trans (if_pos rfl))
  have hform₂ := hasCanonicalForm_of_objectMember hform₁
    ((objectMember_upsertMember ..).trans (if_pos rfl))
  have hadded : Admissible 1 (.object (upsertSignature (signaturesOf object) keyId signature)) := by
    refine admissible_upsertMember hsignatures hfits.signatures hform₁
      (admissible_upsertMember hserver hfits.server hform₂ (.string (by decide) ?_))
    rcases hasCanonicalForm_of_objectMember hform₂
      ((objectMember_upsertMember ..).trans (if_pos rfl)) with _ | _ | _ | htext
    exact htext
  refine admissible_object_iff.mpr ⟨by decide, ?_, (hasCanonicalForm_object_iff.mp hform).1, ?_⟩
  · rw [signedObject, length_append, length_singleton]
    rcases hfits.event with hmem | hlt
    · obtain ⟨member, hmember, hkey⟩ := mem_map.mp hmem
      refine lt_of_lt_of_le (length_filter_lt_length_iff_exists.mpr ⟨member, hmember, ?_⟩) hwidth
      simp [hkey]
    · exact lt_of_le_of_lt (length_filter_le _ _) hlt
  · refine forall_mem_append.mpr ⟨fun member hmem => hmembers member (mem_filter.mp hmem).1, ?_⟩
    refine forall_mem_singleton.mpr ⟨?_, hadded⟩
    exact show utf8IsValid (utf8 "signatures") = true by decide

theorem attachEventSignature_ok {text : Bytes}
    (h : attachEventSignature sodium (.object object) keyId signature = .ok text) :
    signingKeyIdIsValid keyId = true ∧ signatureIsValidShape sodium signature = true ∧
      HasCanonicalForm (.object (signedObject object keyId signature)) ∧
      text = orderedText (.object (signedEvent object keyId signature)) := by
  rw [attachEventSignature] at h
  split_ifs at h with hshape
  obtain ⟨hkey, hsignature⟩ : signingKeyIdIsValid keyId = true ∧
      signatureIsValidShape sodium signature = true := by simpa using hshape
  obtain ⟨hform, rfl⟩ := serializeCanonicalStrict_eq_ok_iff.mp h
  exact ⟨hkey, hsignature, hform, rfl⟩

end Fit

section Provider

variable {provider : Ed25519Provider} {serverName message : Bytes}

theorem signWithKeys_ok {keys : List SigningKeyRecord} (lastError : Bytes)
    {result : ServerSignature}
    (h : signWithKeys provider serverName message lastError keys = .ok result) :
    ∃ key ∈ keys, signingKeyRecordIsUsable key = true ∧ result.serverName = key.serverName ∧
      result.keyId = key.keyId ∧ provider.sign key.keyId message = .ok result.signature := by
  induction keys generalizing lastError with
  | nil => cases h
  | cons key keys ih =>
    have hlater := fun lastError h => (ih lastError h).imp fun _ =>
      And.imp_left (mem_cons_of_mem key)
    rw [signWithKeys] at h
    split_ifs at h with hskip
    · exact hlater _ h
    · rcases hsign : provider.sign key.keyId message with error | signature <;> rw [hsign] at h
      · exact hlater _ h
      · dsimp only at h
        split_ifs at h
        · exact hlater _ h
        · cases h
          have husable : signingKeyRecordIsUsable key = true := by simp_all
          exact ⟨key, mem_cons_self, husable, rfl, rfl, hsign⟩

theorem signEventForServer_ok
    {activeKeysForServer : Bytes → List SigningKeyRecord} {event : Value}
    {policy : RoomVersionPolicy} {result : SignedEvent}
    (h : signEventForServer sodium activeKeysForServer provider event policy serverName =
      .ok result) :
    ∃ payload key signature, makeRoomEventSigningPayload event policy = .ok payload ∧
      key ∈ activeKeysForServer serverName ∧ signingKeyRecordIsUsable key = true ∧
      result.keyId = ⟨key.serverName, key.keyId⟩ ∧
      provider.sign key.keyId payload = .ok signature ∧
      result.signature = matrixBase64FromBytes sodium signature ∧ result.signature ≠ [] ∧
      attachEventSignature sodium event result.keyId result.signature = .ok result.signedJson := by
  revert h
  fun_cases signEventForServer sodium activeKeysForServer provider event policy serverName <;>
    intro h
  case case5 payload hpayload signature hsignature encoded hencoded keyId signedJson hattach =>
    cases h
    rw [signForServer] at hsignature
    split_ifs at hsignature
    obtain ⟨key, hmem, husable, hserver, hkey, hsign⟩ := signWithKeys_ok _ hsignature
    refine ⟨payload, key, signature.signature, hpayload, hmem, husable, ?_, hsign, rfl,
      by simpa using hencoded, hattach⟩
    exact congrArg₂ SigningKeyId.mk hserver hkey
  all_goals cases h

theorem matrixBytesFromBase64_encoded
    (hcodec : ∀ bytes, sodium.base642bin (sodium.bin2base64 bytes) = some bytes) {bytes : Bytes}
    (hencoded : matrixBase64FromBytes sodium bytes ≠ []) :
    matrixBytesFromBase64 sodium (matrixBase64FromBytes sodium bytes) = bytes := by
  have hready : ¬ (bytes.isEmpty || !sodium.ready) = true :=
    fun hempty => hencoded (if_pos hempty)
  have heq : matrixBase64FromBytes sodium bytes = sodium.bin2base64 bytes := if_neg hready
  rw [heq] at hencoded ⊢
  rw [matrixBytesFromBase64, if_neg (by simp_all), hcodec, Option.getD_some]

end Provider

/-- The event with the signature added, and nothing else of it changed but the
order of members. -/
structure Signs (sodium : Libsodium) (object signed : Object) (keyId : SigningKeyId)
    (signature : Bytes) : Prop where
  found : eventSignature signed keyId = some signature
  members : ∀ key ≠ utf8 "signatures",
    objectMember signed key = (objectMember object key).map sortedValue
  servers : ∀ serverName ≠ keyId.serverName, objectMember (signaturesOf signed) serverName =
    (objectMember (signaturesOf object) serverName).map sortedValue
  keys : ∀ key ≠ keyId.keyId, objectMember (serverSignaturesOf signed keyId.serverName) key =
    (objectMember (serverSignaturesOf object keyId.serverName) key).map sortedValue
  payload : ∀ policy, makeRoomEventSigningPayload (.object signed) policy =
    makeRoomEventSigningPayload (.object object) policy
  referenceHash : ∀ policy, makeReferenceHash sodium (.object signed) policy =
    makeReferenceHash sodium (.object object) policy
  contentHash : makeContentHash sodium (.object signed) = makeContentHash sodium (.object object)
  verified : ∀ verify policy other publicKey, other ≠ keyId →
    verifyEventSignatureWith verify sodium (.object object) policy other publicKey = .ok () →
    verifyEventSignatureWith verify sodium (.object signed) policy other publicKey = .ok ()

section Signed

variable {sodium : Libsodium} {object : Object} {keyId : SigningKeyId} {signature : Bytes}

theorem verifyEventSignatureWith_eq_ok_iff
    {verify : (publicKey message signature : Bytes) → Except Bytes Unit} {root : Object}
    {policy : RoomVersionPolicy} {publicKey : Bytes} :
    verifyEventSignatureWith verify sodium (.object root) policy keyId publicKey = .ok () ↔
      ∃ signature payload, signingKeyIdIsValid keyId = true ∧
        eventSignature root keyId = some signature ∧
        signatureIsValidShape sodium signature = true ∧
        makeRoomEventSigningPayload (.object root) policy = .ok payload ∧
        verify publicKey payload (matrixBytesFromBase64 sodium signature) = .ok () := by
  rw [verifyEventSignatureWith]
  rcases hpresence : verifyEventSignaturePresence sodium (.object root) keyId with error | found
  · constructor
    · intro h
      cases h
    rintro ⟨signature, payload, hkey, hfound, hshape, -⟩
    rw [verifyEventSignaturePresence_eq_ok_iff.mpr ⟨hkey, hfound, hshape⟩] at hpresence
    cases hpresence
  · obtain ⟨hkey, hfound, hshape⟩ := verifyEventSignaturePresence_eq_ok_iff.mp hpresence
    rcases hpayload : makeRoomEventSigningPayload (.object root) policy with error | payload
    · simp
    · simp [hkey, hfound, hshape]

theorem signs_signedEvent
    (hform : HasCanonicalForm (.object (signedObject object keyId signature))) :
    Signs sodium object (signedEvent object keyId signature) keyId signature where
  found := by rw [eventSignature_signedEvent hform, if_pos rfl]
  members key hkey := by
    rw [signedEvent, objectMember_sorted hform, objectMember_signedObject, if_neg hkey]
  servers serverName hserver := by
    rw [signaturesOf, signedEvent, cloneSignatureObject_sorted hform,
      objectMember_sorted (hasCanonicalForm_cloneSignatureObject hform _), ← signaturesOf,
      signaturesOf_signedObject, upsertSignature, objectMember_upsertMember, if_neg hserver]
  keys key hkey := by
    rw [objectMember_serverSignatures hform, serverSignaturesOf_signedObject, if_pos rfl,
      upsertServerSignature, objectMember_upsertMember, if_neg hkey]
  payload policy := makeRoomEventSigningPayload_signedEvent hform policy
  referenceHash policy := by
    rw [makeReferenceHash_object, makeReferenceHash_object, hashedMembers, hashedMembers,
      stringMember_signedEvent hform (by decide), cloneWithoutFields_eq, cloneWithoutFields_eq,
      changeMembers_changeMembers, changeMembers_changeMembers,
      serialize_signedEvent hform (orderBlind_redactValue policy _) (by simp)]
  contentHash := by
    rw [makeContentHash, makeContentHash, serializeObjectWithout, serializeObjectWithout,
      valueIsObject_object, valueIsObject_object]
    dsimp only
    rw [cloneWithoutFields_eq, cloneWithoutFields_eq,
      serialize_signedEvent hform orderBlind_keep (by simp)]
  verified verify policy other publicKey hother h := by
    obtain ⟨text, payload, hkey, hfound, hshape, hpayload, hverify⟩ :=
      verifyEventSignatureWith_eq_ok_iff.mp h
    refine verifyEventSignatureWith_eq_ok_iff.mpr
      ⟨text, payload, hkey, ?_, hshape, ?_, hverify⟩
    · rw [eventSignature_signedEvent hform, if_neg hother, hfound]
    · rw [makeRoomEventSigningPayload_signedEvent hform policy, hpayload]

variable {yyjson : Yyjson}

theorem attached_parses (hyyjson : ReadsJson yyjson) (hobject : Admissible 0 (.object object))
    {text : Bytes} (h : attachEventSignature sodium (.object object) keyId signature = .ok text)
    (hfits : SignatureFits object keyId) :
    parseLossless yyjson text = .ok (.object (signedEvent object keyId signature)) ∧
      Signs sodium object (signedEvent object keyId signature) keyId signature := by
  obtain ⟨-, -, hform, rfl⟩ := attachEventSignature_ok h
  exact ⟨parseLossless_orderedText hyyjson
    (admissible_signedObject hobject hform hfits).sortedValue,
    signs_signedEvent hform⟩

/-- What was attached is found in the event that the output parses to, and an
event that was signed for a server verifies, with the signatures it had. -/
theorem signed_event_verifies (hyyjson : ReadsJson yyjson) {input : Bytes}
    (hparse : parseLossless yyjson input = .ok (.object object)) :
    (∀ keyId signature text,
      attachEventSignature sodium (.object object) keyId signature = .ok text →
      SignatureFits object keyId →
      ∃ signed, parseLossless yyjson text = .ok (.object signed) ∧
        Signs sodium object signed keyId signature) ∧
    ∀ activeKeysForServer provider policy serverName result,
      (∀ bytes, sodium.base642bin (sodium.bin2base64 bytes) = some bytes) →
      (∀ key ∈ activeKeysForServer serverName, signingKeyRecordIsUsable key = true →
        ∀ message signature, provider.sign key.keyId message = .ok signature →
          provider.verify key.publicKey message signature = .ok ()) →
      signEventForServer sodium activeKeysForServer provider (.object object) policy serverName =
        .ok result →
      SignatureFits object result.keyId →
      ∃ signed key, parseLossless yyjson result.signedJson = .ok (.object signed) ∧
        Signs sodium object signed result.keyId result.signature ∧
        key ∈ activeKeysForServer serverName ∧ result.keyId = ⟨key.serverName, key.keyId⟩ ∧
        verifyEventSignatureWith provider.verify sodium (.object signed) policy result.keyId
          key.publicKey = .ok () := by
  have hobject := admissible_of_parseLossless hyyjson hparse
  constructor
  · intro keyId signature text hattach hfits
    exact ⟨_, attached_parses hyyjson hobject hattach hfits⟩
  · intro activeKeysForServer provider policy serverName result hcodec hprovider hsign hfits
    obtain ⟨payload, key, signature, hpayload, hmem, husable, hkeyId, hsigned, hencoded, hnonempty,
      hattach⟩ := signEventForServer_ok hsign
    obtain ⟨hparsed, hsigns⟩ := attached_parses hyyjson hobject hattach hfits
    obtain ⟨hvalid, hshape, -, -⟩ := attachEventSignature_ok hattach
    refine ⟨_, key, hparsed, hsigns, hmem, hkeyId, verifyEventSignatureWith_eq_ok_iff.mpr
      ⟨result.signature, payload, hvalid, hsigns.found, hshape, ?_, ?_⟩⟩
    · rw [hsigns.payload, hpayload]
    · rw [hencoded] at hnonempty ⊢
      rw [matrixBytesFromBase64_encoded hcodec hnonempty]
      exact hprovider key hmem husable payload signature hsigned

def bobRecord : SigningKeyRecord where
  serverName := "b.example"
  keyId := "ed25519:1"
  publicKey := base64Decode bobKey
  active := true

def greetingPayload : Bytes := canonicalText (.object (signedMembers roomVersion11 greeting))

def greetingSignature : Bytes :=
  "YwspGzXu+urhDqk79X28KY0nR+9kj0XU0UkcSghAfmGo2IfyjkFpPeSycjpr5SD88vD6l4mftqbsiBcrBfpTAg"

def greetingSodium : Libsodium := sodiumOf [] [⟨greetingPayload, greetingSignature, bobKey⟩]

/-- Ed25519 with Bob's key, on the payload of the greeting. -/
def bobProvider : Ed25519Provider where
  sign _ message :=
    if message = greetingPayload then .ok (base64Decode greetingSignature)
    else .error "signing failed"
  verify publicKey message signature :=
    if greetingSodium.signVerifyDetached signature message publicKey then .ok ()
    else .error "signature verification failed"

def signedGreeting : SignedEvent where
  signedJson := orderedText (.object (signedEvent greeting ⟨"b.example", "ed25519:1"⟩
    greetingSignature))
  keyId := ⟨"b.example", "ed25519:1"⟩
  signature := greetingSignature

set_option maxRecDepth 8000 in
theorem parseLossless_greeting :
    parseLossless grammarReader (canonicalText (.object greeting)) = .ok (.object greeting) :=
  rfl

theorem greeting_fits (keyId : SigningKeyId) : SignatureFits greeting keyId := by
  have hsignatures : signaturesOf greeting = [] := rfl
  refine ⟨.inr (by decide), .inr ?_, .inr ?_⟩
  · decide
  · rw [serverSignaturesOf, hsignatures, objectMember_nil]
    decide

theorem bobProvider_verifies {message signature : Bytes}
    (h : bobProvider.sign "ed25519:1" message = .ok signature) :
    bobProvider.verify bobRecord.publicKey message signature = .ok () := by
  unfold bobProvider at h
  dsimp only at h
  split_ifs at h with hmessage
  cases h
  subst hmessage
  decide +kernel

theorem signed_greeting_verifies :
    ∃ signed key, parseLossless grammarReader signedGreeting.signedJson = .ok (.object signed) ∧
      Signs greetingSodium greeting signed signedGreeting.keyId signedGreeting.signature ∧
      key ∈ [bobRecord] ∧ signedGreeting.keyId = ⟨key.serverName, key.keyId⟩ ∧
      verifyEventSignatureWith bobProvider.verify greetingSodium (.object signed)
        roomVersion11 signedGreeting.keyId key.publicKey = .ok () := by
  refine (signed_event_verifies readsJson_grammarReader parseLossless_greeting).2
    (fun _ => [bobRecord]) bobProvider roomVersion11 "b.example" signedGreeting
    (fun bytes => congrArg some (base64Decode_base64Encode bytes)) ?_ (by decide +kernel)
    (greeting_fits _)
  intro key hkey _ message signature hsign
  rw [mem_singleton.mp hkey] at hsign ⊢
  exact bobProvider_verifies hsign

end Signed

section Wide

def wideEvent : Object :=
  (List.range maxObjectMembers).map fun n => (decimalDigits n, .null)

theorem wideEvent_admissible : Admissible 0 (.object wideEvent) := by
  refine admissible_object_iff.mpr ⟨by decide, ?_, ?_, ?_⟩
  · rw [wideEvent, length_map, length_range]
  · rw [wideEvent, map_map]
    exact nodup_range.map (Function.LeftInverse.injective digitsValue_decimalDigits)
  · refine forall_mem_map.mpr fun n _ => ⟨utf8IsValid_ascii fun character hmem => ?_,
      .null (by decide)⟩
    have hdigit := all_eq_true.mp (all_isDigit_decimalDigits n) character hmem
    exact isNumberCharacter_ascii (by simp [isNumberCharacter, hdigit])

theorem wideEvent_unsigned : ∀ member ∈ wideEvent, member.1 ≠ utf8 "signatures" := by
  refine forall_mem_map.mpr fun n _ hkey => ?_
  have hall := all_isDigit_decimalDigits n
  rw [show decimalDigits n = utf8 "signatures" from hkey] at hall
  revert hall
  decide

theorem signedObject_wideEvent :
    signedObject wideEvent ⟨"b.example", "ed25519:1"⟩ greetingSignature =
      wideEvent ++ [(utf8 "signatures", .object [("b.example",
        .object [("ed25519:1", .string greetingSignature)])])] := by
  have hclone : cloneWithoutFields wideEvent ["signatures"] = wideEvent :=
    filter_eq_self.mpr fun member hmem => by simp [wideEvent_unsigned member hmem]
  have hnone : objectMember wideEvent "signatures" = none := by
    refine Option.eq_none_iff_forall_ne_some.mpr fun value hvalue => ?_
    exact wideEvent_unsigned _ (mem_of_objectMember hvalue) rfl
  rw [signedObject, hclone, signaturesOf, hnone]
  rfl

theorem signedObject_wideEvent_canonical :
    HasCanonicalForm (.object (signedObject wideEvent ⟨"b.example", "ed25519:1"⟩
      greetingSignature)) := by
  rw [signedObject_wideEvent]
  refine (hasCanonicalForm_append_iff ?_).mpr ⟨wideEvent_admissible.hasCanonicalForm, ?_⟩
  · intro member hmem other hother
    rw [mem_singleton.mp hother]
    exact wideEvent_unsigned member hmem
  · exact hasCanonicalForm_of_serializeValue
      (show serializeValue _ = .ok (canonicalText (.object [(utf8 "signatures",
        .object [("b.example", .object [("ed25519:1", .string greetingSignature)])])])) by
          decide +kernel)

theorem parseLossless_too_wide {yyjson : Yyjson} (hyyjson : ReadsJson yyjson)
    (hform : HasCanonicalForm (.object members)) (hwide : maxObjectMembers < members.length) :
    parseLossless yyjson (orderedText (.object members)) = .error .tooManyObjectMembers := by
  have hutf8 := utf8IsValid_orderedText hform
  have hread := (hyyjson _ _ hutf8).mpr ⟨_, readJson_orderedText hform, rfl⟩
  rw [parseLossless, inputIsBlank_orderedText hform, hutf8, hread]
  simp only [Bool.false_eq_true, if_false, Bool.not_true, ne_eq, not_true]
  rw [jsonOf, yyjsonNode, convertYyjsonValue.eq_def, if_neg (by decide)]
  dsimp only
  rw [yyjsonMemberNodes_eq, jsonMembers_eq, length_map, length_map, if_pos hwide]
  rfl

/-- An event that the parser accepts, and the text of the event with a signature,
which it does not. -/
theorem signed_wide_event_does_not_parse :
    parseLossless grammarReader (orderedText (.object wideEvent)) = .ok (.object wideEvent) ∧
      ∃ text, attachEventSignature greetingSodium (.object wideEvent) ⟨"b.example", "ed25519:1"⟩
          greetingSignature = .ok text ∧
        parseLossless grammarReader text = .error .tooManyObjectMembers := by
  have hform := signedObject_wideEvent_canonical
  refine ⟨parseLossless_orderedText readsJson_grammarReader wideEvent_admissible, _, ?_,
    parseLossless_too_wide readsJson_grammarReader (hasCanonicalForm_sortedValue hform) ?_⟩
  · rw [attachEventSignature, if_neg (by decide +kernel)]
    exact serializeCanonicalStrict_eq_ok_iff.mpr ⟨hform, rfl⟩
  · rw [(sortByKey_perm _).length_eq, sortedMembers_eq, length_map, signedObject_wideEvent,
      length_append, wideEvent, length_map, length_range]
    exact Nat.lt_succ_self _

end Wide

end Merovingian.EventAttachment
