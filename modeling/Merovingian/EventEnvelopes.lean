import Merovingian.PduIngestion

/-!
What is read off the JSON of a federated event: its envelope, its redacted
form, the id that is the hash of that form, and the signature over it. The
envelope that is handed on for ingestion is parsed a second time, from the same
bytes.
-/

namespace Merovingian.EventEnvelopes

open ByteString JsonValue CanonicalSerializer CanonicalParser EventSigning RoomVersions PduIngestion

def containsNoControlOrSpace (value : Bytes) : Bool :=
  value.all fun character => !(character ≤ 0x20 || character = 0x7F)

/-- A room id needs no server part, since room version 12 derives it from a
hash. -/
def matrixIdIsValid (id : Bytes) (sigil : UInt8) : Bool :=
  3 ≤ id.length && id.head? = some sigil && (sigil = byte '!' || id.contains (byte ':')) &&
    containsNoControlOrSpace id

def eventTypeIsValid (type : Bytes) : Bool :=
  !type.isEmpty && type.length ≤ 255 && containsNoControlOrSpace type

def maxSignaturesPerServer : Nat := 100

def maxServersWithSignatures : Nat := 50

def maxSignaturesPerEvent : Nat := 5000

structure EventEnvelope where
  json : Value
  roomId : Bytes := []
  eventType : Bytes
  sender : Bytes
  originServerTs : Int64
  stateKey : Bytes := []
  signatures : List EventSignature

def parseServerSignatures (serverName : Bytes) (parsed : List EventSignature) :
    Object → Option (List EventSignature)
  | [] => some parsed
  | (keyId, value) :: rest =>
    match valueIsString value with
    | none => parseServerSignatures serverName parsed rest
    | some signature =>
      let parsed := parsed ++ [⟨serverName, keyId, signature⟩]
      if maxSignaturesPerEvent < parsed.length then none
      else parseServerSignatures serverName parsed rest

def parseSignatureServers (parsed : List EventSignature) : Object → Option (List EventSignature)
  | [] => some parsed
  | (serverName, value) :: rest =>
    match valueIsObject value with
    | none => parseSignatureServers parsed rest
    | some signatures =>
      if maxSignaturesPerServer < signatures.length then none
      else
        match parseServerSignatures serverName parsed signatures with
        | none => none
        | some parsed => parseSignatureServers parsed rest

def parseEventSignatures (object : Object) : Option (List EventSignature) :=
  match objectMemberAsObject object "signatures" with
  | none => some []
  | some signatures =>
    if maxServersWithSignatures < signatures.length then none
    else parseSignatureServers [] signatures

def envelopeError (type sender : Bytes) (originServerTs : Int64) (roomId : Option Bytes) :
    Option Bytes :=
  if type ≠ "m.room.create" && roomId.isNone then some "event missing required fields"
  else if roomId.any fun roomId => !matrixIdIsValid roomId (byte '!') then
    some "invalid room_id"
  else if !matrixIdIsValid sender (byte '@') then some "invalid sender"
  else if !eventTypeIsValid type then some "invalid event type"
  else if originServerTs < 0 then some "invalid origin_server_ts"
  else none

/-- A `state_key` that is not a string is read as an absent one. -/
def parseEventEnvelope (json : Value) : Except Bytes EventEnvelope :=
  match valueIsObject json with
  | none => .error "event must be an object"
  | some object =>
    match stringMember object "type", stringMember object "sender",
        integerMember object "origin_server_ts" with
    | some type, some sender, some originServerTs =>
      match envelopeError type sender originServerTs (stringMember object "room_id") with
      | some error => .error error
      | none =>
        match parseEventSignatures object with
        | none => .error "event signatures exceed resource limits"
        | some signatures =>
          .ok {
            json := json
            roomId := (stringMember object "room_id").getD []
            eventType := type
            sender := sender
            originServerTs := originServerTs
            stateKey := (stringMember object "state_key").getD []
            signatures := signatures }
    | _, _, _ => .error "event missing required fields"

def baseKeyIsAllowed (key : Bytes) : Bool :=
  key ∈ ([utf8 "event_id", utf8 "type", utf8 "room_id", utf8 "sender", utf8 "state_key",
    utf8 "content", utf8 "hashes", utf8 "signatures", utf8 "depth", utf8 "prev_events",
    utf8 "auth_events", utf8 "origin_server_ts"] : List Bytes)

def keyIsAllowed (key : Bytes) (policy : RoomVersionPolicy) : Bool :=
  baseKeyIsAllowed key || (policy.redactionRules ≠ .roomV11Plus &&
      key ∈ ([utf8 "origin", utf8 "prev_state", utf8 "membership"] : List Bytes))

def contentKeyAllowed (eventType key : Bytes) (policy : RoomVersionPolicy) : Bool :=
  let v11Plus := policy.redactionRules = .roomV11Plus
  if eventType = "m.room.member" then
    key = "membership" || key = "join_authorised_via_users_server" ||
      (v11Plus && key = "third_party_invite")
  else if eventType = "m.room.create" then v11Plus || key = "creator"
  else if eventType = "m.room.join_rules" then
    key = "join_rule" || (policy.redactionRules ≠ .roomV1V7 && key = "allow")
  else if eventType = "m.room.power_levels" then
    key ∈ ([utf8 "ban", utf8 "events", utf8 "events_default", utf8 "kick", utf8 "redact",
      utf8 "state_default", utf8 "users", utf8 "users_default"] : List Bytes) ||
      (v11Plus && key = "invite")
  else if eventType = "m.room.history_visibility" then key = "history_visibility"
  else if eventType = "m.room.aliases" then !v11Plus && key = "aliases"
  else if eventType = "m.room.third_party_invite" then key = "signed"
  else if eventType = "m.room.redaction" then v11Plus && key = "redacts"
  else false

def redactThirdPartyInvite (value : Value) : Value :=
  .object (((valueIsObject value).bind fun object => objectMember object "signed").toList.map
    fun signed => (utf8 "signed", signed))

def redactContent (content : Value) (eventType : Bytes) (policy : RoomVersionPolicy) : Value :=
  .object ((((valueIsObject content).getD []).filter fun member =>
      contentKeyAllowed eventType member.1 policy).map fun member =>
    if member.1 = utf8 "third_party_invite" then (member.1, redactThirdPartyInvite member.2)
    else member)

/-- The redacted event, or nothing for JSON that is not an object. From room
version 12 a create event has no room id. -/
def redactEvent (event : Value) (policy : RoomVersionPolicy) : Option Object :=
  (valueIsObject event).map fun object =>
    let eventType := stringMember object "type"
    (object.filter fun member =>
      !(member.1 = utf8 "room_id" && policy.createEventIsRoomId &&
        eventType = some (utf8 "m.room.create")) && keyIsAllowed member.1 policy).map
      fun member =>
        match eventType with
        | some eventType =>
          if member.1 = utf8 "content" then (member.1, redactContent member.2 eventType policy)
          else member
        | none => member

def base64UrlSafe (text : Bytes) : Bytes :=
  text.map fun character =>
    if character = byte '+' then byte '-'
    else if character = byte '/' then byte '_'
    else character

structure SigningKeyId where
  serverName : Bytes
  keyId : Bytes
deriving DecidableEq

section

variable (sodium : Libsodium) (event : Value) (policy : RoomVersionPolicy) (keyId : SigningKeyId)

def makeReferenceHash : Except Bytes Bytes :=
  match redactEvent event policy with
  | none => .error "event must be an object"
  | some redacted =>
    match serializeObjectWithout (.object redacted) ["signatures", "unsigned"] with
    | .error error => .error (canonicalJsonErrorName error)
    | .ok output => (sha256Base64 sodium output).map base64UrlSafe

/-- The event id, which is empty where there is no hash. -/
def makeReferenceHashEventId : Bytes :=
  match makeReferenceHash sodium event policy with
  | .error _ => []
  | .ok hash => utf8 "$" ++ hash

/-- The bytes that are signed in a room: those of the redacted event, without
its id. -/
def makeRoomEventSigningPayload : SerializeResult :=
  match redactEvent event policy with
  | none => .error .invalidString
  | some redacted =>
    match policy.eventIdFormat with
    | .referenceHash =>
      serializeCanonicalStrict
        (.object (cloneWithoutFields redacted ["unsigned", "signatures", "event_id"]))

def ed25519KeyIdIsValid (keyId : Bytes) : Bool :=
  (utf8 "ed25519:").length < keyId.length && keyId.length ≤ 255 &&
    (utf8 "ed25519:").isPrefixOf keyId &&
    (keyId.drop (utf8 "ed25519:").length).all fun character =>
      0x20 < character && character < 0x7F

def signingKeyIdIsValid : Bool :=
  !keyId.serverName.isEmpty && containsNoControlOrSpace keyId.serverName &&
    ed25519KeyIdIsValid keyId.keyId

def signatureIsValidShape (signature : Bytes) : Bool :=
  !signature.isEmpty && signature.length ≤ 4096 && containsNoControlOrSpace signature &&
    ed25519SignatureShapeIsValid (matrixBytesFromBase64 sodium signature)

/-- The signature that an event carries under the key id, if it is well formed. -/
def verifyEventSignaturePresence : Except Bytes Bytes :=
  if !signingKeyIdIsValid keyId then .error "invalid signing key id"
  else
    match valueIsObject event with
    | none => .error "event must be an object"
    | some object =>
      match objectMember object "signatures" with
      | none => .error "missing signatures"
      | some signaturesValue =>
        match valueIsObject signaturesValue with
        | none => .error "signatures must be an object"
        | some signatures =>
          match objectMember signatures keyId.serverName with
          | none => .error "missing server signature"
          | some serverValue =>
            match valueIsObject serverValue with
            | none => .error "server signatures must be an object"
            | some serverSignatures =>
              match objectMember serverSignatures keyId.keyId with
              | none => .error "missing key signature"
              | some signatureValue =>
                match valueIsString signatureValue with
                | none => .error "invalid signature"
                | some signature =>
                  if signatureIsValidShape sodium signature then .ok signature
                  else .error "invalid signature"

/-- Verifies the signature under the key id over the event's signing payload,
with the verification of a provider. -/
def verifyEventSignatureWith (verify : (publicKey message signature : Bytes) → Except Bytes Unit)
    (sodium : Libsodium) (event : Value) (policy : RoomVersionPolicy) (keyId : SigningKeyId)
    (publicKey : Bytes) : Except Bytes Unit :=
  match verifyEventSignaturePresence sodium event keyId with
  | .error reason => .error reason
  | .ok signature =>
    match makeRoomEventSigningPayload event policy with
    | .error error => .error (canonicalJsonErrorName error)
    | .ok payload => verify publicKey payload (matrixBytesFromBase64 sodium signature)

def verifyEventSignature (publicKey : Bytes) : Except Bytes Unit :=
  verifyEventSignatureWith (ed25519VerifyResult sodium) sodium event policy keyId publicKey

end

def extractStringArray (value : Value) : List Bytes :=
  ((valueIsArray value).getD []).filterMap valueIsString

/-- The depth of an event, which is 0 where it is not a natural number. -/
def envelopeDepth (root : Object) : UInt64 :=
  ((integerMember root "depth").filter fun depth => 0 ≤ depth).elim 0 Int64.toUInt64

/-- In room version 12 the create event is not among the auth events. -/
def namesCreateEvent (envelope : InboundPduEnvelope) : Bool :=
  envelope.eventType ≠ "m.room.create" && !envelope.roomId.isEmpty &&
    !envelope.roomId.contains (byte ':') &&
    envelope.authEventIds.contains (byte '$' :: envelope.roomId.drop 1)

def parseInboundPduEnvelope (yyjson : Yyjson) (sodium : Libsodium)
    (pduJson roomVersion : Bytes) : Option InboundPduEnvelope :=
  if pduJson.head? ≠ some (byte '\x7b') then none
  else
    match parseLossless yyjson pduJson with
    | .error _ => none
    | .ok value =>
      match valueIsObject value, parseEventEnvelope value,
          findRoomVersionPolicy (if roomVersion.isEmpty then utf8 "12" else roomVersion) with
      | some root, .ok event, some policy =>
        let eventId := makeReferenceHashEventId sodium value policy
        if eventId.isEmpty then none
        else
          let envelope : InboundPduEnvelope := {
            eventId := eventId
            roomId :=
              if event.roomId.isEmpty && event.eventType = "m.room.create" then
                byte '!' :: eventId.drop 1
              else event.roomId
            roomVersion := if roomVersion.isEmpty then utf8 "12" else roomVersion
            sender := event.sender
            eventType := event.eventType
            stateKey := (objectMember root "state_key").map fun _ => event.stateKey
            depth := envelopeDepth root
            prevEventIds := (objectMember root "prev_events").elim [] extractStringArray
            authEventIds := (objectMember root "auth_events").elim [] extractStringArray
            signatures := event.signatures
            json := pduJson }
          if namesCreateEvent envelope then none else some envelope
      | _, _, _ => none

def eventSignature (root : Object) (keyId : SigningKeyId) : Option Bytes :=
  (objectMemberAsObject root "signatures").bind fun signatures =>
    (objectMemberAsObject signatures keyId.serverName).bind fun serverSignatures =>
      stringMember serverSignatures keyId.keyId

theorem verifyEventSignaturePresence_ok {sodium : Libsodium} {event : Value} {keyId : SigningKeyId}
    {signature : Bytes} (h : verifyEventSignaturePresence sodium event keyId = .ok signature) :
    ∃ root, event = .object root ∧ eventSignature root keyId = some signature := by
  revert h
  fun_cases verifyEventSignaturePresence sodium event keyId <;> intro h <;>
    simp only [reduceCtorEq, Except.ok.injEq] at h
  next root hroot value hsignatures signatures hobject serverValue hserver serverSignatures
      hserverObject signatureValue hkey _ htext _ =>
    refine ⟨root, valueIsObject_eq_some_iff.mp hroot, ?_⟩
    subst h
    simp [eventSignature, objectMemberAsObject, stringMember, hsignatures, hobject, hserver,
      hserverObject, hkey, htext]

theorem verifyEventSignature_ok {sodium : Libsodium} {event : Value} {policy : RoomVersionPolicy}
    {keyId : SigningKeyId} {publicKey : Bytes}
    (h : verifyEventSignature sodium event policy keyId publicKey = .ok ()) :
    ∃ root signature payload, event = .object root ∧ eventSignature root keyId = some signature ∧
      makeRoomEventSigningPayload event policy = .ok payload ∧
      ed25519Verify sodium publicKey payload (matrixBytesFromBase64 sodium signature) = true := by
  rw [verifyEventSignature] at h
  revert h
  fun_cases verifyEventSignatureWith (ed25519VerifyResult sodium) sodium event policy keyId
    publicKey <;> intro h
  case case3 signature hpresence payload hpayload =>
    obtain ⟨root, rfl, hsignature⟩ := verifyEventSignaturePresence_ok hpresence
    rw [ed25519VerifyResult] at h
    split_ifs at h with hverify
    exact ⟨root, signature, payload, rfl, hsignature, hpayload, hverify⟩
  all_goals cases h

theorem parseEventEnvelope_ok {json : Value} {event : EventEnvelope}
    (h : parseEventEnvelope json = .ok event) :
    ∃ root, json = .object root ∧ stringMember root "type" = some event.eventType ∧
      stringMember root "sender" = some event.sender ∧
      event.roomId = (stringMember root "room_id").getD [] ∧
      event.stateKey = (stringMember root "state_key").getD [] := by
  revert h
  fun_cases parseEventEnvelope json <;> intro h <;>
    simp only [reduceCtorEq, Except.ok.injEq] at h
  next root hroot type sender _ _ hsender htype _ _ _ =>
    subst h
    exact ⟨root, valueIsObject_eq_some_iff.mp hroot, htype, hsender, rfl, rfl⟩

theorem parseInboundPduEnvelope_some {yyjson : Yyjson} {sodium : Libsodium}
    {pduJson roomVersion : Bytes} {envelope : InboundPduEnvelope}
    (h : parseInboundPduEnvelope yyjson sodium pduJson roomVersion = some envelope) :
    ∃ root event policy, parseLossless yyjson pduJson = .ok (.object root) ∧
      parseEventEnvelope (.object root) = .ok event ∧
      findRoomVersionPolicy (if roomVersion.isEmpty then utf8 "12" else roomVersion) = some policy ∧
      envelope.eventId = makeReferenceHashEventId sodium (.object root) policy ∧
      (event.roomId ≠ [] → envelope.roomId = event.roomId) ∧
      envelope.roomVersion = (if roomVersion.isEmpty then utf8 "12" else roomVersion) ∧
      envelope.sender = event.sender ∧ envelope.eventType = event.eventType ∧
      envelope.stateKey = (objectMember root "state_key").map (fun _ => event.stateKey) ∧
      envelope.json = pduJson := by
  revert h
  fun_cases parseInboundPduEnvelope yyjson sodium pduJson roomVersion <;> intro h <;>
    simp only [reduceCtorEq, Option.some.injEq] at h
  next value hvalue root event policy hpolicy hevent hroot _ _ _ _ =>
    obtain rfl := valueIsObject_eq_some_iff.mp hroot
    subst h
    refine ⟨root, event, policy, hvalue, hevent, hpolicy, rfl, ?_, rfl, rfl, rfl, rfl, rfl⟩
    intro hroom
    exact if_neg (by simp [hroom])

def stateKeyIsText (root : Object) : Bool :=
  (objectMember root "state_key").all fun value => (valueIsString value).isSome

theorem stateKey_carried_iff (root : Object) :
    ((objectMember root "state_key").map fun _ => (stringMember root "state_key").getD []).map
        Value.string = objectMember root "state_key" ↔
      stateKeyIsText root = true := by
  rcases hmember : objectMember root "state_key" with - | value
  · simp [stateKeyIsText, hmember]
  · cases value <;> simp [stateKeyIsText, stringMember, hmember, valueIsString]

end Merovingian.EventEnvelopes
