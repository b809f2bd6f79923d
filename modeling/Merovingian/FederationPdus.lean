import Merovingian.FederationPolicy

/-!
Signed federation requests and what their bodies carry: the payload that a
request signature covers, the PDUs and EDUs of a transaction, and the checks
that a PDU passes before it is handed on.
-/

namespace Merovingian.FederationPdus

open ByteString JsonValue CanonicalSerializer CanonicalParser EventSigning RoomVersions
  EventEnvelopes FederationPolicy
open Identifiers (userIdServerName)

structure SignedFederationRequest where
  method : Bytes
  target : Bytes
  origin : Bytes
  destination : Bytes
  keyId : Bytes
  signature : Bytes
  nowTs : Nat := 0
  canonicalJsonVerified : Bool := false
  signatureVerified : Bool := false
  body : Bytes := []
  remoteAddr : Bytes := []

structure FederationResponse where
  status : Nat
  body : Bytes
  contentType : Bytes := []
deriving DecidableEq

structure FederationRejection where
  status : Nat
  reason : Bytes
deriving DecidableEq

def matrixError (errcode message : Bytes) : Bytes :=
  canonicalText (.object [(utf8 "errcode", .string errcode), (utf8 "error", .string message)])

section

variable (yyjson : Yyjson) (sodium : Libsodium) (request : SignedFederationRequest)

/-- The object that a request signature covers. A request without a body has no
`content`. -/
def federationRequestPayload : Option Bytes :=
  let fields : Object :=
    [(utf8 "destination", .string request.destination), (utf8 "method", .string request.method),
      (utf8 "origin", .string request.origin), (utf8 "uri", .string request.target)]
  if request.body.isEmpty then (serializeCanonicalStrict (.object fields)).toOption
  else
    (parseLossless yyjson request.body).toOption.bind fun content =>
      (serializeCanonicalStrict (.object ((utf8 "content", content) :: fields))).toOption

def keyHasExpired (key : FederationKeyRecord) (now : Nat) : Bool :=
  key.validUntilTs ≠ 0 && key.validUntilTs < now

def requestSignatureVerifies (publicKey : Bytes) : Bool :=
  (federationRequestPayload yyjson request).any fun payload =>
    ed25519Verify sodium publicKey payload (matrixBytesFromBase64 sodium request.signature)

def verifyFederationRequestSignature : Except Bytes Unit :=
  if !serverNameIsValid request.origin then .error "invalid request origin"
  else if request.keyId.isEmpty || request.signature.isEmpty then
    .error "missing request signature"
  else if !request.canonicalJsonVerified then
    .error "canonical JSON signature verification required"
  else .ok ()

def verifySignedFederationRequest (key : FederationKeyRecord) : Except FederationRejection Unit :=
  if request.origin ≠ key.serverName || request.keyId ≠ key.keyId then
    .error ⟨403, "request signing key does not match origin"⟩
  else if keyHasExpired key request.nowTs then .error ⟨403, "request signing key has expired"⟩
  else if !requestSignatureVerifies yyjson sodium request key.publicKeyBytes then
    .error ⟨403, "request signature verification failed"⟩
  else (verifyFederationRequestSignature request).mapError fun reason => ⟨403, reason⟩

structure FederationPdu where
  eventId : Bytes := []
  roomId : Bytes := []
  eventType : Bytes := []
  sender : Bytes := []
  signatures : List EventSignature := []
  json : Bytes := []
  roomVersion : Bytes := "12"

/-- The fields of a text between separators, of which a last one that is empty
is dropped. -/
def splitFields (separator : UInt8) (input : Bytes) : List Bytes :=
  let fields := input.splitOn separator
  if fields.getLast? = some [] then fields.dropLast else fields

/-- Reads a PDU, with empty fields where that fails. The version of a room is
asked for by its id. -/
def parseFederationPdu (versionResolver : Option (Bytes → Bytes)) (encoded : Bytes) :
    FederationPdu :=
  if encoded.head? = some (byte '\x7b') then
    match parseLossless yyjson encoded with
    | .error _ => {}
    | .ok value =>
      match parseEventEnvelope value with
      | .error _ => {}
      | .ok event =>
        let roomVersion :=
          (versionResolver.map fun resolve => resolve event.roomId).getD (utf8 "12")
        match findRoomVersionPolicy roomVersion with
        | none => {}
        | some policy =>
          ⟨makeReferenceHashEventId sodium value policy, event.roomId, event.eventType,
            event.sender, event.signatures, encoded, roomVersion⟩
  else
    match splitFields (byte ',') encoded with
    | [eventId, roomId, eventType, sender, serverName, keyId, signature] =>
      if signature.isEmpty then {}
      else ⟨eventId, roomId, eventType, sender, [⟨serverName, keyId, signature⟩], [], "12"⟩
    | _ => {}

def verifyFederationEventSignatures (signatures : List EventSignature) (expectedServer : Bytes) :
    Except Bytes Unit :=
  if !serverNameIsValid expectedServer then .error "invalid expected event signer"
  else if !signatures.any fun signature =>
      signature.serverName = expectedServer && !signature.keyId.isEmpty &&
        !signature.signature.isEmpty then
    .error "missing event signature for expected server"
  else .ok ()

def verifyPduSignature (pdu : FederationPdu) (key : FederationKeyRecord) : Except
    FederationRejection Unit :=
  match findRoomVersionPolicy (if pdu.roomVersion.isEmpty then "12" else pdu.roomVersion) with
  | none => .error ⟨500, "room version policy is unavailable"⟩
  | some policy =>
    if pdu.json.isEmpty then
      .error ⟨400, "comma-delimited PDUs require JSON for cryptographic verification"⟩
    else
      match parseLossless yyjson pdu.json with
      | .error _ => .error ⟨400, "PDU JSON is not canonical-parseable"⟩
      | .ok event =>
        (verifyEventSignature sodium event policy ⟨key.serverName, key.keyId⟩
          key.publicKeyBytes).mapError fun reason => ⟨403, reason⟩

def authorizeFederationPdu (pdu : FederationPdu) (key : Option FederationKeyRecord) (nowTs : Nat) :
    Except FederationRejection Unit :=
  if pdu.eventId.isEmpty || pdu.roomId.isEmpty || pdu.eventType.isEmpty || pdu.sender.isEmpty then
    .error ⟨400, "PDU is missing required fields"⟩
  else
    match verifyFederationEventSignatures pdu.signatures (userIdServerName pdu.sender), key with
    | .error reason, _ => .error ⟨403, reason⟩
    | .ok (), none => .error ⟨403, "sender domain signing key unavailable"⟩
    | .ok (), some key =>
      if key.serverName ≠ userIdServerName pdu.sender then
        .error ⟨403, "sender domain signing key unavailable"⟩
      else if nowTs ≠ 0 && keyHasExpired key nowTs then
        .error ⟨403, "sender domain signing key has expired"⟩
      else verifyPduSignature yyjson sodium pdu key

def signatureKeyId (signatures : List EventSignature) (serverName : Bytes) : Bytes :=
  ((signatures.find? fun signature => signature.serverName = serverName).map
    EventSignature.keyId).getD []

def contentHashVerifies (encoded : Bytes) : Bool :=
  (parseLossless yyjson encoded).toOption.any (verifyPduContentHash sodium)

end

structure ParsedTransactionBody where
  origin : Bytes
  pdus : List Bytes
  edus : List (Bytes × Bytes)

def parseEdu (value : Value) : Option (Bytes × Bytes) :=
  (valueIsObject value).bind fun edu =>
    match stringMember edu "edu_type", objectMember edu "content" with
    | some type, some content =>
      let text := canonicalText content
      if text.isEmpty then none else some (type, text)
    | _, _ => none

def parseTransactionBody (yyjson : Yyjson) (body : Bytes) : Except Bytes ParsedTransactionBody :=
  if body.isEmpty then .error "transaction body must be a JSON object"
  else
    match parseLossless yyjson body with
    | .error _ => .error "transaction body must be valid canonical JSON"
    | .ok value =>
      match valueIsObject value with
      | none => .error "transaction body must be a JSON object"
      | some root =>
        match nonEmptyStringMember root "origin", integerMember root "origin_server_ts",
            arrayMember root "pdus" with
        | none, _, _ => .error "transaction origin is required"
        | some _, none, _ => .error "transaction origin_server_ts is required"
        | some _, some _, none => .error "transaction pdus must be an array"
        | some origin, some _, some pdus =>
          match (objectMember root "edus").map valueIsArray with
          | some none => .error "transaction edus must be an array"
          | edus => .ok {
              origin := origin
              pdus := (pdus.map canonicalText).filter fun text => !text.isEmpty
              edus := (edus.join.getD []).filterMap parseEdu }

structure FederationTransaction where
  origin : Bytes
  transactionId : Bytes
  byteSize : Nat
  pdus : List Bytes
  edus : List Bytes

def validateFederationTransaction (config : RuntimeFederationConfig)
    (transaction : FederationTransaction) : Except Bytes Unit :=
  if !serverNameIsValid transaction.origin then .error "invalid transaction origin"
  else if transaction.transactionId.isEmpty then .error "transaction id is required"
  else if config.maxTransactionBytes < transaction.byteSize then
    .error "transaction exceeds configured byte limit"
  else if config.maxTransactionPdus < transaction.pdus.length then
    .error "transaction exceeds configured PDU count limit"
  else if config.maxTransactionEdus < transaction.edus.length then
    .error "transaction exceeds configured EDU count limit"
  else .ok ()

inductive EduType where
  | typing
  | receipt
  | presence
  | directToDevice
  | deviceListUpdate
  | unknown
deriving DecidableEq

def classifyEduType (eduType : Bytes) : EduType :=
  if eduType = "m.typing" then .typing
  else if eduType = "m.receipt" then .receipt
  else if eduType = "m.presence" then .presence
  else if eduType = "m.direct_to_device" then .directToDevice
  else if eduType = "m.device_list_update" then .deviceListUpdate
  else .unknown

def hasMembers (object : Object) (keys : List Bytes) : Bool :=
  keys.all fun key => (objectMember object key).isSome

section

variable (yyjson : Yyjson) (type : EduType) (contentJson : Bytes)

def eduContentIsValid : Bool :=
  !contentJson.isEmpty &&
    (((parseLossless yyjson contentJson).toOption.bind valueIsObject).any fun root =>
      match type with
      | .typing => hasMembers root [utf8 "room_id", utf8 "user_id", utf8 "typing"]
      | .receipt => !root.isEmpty
      | .presence => hasMembers root [utf8 "push"]
      | .directToDevice => hasMembers root [utf8 "sender", utf8 "type", utf8 "messages"]
      | .deviceListUpdate => hasMembers root [utf8 "user_id", utf8 "device_id", utf8 "stream_id"]
      | .unknown => false)

structure InboundEduEnvelope where
  type : EduType
  eduType : Bytes
  origin : Bytes
  contentJson : Bytes

def parseInboundEduEnvelope (eduType origin contentJson : Bytes) : Option InboundEduEnvelope :=
  let type := classifyEduType eduType
  if eduType.isEmpty || origin.isEmpty || type = .unknown ||
      !eduContentIsValid yyjson type contentJson then none
  else some ⟨type, eduType, origin, contentJson⟩

/-- The source reads the content with the lenient parser. It gets here only once
`eduContentIsValid` has parsed it strictly, and then both parsers agree. -/
def roomIdFromEduContent : Option Bytes :=
  if type ≠ .typing && type ≠ .receipt then none
  else ((parseLossless yyjson contentJson).toOption.bind valueIsObject).bind fun object =>
    nonEmptyStringMember object "room_id"

structure InviteRequest where
  origin : Bytes := []
  roomId : Bytes
  eventId : Bytes
  roomVersion : Bytes := []
  inviteEventJson : Bytes
  inviteRoomStateJson : List Bytes := []

/-- A body with a room version and an event is one of the second version of the
endpoint; any other body is the event itself. -/
def parseInviteBody (body roomId eventId : Bytes) : Option InviteRequest :=
  if body.head? ≠ some (byte '\x7b') then none
  else ((parseLossless yyjson body).toOption.bind valueIsObject).bind fun root =>
    match objectMember root "room_version", objectMember root "event" with
    | some version, some event =>
      match (valueIsString version).filter fun text => !text.isEmpty with
      | none => none
      | some roomVersion =>
        if (canonicalText event).isEmpty then none
        else some {
          roomId := roomId
          eventId := eventId
          roomVersion := roomVersion
          inviteEventJson := canonicalText event
          inviteRoomStateJson :=
            (((arrayMember root "invite_room_state").getD []).map canonicalText).filter
              fun text => !text.isEmpty }
    | _, _ => some { roomId := roomId, eventId := eventId, inviteEventJson := body }

end

variable {yyjson : Yyjson} {key : FederationKeyRecord} {sodium : Libsodium}

theorem keyHasExpired_eq_false_iff {now : Nat} :
    keyHasExpired key now = false ↔ key.validUntilTs = 0 ∨ now ≤ key.validUntilTs := by
  simp only [keyHasExpired, Bool.and_eq_false_iff, decide_eq_false_iff_not, Decidable.not_not,
    Nat.not_lt]

theorem verifySignedFederationRequest_ok {request : SignedFederationRequest}
    (h : verifySignedFederationRequest yyjson sodium request key = .ok ()) :
    key.serverName = request.origin ∧ key.keyId = request.keyId ∧
      keyHasExpired key request.nowTs = false ∧
      requestSignatureVerifies yyjson sodium request key.publicKeyBytes = true := by
  revert h
  fun_cases verifySignedFederationRequest yyjson sodium request key <;> intro h <;>
    try cases h
  next hmatch hexpired hverifies =>
    simp only [ne_eq, decide_not, Bool.or_eq_true, Bool.not_eq_eq_eq_not, Bool.not_true,
      decide_eq_false_iff_not, not_or, Decidable.not_not] at hmatch
    exact ⟨hmatch.1.symm, hmatch.2.symm, by simpa using hexpired, by simpa using hverifies⟩

theorem verifyPduSignature_ok {pdu : FederationPdu}
    (h : verifyPduSignature yyjson sodium pdu key = .ok ()) :
    ∃ policy event,
      findRoomVersionPolicy (if pdu.roomVersion.isEmpty then "12" else pdu.roomVersion) =
        some policy ∧
      pdu.json ≠ [] ∧ parseLossless yyjson pdu.json = .ok event ∧
      verifyEventSignature sodium event policy ⟨key.serverName, key.keyId⟩ key.publicKeyBytes =
        .ok () := by
  revert h
  fun_cases verifyPduSignature yyjson sodium pdu key <;> intro h <;>
    try cases h
  next policy hpolicy hjson event hevent =>
    refine ⟨policy, event, hpolicy, by simpa using hjson, hevent, ?_⟩
    revert h
    rcases verifyEventSignature sodium event policy ⟨key.serverName, key.keyId⟩
      key.publicKeyBytes with reason | - <;> intro h
    · cases h
    · rfl

theorem authorizeFederationPdu_ok {pdu : FederationPdu} {key : Option FederationKeyRecord}
    {nowTs : Nat} (h : authorizeFederationPdu yyjson sodium pdu key nowTs = .ok ()) :
    ∃ found, key = some found ∧ pdu.roomId ≠ [] ∧
      found.serverName = userIdServerName pdu.sender ∧ keyHasExpired found nowTs = false ∧
      verifyPduSignature yyjson sodium pdu found = .ok () := by
  revert h
  fun_cases authorizeFederationPdu yyjson sodium pdu key nowTs <;> intro h <;>
    try cases h
  next hfields found _ hserver hexpired =>
    refine ⟨found, rfl, ?_, by simpa using hserver, ?_, h⟩
    · rintro hroom
      simp [hroom] at hfields
    · rcases Nat.eq_zero_or_pos nowTs with rfl | hpos
      · simp [keyHasExpired]
      · simpa [Nat.pos_iff_ne_zero.mp hpos] using hexpired

theorem parseFederationPdu_of_json {versionResolver : Option (Bytes → Bytes)} {encoded : Bytes}
    (h : (parseFederationPdu yyjson sodium versionResolver encoded).json ≠ []) :
    ∃ value event policy version, parseLossless yyjson encoded = .ok value ∧
      parseEventEnvelope value = .ok event ∧
      version = (versionResolver.map fun resolve => resolve event.roomId).getD (utf8 "12") ∧
      findRoomVersionPolicy version = some policy ∧
      parseFederationPdu yyjson sodium versionResolver encoded =
        ⟨makeReferenceHashEventId sodium value policy, event.roomId, event.eventType,
          event.sender, event.signatures, encoded, version⟩ := by
  revert h
  fun_cases parseFederationPdu yyjson sodium versionResolver encoded <;> intro h <;>
    try exact absurd rfl h
  next value hvalue event hevent version policy hpolicy =>
    exact ⟨value, event, policy, version, hvalue, hevent, rfl, hpolicy, rfl⟩

end Merovingian.FederationPdus
