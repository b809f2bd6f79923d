import Merovingian.PipelineSafety

/-!
What reaches the ingestion sink from a transaction. The authorization view, the
content hash and the envelope are three parses of one text, and they agree on
everything but a `state_key` that is not a text: the envelope then carries the
empty state key, which is not in the signed bytes.
-/

namespace Merovingian.TransactionIngestion

open ByteString JsonValue CanonicalParser EventSigning PduIngestion EventEnvelopes FederationPolicy
  FederationPdus InboundRequests PipelineSafety

variable {Keys World Rates : Type}

/-- What was handed to the sink, with the key and the world it was checked with. -/
def handedEnvelopes (events : List (FederationEvent World)) :
    List (FederationKeyRecord × World × InboundPduEnvelope) :=
  events.filterMap fun event =>
    match event with
    | .handedToSink key world envelope => some (key, world, envelope)
    | _ => none

/-- The key stands in the record of the server, or the resolver answers with it, asked for
the server or with a record of the server. -/
def KnownKey (server : FederationServer Keys World Rates)
    (state : FederationRuntimeState Keys World Rates) (serverName : Bytes)
    (key : FederationKeyRecord) : Prop :=
  (∃ remote ∈ state.remotes, remote.serverName = serverName ∧ remote.signingKey = key) ∨
    ∃ resolver, server.remoteKeyResolver = some resolver ∧
      ∃ keys asked keyId remote, (resolver keys asked keyId).1 = some remote ∧
        (serverName = asked ∨ serverName = (completeRemote asked remote).serverName) ∧
        remote.signingKey = key

/-- The envelope is that of the PDU: the key is one of the origin or of the sender's server,
every check passed on the same bytes, and event id, room id, sender, type and state key are
those of the bytes. -/
def SoundEnvelope (server : FederationServer Keys World Rates) (request : SignedFederationRequest)
    (state : FederationRuntimeState Keys World Rates) (key : FederationKeyRecord) (world : World)
    (envelope : InboundPduEnvelope) (encoded : Bytes) (root : Object) : Prop :=
  (KnownKey server state request.origin key ∨
      KnownKey server state (Identifiers.userIdServerName envelope.sender) key) ∧
    (∃ policy, VerifiedEnvelope server request key world envelope encoded root policy) ∧
    envelope.stateKey.map Value.string = objectMember root "state_key"

def knownKeys (server : FederationServer Keys World Rates)
    (state : FederationRuntimeState Keys World Rates) : KeyGuarantee Keys where
  Good _ := KnownKey server state
  Later _ _ := True
  refl _ := trivial
  trans _ _ := trivial
  mono _ hknown := hknown

theorem resolvesSoundly_knownKeys (server : FederationServer Keys World Rates)
    (state : FederationRuntimeState Keys World Rates) :
    ResolvesSoundly (knownKeys server state) server := by
  refine fun resolver hresolver => ⟨fun _ _ _ => trivial, ?_⟩
  intro keys serverName keyId remote hanswer
  exact ⟨.inr ⟨resolver, hresolver, keys, serverName, keyId, remote, hanswer, .inl rfl, rfl⟩,
    .inr ⟨resolver, hresolver, keys, serverName, keyId, remote, hanswer, .inr rfl, rfl⟩⟩

/-- An envelope at the sink comes from a PDU of the body, and it is sound exactly
when the state key of that PDU is absent or a text. -/
theorem handed_envelope_sound_iff (server : FederationServer Keys World Rates) (steadyNow : Nat)
    (request : SignedFederationRequest) (state : FederationRuntimeState Keys World Rates)
    {key : FederationKeyRecord} {world : World} {envelope : InboundPduEnvelope}
    (hhanded : (key, world, envelope) ∈ handedEnvelopes
      (handleInboundFederationRequest server steadyNow request state).events) :
    ∃ encoded ∈ transactionPdus server request, envelope.json = encoded ∧
      ∃ root, parseLossless server.yyjson encoded = .ok (.object root) ∧
        (SoundEnvelope server request state key world envelope encoded root ↔
          stateKeyIsText root = true) := by
  have hserves := handleInboundFederationRequest_serves (resolvesSoundly_knownKeys server state)
    steadyNow request fun remote hmem => .inl ⟨remote, hmem, rfl, rfl⟩
  obtain ⟨event, hevent, hread⟩ := List.mem_filterMap.mp hhanded
  split at hread <;> cases hread
  obtain ⟨hknown, encoded, hmem, root, policy, hverified, hstateKey⟩ :=
    hserves.events _ hevent
  refine ⟨encoded, hmem, hverified.json, root, hverified.parsed, ?_⟩
  rw [← stateKey_carried_iff, ← (show envelope.stateKey = _ from hstateKey)]
  constructor
  · intro hsound
    exact hsound.2.2
  · intro hcarried
    exact ⟨hknown, ⟨policy, hverified⟩, hcarried⟩

/-- A topic event of `@bob:b.example`, with its hash and signature. -/
structure TopicPdu where
  stateKey : Value
  topic : Bytes
  timestamp : Int64
  contentHash : Bytes
  referenceHash : Bytes
  signature : Bytes

def TopicPdu.members (pdu : TopicPdu) (content hashes signatures : Object) : Value :=
  let first : Object :=
    [("auth_events", .array []), ("content", .object content), ("depth", .integer 7)]
  let second : Object :=
    [("origin_server_ts", .integer pdu.timestamp), ("prev_events", .array []),
      ("room_id", .string "!club:a.example"), ("sender", .string "@bob:b.example")]
  let third : Object := [("state_key", pdu.stateKey), ("type", .string "m.room.topic")]
  .object (first ++ hashes ++ second ++ signatures ++ third)

def TopicPdu.hashes (pdu : TopicPdu) : Object :=
  [("hashes", .object [("sha256", .string pdu.contentHash)])]

def TopicPdu.json (pdu : TopicPdu) : Value :=
  pdu.members [("topic", .string pdu.topic)] pdu.hashes
    [("signatures", .object [("b.example", .object [("ed25519:1", .string pdu.signature)])])]

def TopicPdu.digested (pdu : TopicPdu) : List DigestedText :=
  [⟨canonicalText (pdu.members [("topic", .string pdu.topic)] [] []), pdu.contentHash⟩,
    ⟨canonicalText (pdu.members [] pdu.hashes []), pdu.referenceHash⟩]

def TopicPdu.signed (pdu : TopicPdu) : SignedText :=
  ⟨canonicalText (pdu.members [] pdu.hashes []), pdu.signature, bobKey⟩

/-- An event with the number 5 for its state key. -/
def chessPdu : TopicPdu where
  stateKey := .integer 5
  topic := "chess"
  timestamp := 1000
  contentHash := "1lXYU74ImSXcl5wVCqm98m/QH3NNEfdSPQZZyZdVcPk"
  referenceHash := "jORUCzK+VeeJZSdfylcqFYkpzTyHISHjQOvERL6G+m0"
  signature :=
    "XWeEn8Gn4YZPJ6RWbfd+98Ek+HF2aI7YV8FnS1+TQVrkdec2vDL566M6rUmc7X0tJt6XTWHYbjZBVF7loEN5DA"

def goPdu : TopicPdu where
  stateKey := .string ""
  topic := "go"
  timestamp := 2000
  contentHash := "SsCC8v+NBZ7dU9msPgdWqPOe4rLcwEnU4mG8841wg7E"
  referenceHash := "7MELkEGlcHwoUNLxHUog3td4L5cJrbXlkeDRVS2KRpc"
  signature :=
    "Yz6SdpJgfDanyy+iQTHf9oZJsnFMUGPoo1nms44D6usIhm3yrGDFkxKJOPU7ztu6m7YcfKJnBQ5sdWyXPyOqAQ"

def clubTransaction : Value :=
  .object [("edus", .array []), ("origin", .string "b.example"),
    ("origin_server_ts", .integer 1000), ("pdus", .array [chessPdu.json, goPdu.json])]

def sendRequest : SignedFederationRequest where
  method := "PUT"
  target := "/_matrix/federation/v1/send/t1"
  origin := "b.example"
  destination := "a.example"
  keyId := "ed25519:1"
  signature :=
    "rJ6mShD88DA7jXEzIeTZWhyRnCQZFy6QE8gJesZwEnAvvQzsvFlAfJ/bWqN9kGZWSp7hngpvCEfksZWPNsiqDw"
  nowTs := 5000
  canonicalJsonVerified := true
  body := canonicalText clubTransaction

def topicRequest : SignedFederationRequest where
  method := "GET"
  target := "/_matrix/federation/v1/event/$topic"
  origin := "b.example"
  destination := "a.example"
  keyId := "ed25519:1"
  signature :=
    "WwholXj0D3pkaKnFjmcqQpvX5HngZMO1L89QuhHvHK2EfizvrZyPV9d8DLh2o9cwTdZa36loRm69tFosc4JLDw"
  nowTs := 5000
  canonicalJsonVerified := true

def sampleYyjson : Yyjson := readerOf [clubTransaction, chessPdu.json, goPdu.json]

def sampleSodium : Libsodium :=
  sodiumOf (chessPdu.digested ++ goPdu.digested)
    [chessPdu.signed, goPdu.signed,
      ⟨(federationRequestPayload sampleYyjson sendRequest).getD [], sendRequest.signature, bobKey⟩]

/-- Federation is on; addresses are taken for public names. -/
def sampleServer : FederationServer Unit Unit Unit where
  config := { enabled := true, maxTransactionBytes := 65536 }
  libc := ⟨fun _ => none, fun _ => none, fun _ => none⟩
  yyjson := sampleYyjson
  sodium := sampleSodium
  remoteKeyResolver := none
  remoteKeyCacheProbe _ _ _ := false
  pduSink := some fun world _ => ({ status := .accepted }, world)
  stateConflictResolver := none
  eduSink := none
  roomVersionResolver := none
  roomServerAclProvider := none
  membershipAcceptor := none
  inviteHandler := none
  answer world _ _ := (⟨501, "not implemented", []⟩, world)
  keyResolutionRate rates _ := (none, rates)
  originRequestRate rates _ := (none, rates)
  originTransactionRate rates _ _ _ := (none, rates)

def bobRemote : FederationRemoteRuntime where
  serverName := "b.example"
  trust := {}
  signingKey := ⟨"b.example", "ed25519:1", 9000, base64Decode bobKey⟩
  discovery := {
    serverName := "b.example"
    wellKnownHost := "b.example"
    resolvedHost := "b.example"
    resolvedAddresses := ["203.0.113.7"] }

def sampleState : FederationRuntimeState Unit Unit Unit :=
  ⟨[bobRemote], [], [], (), (), ()⟩

/-- What the sink gets of a topic event, whatever its state key is. -/
def TopicPdu.envelope (pdu : TopicPdu) : InboundPduEnvelope where
  eventId := utf8 "$" ++ base64UrlSafe pdu.referenceHash
  roomId := "!club:a.example"
  roomVersion := "12"
  sender := "@bob:b.example"
  eventType := "m.room.topic"
  stateKey := some []
  depth := 7
  prevEventIds := []
  authEventIds := []
  signatures := [⟨"b.example", "ed25519:1", pdu.signature⟩]
  json := canonicalText pdu.json

theorem sample_handedEnvelopes : handedEnvelopes
        (handleInboundFederationRequest sampleServer 0 sendRequest sampleState).events =
      [(bobRemote.signingKey, (), chessPdu.envelope),
        (bobRemote.signingKey, (), goPdu.envelope)] := by
  decide +kernel

def sampleRoot (encoded : Bytes) : Option Object :=
  (parseLossless sampleServer.yyjson encoded).toOption.bind valueIsObject

theorem sampleRoot_of_parsed {encoded : Bytes} {root : Object}
    (h : parseLossless sampleServer.yyjson encoded = .ok (.object root)) :
    sampleRoot encoded = some root := by
  rw [sampleRoot, h]
  rfl

theorem text_state_key_is_handed_soundly :
    (bobRemote.signingKey, (), goPdu.envelope) ∈ handedEnvelopes
        (handleInboundFederationRequest sampleServer 0 sendRequest sampleState).events ∧
      ∃ encoded ∈ transactionPdus sampleServer sendRequest, ∃ root,
        SoundEnvelope sampleServer sendRequest sampleState bobRemote.signingKey () goPdu.envelope
          encoded root := by
  have hhanded : (bobRemote.signingKey, (), goPdu.envelope) ∈ handedEnvelopes
      (handleInboundFederationRequest sampleServer 0 sendRequest sampleState).events := by
    rw [sample_handedEnvelopes]
    exact List.mem_cons_of_mem _ List.mem_cons_self
  obtain ⟨encoded, hmem, rfl, root, hparsed, hiff⟩ :=
    handed_envelope_sound_iff sampleServer 0 sendRequest sampleState hhanded
  have htext : (sampleRoot goPdu.envelope.json).map stateKeyIsText = some true := by
    decide +kernel
  rw [sampleRoot_of_parsed hparsed] at htext
  exact ⟨hhanded, _, hmem, root, hiff.mpr (Option.some.inj htext)⟩

/-- The event whose state key is a number is handed over with an empty one. -/
theorem number_state_key_is_handed_as_text :
    (bobRemote.signingKey, (), chessPdu.envelope) ∈ handedEnvelopes
        (handleInboundFederationRequest sampleServer 0 sendRequest sampleState).events ∧
      ∀ encoded root,
        ¬ SoundEnvelope sampleServer sendRequest sampleState bobRemote.signingKey ()
          chessPdu.envelope encoded root := by
  constructor
  · rw [sample_handedEnvelopes]
    exact List.mem_cons_self
  · rintro encoded root ⟨-, ⟨policy, hverified⟩, hstateKey⟩
    have hnumber : ((sampleRoot chessPdu.envelope.json).bind fun root =>
        (objectMember root "state_key").bind valueIsInteger) = some 5 := by
      decide +kernel
    rw [hverified.json, sampleRoot_of_parsed hverified.parsed, Option.bind_some,
      ← hstateKey] at hnumber
    cases hnumber

end Merovingian.TransactionIngestion
