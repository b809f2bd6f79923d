import Merovingian.FederationPdus

/-!
The inbound federation pipeline. A request is matched to a route, its server is
looked up and, where its key is not at hand, resolved; then the policies, the
request signature and the access control list are consulted, and the endpoint
is served. The trust record of a server lives in the state and counts failures
in a row.

What the pipeline calls out to is a parameter with a state of its own: the key
resolver, the sinks and stores behind the endpoints, and the rate limiter.
Requests are handled one at a time, and the sender keys of a transaction are
resolved in order.
-/

namespace Merovingian.InboundRequests

open ByteString JsonValue CanonicalParser EventSigning RoomVersions PduIngestion EventEnvelopes
  FederationPolicy FederationPdus
open Identifiers (userIdServerName)

variable {Keys World Rates : Type}

abbrev RemoteKeyResolver (Keys : Type) :=
  Keys → Bytes → Bytes → Option FederationRemoteRuntime × Keys

/-- The configuration and everything that the pipeline calls. A hook that may
be unset is an option; a probe or an answer that is unset refuses. -/
structure FederationServer (Keys World Rates : Type) where
  config : RuntimeFederationConfig
  libc : Libc
  yyjson : Yyjson
  sodium : Libsodium
  remoteKeyResolver : Option (RemoteKeyResolver Keys)
  remoteKeyCacheProbe : Keys → Bytes → Bytes → Bool
  pduSink : Option (World → InboundPduEnvelope → PduIngestionResult × World)
  stateConflictResolver : Option (World → PduStateConflictContext → PduIngestionResult × World)
  eduSink : Option (World → InboundEduEnvelope → World)
  roomVersionResolver : Option (World → Bytes → Bytes)
  roomServerAclProvider : Option (World → Bytes → Bytes → Bool)
  membershipAcceptor : Option (World → FederationRoute → MembershipPathParams →
    InboundPduEnvelope → FederationResponse × World)
  inviteHandler : Option (World → FederationRoute → InviteRequest → FederationResponse × World)
  answer : World → FederationRoute → SignedFederationRequest → FederationResponse × World
  keyResolutionRate : Rates → Bytes → Option Bytes × Rates
  originRequestRate : Rates → Bytes → Option Bytes × Rates
  originTransactionRate : Rates → Bytes → Nat → Nat → Option Bytes × Rates

structure KeyResolutionFailure where
  origin : Bytes
  keyId : Bytes
  expiresAt : Nat
deriving DecidableEq

structure FederationAcceptedTransaction where
  origin : Bytes
  transactionId : Bytes
  pduCount : Nat
  eduCount : Nat
deriving DecidableEq

structure FederationRuntimeState (Keys World Rates : Type) where
  remotes : List FederationRemoteRuntime
  acceptedTransactions : List FederationAcceptedTransaction
  keyResolutionFailures : List KeyResolutionFailure
  keys : Keys
  world : World
  rates : Rates

/-- What the pipeline accepted or handed on, in order, and the key that verified it. -/
inductive FederationEvent (World : Type) where
  | requestVerified (key : FederationKeyRecord) (now : Nat)
  | pduVerified (key : FederationKeyRecord) (now : Nat)
  | handedToSink (key : FederationKeyRecord) (world : World) (envelope : InboundPduEnvelope)

structure Handled (Keys World Rates : Type) where
  response : FederationResponse
  state : FederationRuntimeState Keys World Rates
  events : List (FederationEvent World) := []

section

variable (state : FederationRuntimeState Keys World Rates) (remotes : List FederationRemoteRuntime)
  (remote : FederationRemoteRuntime)

def findRemote (serverName : Bytes) : Option FederationRemoteRuntime :=
  remotes.find? fun remote => remote.serverName = serverName

def updateRemote (serverName : Bytes)
    (change : FederationRemoteRuntime → FederationRemoteRuntime) :
    List FederationRemoteRuntime → List FederationRemoteRuntime
  | [] => []
  | remote :: rest =>
    if remote.serverName = serverName then change remote :: rest
    else remote :: updateRemote serverName change rest

def upsertRemote : List FederationRemoteRuntime :=
  if (findRemote remotes remote.serverName).isSome then
    updateRemote remote.serverName (fun _ => remote) remotes
  else remotes ++ [remote]

def persistRemoteTrust (consecutiveFailures : Nat) : FederationRuntimeState Keys World Rates :=
  { state with
    remotes := updateRemote remote.serverName
      (fun existing => { existing with
        trust := { remote.trust with consecutiveFailures := consecutiveFailures } })
      state.remotes }

def persistRemoteSigningKey : FederationRuntimeState Keys World Rates :=
  { state with
    remotes := updateRemote remote.serverName
      (fun existing => { existing with signingKey := remote.signingKey }) state.remotes }

end

def maxKeyResolutionFailures : Nat := 4096

def maxAcceptedTransactions : Nat := 10000

def pushBounded {α : Type} (bound : Nat) (queue : List α) (entry : α) : List α :=
  (if bound ≤ queue.length then queue.tail else queue) ++ [entry]

def expireKeyResolutionFailures (now : Nat) (failures : List KeyResolutionFailure) :
    List KeyResolutionFailure :=
  failures.dropWhile fun failure => failure.expiresAt ≤ now

variable (server : FederationServer Keys World Rates)

section

variable (steadyNow : Nat) (request : SignedFederationRequest)
  (state : FederationRuntimeState Keys World Rates) (remote : FederationRemoteRuntime)

def rememberKeyResolutionFailure (failures : List KeyResolutionFailure) : List
    KeyResolutionFailure :=
  if server.config.keyResolutionFailureTtlSeconds = 0 then failures
  else pushBounded maxKeyResolutionFailures (expireKeyResolutionFailures steadyNow failures)
    ⟨request.origin, request.keyId, steadyNow + server.config.keyResolutionFailureTtlSeconds * 1000⟩

def maxKeyIdBytes : Nat := 255

/-- The budget of lookups that are made before anything is authenticated. -/
def admitKeyResolution : Option Bytes × FederationRuntimeState Keys World Rates :=
  if !rateLimitPolicyIsValid server.config.keyResolutionPerIpRate then
    (some "invalid key-resolution rate-limit policy", state)
  else if !serverNameIsValid request.origin then
    (some "origin is not a valid server name", state)
  else if request.keyId.isEmpty || maxKeyIdBytes < request.keyId.length then
    (some "key id is missing or oversized", state)
  else
    let failures := expireKeyResolutionFailures steadyNow state.keyResolutionFailures
    let state := { state with keyResolutionFailures := failures }
    if failures.any fun failure => failure.origin = request.origin &&
        failure.keyId = request.keyId && steadyNow < failure.expiresAt then
      (some "key resolution for this origin and key id recently failed", state)
    else if server.config.keyResolutionMaxInFlight = 0 then
      (some "too many key resolutions in flight", state)
    else
      let (refusal, rates) := server.keyResolutionRate state.rates request.remoteAddr
      (refusal, { state with rates := rates })

/-- A lookup that the key cache serves is not charged. -/
def admitLookup : Option Bytes × FederationRuntimeState Keys World Rates :=
  if server.remoteKeyCacheProbe state.keys request.origin request.keyId then (none, state)
  else admitKeyResolution server steadyNow request state

def completeRemote (origin : Bytes) (resolved : FederationRemoteRuntime) :
    FederationRemoteRuntime :=
  { resolved with
    serverName := if resolved.serverName.isEmpty then origin else resolved.serverName
    trust := { resolved.trust with
      reputationScore :=
        if resolved.trust.reputationScore = 0 then 100 else resolved.trust.reputationScore } }

def discoverRemote (resolver : RemoteKeyResolver Keys) (steadyNow : Nat)
    (request : SignedFederationRequest) (state : FederationRuntimeState Keys World Rates) :
    Option FederationResponse × FederationRuntimeState Keys World Rates :=
  match admitLookup server steadyNow request state with
  | (some reason, state) => (some ⟨429, reason, []⟩, state)
  | (none, state) =>
    match resolver state.keys request.origin request.keyId with
    | (none, keys) =>
      (none, { state with
        keys := keys
        keyResolutionFailures := rememberKeyResolutionFailure server steadyNow request
          state.keyResolutionFailures })
    | (some resolved, keys) =>
      (none, { state with
        keys := keys
        remotes := upsertRemote state.remotes (completeRemote request.origin resolved) })

def knownRemote : Except FederationResponse FederationRemoteRuntime × FederationRuntimeState Keys
    World Rates :=
  match findRemote state.remotes request.origin, server.remoteKeyResolver with
  | some remote, _ => (.ok remote, state)
  | none, none => (.error ⟨403, "remote is unknown", []⟩, state)
  | none, some resolver =>
    match discoverRemote server resolver steadyNow request state with
    | (some response, state) => (.error response, state)
    | (none, state) =>
      match findRemote state.remotes request.origin with
      | none => (.error ⟨403, "remote is unknown", []⟩, state)
      | some remote => (.ok remote, state)

def keyIsStale : Bool :=
  remote.signingKey.keyId ≠ request.keyId ||
    (remote.signingKey.validUntilTs ≠ 0 && remote.signingKey.validUntilTs ≤ request.nowTs)

/-- Looks the key up again when the record has another one or it has expired.
A lookup that finds nothing leaves the record as it is. -/
def refreshRemoteKey (state : FederationRuntimeState Keys World Rates) : Except FederationResponse
    FederationRemoteRuntime × FederationRuntimeState Keys World Rates :=
  match server.remoteKeyResolver with
  | none => (.ok remote, state)
  | some resolver =>
    if !keyIsStale request remote then (.ok remote, state)
    else
      match admitLookup server steadyNow request state with
      | (some reason, state) => (.error ⟨429, reason, []⟩, state)
      | (none, state) =>
        match resolver state.keys request.origin request.keyId with
        | (none, keys) => (.ok remote, { state with keys := keys })
        | (some refreshed, keys) =>
          if refreshed.signingKey.publicKeyBytes.isEmpty then
            (.ok remote, { state with keys := keys })
          else
            let remote := { remote with signingKey := refreshed.signingKey }
            (.ok remote, persistRemoteSigningKey { state with keys := keys } remote)

def remotePolicy : Except FederationResponse Unit :=
  match federationDiscoveryPolicy server.libc remote.discovery with
  | .error reason => .error ⟨403, reason, []⟩
  | .ok () =>
    match remoteTrustPolicy remote.trust with
    | .error refusal => .error ⟨if refusal.applyBackoff then 429 else 403, refusal.reason, []⟩
    | .ok () => .ok ()

/-- The gates up to the request signature: the route and the server's record. -/
def resolveInboundRemote : Except FederationResponse (FederationRoute × FederationRemoteRuntime) ×
    FederationRuntimeState Keys World Rates :=
  match matchFederationRoute request.method request.target with
  | none => (.error ⟨404, "federation route not found", []⟩, state)
  | some route =>
    match federationServerPolicy server.config request.origin with
    | .error reason => (.error ⟨403, reason, []⟩, state)
    | .ok () =>
      match knownRemote server steadyNow request state with
      | (.error response, state) => (.error response, state)
      | (.ok remote, state) =>
        match refreshRemoteKey server steadyNow request remote state with
        | (.error response, state) => (.error response, state)
        | (.ok remote, state) =>
          match remotePolicy server remote with
          | .error response => (.error response, state)
          | .ok () => (.ok (route, remote), state)

/-- Verifies the request signature. A signature that fails is counted in the
record of the server that the request names. -/
def checkInboundRequestSignature (state : FederationRuntimeState Keys World Rates) : Option
    FederationResponse × FederationRuntimeState Keys World Rates :=
  match verifySignedFederationRequest server.yyjson server.sodium request remote.signingKey with
  | .error rejection =>
    (some ⟨rejection.status, rejection.reason, []⟩,
      persistRemoteTrust state remote (remote.trust.consecutiveFailures + 1))
  | .ok () => (none, state)

end

section

variable (request : SignedFederationRequest) (route : FederationRoute)
  (signingKey : FederationKeyRecord) (state : FederationRuntimeState Keys World Rates)
  (world : World)

def aclAllows (roomId serverName : Bytes) : Bool :=
  server.roomServerAclProvider.all fun provider => provider world roomId serverName

def checkRoomAclForEndpoint (request : SignedFederationRequest) (route : FederationRoute) : Option
    FederationResponse :=
  match protectedEndpointRoomId server.libc route.endpoint request.target with
  | none => none
  | some roomId =>
    if roomId.isEmpty || aclAllows server world roomId request.origin then none
    else some ⟨403, matrixError "M_FORBIDDEN" "server is denied by room ACL", []⟩

/-- The key for a PDU outside a transaction: the record of the origin for its
own events, a lookup for those of another server. -/
def membershipPduKey (pdu : FederationPdu) (keys : Keys) : Option FederationKeyRecord × Keys :=
  let senderDomain := userIdServerName pdu.sender
  match server.remoteKeyResolver with
  | none => (some signingKey, keys)
  | some resolver =>
    if senderDomain.isEmpty || senderDomain = request.origin then (some signingKey, keys)
    else
      let keyId := signatureKeyId pdu.signatures senderDomain
      if keyId.isEmpty then (none, keys)
      else
        let (resolved, keys) := resolver keys senderDomain keyId
        (resolved.map FederationRemoteRuntime.signingKey, keys)

def acceptMembershipPdu (pdu : FederationPdu) (state : FederationRuntimeState Keys World Rates)
    (rejected : FederationRejection → FederationResponse) (badHash : FederationResponse)
    (accept : World → FederationResponse × World) : Handled Keys World Rates :=
  let (key, keys) := membershipPduKey server request signingKey pdu state.keys
  let state := { state with keys := keys }
  match authorizeFederationPdu server.yyjson server.sodium pdu key request.nowTs with
  | .error rejection => ⟨rejected rejection, state, []⟩
  | .ok () =>
    let events := key.toList.map fun key => .pduVerified key request.nowTs
    if !contentHashVerifies server.yyjson server.sodium pdu.json then ⟨badHash, state, events⟩
    else
      let (response, world) := accept state.world
      ⟨response, { state with world := world }, events⟩

def handleSendMembership : Handled Keys World Rates :=
  match server.membershipAcceptor, parseMembershipPath route.endpoint request.target with
  | none, _ => ⟨⟨501, "send_* not implemented", []⟩, state, []⟩
  | some _, none => ⟨⟨400, "membership path is malformed", []⟩, state, []⟩
  | some acceptor, some params =>
    let roomVersion :=
      (server.roomVersionResolver.map fun resolve => resolve state.world params.roomId).getD []
    match parseInboundPduEnvelope server.yyjson server.sodium request.body roomVersion with
    | none => ⟨⟨400, "membership event body is not a valid PDU envelope", []⟩, state, []⟩
    | some envelope =>
      if envelope.roomId ≠ params.roomId then
        ⟨⟨400, "membership event room_id does not match path", []⟩, state, []⟩
      else
        acceptMembershipPdu server request signingKey
          ⟨envelope.eventId, envelope.roomId, envelope.eventType, envelope.sender,
            envelope.signatures, envelope.json,
            if roomVersion.isEmpty then utf8 "12" else roomVersion⟩ state
          (fun rejection =>
            ⟨rejection.status, matrixError "M_FORBIDDEN" rejection.reason, []⟩)
          ⟨403, matrixError "M_FORBIDDEN" "PDU content hash verification failed", []⟩
          (fun world => acceptor world route params envelope)

/-- The version by whose rules an invite is checked: that of its body, that of
the room, or the first one. -/
def inviteRoomVersion (invite : InviteRequest) : Bytes :=
  let resolved :=
    (server.roomVersionResolver.map fun resolve => resolve world invite.roomId).getD []
  if !invite.roomVersion.isEmpty then invite.roomVersion
  else if !resolved.isEmpty then resolved
  else "1"

def handleInvite : Handled Keys World Rates :=
  match server.inviteHandler, parseMembershipPath .invite request.target with
  | none, _ => ⟨⟨501, "invite not implemented", []⟩, state, []⟩
  | some _, none => ⟨⟨400, "invite path is malformed", []⟩, state, []⟩
  | some handler, some params =>
    match parseInviteBody server.yyjson request.body params.roomId params.subject with
    | none => ⟨⟨400, "invite body is malformed", []⟩, state, []⟩
    | some invite =>
      match parseLossless server.yyjson invite.inviteEventJson with
      | .error _ =>
        ⟨⟨400, matrixError "M_BAD_JSON" "invite event is not valid JSON", []⟩, state, []⟩
      | .ok value =>
        match parseEventEnvelope value,
            findRoomVersionPolicy (inviteRoomVersion server state.world invite) with
        | .error error, _ => ⟨⟨400, matrixError "M_BAD_JSON" error, []⟩, state, []⟩
        | .ok _, none =>
          ⟨⟨500, matrixError "M_UNKNOWN" "room version policy is unavailable", []⟩, state, []⟩
        | .ok event, some policy =>
          acceptMembershipPdu server request signingKey
            ⟨makeReferenceHashEventId server.sodium value policy, event.roomId,
              event.eventType, event.sender, event.signatures, invite.inviteEventJson,
              inviteRoomVersion server state.world invite⟩ state
            (fun rejection =>
              ⟨rejection.status, matrixError "M_INVALID_PARAM" rejection.reason, []⟩)
            ⟨400, matrixError "M_INVALID_PARAM"
              "invite event content hash verification failed", []⟩
            (fun world => handler world route { invite with origin := request.origin })

def dispatchNonTransactionEndpoint : Handled Keys World Rates :=
  match route.endpoint with
  | .sendJoin | .sendLeave | .sendKnock =>
    handleSendMembership server request route signingKey state
  | .invite => handleInvite server request route signingKey state
  | .transaction => ⟨⟨500, "transaction endpoint mis-dispatched", []⟩, state, []⟩
  | _ =>
    let (response, world) := server.answer state.world route request
    ⟨response, { state with world := world }, []⟩

/-- Any endpoint but `send`. A success ends the server's failures in a row. -/
def handleEndpoint (remote : FederationRemoteRuntime)
    (state : FederationRuntimeState Keys World Rates) : Handled Keys World Rates :=
  let (refusal, rates) := server.originRequestRate state.rates request.origin
  let state := { state with rates := rates }
  match refusal with
  | some reason => ⟨⟨429, matrixError "M_LIMIT_EXCEEDED" reason, []⟩, state, []⟩
  | none =>
    let handled :=
      dispatchNonTransactionEndpoint server request route remote.signingKey state
    if 200 ≤ handled.response.status && handled.response.status < 300 then
      { handled with state := persistRemoteTrust handled.state remote 0 }
    else handled

end

structure PduProgress (Keys World : Type) where
  keys : Keys
  world : World
  trustFailures : Nat := 0
  errors : Object := []
  events : List (FederationEvent World) := []

def PduProgress.withError (progress : PduProgress Keys World) (eventId reason : Bytes) :
    PduProgress Keys World :=
  { progress with
    errors := progress.errors ++ [(eventId, .object [(utf8 "error", .string reason)])] }

def PduProgress.distrust (progress : PduProgress Keys World) (eventId reason : Bytes) :
    PduProgress Keys World :=
  { progress.withError eventId reason with trustFailures := progress.trustFailures + 1 }

section

variable (request : SignedFederationRequest)

abbrev SenderKeys := List ((Bytes × Bytes) × Option FederationKeyRecord)

/-- The server and key id of a PDU that was sent on for another server. -/
def relayedSender (origin : Bytes) (pdu : FederationPdu) : Option (Bytes × Bytes) :=
  let senderDomain := userIdServerName pdu.sender
  let keyId := signatureKeyId pdu.signatures senderDomain
  if senderDomain.isEmpty || senderDomain = origin || keyId.isEmpty then none
  else some (senderDomain, keyId)

def readPdu (world : World) (encoded : Bytes) : FederationPdu :=
  parseFederationPdu server.yyjson server.sodium
    (server.roomVersionResolver.map fun resolve => resolve world) encoded

def resolveSenderKeys (resolver : RemoteKeyResolver Keys) (keys : Keys) :
    List (Bytes × Bytes) → SenderKeys × Keys
  | [] => ([], keys)
  | (serverName, keyId) :: rest =>
    let (resolved, keys) := resolver keys serverName keyId
    let (others, keys) := resolveSenderKeys resolver keys rest
    (((serverName, keyId), resolved.map FederationRemoteRuntime.signingKey) :: others, keys)

def preResolve (origin : Bytes) (world : World) (pdus : List Bytes) (keys : Keys) :
    SenderKeys × Keys :=
  match server.remoteKeyResolver with
  | none => ([], keys)
  | some resolver =>
    resolveSenderKeys resolver keys
      (pdus.filterMap fun encoded =>
        relayedSender origin (readPdu server world encoded)).eraseDups

def transactionPduKey (origin : Bytes) (signingKey : FederationKeyRecord)
    (senderKeys : SenderKeys) (pdu : FederationPdu) (keys : Keys) :
    Option FederationKeyRecord × Keys :=
  match server.remoteKeyResolver, relayedSender origin pdu with
  | some resolver, some (serverName, keyId) =>
    match senderKeys.find? fun entry => entry.1 = (serverName, keyId) with
    | some entry => (entry.2, keys)
    | none =>
      let (resolved, keys) := resolver keys serverName keyId
      (resolved.map FederationRemoteRuntime.signingKey, keys)
  | _, _ => (some signingKey, keys)

def handToSink (sink : World → InboundPduEnvelope → PduIngestionResult × World)
    (key : FederationKeyRecord) (progress : PduProgress Keys World)
    (envelope : InboundPduEnvelope) : PduProgress Keys World :=
  let (ingestion, world) := sink progress.world envelope
  { progress with
    events := progress.events ++ [.handedToSink key progress.world envelope]
    world :=
      match ingestion.status, server.stateConflictResolver, ingestion.stateConflict with
      | .rejectedStateConflict, some resolver, some conflict => (resolver world conflict).2
      | _, _, _ => world }

def ingestVerifiedPdu (key : FederationKeyRecord) (progress : PduProgress Keys World)
    (pdu : FederationPdu) (encoded : Bytes) : PduProgress Keys World :=
  match server.pduSink with
  | none => progress
  | some sink =>
    if !contentHashVerifies server.yyjson server.sodium encoded then
      progress.distrust pdu.eventId "PDU content hash verification failed"
    else
      match parseInboundPduEnvelope server.yyjson server.sodium encoded pdu.roomVersion with
      | none => progress
      | some envelope => handToSink server sink key progress envelope

def ingestPdu (signingKey : FederationKeyRecord) (senderKeys : SenderKeys)
    (progress : PduProgress Keys World) (encoded : Bytes) : PduProgress Keys World :=
  let pdu := readPdu server progress.world encoded
  if !pdu.roomId.isEmpty && !(aclAllows server progress.world pdu.roomId request.origin &&
        aclAllows server progress.world pdu.roomId (userIdServerName pdu.sender)) then
    progress.withError pdu.eventId "server is denied by room ACL"
  else
    match transactionPduKey server request.origin signingKey senderKeys pdu progress.keys with
    | (none, keys) =>
      { progress with keys := keys }.distrust pdu.eventId
        "relayed PDU: could not resolve sender domain signing key"
    | (some key, keys) =>
      match authorizeFederationPdu server.yyjson server.sodium pdu (some key) request.nowTs with
      | .error rejection =>
        { progress with keys := keys }.distrust pdu.eventId rejection.reason
      | .ok () =>
        ingestVerifiedPdu server key
          { progress with
            keys := keys
            events := progress.events ++ [.pduVerified key request.nowTs] } pdu encoded

def dispatchEdu (origin : Bytes) (world : World) (edu : Bytes × Bytes) : World :=
  match parseInboundEduEnvelope server.yyjson edu.1 origin edu.2, server.eduSink with
  | some envelope, some sink =>
    if (roomIdFromEduContent server.yyjson envelope.type edu.2).all fun roomId =>
        aclAllows server world roomId origin then
      sink world envelope
    else world
  | _, _ => world

def transactionResponse (errors : Object) : FederationResponse :=
  ⟨200, canonicalText (.object [(utf8 "pdus", .object errors)]), []⟩

section

variable (remote : FederationRemoteRuntime) (state : FederationRuntimeState Keys World Rates)

def ingestTransaction (transaction : FederationTransaction) (edus : List (Bytes × Bytes))
    (state : FederationRuntimeState Keys World Rates) : Handled Keys World Rates :=
  let (senderKeys, keys) :=
    preResolve server request.origin state.world transaction.pdus state.keys
  let progress := transaction.pdus.foldl
    (ingestPdu server request remote.signingKey senderKeys) { keys := keys, world := state.world }
  let world := edus.foldl (dispatchEdu server request.origin) progress.world
  let failures :=
    if progress.trustFailures = 0 then 0
    else remote.trust.consecutiveFailures + progress.trustFailures
  { response := transactionResponse progress.errors
    state := persistRemoteTrust
      { state with
        keys := progress.keys
        world := world
        acceptedTransactions := pushBounded maxAcceptedTransactions state.acceptedTransactions
          ⟨request.origin, transaction.transactionId, transaction.pdus.length,
            transaction.edus.length⟩ }
      remote failures
    events := progress.events }

def transactionAlreadyAccepted (origin transactionId : Bytes) : Bool :=
  state.acceptedTransactions.any fun accepted =>
    accepted.origin = origin && accepted.transactionId = transactionId

def readTransaction : Except FederationResponse (FederationTransaction × List (Bytes × Bytes)) :=
  match parseTransactionBody server.yyjson request.body with
  | .error error => .error ⟨400, matrixError "M_BAD_JSON" error, []⟩
  | .ok body =>
    if body.origin ≠ request.origin then
      .error ⟨403, "transaction origin does not match request origin", []⟩
    else
      let transaction : FederationTransaction :=
        ⟨body.origin, transactionIdFromSendTarget request.target, request.body.length,
          body.pdus, body.edus.map Prod.fst⟩
      match validateFederationTransaction server.config transaction with
      | .error reason => .error ⟨400, matrixError "M_BAD_JSON" reason, []⟩
      | .ok () => .ok (transaction, body.edus)

/-- The `send` endpoint. A malformed transaction counts as a failure, a repeated
one is answered without being taken in. -/
def handleTransaction : Handled Keys World Rates :=
  match readTransaction server request with
  | .error response =>
    ⟨response, persistRemoteTrust state remote (remote.trust.consecutiveFailures + 1), []⟩
  | .ok (transaction, edus) =>
    let (refusal, rates) := server.originTransactionRate state.rates request.origin
      transaction.pdus.length transaction.edus.length
    let state := { state with rates := rates }
    match refusal with
    | some reason => ⟨⟨429, matrixError "M_LIMIT_EXCEEDED" reason, []⟩, state, []⟩
    | none =>
      if transactionAlreadyAccepted state request.origin transaction.transactionId then
        ⟨transactionResponse [], persistRemoteTrust state remote 0, []⟩
      else ingestTransaction server request remote transaction edus state

end

def serveAuthenticated (route : FederationRoute) (remote : FederationRemoteRuntime)
    (state : FederationRuntimeState Keys World Rates) : Handled Keys World Rates :=
  match checkRoomAclForEndpoint server state.world request route with
  | some response => ⟨response, state, []⟩
  | none =>
    if route.endpoint = .transaction then handleTransaction server request remote state
    else handleEndpoint server request route remote state

end

/-- The whole pipeline. The signature of a request that another process has
verified is not verified again. -/
def handleInboundFederationRequest (steadyNow : Nat) (request : SignedFederationRequest)
    (state : FederationRuntimeState Keys World Rates) : Handled Keys World Rates :=
  match resolveInboundRemote server steadyNow request state with
  | (.error response, state) => ⟨response, state, []⟩
  | (.ok (route, remote), state) =>
    if request.signatureVerified then serveAuthenticated server request route remote state
    else
      match checkInboundRequestSignature server request remote state with
      | (some response, state) => ⟨response, state, []⟩
      | (none, state) =>
        let handled := serveAuthenticated server request route remote state
        { handled with
          events := .requestVerified remote.signingKey request.nowTs :: handled.events }

end Merovingian.InboundRequests
