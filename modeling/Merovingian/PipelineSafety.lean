import Merovingian.InboundRequests

/-!
What the inbound pipeline accepts. Every key under which it verifies a request
or a PDU was answered by the resolver or stands in a server's record, and was
not expired; every envelope that reaches the sink was cut from a PDU whose
signature, content hash and access control all passed on the same bytes.

The first part is stated for any guarantee about keys that the resolver's answers
come with and its later calls keep.
-/

namespace Merovingian.PipelineSafety

open ByteString JsonValue CanonicalParser EventSigning RoomVersions PduIngestion EventEnvelopes
  FederationPolicy FederationPdus InboundRequests List
open Identifiers (userIdServerName)

variable {Keys World Rates : Type} {server : FederationServer Keys World Rates}

variable {serverName : Bytes} {resolver : RemoteKeyResolver Keys} {senderKeys : SenderKeys}
  {progress : PduProgress Keys World} {remotes : List FederationRemoteRuntime}
  {remote : FederationRemoteRuntime} {state : FederationRuntimeState Keys World Rates}

theorem findRemote_some (h : findRemote remotes serverName = some remote) :
    remote ∈ remotes ∧ remote.serverName = serverName :=
  ⟨mem_of_find?_eq_some h, by simpa using find?_some h⟩

theorem mem_updateRemote {change : FederationRemoteRuntime → FederationRemoteRuntime}
    (h : remote ∈ updateRemote serverName change remotes) :
    remote ∈ remotes ∨ ∃ old ∈ remotes, old.serverName = serverName ∧ remote = change old := by
  induction remotes with
  | nil => exact .inl h
  | cons head rest ih =>
    rw [updateRemote] at h
    split at h
    next hname =>
      rcases mem_cons.mp h with rfl | hrest
      · exact .inr ⟨head, mem_cons_self, hname, rfl⟩
      · exact .inl (mem_cons_of_mem _ hrest)
    next hname =>
      rcases mem_cons.mp h with rfl | hrest
      · exact .inl mem_cons_self
      · rcases ih hrest with hmem | ⟨old, hold, hchange⟩
        · exact .inl (mem_cons_of_mem _ hmem)
        · exact .inr ⟨old, mem_cons_of_mem _ hold, hchange⟩

theorem mem_upsertRemote {added : FederationRemoteRuntime}
    (h : remote ∈ upsertRemote remotes added) : remote ∈ remotes ∨ remote = added := by
  rw [upsertRemote] at h
  split at h
  · rcases mem_updateRemote h with hmem | ⟨_, _, _, rfl⟩
    · exact .inl hmem
    · exact .inr rfl
  · simpa using h

theorem admitLookup_frame (server : FederationServer Keys World Rates) (steadyNow : Nat)
    (request : SignedFederationRequest) (state : FederationRuntimeState Keys World Rates) :
    let admitted := (admitLookup server steadyNow request state).2
    admitted.remotes = state.remotes ∧ admitted.keys = state.keys ∧
      admitted.world = state.world ∧
      admitted.acceptedTransactions = state.acceptedTransactions := by
  unfold admitLookup admitKeyResolution
  dsimp only
  split_ifs <;> exact ⟨rfl, rfl, rfl, rfl⟩

/-- Something that is guaranteed of the keys of servers, and an order of the key
state in which it lasts. -/
structure KeyGuarantee (Keys : Type) where
  Good : Keys → Bytes → FederationKeyRecord → Prop
  Later : Keys → Keys → Prop
  refl : ∀ keys, Later keys keys
  trans : ∀ {first second third}, Later first second → Later second third → Later first third
  mono : ∀ {before after serverName key}, Later before after → Good before serverName key →
    Good after serverName key

section Keys

variable (guarantee : KeyGuarantee Keys)

/-- Answers are good for the server that was asked about and for the server
under whose name they are recorded. -/
structure SoundResolver (resolver : RemoteKeyResolver Keys) : Prop where
  later : ∀ keys serverName keyId, guarantee.Later keys (resolver keys serverName keyId).2
  answers : ∀ keys serverName keyId remote, (resolver keys serverName keyId).1 = some remote →
      guarantee.Good (resolver keys serverName keyId).2 serverName remote.signingKey ∧
        guarantee.Good (resolver keys serverName keyId).2
          (completeRemote serverName remote).serverName remote.signingKey

def RemotesGood (state : FederationRuntimeState Keys World Rates) : Prop :=
  ∀ remote ∈ state.remotes, guarantee.Good state.keys remote.serverName remote.signingKey

structure Keeps (before after : FederationRuntimeState Keys World Rates) : Prop where
  later : guarantee.Later before.keys after.keys
  remotes : RemotesGood guarantee before → RemotesGood guarantee after

variable {guarantee}

theorem Keeps.trans {first second third : FederationRuntimeState Keys World Rates}
    (h : Keeps guarantee first second) (h' : Keeps guarantee second third) :
    Keeps guarantee first third :=
  ⟨guarantee.trans h.later h'.later, fun hgood => h'.remotes (h.remotes hgood)⟩

theorem Keeps.of_frame {before after : FederationRuntimeState Keys World Rates}
    (hremotes : after.remotes = before.remotes) (hlater : guarantee.Later before.keys after.keys) :
    Keeps guarantee before after := by
  refine ⟨hlater, ?_⟩
  intro hgood remote hmem
  rw [hremotes] at hmem
  exact guarantee.mono hlater (hgood remote hmem)

theorem Keeps.refl : Keeps guarantee state state :=
  .of_frame rfl (guarantee.refl _)

theorem persistRemoteTrust_keeps (failures : Nat) :
    Keeps guarantee state (persistRemoteTrust state remote failures) := by
  refine ⟨guarantee.refl _, ?_⟩
  intro hgood changed hmem
  rcases mem_updateRemote hmem with hold | ⟨old, hold, _, rfl⟩
  · exact hgood changed hold
  · exact hgood old hold

theorem persistRemoteSigningKey_keeps
    (hkey : guarantee.Good state.keys remote.serverName remote.signingKey) :
    Keeps guarantee state (persistRemoteSigningKey state remote) := by
  refine ⟨guarantee.refl _, ?_⟩
  intro hgood changed hmem
  rcases mem_updateRemote hmem with hold | ⟨old, _, hname, rfl⟩
  · exact hgood changed hold
  · simpa only [persistRemoteSigningKey, hname] using hkey

def ResolvesSoundly (guarantee : KeyGuarantee Keys)
    (server : FederationServer Keys World Rates) : Prop :=
  ∀ resolver, server.remoteKeyResolver = some resolver → SoundResolver guarantee resolver

variable {steadyNow : Nat} {request : SignedFederationRequest}
  {after : FederationRuntimeState Keys World Rates}

theorem admitLookup_keeps {refusal : Option Bytes}
    (h : admitLookup server steadyNow request state = (refusal, after)) :
    Keeps guarantee state after := by
  obtain ⟨hremotes, hkeys, -⟩ := admitLookup_frame server steadyNow request state
  rw [h] at hremotes hkeys
  refine .of_frame hremotes ?_
  rw [hkeys]
  exact guarantee.refl _

theorem SoundResolver.answered (hsound : SoundResolver guarantee resolver) {keys after : Keys}
    {keyId : Bytes} {resolved : Option FederationRemoteRuntime}
    (h : resolver keys serverName keyId = (resolved, after)) :
    guarantee.Later keys after ∧ ∀ key, resolved.map FederationRemoteRuntime.signingKey = some key →
      guarantee.Good after serverName key := by
  have hlater := hsound.later keys serverName keyId
  have hanswers := hsound.answers keys serverName keyId
  rw [h] at hlater hanswers
  refine ⟨hlater, ?_⟩
  intro key hkey
  obtain ⟨remote, rfl, rfl⟩ := Option.map_eq_some_iff.mp hkey
  exact (hanswers remote rfl).1

theorem lookup_keeps (hsound : SoundResolver guarantee resolver)
    {admitted : FederationRuntimeState Keys World Rates} {answer : Option FederationRemoteRuntime}
    {keys : Keys} (heq : admitLookup server steadyNow request state = (none, admitted))
    (hresolved : resolver admitted.keys request.origin request.keyId = (answer, keys)) :
    Keeps guarantee state { admitted with keys := keys } := by
  exact (admitLookup_keeps heq).trans (.of_frame rfl (hsound.answered hresolved).1)

theorem discoverRemote_keeps (hsound : SoundResolver guarantee resolver)
    {refusal : Option FederationResponse}
    (h : discoverRemote server resolver steadyNow request state = (refusal, after)) :
    Keeps guarantee state after := by
  revert h
  fun_cases discoverRemote server resolver steadyNow request state <;> rintro ⟨⟩
  next heq => exact admitLookup_keeps heq
  next admitted heq _ hresolved =>
    exact (lookup_keeps hsound heq hresolved).trans (.of_frame rfl (guarantee.refl _))
  next admitted heq resolved _ hresolved =>
    obtain ⟨hlater, -⟩ := hsound.answered hresolved
    have hanswer := hsound.answers admitted.keys request.origin request.keyId resolved
    rw [hresolved] at hanswer
    refine (admitLookup_keeps heq).trans ⟨hlater, ?_⟩
    intro hgood remote hmem
    rcases mem_upsertRemote hmem with hold | rfl
    · exact guarantee.mono hlater (hgood remote hold)
    · exact (hanswer rfl).2

variable (hsound : ResolvesSoundly guarantee server)

include hsound

theorem knownRemote_keeps {result : Except FederationResponse FederationRemoteRuntime}
    (h : knownRemote server steadyNow request state = (result, after)) :
    Keeps guarantee state after ∧ ∀ remote, result = .ok remote →
      remote ∈ after.remotes ∧ remote.serverName = request.origin := by
  revert h
  fun_cases knownRemote server steadyNow request state <;> rintro ⟨⟩
  next found hfound =>
    refine ⟨.refl, ?_⟩
    rintro remote ⟨⟩
    exact findRemote_some hfound
  next => exact ⟨.refl, by rintro remote ⟨⟩⟩
  next hresolver _ _ heq =>
    exact ⟨discoverRemote_keeps (hsound _ hresolver) heq, by rintro remote ⟨⟩⟩
  next hresolver _ heq _ =>
    exact ⟨discoverRemote_keeps (hsound _ hresolver) heq, by rintro remote ⟨⟩⟩
  next hresolver _ found heq hfound =>
    refine ⟨discoverRemote_keeps (hsound _ hresolver) heq, ?_⟩
    rintro remote ⟨⟩
    exact findRemote_some hfound

theorem refreshRemoteKey_keeps (hremotes : RemotesGood guarantee state)
    {known : FederationRuntimeState Keys World Rates}
    {result : Except FederationResponse FederationRemoteRuntime}
    (hknown : knownRemote server steadyNow request state = (.ok remote, known))
    (h : refreshRemoteKey server steadyNow request remote known = (result, after)) :
    Keeps guarantee state after ∧ ∀ refreshed, result = .ok refreshed →
      refreshed.serverName = request.origin ∧
        guarantee.Good after.keys request.origin refreshed.signingKey := by
  obtain ⟨hkeeps, hfound⟩ := knownRemote_keeps hsound hknown
  obtain ⟨hmem, hname⟩ := hfound remote rfl
  have hkey := hkeeps.remotes hremotes remote hmem
  rw [hname] at hkey
  refine And.imp_left hkeeps.trans ?_
  revert h
  fun_cases refreshRemoteKey server steadyNow request remote known <;> rintro ⟨⟩
  case case1 | case2 =>
    refine ⟨.refl, ?_⟩
    rintro refreshed ⟨⟩
    exact ⟨hname, hkey⟩
  next heq => exact ⟨admitLookup_keeps heq, by rintro refreshed ⟨⟩⟩
  case case4 hresolver _ _ heq _ hresolved | case5 hresolver _ _ heq _ _ hresolved _ =>
    have hkeeps := lookup_keeps (hsound _ hresolver) heq hresolved
    refine ⟨hkeeps, ?_⟩
    rintro refreshed ⟨⟩
    exact ⟨hname, guarantee.mono hkeeps.later hkey⟩
  next resolver hresolver _ admitted heq answer keys hresolved _ changed =>
    have hgood := ((hsound resolver hresolver).answered hresolved).2 answer.signingKey rfl
    have hkeeps := lookup_keeps (hsound _ hresolver) heq hresolved
    refine ⟨hkeeps.trans (persistRemoteSigningKey_keeps ?_), ?_⟩
    · rw [← hname] at hgood
      exact hgood
    · rintro refreshed ⟨⟩
      exact ⟨hname, hgood⟩

theorem resolveInboundRemote_keeps (hremotes : RemotesGood guarantee state)
    {result : Except FederationResponse (FederationRoute × FederationRemoteRuntime)}
    (h : resolveInboundRemote server steadyNow request state = (result, after)) :
    Keeps guarantee state after ∧ ∀ route remote, result = .ok (route, remote) →
      remote.serverName = request.origin ∧
        guarantee.Good after.keys request.origin remote.signingKey := by
  revert h
  fun_cases resolveInboundRemote server steadyNow request state <;> rintro ⟨⟩
  next => exact ⟨.refl, by rintro route remote ⟨⟩⟩
  next => exact ⟨.refl, by rintro route remote ⟨⟩⟩
  next heq => exact ⟨(knownRemote_keeps hsound heq).1, by rintro route remote ⟨⟩⟩
  next heq _ hrefreshed =>
    exact ⟨(refreshRemoteKey_keeps hsound hremotes heq hrefreshed).1, by rintro route remote ⟨⟩⟩
  next heq _ _ _ hrefreshed =>
    exact ⟨(refreshRemoteKey_keeps hsound hremotes heq hrefreshed).1, by rintro route remote ⟨⟩⟩
  next heq refreshed _ hrefreshed =>
    obtain ⟨hkeeps, hremote⟩ := refreshRemoteKey_keeps hsound hremotes heq hrefreshed
    refine ⟨hkeeps, ?_⟩
    rintro route remote ⟨⟩
    exact hremote refreshed rfl

end Keys

/-- The version of a room, which is 12 where nothing resolves it. -/
def resolvedRoomVersion (server : FederationServer Keys World Rates) (world : World)
    (roomId : Bytes) : Bytes :=
  (server.roomVersionResolver.map fun resolve => resolve world roomId).getD (utf8 "12")

def transactionPdus (server : FederationServer Keys World Rates)
    (request : SignedFederationRequest) : List Bytes :=
  ((parseTransactionBody server.yyjson request.body).toOption.map
    ParsedTransactionBody.pdus).getD []

def SignedUnder (sodium : Libsodium) (root : Object) (policy : RoomVersionPolicy)
    (key : FederationKeyRecord) : Prop :=
  ∃ signature payload, eventSignature root ⟨key.serverName, key.keyId⟩ = some signature ∧
    makeRoomEventSigningPayload (.object root) policy = .ok payload ∧
    ed25519Verify sodium key.publicKeyBytes payload (matrixBytesFromBase64 sodium signature) = true

/-- An envelope that was cut from a PDU, whose root and room version policy are
given: all checks passed on these bytes, under the key and in the world they were made
with. -/
structure VerifiedEnvelope (server : FederationServer Keys World Rates)
    (request : SignedFederationRequest) (key : FederationKeyRecord) (world : World)
    (envelope : InboundPduEnvelope) (encoded : Bytes) (root : Object)
    (policy : RoomVersionPolicy) : Prop where
  parsed : parseLossless server.yyjson encoded = .ok (.object root)
  json : envelope.json = encoded
  version : envelope.roomVersion = resolvedRoomVersion server world envelope.roomId ∧
    findRoomVersionPolicy envelope.roomVersion = some policy
  signer : key.serverName = userIdServerName envelope.sender
  unexpired : keyHasExpired key request.nowTs = false
  signed : SignedUnder server.sodium root policy key
  contentHash : verifyPduContentHash server.sodium (.object root) = true
  originAllowed : aclAllows server world envelope.roomId request.origin = true
  senderAllowed : aclAllows server world envelope.roomId (userIdServerName envelope.sender) = true
  eventId : envelope.eventId = makeReferenceHashEventId server.sodium (.object root) policy
  roomId : stringMember root "room_id" = some envelope.roomId
  sender : stringMember root "sender" = some envelope.sender
  eventType : stringMember root "type" = some envelope.eventType

/-- The state key of the envelope as it is read: empty where the event's is not
a text. -/
def ReadsStateKey (envelope : InboundPduEnvelope) (root : Object) : Prop :=
  envelope.stateKey =
    (objectMember root "state_key").map fun _ => (stringMember root "state_key").getD []

variable {request : SignedFederationRequest}

/-- The three parses of a PDU agree once its signature, its content hash and its
envelope were accepted. -/
theorem verifiedEnvelope_of_checks {world : World}
    {encoded : Bytes} {envelope : InboundPduEnvelope} {key : FederationKeyRecord}
    (hauthorized : authorizeFederationPdu server.yyjson server.sodium
      (readPdu server world encoded) (some key) request.nowTs = .ok ())
    (hacl : (readPdu server world encoded).roomId ≠ [] →
      aclAllows server world (readPdu server world encoded).roomId request.origin = true ∧
        aclAllows server world (readPdu server world encoded).roomId
          (userIdServerName (readPdu server world encoded).sender) = true)
    (hhash : contentHashVerifies server.yyjson server.sodium encoded = true)
    (henvelope : parseInboundPduEnvelope server.yyjson server.sodium encoded
      (readPdu server world encoded).roomVersion = some envelope) :
    ∃ root policy, VerifiedEnvelope server request key world envelope encoded root policy ∧
      ReadsStateKey envelope root := by
  obtain ⟨found, hfound, hroom, hserver, hexpired, hverified⟩ :=
    authorizeFederationPdu_ok hauthorized
  obtain rfl := Option.some.inj hfound
  obtain ⟨horigin, hsender⟩ := hacl hroom
  obtain ⟨policy, event, hpolicy, hjson, hparsed, hsignature⟩ := verifyPduSignature_ok hverified
  obtain ⟨value, parsedEvent, parsedPolicy, version, hvalue, hevent, hversion, hparsedPolicy,
    hpdu⟩ := parseFederationPdu_of_json hjson
  change readPdu server world encoded = _ at hpdu
  rw [hpdu] at hroom hserver horigin hsender hpolicy hparsed henvelope
  obtain ⟨root, envelopeEvent, envelopePolicy, hroot, henvelopeEvent, henvelopePolicy,
    heventId, hroomId, hroomVersion, henvelopeSender, htype, hstateKey, hbytes⟩ :=
    parseInboundPduEnvelope_some henvelope
  -- All three parses read the same bytes, so they give the same values.
  obtain rfl : value = .object root := Except.ok.inj (hvalue.symm.trans hroot)
  obtain rfl : event = .object root := Except.ok.inj (hparsed.symm.trans hroot)
  obtain rfl : parsedEvent = envelopeEvent := Except.ok.inj (hevent.symm.trans henvelopeEvent)
  have hnonempty : version.isEmpty = false := by
    rcases version with - | ⟨first, rest⟩
    · cases hparsedPolicy
    · rfl
  simp only [hnonempty, Bool.false_eq_true, if_false] at hpolicy henvelopePolicy hroomVersion
  obtain rfl : parsedPolicy = policy := Option.some.inj (hparsedPolicy.symm.trans hpolicy)
  obtain rfl : parsedPolicy = envelopePolicy :=
    Option.some.inj (hparsedPolicy.symm.trans henvelopePolicy)
  obtain ⟨members, hmembers, htypeMember, hsenderMember, hroomMember, hstateMember⟩ :=
    parseEventEnvelope_ok hevent
  obtain rfl := Value.object.inj hmembers
  have hroomEq : envelope.roomId = parsedEvent.roomId := hroomId hroom
  have hroomText : stringMember root "room_id" = some parsedEvent.roomId := by
    rcases htext : stringMember root "room_id" with - | text <;> rw [htext] at hroomMember
    · exact absurd hroomMember hroom
    · exact congrArg some hroomMember.symm
  obtain ⟨signedRoot, signature, payload, hsignedRoot, hcarried, hpayload, hverify⟩ :=
    verifyEventSignature_ok hsignature
  obtain rfl := Value.object.inj hsignedRoot
  refine ⟨root, parsedPolicy, ?_, ?_⟩
  · exact {
      parsed := hroot
      json := hbytes
      version := by
        rw [hroomVersion, hroomEq]
        refine ⟨?_, hparsedPolicy⟩
        rw [hversion, resolvedRoomVersion, Option.map_map]
        rfl
      signer := by rw [henvelopeSender]; exact hserver
      unexpired := hexpired
      signed := ⟨signature, payload, hcarried, hpayload, hverify⟩
      contentHash := by simpa [contentHashVerifies, hroot, Except.toOption] using hhash
      originAllowed := by rw [hroomEq]; exact horigin
      senderAllowed := by rw [hroomEq, henvelopeSender]; exact hsender
      eventId := heventId
      roomId := by rw [hroomText, hroomEq]
      sender := by rw [hsenderMember, henvelopeSender]
      eventType := by rw [htypeMember, htype] }
  · rw [ReadsStateKey, hstateKey, hstateMember]

section Events

variable (guarantee : KeyGuarantee Keys)

/-- What stands behind an event of the pipeline. -/
def Verified (server : FederationServer Keys World Rates) (request : SignedFederationRequest)
    (keys : Keys) : FederationEvent World → Prop
  | .requestVerified key now => now = request.nowTs ∧ guarantee.Good keys request.origin key ∧
      verifySignedFederationRequest server.yyjson server.sodium request key = .ok ()
  | .pduVerified key now => now = request.nowTs ∧
      (∃ serverName, guarantee.Good keys serverName key) ∧ keyHasExpired key now = false
  | .handedToSink key world envelope =>
      (guarantee.Good keys request.origin key ∨
        guarantee.Good keys (userIdServerName envelope.sender) key) ∧
      ∃ encoded ∈ transactionPdus server request, ∃ root policy,
        VerifiedEnvelope server request key world envelope encoded root policy ∧
          ReadsStateKey envelope root

variable {guarantee}

theorem Verified.mono {before after : Keys}
    (hlater : guarantee.Later before after) {event : FederationEvent World}
    (h : Verified guarantee server request before event) :
    Verified guarantee server request after event := by
  cases event with
  | requestVerified key now => exact ⟨h.1, guarantee.mono hlater h.2.1, h.2.2⟩
  | pduVerified key now =>
    obtain ⟨hnow, ⟨serverName, hgood⟩, hexpired⟩ := h
    exact ⟨hnow, ⟨serverName, guarantee.mono hlater hgood⟩, hexpired⟩
  | handedToSink key world envelope =>
    exact ⟨h.1.imp (guarantee.mono hlater) (guarantee.mono hlater), h.2⟩

/-- The keys that are at hand while a transaction is taken in, and what was
accepted so far. -/
structure ProgressGood (guarantee : KeyGuarantee Keys)
    (server : FederationServer Keys World Rates) (request : SignedFederationRequest)
    (signingKey : FederationKeyRecord) (senderKeys : SenderKeys)
    (progress : PduProgress Keys World) : Prop where
  signingKey : guarantee.Good progress.keys request.origin signingKey
  senderKeys : ∀ entry ∈ senderKeys, ∀ key, entry.2 = some key →
    guarantee.Good progress.keys entry.1.1 key
  events : ∀ event ∈ progress.events, Verified guarantee server request progress.keys event

theorem ProgressGood.grow {signingKey : FederationKeyRecord}
    {after : PduProgress Keys World}
    (h : ProgressGood guarantee server request signingKey senderKeys progress)
    (hlater : guarantee.Later progress.keys after.keys)
    (hevents : ∀ event ∈ after.events, event ∈ progress.events ∨
      Verified guarantee server request after.keys event) :
    ProgressGood guarantee server request signingKey senderKeys after := by
  refine ⟨guarantee.mono hlater h.signingKey, ?_, ?_⟩
  · intro entry hentry key hkey
    exact guarantee.mono hlater (h.senderKeys entry hentry key hkey)
  · intro event hevent
    rcases hevents event hevent with hold | hnew
    · exact (h.events event hold).mono hlater
    · exact hnew

variable {request : SignedFederationRequest} {signingKey : FederationKeyRecord}

theorem resolveSenderKeys_good (hsound : SoundResolver guarantee resolver) (keys : Keys)
    (pairs : List (Bytes × Bytes)) :
    guarantee.Later keys (resolveSenderKeys resolver keys pairs).2 ∧
      ∀ entry ∈ (resolveSenderKeys resolver keys pairs).1, ∀ key, entry.2 = some key →
        guarantee.Good (resolveSenderKeys resolver keys pairs).2 entry.1.1 key := by
  induction pairs generalizing keys with
  | nil => exact ⟨guarantee.refl _, by simp [resolveSenderKeys]⟩
  | cons pair rest ih =>
    obtain ⟨serverName, keyId⟩ := pair
    rcases hresolved : resolver keys serverName keyId with ⟨resolved, after⟩
    obtain ⟨hlater, hanswer⟩ := hsound.answered hresolved
    obtain ⟨hrest, hothers⟩ := ih after
    rw [resolveSenderKeys, hresolved]
    refine ⟨guarantee.trans hlater hrest, ?_⟩
    intro entry hentry key hkey
    rcases mem_cons.mp hentry with rfl | hmem
    · exact guarantee.mono hrest (hanswer key hkey)
    · exact hothers entry hmem key hkey

theorem ingestVerifiedPdu_cases (key : FederationKeyRecord) (progress : PduProgress Keys World)
    (pdu : FederationPdu) (encoded : Bytes) :
    (ingestVerifiedPdu server key progress pdu encoded).keys = progress.keys ∧
      ((ingestVerifiedPdu server key progress pdu encoded).events = progress.events ∨
        ∃ envelope, contentHashVerifies server.yyjson server.sodium encoded = true ∧
          parseInboundPduEnvelope server.yyjson server.sodium encoded pdu.roomVersion =
            some envelope ∧
          (ingestVerifiedPdu server key progress pdu encoded).events =
            progress.events ++ [.handedToSink key progress.world envelope]) := by
  fun_cases ingestVerifiedPdu server key progress pdu encoded
  case case4 sink _ hhash envelope henvelope =>
    exact ⟨rfl, .inr ⟨envelope, by simpa using hhash, henvelope, rfl⟩⟩
  all_goals exact ⟨rfl, .inl rfl⟩

theorem relayedSender_eq {origin serverName keyId : Bytes} {pdu : FederationPdu}
    (h : relayedSender origin pdu = some (serverName, keyId)) :
    serverName = userIdServerName pdu.sender := by
  rw [relayedSender] at h
  split_ifs at h
  cases h
  rfl

variable (hsound : ResolvesSoundly guarantee server)

include hsound

theorem preResolve_good (origin : Bytes) (world : World) (pdus : List Bytes) (keys : Keys) :
    guarantee.Later keys (preResolve server origin world pdus keys).2 ∧
      ∀ entry ∈ (preResolve server origin world pdus keys).1, ∀ key, entry.2 = some key →
        guarantee.Good (preResolve server origin world pdus keys).2 entry.1.1 key := by
  rw [preResolve]
  split
  next => exact ⟨guarantee.refl _, by simp⟩
  next resolver hresolver => exact resolveSenderKeys_good (hsound resolver hresolver) keys _

section

variable (hprogress : ProgressGood guarantee server request signingKey senderKeys progress)
include hprogress

theorem transactionPduKey_good (pdu : FederationPdu) {key : Option FederationKeyRecord}
    {keys : Keys} (h : transactionPduKey server request.origin signingKey senderKeys pdu
      progress.keys = (key, keys)) :
    guarantee.Later progress.keys keys ∧
      ∀ found, key = some found → guarantee.Good keys request.origin found ∨
        guarantee.Good keys (userIdServerName pdu.sender) found := by
  revert h
  fun_cases transactionPduKey server request.origin signingKey senderKeys pdu progress.keys <;>
    rintro ⟨⟩
  next serverName keyId hrelayed _ entry hentry =>
    have hpair : entry.1 = (serverName, keyId) := by simpa using find?_some hentry
    have hname := (congrArg Prod.fst hpair).trans (relayedSender_eq hrelayed)
    refine ⟨guarantee.refl _, fun found hfound => .inr ?_⟩
    exact hname ▸ hprogress.senderKeys entry (mem_of_find?_eq_some hentry) found hfound
  next resolver serverName keyId hrelayed hresolver _ resolved hresolved =>
    obtain ⟨hlater, hanswer⟩ := (hsound resolver hresolver).answered hresolved
    exact ⟨hlater, fun found hfound => .inr (relayedSender_eq hrelayed ▸ hanswer found hfound)⟩
  next =>
    refine ⟨guarantee.refl _, ?_⟩
    rintro found ⟨⟩
    exact .inl hprogress.signingKey

theorem ingestPdu_good {encoded : Bytes} (hmem : encoded ∈ transactionPdus server request) :
    guarantee.Later progress.keys
        (ingestPdu server request signingKey senderKeys progress encoded).keys ∧
      ProgressGood guarantee server request signingKey senderKeys
        (ingestPdu server request signingKey senderKeys progress encoded) := by
  fun_cases ingestPdu server request signingKey senderKeys progress encoded
  next =>
    exact ⟨guarantee.refl _, hprogress.grow (guarantee.refl _) fun event hevent => .inl hevent⟩
  next keys hkey =>
    obtain ⟨hlater, -⟩ := transactionPduKey_good hsound hprogress _ hkey
    exact ⟨hlater, hprogress.grow hlater fun event hevent => .inl hevent⟩
  next key keys hkey rejection hrejected =>
    obtain ⟨hlater, -⟩ := transactionPduKey_good hsound hprogress _ hkey
    exact ⟨hlater, hprogress.grow hlater fun event hevent => .inl hevent⟩
  next pdu hacl key keys hkey hauthorized =>
    obtain ⟨hlater, hgood⟩ := transactionPduKey_good hsound hprogress _ hkey
    obtain ⟨found, hfound, -, hsender, hexpired, -⟩ := authorizeFederationPdu_ok hauthorized
    obtain rfl := Option.some.inj hfound
    have hgood := hgood key rfl
    obtain ⟨hkeys, hevents⟩ := ingestVerifiedPdu_cases key
      { progress with
        keys := keys
        events := progress.events ++ [.pduVerified key request.nowTs] } pdu encoded
    dsimp only at hkeys hevents
    rw [← hkeys] at hlater hgood
    have hverified : Verified guarantee server request _ (.pduVerified key request.nowTs) :=
      ⟨rfl, hgood.elim (⟨_, ·⟩) (⟨_, ·⟩), hexpired⟩
    refine ⟨hlater, hprogress.grow hlater ?_⟩
    rcases hevents with hevents | ⟨envelope, hhash, henvelope, hevents⟩ <;> rw [hevents] <;>
      intro event hevent <;>
      simp only [append_assoc, mem_append, cons_append, nil_append,
        mem_cons, not_mem_nil, or_false] at hevent
    · rcases hevent with hold | rfl
      · exact .inl hold
      · exact .inr hverified
    · rcases hevent with hold | rfl | rfl
      · exact .inl hold
      · exact .inr hverified
      · obtain ⟨root, policy, henvelope⟩ :=
          verifiedEnvelope_of_checks hauthorized (by simpa using hacl) hhash henvelope
        rw [← hsender, henvelope.1.signer] at hgood
        exact .inr ⟨hgood, encoded, hmem, root, policy, henvelope⟩

theorem ingestPdus_good {pdus : List Bytes}
    (hpdus : ∀ encoded ∈ pdus, encoded ∈ transactionPdus server request) :
    guarantee.Later progress.keys
        (pdus.foldl (ingestPdu server request signingKey senderKeys) progress).keys ∧
      ProgressGood guarantee server request signingKey senderKeys
        (pdus.foldl (ingestPdu server request signingKey senderKeys) progress) := by
  induction pdus generalizing progress with
  | nil => exact ⟨guarantee.refl _, hprogress⟩
  | cons encoded rest ih =>
    obtain ⟨hlater, hnext⟩ := ingestPdu_good hsound hprogress (hpdus encoded mem_cons_self)
    obtain ⟨hrest, hafter⟩ :=
      ih hnext fun other hother => hpdus other (mem_cons_of_mem _ hother)
    exact ⟨guarantee.trans hlater hrest, hafter⟩

end

structure Serves (guarantee : KeyGuarantee Keys)
    (server : FederationServer Keys World Rates) (request : SignedFederationRequest)
    (before : FederationRuntimeState Keys World Rates) (handled : Handled Keys World Rates) :
    Prop where
  keeps : Keeps guarantee before handled.state
  events : ∀ event ∈ handled.events, Verified guarantee server request handled.state.keys event

omit hsound in
theorem readTransaction_eq {transaction : FederationTransaction} {edus : List (Bytes × Bytes)}
    (h : readTransaction server request = .ok (transaction, edus)) :
    transaction.transactionId = transactionIdFromSendTarget request.target ∧
      transaction.pdus = transactionPdus server request := by
  revert h
  fun_cases readTransaction server request <;> intro h <;> try cases h
  next body hbody _ _ _ =>
    obtain ⟨rfl, -⟩ := Prod.mk.inj (Except.ok.inj h)
    rw [transactionPdus, hbody]
    exact ⟨rfl, rfl⟩

omit hsound in
theorem Serves.of_silent {before : FederationRuntimeState Keys World Rates}
    {handled : Handled Keys World Rates} (hkeeps : Keeps guarantee before handled.state)
    (hevents : handled.events = []) : Serves guarantee server request before handled :=
  ⟨hkeeps, by simp [hevents]⟩

theorem membershipPduKey_good (pdu : FederationPdu) {keys after : Keys}
    {key : Option FederationKeyRecord}
    (hsigning : ∃ serverName, guarantee.Good keys serverName signingKey)
    (h : membershipPduKey server request signingKey pdu keys = (key, after)) :
    guarantee.Later keys after ∧
      ∀ found, key = some found → ∃ serverName, guarantee.Good after serverName found := by
  revert h
  fun_cases membershipPduKey server request signingKey pdu keys <;> intro h <;>
    obtain ⟨rfl, rfl⟩ := Prod.mk.inj h
  case case1 | case2 =>
    refine ⟨guarantee.refl _, ?_⟩
    rintro found ⟨⟩
    exact hsigning
  next => exact ⟨guarantee.refl _, by rintro found ⟨⟩⟩
  next resolver hresolver _ _ _ resolved _ hresolved =>
    obtain ⟨hlater, hanswer⟩ := (hsound resolver hresolver).answered hresolved
    exact ⟨hlater, fun found hfound => ⟨_, hanswer found hfound⟩⟩

section

variable (route : FederationRoute)

section

variable (hsigning : ∃ serverName, guarantee.Good state.keys serverName signingKey)

include hsigning

theorem acceptMembershipPdu_serves (pdu : FederationPdu)
    (rejected : FederationRejection → FederationResponse) (badHash : FederationResponse)
    (accept : World → FederationResponse × World) :
    Serves guarantee server request state
      (acceptMembershipPdu server request signingKey pdu state rejected badHash accept) := by
  rcases hkey : membershipPduKey server request signingKey pdu state.keys with ⟨key, keys⟩
  obtain ⟨hlater, hgood⟩ := membershipPduKey_good hsound pdu hsigning hkey
  rw [acceptMembershipPdu, hkey]
  dsimp only
  split
  next => exact .of_silent (.of_frame rfl hlater) rfl
  next hauthorized =>
    obtain ⟨found, rfl, -, -, hexpired, -⟩ := authorizeFederationPdu_ok hauthorized
    have hevents : ∀ event ∈ (some found).toList.map fun key =>
        (.pduVerified key request.nowTs : FederationEvent World),
        Verified guarantee server request keys event := by
      intro event hevent
      obtain rfl : event = .pduVerified found request.nowTs := by simpa using hevent
      exact ⟨rfl, hgood found rfl, hexpired⟩
    split
    · exact ⟨.of_frame rfl hlater, hevents⟩
    · exact ⟨.of_frame rfl hlater, hevents⟩

theorem handleSendMembership_serves :
    Serves guarantee server request state
      (handleSendMembership server request route signingKey state) := by
  fun_cases handleSendMembership server request route signingKey state
  case case5 => exact acceptMembershipPdu_serves hsound hsigning _ _ _ _
  all_goals exact .of_silent .refl rfl

theorem dispatchNonTransactionEndpoint_serves :
    Serves guarantee server request state
      (dispatchNonTransactionEndpoint server request route signingKey state) := by
  rw [dispatchNonTransactionEndpoint]
  split
  · exact handleSendMembership_serves hsound route hsigning
  · exact handleSendMembership_serves hsound route hsigning
  · exact handleSendMembership_serves hsound route hsigning
  · fun_cases handleInvite server request route signingKey state
    case case7 => exact acceptMembershipPdu_serves hsound hsigning _ _ _ _
    all_goals exact .of_silent .refl rfl
  · exact .of_silent .refl rfl
  · exact .of_silent (.of_frame rfl (guarantee.refl _)) rfl

end

variable (hkey : guarantee.Good state.keys request.origin remote.signingKey)
include hkey

theorem ingestTransaction_serves {transaction : FederationTransaction}
    (hpdus : ∀ encoded ∈ transaction.pdus, encoded ∈ transactionPdus server request)
    (edus : List (Bytes × Bytes)) :
    Serves guarantee server request state
      (ingestTransaction server request remote transaction edus state) := by
  obtain ⟨hpre, hsenders⟩ :=
    preResolve_good hsound request.origin state.world transaction.pdus state.keys
  have hstart : ProgressGood guarantee server request remote.signingKey
      (preResolve server request.origin state.world transaction.pdus state.keys).1
      { keys := (preResolve server request.origin state.world transaction.pdus state.keys).2
        world := state.world } :=
    ⟨guarantee.mono hpre hkey, hsenders, by simp⟩
  obtain ⟨hlater, hprogress⟩ := ingestPdus_good hsound hstart hpdus
  refine ⟨?_, hprogress.events⟩
  change Keeps guarantee state (persistRemoteTrust _ remote _)
  refine Keeps.trans ?_ (persistRemoteTrust_keeps _)
  exact .of_frame rfl (guarantee.trans hpre hlater)

theorem handleTransaction_serves :
    Serves guarantee server request state (handleTransaction server request remote state) := by
  fun_cases handleTransaction server request remote state
  next => exact .of_silent (persistRemoteTrust_keeps _) rfl
  next => exact .of_silent (.of_frame rfl (guarantee.refl _)) rfl
  next limited _ =>
    refine .of_silent ?_ rfl
    refine Keeps.trans ?_ (persistRemoteTrust_keeps _)
    exact .of_frame rfl (guarantee.refl _)
  next transaction edus hread rates limited _ _ =>
    have hpdus : ∀ encoded ∈ transaction.pdus, encoded ∈ transactionPdus server request := by
      rw [(readTransaction_eq hread).2]
      exact fun _ h => h
    have hserves : Serves guarantee server request limited
        (ingestTransaction server request remote transaction edus limited) :=
      ingestTransaction_serves hsound (by exact hkey) hpdus edus
    have hlimited : Keeps guarantee state limited := .of_frame rfl (guarantee.refl _)
    exact ⟨hlimited.trans hserves.keeps, hserves.events⟩

theorem handleEndpoint_serves :
    Serves guarantee server request state (handleEndpoint server request route remote state) := by
  rcases hrate : server.originRequestRate state.rates request.origin with ⟨refusal, rates⟩
  have hlimited : Keeps guarantee state { state with rates := rates } :=
    .of_frame rfl (guarantee.refl _)
  have hserves : Serves guarantee server request { state with rates := rates }
      (dispatchNonTransactionEndpoint server request route remote.signingKey
        { state with rates := rates }) :=
    dispatchNonTransactionEndpoint_serves hsound route ⟨_, hkey⟩
  rw [handleEndpoint, hrate]
  dsimp only
  split
  · exact .of_silent hlimited rfl
  · split
    · exact ⟨(hlimited.trans hserves.keeps).trans (persistRemoteTrust_keeps _), hserves.events⟩
    · exact ⟨hlimited.trans hserves.keeps, hserves.events⟩

end

theorem handleInboundFederationRequest_serves (steadyNow : Nat) (request : SignedFederationRequest)
    (hremotes : RemotesGood guarantee state) :
    Serves guarantee server request state
      (handleInboundFederationRequest server steadyNow request state) := by
  rw [handleInboundFederationRequest]
  rcases hresolve : resolveInboundRemote server steadyNow request state with
    ⟨response | ⟨route, remote⟩, resolved⟩
  · exact .of_silent (resolveInboundRemote_keeps hsound hremotes hresolve).1 rfl
  · obtain ⟨hkeeps, hremote⟩ := resolveInboundRemote_keeps hsound hremotes hresolve
    obtain ⟨-, hgood⟩ := hremote route remote rfl
    have hserves : Serves guarantee server request resolved
        (serveAuthenticated server request route remote resolved) := by
      rw [serveAuthenticated]
      split
      · exact .of_silent .refl rfl
      · split
        · exact handleTransaction_serves hsound hgood
        · exact handleEndpoint_serves hsound route hgood
    dsimp only at hkeeps hgood ⊢
    split
    · exact ⟨hkeeps.trans hserves.keeps, hserves.events⟩
    · rw [checkInboundRequestSignature]
      rcases hverify : verifySignedFederationRequest server.yyjson server.sodium request
        remote.signingKey with rejection | ⟨⟩
      · exact .of_silent (hkeeps.trans (persistRemoteTrust_keeps _)) rfl
      · refine ⟨hkeeps.trans hserves.keeps, ?_⟩
        exact forall_mem_cons.mpr
          ⟨⟨rfl, guarantee.mono hserves.keeps.later hgood, hverify⟩, hserves.events⟩

end Events

end Merovingian.PipelineSafety
