import Merovingian.CanonicalRoundTrip
import Merovingian.TransactionIngestion

/-!
The answer to a transaction. Each PDU ends in one of three ways: it is persisted,
it fails a check that adds an entry to the answer, or it fails later, which adds
none. So the answer reports the failures exactly when the entries form an object
and the second kind of failure does not stay without one.
-/

namespace Merovingian.SendResponses

open ByteString JsonText JsonValue CanonicalSerializer CanonicalParser CanonicalForm EventSigning
  RoomVersions PduIngestion EventEnvelopes FederationPolicy FederationPdus InboundRequests
  PipelineSafety TransactionIngestion List
open Identifiers (userIdServerName)

variable {Keys World Rates : Type} {pdu : FederationPdu} {request : SignedFederationRequest}
  {rejection : FederationRejection} {sodium : Libsodium} {yyjson : Yyjson}

structure AcceptedTransaction (Keys World Rates : Type) where
  remote : FederationRemoteRuntime
  transaction : FederationTransaction
  edus : List (Bytes × Bytes)
  state : FederationRuntimeState Keys World Rates

section Accepted

variable (server : FederationServer Keys World Rates)

/-- The transaction of a request to `send`, if it is neither refused nor a
repeated one. -/
def newTransaction (request : SignedFederationRequest) (remote : FederationRemoteRuntime)
    (state : FederationRuntimeState Keys World Rates) :
    Option (AcceptedTransaction Keys World Rates) :=
  match readTransaction server request with
  | .error _ => none
  | .ok (transaction, edus) =>
    match server.originTransactionRate state.rates request.origin transaction.pdus.length
        transaction.edus.length with
    | (some _, _) => none
    | (none, rates) =>
      if transactionAlreadyAccepted state request.origin transaction.transactionId then none
      else some ⟨remote, transaction, edus, { state with rates := rates }⟩

def acceptedTransaction (steadyNow : Nat) (request : SignedFederationRequest)
    (state : FederationRuntimeState Keys World Rates) :
    Option (AcceptedTransaction Keys World Rates) :=
  match resolveInboundRemote server steadyNow request state with
  | (.error _, _) => none
  | (.ok (route, remote), state) =>
    if !request.signatureVerified &&
        (checkInboundRequestSignature server request remote state).1.isSome then none
    else if (checkRoomAclForEndpoint server state.world request route).isSome ||
        route.endpoint ≠ .transaction then none
    else newTransaction server request remote state

variable {server}

variable {steadyNow : Nat} {response : FederationResponse} {remote : FederationRemoteRuntime}
  {state : FederationRuntimeState Keys World Rates}

theorem handleTransaction_of_new {accepted : AcceptedTransaction Keys World Rates}
    (h : newTransaction server request remote state = some accepted) :
    handleTransaction server request remote state =
      ingestTransaction server request accepted.remote accepted.transaction accepted.edus
        accepted.state := by
  revert h
  fun_cases newTransaction server request remote state <;> intro h
  case case4 transaction edus hread rates hrate hknown =>
    cases h
    simp only [handleTransaction, hread, hrate]
    exact if_neg hknown
  all_goals cases h

theorem checkInboundRequestSignature_none
    (h : (checkInboundRequestSignature server request remote state).1 = none) :
    checkInboundRequestSignature server request remote state = (none, state) := by
  rw [checkInboundRequestSignature] at h ⊢
  rcases hverify : verifySignedFederationRequest server.yyjson server.sodium request
    remote.signingKey with rejection | -
  · rw [hverify] at h
    cases h
  · rfl

theorem handle_of_accepted {accepted : AcceptedTransaction Keys World Rates}
    (h : acceptedTransaction server steadyNow request state = some accepted) :
    (handleInboundFederationRequest server steadyNow request state).response =
      (ingestTransaction server request accepted.remote accepted.transaction accepted.edus
        accepted.state).response ∧
    (handleInboundFederationRequest server steadyNow request state).state =
      (ingestTransaction server request accepted.remote accepted.transaction accepted.edus
        accepted.state).state := by
  rw [acceptedTransaction] at h
  rw [handleInboundFederationRequest]
  rcases hresolve : resolveInboundRemote server steadyNow request state with
    ⟨response | ⟨route, remote⟩, resolved⟩ <;> rw [hresolve] at h
  · cases h
  · dsimp only at h ⊢
    split_ifs at h with hsignature hacl
    have hserve : serveAuthenticated server request route remote resolved =
        ingestTransaction server request accepted.remote accepted.transaction accepted.edus
          accepted.state := by
      simp only [Bool.or_eq_true, decide_eq_true_eq, not_or, Option.not_isSome_iff_eq_none,
        not_not] at hacl
      rw [serveAuthenticated, hacl.1, ← handleTransaction_of_new h]
      exact if_pos hacl.2
    split_ifs with hverified
    · rw [hserve]
      exact ⟨rfl, rfl⟩
    · rw [checkInboundRequestSignature_none (by simpa [hverified] using hsignature)]
      dsimp only
      rw [hserve]
      exact ⟨rfl, rfl⟩

/-- A check that records no transaction, and that refuses with an answer other
than 200. -/
structure Refuses (before : FederationRuntimeState Keys World Rates)
    (refusal : Option FederationResponse) (after : FederationRuntimeState Keys World Rates) :
    Prop where
  accepted : after.acceptedTransactions = before.acceptedTransactions
  status : ∀ response ∈ refusal, response.status ≠ 200

def refusalOf {α : Type} : Except FederationResponse α → Option FederationResponse
  | .error response => some response
  | .ok _ => none

theorem Refuses.trans {first second third : FederationRuntimeState Keys World Rates}
    {refusal refusal' : Option FederationResponse} (h : Refuses first refusal second)
    (h' : Refuses second refusal' third) : Refuses first refusal' third :=
  ⟨h'.accepted.trans h.accepted, h'.status⟩

theorem Refuses.of_status (h : response.status ≠ 200) : Refuses state (some response) state :=
  ⟨rfl, by rintro _ ⟨⟩; exact h⟩

theorem Refuses.pass {after : FederationRuntimeState Keys World Rates}
    (h : after.acceptedTransactions = state.acceptedTransactions) : Refuses state none after :=
  ⟨h, by rintro _ ⟨⟩⟩

section Gates

variable {after : FederationRuntimeState Keys World Rates}
  {result : Except FederationResponse FederationRemoteRuntime}

theorem admitLookup_refuses {refusal : Option Bytes}
    (h : admitLookup server steadyNow request state = (refusal, after)) :
    Refuses state none after := by
  have haccepted := (admitLookup_frame server steadyNow request state).2.2.2
  rw [h] at haccepted
  exact .pass haccepted

theorem discoverRemote_refuses {resolver : RemoteKeyResolver Keys}
    {refusal : Option FederationResponse}
    (h : discoverRemote server resolver steadyNow request state = (refusal, after)) :
    Refuses state refusal after := by
  revert h
  fun_cases discoverRemote server resolver steadyNow request state <;> rintro ⟨⟩
  next heq => exact (admitLookup_refuses heq).trans (.of_status (by simp))
  next heq _ _ => exact .pass (admitLookup_refuses heq).accepted
  next heq _ _ _ => exact .pass (admitLookup_refuses heq).accepted

theorem knownRemote_refuses (h : knownRemote server steadyNow request state = (result, after)) :
    Refuses state (refusalOf result) after := by
  revert h
  fun_cases knownRemote server steadyNow request state <;> rintro ⟨⟩
  next => exact .pass rfl
  next => exact .of_status (by decide)
  next heq => exact discoverRemote_refuses heq
  next heq _ => exact (discoverRemote_refuses heq).trans (.of_status (by decide))
  next heq _ => exact discoverRemote_refuses heq

theorem refreshRemoteKey_refuses
    (h : refreshRemoteKey server steadyNow request remote state = (result, after)) :
    Refuses state (refusalOf result) after := by
  revert h
  fun_cases refreshRemoteKey server steadyNow request remote state <;> rintro ⟨⟩
  next => exact .pass rfl
  next => exact .pass rfl
  next heq => exact (admitLookup_refuses heq).trans (.of_status (by simp))
  next heq _ _ => exact .pass (admitLookup_refuses heq).accepted
  next heq _ _ _ _ => exact .pass (admitLookup_refuses heq).accepted
  next heq _ _ _ _ _ => exact .pass (admitLookup_refuses heq).accepted

theorem remotePolicy_status (h : remotePolicy server remote = .error response) :
    response.status ≠ 200 := by
  revert h
  fun_cases remotePolicy server remote <;> intro h <;> cases h
  · simp
  · dsimp only
    split_ifs <;> simp

theorem resolveInboundRemote_refuses
    {result : Except FederationResponse (FederationRoute × FederationRemoteRuntime)}
    (h : resolveInboundRemote server steadyNow request state = (result, after)) :
    Refuses state (refusalOf result) after := by
  revert h
  fun_cases resolveInboundRemote server steadyNow request state <;> rintro ⟨⟩
  next => exact .of_status (by simp)
  next => exact .of_status (by simp)
  next heq => exact knownRemote_refuses heq
  next heq _ hrefreshed =>
    exact (knownRemote_refuses heq).trans (refreshRemoteKey_refuses hrefreshed)
  next heq _ _ hpolicy hrefreshed =>
    exact ((knownRemote_refuses heq).trans (refreshRemoteKey_refuses hrefreshed)).trans
      (.of_status (remotePolicy_status hpolicy))
  next heq _ _ hrefreshed =>
    exact (knownRemote_refuses heq).trans (refreshRemoteKey_refuses hrefreshed)

end Gates

theorem verifySignedFederationRequest_status {key : FederationKeyRecord}
    (h : verifySignedFederationRequest yyjson sodium request key = .error rejection) :
    rejection.status = 403 := by
  rw [verifySignedFederationRequest] at h
  split_ifs at h
  · cases h
    rfl
  · cases h
    rfl
  · cases h
    rfl
  · rcases hverify : verifyFederationRequestSignature request with reason | ⟨⟩ <;> rw [hverify] at h
    · cases h
      rfl
    · cases h

theorem checkRoomAclForEndpoint_status {world : World} {route : FederationRoute}
    (h : checkRoomAclForEndpoint server world request route = some response) :
    response.status ≠ 200 := by
  revert h
  fun_cases checkRoomAclForEndpoint server world request route <;> intro h <;> cases h
  simp

theorem resolveInboundRemote_route {route : FederationRoute}
    (h : (resolveInboundRemote server steadyNow request state).1 = .ok (route, remote)) :
    matchFederationRoute request.method request.target = some route := by
  revert h
  fun_cases resolveInboundRemote server steadyNow request state <;> intro h <;> cases h
  assumption

theorem readTransaction_status (h : readTransaction server request = .error response) :
    response.status ≠ 200 := by
  revert h
  fun_cases readTransaction server request <;> intro h <;> cases h <;> simp

theorem new_of_handleTransaction_ok
    (hok : (handleTransaction server request remote state).response.status = 200)
    (hnew : transactionAlreadyAccepted state request.origin
      (transactionIdFromSendTarget request.target) = false) :
    ∃ accepted, newTransaction server request remote state = some accepted := by
  rw [handleTransaction] at hok
  rw [newTransaction]
  rcases hread : readTransaction server request with response | ⟨transaction, edus⟩
  · rw [hread] at hok
    exact absurd hok (readTransaction_status hread)
  · simp only [hread] at hok ⊢
    rcases hrate : server.originTransactionRate state.rates request.origin transaction.pdus.length
      transaction.edus.length with ⟨- | reason, rates⟩
    · rw [(readTransaction_eq hread).1, hnew]
      exact ⟨_, rfl⟩
    · simp only [hrate] at hok
      cases hok

end Accepted

section Outcomes

/-- How a PDU of a transaction ends: it is persisted, or it fails with an entry in
the answer or without one. -/
inductive PduOutcome where
  | persisted
  | reported (reason : Bytes)
  | unreported
deriving DecidableEq

variable (server : FederationServer Keys World Rates)

/-- What the sink makes of an envelope, and the resolver of a fork. -/
def sinkOutcome (sink : World → InboundPduEnvelope → PduIngestionResult × World) (world : World)
    (envelope : InboundPduEnvelope) : PduOutcome :=
  let (ingestion, world) := sink world envelope
  match ingestion.status, server.stateConflictResolver, ingestion.stateConflict with
  | .accepted, _, _ => .persisted
  | .rejectedStateConflict, some resolver, some conflict =>
    if (resolver world conflict).1.status = .accepted then .persisted else .unreported
  | _, _, _ => .unreported

section

variable (request : SignedFederationRequest) (accepted : AcceptedTransaction Keys World Rates)

def verifiedPduOutcome (world : World) (pdu : FederationPdu) (encoded : Bytes) : PduOutcome :=
  match server.pduSink with
  | none => .unreported
  | some sink =>
    if !contentHashVerifies server.yyjson server.sodium encoded then
      .reported "PDU content hash verification failed"
    else
      match parseInboundPduEnvelope server.yyjson server.sodium encoded pdu.roomVersion with
      | none => .unreported
      | some envelope => sinkOutcome server sink world envelope

def pduOutcome (signingKey : FederationKeyRecord) (senderKeys : SenderKeys)
    (progress : PduProgress Keys World) (encoded : Bytes) : Bytes × PduOutcome :=
  let pdu := readPdu server progress.world encoded
  (pdu.eventId, if !pdu.roomId.isEmpty &&
        !(aclAllows server progress.world pdu.roomId request.origin &&
          aclAllows server progress.world pdu.roomId (userIdServerName pdu.sender)) then
      .reported "server is denied by room ACL"
    else
      match transactionPduKey server request.origin signingKey senderKeys pdu progress.keys with
      | (none, _) => .reported "relayed PDU: could not resolve sender domain signing key"
      | (some key, _) =>
        match authorizeFederationPdu server.yyjson server.sodium pdu (some key) request.nowTs with
        | .error rejection => .reported rejection.reason
        | .ok () => verifiedPduOutcome server progress.world pdu encoded)

def pduOutcomes (request : SignedFederationRequest) (signingKey : FederationKeyRecord)
    (senderKeys : SenderKeys) :
    PduProgress Keys World → List Bytes → List (Bytes × PduOutcome)
  | _, [] => []
  | progress, encoded :: rest =>
    pduOutcome server request signingKey senderKeys progress encoded ::
      pduOutcomes request signingKey senderKeys
        (ingestPdu server request signingKey senderKeys progress encoded) rest

def transactionOutcomes : List (Bytes × PduOutcome) :=
  let (senderKeys, keys) := preResolve server request.origin accepted.state.world
    accepted.transaction.pdus accepted.state.keys
  pduOutcomes server request accepted.remote.signingKey senderKeys
    { keys := keys, world := accepted.state.world } accepted.transaction.pdus

def ingestedPdus : PduProgress Keys World :=
  let (senderKeys, keys) := preResolve server request.origin accepted.state.world
    accepted.transaction.pdus accepted.state.keys
  accepted.transaction.pdus.foldl
    (ingestPdu server request accepted.remote.signingKey senderKeys)
    { keys := keys, world := accepted.state.world }

end

def errorEntry : Bytes × PduOutcome → Object
  | (eventId, .reported reason) => [(eventId, .object [(utf8 "error", .string reason)])]
  | _ => []

variable {server}

theorem ingestVerifiedPdu_errors (key : FederationKeyRecord) (progress : PduProgress Keys World)
    (pdu : FederationPdu) (encoded : Bytes) :
    (ingestVerifiedPdu server key progress pdu encoded).errors = progress.errors ++
        errorEntry (pdu.eventId, verifiedPduOutcome server progress.world pdu encoded) := by
  rw [verifiedPduOutcome]
  fun_cases ingestVerifiedPdu server key progress pdu encoded
  case case1 hsink =>
    rw [hsink]
    exact (append_nil _).symm
  case case2 sink hsink hhash =>
    simp only [hsink, hhash]
    rfl
  case case3 sink hsink hhash hparse =>
    simp only [hsink, hhash, hparse]
    exact (append_nil _).symm
  case case4 sink hsink hhash envelope hparse =>
    have hsilent :
        errorEntry (pdu.eventId, sinkOutcome server sink progress.world envelope) = [] := by
      fun_cases sinkOutcome server sink progress.world envelope <;> rfl
    simp only [hsink, hhash, hparse]
    rw [if_neg Bool.false_ne_true, hsilent, append_nil]
    rfl

variable (request : SignedFederationRequest)

theorem ingestPdu_errors (signingKey : FederationKeyRecord) (senderKeys : SenderKeys)
    (progress : PduProgress Keys World) (encoded : Bytes) :
    (ingestPdu server request signingKey senderKeys progress encoded).errors = progress.errors ++
        errorEntry (pduOutcome server request signingKey senderKeys progress encoded) := by
  rw [pduOutcome]
  fun_cases ingestPdu server request signingKey senderKeys progress encoded
  case case1 pdu hacl =>
    rw [if_pos hacl]
    rfl
  case case2 pdu hacl keys hkey =>
    simp only [pdu] at hacl hkey
    simp only [hacl, hkey]
    rfl
  case case3 pdu hacl key keys hkey rejection hrejected =>
    simp only [pdu] at hacl hkey hrejected
    simp only [hacl, hkey, hrejected]
    rfl
  case case4 pdu hacl key keys hkey hauthorized =>
    simp only [pdu] at hacl hkey hauthorized ⊢
    rw [ingestVerifiedPdu_errors]
    simp only [hacl, hkey, hauthorized]
    rfl

theorem ingestPdus_errors (signingKey : FederationKeyRecord) (senderKeys : SenderKeys)
    (progress : PduProgress Keys World) (pdus : List Bytes) :
    (pdus.foldl (ingestPdu server request signingKey senderKeys) progress).errors =
      progress.errors ++
        (pduOutcomes server request signingKey senderKeys progress pdus).flatMap errorEntry := by
  induction pdus generalizing progress with
  | nil => exact (append_nil _).symm
  | cons encoded pdus ih =>
    rw [foldl_cons, ih, ingestPdu_errors, pduOutcomes, flatMap_cons, append_assoc]

end Outcomes

section Reasons

theorem verifyEventSignature_reason {event : Value} {policy : RoomVersionPolicy}
    {keyId : SigningKeyId} {publicKey reason : Bytes}
    (h : verifyEventSignature sodium event policy keyId publicKey = .error reason) :
    utf8IsValid reason = true := by
  rw [verifyEventSignature, verifyEventSignatureWith] at h
  rcases hpresence : verifyEventSignaturePresence sodium event keyId with error | signature <;>
    rw [hpresence] at h
  · cases h
    revert hpresence
    fun_cases verifyEventSignaturePresence sodium event keyId <;> intro h <;> cases h <;>
      decide +kernel
  · rcases hpayload : makeRoomEventSigningPayload event policy with error | payload <;>
      simp only [hpayload] at h
    · cases h
      cases error <;> decide +kernel
    · rw [ed25519VerifyResult] at h
      split_ifs at h <;> cases h <;> decide +kernel

theorem verifyPduSignature_reason {key : FederationKeyRecord}
    (h : verifyPduSignature yyjson sodium pdu key = .error rejection) :
    utf8IsValid rejection.reason = true := by
  revert h
  fun_cases verifyPduSignature yyjson sodium pdu key <;> intro h
  case case4 policy _ _ event _ =>
    rcases hverify : verifyEventSignature sodium event policy ⟨key.serverName, key.keyId⟩
      key.publicKeyBytes with reason | ⟨⟩ <;> rw [hverify] at h
    · cases h
      exact verifyEventSignature_reason hverify
    · cases h
  all_goals
    cases h
    decide +kernel

theorem authorizeFederationPdu_reason {key : Option FederationKeyRecord} {nowTs : Nat}
    (h : authorizeFederationPdu yyjson sodium pdu key nowTs = .error rejection) :
    utf8IsValid rejection.reason = true := by
  revert h
  fun_cases authorizeFederationPdu yyjson sodium pdu key nowTs <;> intro h
  case case2 reason hsigner =>
    cases h
    revert hsigner
    fun_cases verifyFederationEventSignatures pdu.signatures (userIdServerName pdu.sender) <;>
      intro hsigner <;> cases hsigner <;> decide +kernel
  case case6 =>
    exact verifyPduSignature_reason h
  all_goals
    cases h
    decide +kernel

end Reasons

section Answers

def reportedId : Bytes × PduOutcome → Option Bytes
  | (eventId, .reported _) => some eventId
  | _ => none

def reportedIds (outcomes : List (Bytes × PduOutcome)) : List Bytes :=
  outcomes.filterMap reportedId

def ReportsError (entries : List (Bytes × Json)) (eventId : Bytes) : Prop :=
  ∃ fields reason, (eventId, Json.object fields) ∈ entries ∧
    (utf8 "error", Json.string reason) ∈ fields

/-- The answer is a JSON object whose `pdus` have an error for each PDU that was
not persisted, and for no other. -/
def Faithful (body : Bytes) (outcomes : List (Bytes × PduOutcome)) : Prop :=
  ∃ members entries, readJson utf8IsValid body = some (.object members) ∧
    (utf8 "pdus", Json.object entries) ∈ members ∧
    ∀ result ∈ outcomes, ReportsError entries result.1 ↔ result.2 ≠ .persisted

/-- What makes the entries tell: they are those of an object, a failure without
one is of an event that has another, and no event with one is persisted too. -/
structure EntriesTell (outcomes : List (Bytes × PduOutcome)) : Prop where
  distinct : (reportedIds outcomes).Nodup
  valid : ∀ eventId ∈ reportedIds outcomes, utf8IsValid eventId = true
  failures : ∀ result ∈ outcomes, result.1 ∈ reportedIds outcomes ↔ result.2 ≠ .persisted

theorem keys_errorEntries (outcomes : List (Bytes × PduOutcome)) :
    (outcomes.flatMap errorEntry).map Prod.fst = reportedIds outcomes := by
  induction outcomes with
  | nil => rfl
  | cons result outcomes ih =>
    rw [flatMap_cons, map_append, ih, reportedIds, reportedIds, filterMap_cons]
    rcases result with ⟨eventId, - | reason | -⟩ <;> rfl

def ReasonsValid (outcomes : List (Bytes × PduOutcome)) : Prop :=
  ∀ eventId reason, (eventId, PduOutcome.reported reason) ∈ outcomes → utf8IsValid reason = true

variable {outcomes : List (Bytes × PduOutcome)}

theorem mem_errorEntries {entry : Bytes × Value} :
    entry ∈ outcomes.flatMap errorEntry ↔ ∃ reason, (entry.1, .reported reason) ∈ outcomes ∧
      entry.2 = .object [(utf8 "error", .string reason)] := by
  rw [mem_flatMap]
  constructor
  · rintro ⟨⟨eventId, - | reason | -⟩, hmem, hentry⟩
    · cases hentry
    · obtain rfl := mem_singleton.mp hentry
      exact ⟨reason, hmem, rfl⟩
    · cases hentry
  · rintro ⟨reason, hmem, hvalue⟩
    exact ⟨_, hmem, mem_singleton.mpr (Prod.ext rfl hvalue)⟩

theorem hasCanonicalForm_errorEntries (hreasons : ReasonsValid outcomes) :
    HasCanonicalForm (.object [(utf8 "pdus", .object (outcomes.flatMap errorEntry))]) ↔
      (reportedIds outcomes).Nodup ∧
        ∀ eventId ∈ reportedIds outcomes, utf8IsValid eventId = true := by
  have hentry : ∀ entry ∈ outcomes.flatMap errorEntry, HasCanonicalForm entry.2 := by
    intro entry hmem
    obtain ⟨reason, houtcome, hvalue⟩ := mem_errorEntries.mp hmem
    rw [hvalue]
    exact hasCanonicalForm_singleton_iff.mpr
      ⟨by decide +kernel, .string (hreasons _ _ houtcome)⟩
  rw [hasCanonicalForm_singleton_iff, and_iff_right (by decide +kernel),
    hasCanonicalForm_object_iff, keys_errorEntries]
  refine and_congr_right fun _ => ?_
  rw [← keys_errorEntries, forall_mem_map]
  exact forall₂_congr fun entry hmem => and_iff_left (hentry entry hmem)

theorem reportsError_iff {eventId : Bytes} :
    ReportsError (jsonMembers (sortByKey (sortedMembers (outcomes.flatMap errorEntry)))) eventId ↔
      eventId ∈ reportedIds outcomes := by
  rw [← keys_errorEntries, jsonMembers_eq, sortedMembers_eq]
  constructor
  · rintro ⟨fields, reason, hmem, -⟩
    obtain ⟨member, hmember, heq⟩ := mem_map.mp hmem
    obtain ⟨entry, hentry, rfl⟩ := mem_map.mp (mem_sortByKey.mp hmember)
    exact mem_map.mpr ⟨entry, hentry, congrArg Prod.fst heq⟩
  · intro hmem
    obtain ⟨entry, hentry, rfl⟩ := mem_map.mp hmem
    obtain ⟨reason, -, hvalue⟩ := mem_errorEntries.mp hentry
    refine ⟨[(utf8 "error", .string reason)], reason, ?_, mem_singleton_self _⟩
    refine mem_map.mpr ⟨_, mem_sortByKey.mpr (mem_map_of_mem hentry), ?_⟩
    simp only [hvalue]
    rfl

theorem faithful_transactionResponse_iff (hreasons : ReasonsValid outcomes) :
    Faithful (transactionResponse (outcomes.flatMap errorEntry)).body outcomes ↔
      EntriesTell outcomes := by
  have hcanonical : ∀ value, canonicalText value = (canonicalForm value).getD [] := fun _ => rfl
  rw [transactionResponse, hcanonical]
  rcases htext : canonicalForm (.object [(utf8 "pdus", .object (outcomes.flatMap errorEntry))])
    with - | text
  · rw [canonicalForm_eq_none_iff, hasCanonicalForm_errorEntries hreasons] at htext
    refine iff_of_false ?_ fun htell => htext ⟨htell.distinct, htell.valid⟩
    rintro ⟨members, entries, hread, -⟩
    cases hread
  · obtain ⟨hform, rfl⟩ := canonicalForm_eq_some_iff.mp htext
    have hread := readJson_orderedText (hasCanonicalForm_sortedValue hform)
    obtain ⟨hdistinct, hvalid⟩ := (hasCanonicalForm_errorEntries hreasons).mp hform
    refine ⟨?_, ?_⟩
    · rintro ⟨members, entries, hbody, hpdus, hexact⟩
      obtain rfl := Json.object.inj (Option.some.inj (hread.symm.trans hbody))
      obtain rfl := Json.object.inj (congrArg Prod.snd (mem_singleton.mp hpdus))
      exact ⟨hdistinct, hvalid, fun result hmem => reportsError_iff.symm.trans (hexact result hmem)⟩
    · intro htell
      exact ⟨_, _, hread, mem_singleton_self _,
        fun result hmem => reportsError_iff.trans (htell.failures result hmem)⟩

variable {server : FederationServer Keys World Rates}

theorem verifiedPduOutcome_reason {world : World}
    {encoded reason : Bytes} (h : verifiedPduOutcome server world pdu encoded = .reported reason) :
    utf8IsValid reason = true := by
  revert h
  fun_cases verifiedPduOutcome server world pdu encoded <;> intro h
  case case4 sink _ _ envelope _ =>
    revert h
    fun_cases sinkOutcome server sink world envelope <;> intro h <;> cases h
  all_goals
    cases h
    try decide +kernel

theorem pduOutcome_reason
    {signingKey : FederationKeyRecord} {senderKeys : SenderKeys} {progress : PduProgress Keys World}
    {encoded reason : Bytes}
    (h : (pduOutcome server request signingKey senderKeys progress encoded).2 = .reported reason) :
    utf8IsValid reason = true := by
  rw [pduOutcome] at h
  dsimp only at h
  split at h
  · cases h
    decide +kernel
  · split at h
    · cases h
      decide +kernel
    · split at h
      next hrejected =>
        cases h
        exact authorizeFederationPdu_reason hrejected
      next => exact verifiedPduOutcome_reason h

theorem pduOutcomes_reasonsValid
    (request : SignedFederationRequest) (signingKey : FederationKeyRecord) (senderKeys : SenderKeys)
    (progress : PduProgress Keys World) (pdus : List Bytes) :
    ReasonsValid (pduOutcomes server request signingKey senderKeys progress pdus) := by
  intro eventId reason
  induction pdus generalizing progress with
  | nil =>
    intro hmem
    cases hmem
  | cons encoded pdus ih =>
    intro hmem
    rcases mem_cons.mp hmem with heq | htail
    · exact pduOutcome_reason (congrArg Prod.snd heq.symm)
    · exact ih _ htail

theorem transactionOutcomes_reasonsValid (server : FederationServer Keys World Rates)
    (request : SignedFederationRequest) (accepted : AcceptedTransaction Keys World Rates) :
    ReasonsValid (transactionOutcomes server request accepted) :=
  pduOutcomes_reasonsValid _ _ _ _ _

end Answers

section

variable (server : FederationServer Keys World Rates) (steadyNow : Nat)
  (request : SignedFederationRequest) (state : FederationRuntimeState Keys World Rates)
  (hsend : (matchFederationRoute request.method request.target).map FederationRoute.endpoint =
    some .transaction)
  (hok : (handleInboundFederationRequest server steadyNow request state).response.status = 200)
  (hnew : transactionAlreadyAccepted state request.origin
    (transactionIdFromSendTarget request.target) = false)

include hsend hok hnew

theorem accepted_of_ok :
    ∃ accepted, acceptedTransaction server steadyNow request state = some accepted := by
  rw [handleInboundFederationRequest] at hok
  rw [acceptedTransaction]
  rcases hresolve : resolveInboundRemote server steadyNow request state with
    ⟨response | ⟨route, remote⟩, resolved⟩ <;> rw [hresolve] at hok
  · exact absurd hok ((resolveInboundRemote_refuses hresolve).status response rfl)
  · have hgates := resolveInboundRemote_refuses hresolve
    rw [resolveInboundRemote_route (congrArg Prod.fst hresolve)] at hsend
    have hendpoint : route.endpoint = .transaction := Option.some.inj hsend
    have hgate : (!request.signatureVerified &&
          (checkInboundRequestSignature server request remote resolved).1.isSome) = false ∧
        (serveAuthenticated server request route remote resolved).response.status = 200 := by
      dsimp only at hok
      split_ifs at hok with hverified
      · exact ⟨by simp [hverified], hok⟩
      · rw [checkInboundRequestSignature] at hok ⊢
        rcases hverify : verifySignedFederationRequest server.yyjson server.sodium request
          remote.signingKey with rejection | ⟨⟩ <;> rw [hverify] at hok
        · exact absurd (hok.symm.trans (verifySignedFederationRequest_status hverify)) (by decide)
        · exact ⟨Bool.and_false _, hok⟩
    have hserve := hgate.2
    rw [serveAuthenticated] at hserve
    rcases hacl : checkRoomAclForEndpoint server resolved.world request route with
      - | response <;> rw [hacl] at hserve
    · rw [transactionAlreadyAccepted, ← hgates.accepted] at hnew
      obtain ⟨accepted, haccepted⟩ :=
        new_of_handleTransaction_ok (by simpa only [hendpoint, if_true] using hserve) hnew
      refine ⟨accepted, ?_⟩
      simp only [hgate.1, hacl, hendpoint]
      exact haccepted
    · exact absurd hserve (checkRoomAclForEndpoint_status hacl)

/-- The answer to a new transaction reports exactly the PDUs that were not
persisted if and only if its entries tell them. -/
theorem answer_faithful_iff :
    ∃ accepted, acceptedTransaction server steadyNow request state = some accepted ∧
      (Faithful (handleInboundFederationRequest server steadyNow request state).response.body
          (transactionOutcomes server request accepted) ↔
        EntriesTell (transactionOutcomes server request accepted)) := by
  obtain ⟨accepted, haccepted⟩ := accepted_of_ok server steadyNow request state hsend hok hnew
  refine ⟨accepted, haccepted, ?_⟩
  have herrors : (ingestedPdus server request accepted).errors =
      (transactionOutcomes server request accepted).flatMap errorEntry :=
    ingestPdus_errors _ _ _ _ _
  rw [(handle_of_accepted haccepted).1]
  change Faithful (transactionResponse (ingestedPdus server request accepted).errors).body _ ↔ _
  rw [herrors]
  exact faithful_transactionResponse_iff (transactionOutcomes_reasonsValid server request accepted)

end

def closedServer : FederationServer Unit Unit Unit :=
  { sampleServer with roomServerAclProvider := some fun _ _ _ => false }

theorem closed_outcomes : (acceptedTransaction closedServer 0 sendRequest sampleState).map
        (transactionOutcomes closedServer sendRequest) =
      some [(chessPdu.envelope.eventId, .reported "server is denied by room ACL"),
        (goPdu.envelope.eventId, .reported "server is denied by room ACL")] := by
  decide +kernel

theorem closed_answer_is_faithful :
    ∃ accepted, acceptedTransaction closedServer 0 sendRequest sampleState = some accepted ∧
      Faithful (handleInboundFederationRequest closedServer 0 sendRequest sampleState).response.body
        (transactionOutcomes closedServer sendRequest accepted) := by
  obtain ⟨accepted, haccepted, hiff⟩ := answer_faithful_iff closedServer 0 sendRequest sampleState
    (by decide +kernel) (by decide +kernel) (by decide +kernel)
  have houtcomes := closed_outcomes
  rw [haccepted] at houtcomes
  refine ⟨accepted, haccepted, hiff.mpr ?_⟩
  rw [Option.some.inj houtcomes]
  exact ⟨by decide +kernel, by decide +kernel, by decide +kernel⟩

def denyingServer : FederationServer Unit Unit Unit :=
  { sampleServer with pduSink := some fun world _ => ({ status := .rejectedAuth }, world) }

theorem denying_outcomes : (acceptedTransaction denyingServer 0 sendRequest sampleState).map
        (transactionOutcomes denyingServer sendRequest) =
      some [(chessPdu.envelope.eventId, .unreported), (goPdu.envelope.eventId, .unreported)] := by
  decide +kernel

/-- The sink refuses both events, and the answer is 200 without an error. -/
theorem denying_answer_reports_nothing :
    (handleInboundFederationRequest denyingServer 0 sendRequest sampleState).response =
        transactionResponse [] ∧
      transactionAlreadyAccepted sampleState sendRequest.origin
        (transactionIdFromSendTarget sendRequest.target) = false ∧
      ∃ accepted, acceptedTransaction denyingServer 0 sendRequest sampleState = some accepted ∧
        ¬ Faithful (transactionResponse []).body
          (transactionOutcomes denyingServer sendRequest accepted) := by
  refine ⟨by decide +kernel, by decide +kernel, ?_⟩
  have houtcomes := denying_outcomes
  rcases haccepted : acceptedTransaction denyingServer 0 sendRequest sampleState with
    - | accepted <;>
    rw [haccepted] at houtcomes
  · cases houtcomes
  · refine ⟨accepted, rfl, ?_⟩
    intro hfaithful
    have hnone :
        (transactionOutcomes denyingServer sendRequest accepted).flatMap errorEntry = [] := by
      rw [Option.some.inj houtcomes]
      rfl
    have htell : EntriesTell (transactionOutcomes denyingServer sendRequest accepted) := by
      rw [← faithful_transactionResponse_iff (transactionOutcomes_reasonsValid _ _ _), hnone]
      exact hfaithful
    rw [Option.some.inj houtcomes] at htell
    have hreported := (htell.failures _ mem_cons_self).mpr (by decide)
    cases hreported

end Merovingian.SendResponses
