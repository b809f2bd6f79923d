import Merovingian.OperationRuns
import Merovingian.TransactionIngestion

/-!
Requests that name a server without holding its key, and what they do to the
requests of that server.

Two runs are compared, one with the forged requests and one without. They may
differ in the count of failures in the record of the server, and as long as that
is all, every other request gets the same answer. The count itself is what locks
the server out: it is raised before anything is authenticated, and three in a
row close the record.
-/

namespace Merovingian.ForgedRequests

open ByteString CanonicalParser EventSigning RoomVersions EventEnvelopes FederationPolicy
  FederationPdus InboundRequests PipelineSafety TransactionIngestion OperationRuns List

variable {Keys World Rates : Type} {serverName : Bytes}

def withFailures (remote : FederationRemoteRuntime) (failures : Nat) : FederationRemoteRuntime :=
  { remote with trust := { remote.trust with consecutiveFailures := failures } }

/-- The same record, with no more failures. Only the record of the server in
question may differ. -/
def RecordAlike (serverName : Bytes) (full spared : FederationRemoteRuntime) : Prop :=
  ∃ failures ≤ full.trust.consecutiveFailures, spared = withFailures full failures ∧
    (full.serverName ≠ serverName → failures = full.trust.consecutiveFailures)

def withRemotes (state : FederationRuntimeState Keys World Rates)
    (remotes : List FederationRemoteRuntime) : FederationRuntimeState Keys World Rates :=
  { state with remotes := remotes }

/-- States that differ in nothing but the count of failures of the server. -/
def StatesAlike (serverName : Bytes) (full spared : FederationRuntimeState Keys World Rates) :
    Prop :=
  ∃ remotes, spared = withRemotes full remotes ∧
    List.Forall₂ (RecordAlike serverName) full.remotes remotes

section Records

variable {full spared : FederationRuntimeState Keys World Rates}

theorem remotes_withRemotes (remotes : List FederationRemoteRuntime) :
    (withRemotes full remotes).remotes = remotes := by
  rfl

theorem RecordAlike.refl (remote : FederationRemoteRuntime) :
    RecordAlike serverName remote remote :=
  ⟨remote.trust.consecutiveFailures, le_rfl, rfl, fun _ => rfl⟩

variable {request : SignedFederationRequest} {other remote : FederationRemoteRuntime}
  {others remotes : List FederationRemoteRuntime}

theorem RecordAlike.signingKey (h : RecordAlike serverName remote other) :
    other.signingKey = remote.signingKey := by
  obtain ⟨failures, -, rfl, -⟩ := h
  rfl

theorem StatesAlike.refl (state : FederationRuntimeState Keys World Rates) :
    StatesAlike serverName state state :=
  ⟨state.remotes, rfl, forall₂_same.mpr fun remote _ => .refl remote⟩

section

variable (h : List.Forall₂ (RecordAlike serverName) remotes others)

include h

theorem findRemote_alike (name : Bytes) :
    (findRemote remotes name = none ∧ findRemote others name = none) ∨
      ∃ remote other, findRemote remotes name = some remote ∧
        findRemote others name = some other ∧ RecordAlike serverName remote other := by
  induction h with
  | nil => exact .inl ⟨rfl, rfl⟩
  | @cons remote other rest _ halike _ ih =>
    obtain ⟨failures, hle, rfl, hother⟩ := halike
    rw [findRemote, findRemote, find?_cons, find?_cons]
    rcases hname : decide (remote.serverName = name) with - | -
    · rw [show decide ((withFailures remote failures).serverName = name) = false from hname]
      exact ih
    · rw [show decide ((withFailures remote failures).serverName = name) = true from hname]
      exact .inr ⟨remote, _, rfl, rfl, failures, hle, rfl, hother⟩

theorem updateRemote_alike (name : Bytes)
    {change change' : FederationRemoteRuntime → FederationRemoteRuntime}
    (hchange : ∀ remote other, remote.serverName = name → RecordAlike serverName remote other →
      RecordAlike serverName (change remote) (change' other)) :
    List.Forall₂ (RecordAlike serverName) (updateRemote name change remotes)
      (updateRemote name change' others) := by
  induction h with
  | nil => exact .nil
  | @cons remote other rest others halike hrest ih =>
    have hname : other.serverName = remote.serverName := by
      obtain ⟨failures, -, rfl, -⟩ := halike
      rfl
    rw [updateRemote, updateRemote, hname]
    split_ifs with heq
    · exact .cons (hchange remote other heq halike) hrest
    · exact .cons halike ih

theorem upsertRemote_alike (added : FederationRemoteRuntime) :
    List.Forall₂ (RecordAlike serverName) (upsertRemote remotes added)
      (upsertRemote others added) := by
  rw [upsertRemote, upsertRemote]
  rcases findRemote_alike h added.serverName with ⟨hnone, hnone'⟩ | ⟨_, _, hsome, hsome', -⟩
  · rw [hnone, hnone']
    exact rel_append h (.cons (.refl added) .nil)
  · rw [hsome, hsome']
    exact updateRemote_alike h added.serverName fun _ _ _ _ => .refl added

end

theorem findRemote_upsertRemote_of_none {added found : FederationRemoteRuntime} {name : Bytes}
    (hnone : findRemote remotes name = none)
    (hfound : findRemote (upsertRemote remotes added) name = some found) : found = added := by
  obtain ⟨hmem, hname⟩ := findRemote_some hfound
  rcases mem_upsertRemote hmem with hold | hnew
  · exact absurd hname (by simpa using find?_eq_none.mp hnone found hold)
  · exact hnew

variable (h : StatesAlike serverName full spared) (hremote : RecordAlike serverName remote other)
include h hremote

theorem persistRemoteTrust_alike {failures fewer : Nat} (hle : fewer ≤ failures)
    (hothers : remote.serverName ≠ serverName → fewer = failures) :
    StatesAlike serverName (persistRemoteTrust full remote failures)
      (persistRemoteTrust spared other fewer) := by
  obtain ⟨remotes, rfl, hremotes⟩ := h
  obtain ⟨count, -, rfl, -⟩ := hremote
  refine ⟨_, rfl, updateRemote_alike hremotes remote.serverName ?_⟩
  rintro existing _ hname ⟨count', -, rfl, -⟩
  refine ⟨fewer, hle, rfl, ?_⟩
  intro hne
  exact hothers (hname ▸ hne)

theorem persistFailure_alike :
    StatesAlike serverName (persistRemoteTrust full remote (remote.trust.consecutiveFailures + 1))
      (persistRemoteTrust spared other (other.trust.consecutiveFailures + 1)) := by
  obtain ⟨failures, hle, rfl, hothers⟩ := id hremote
  refine persistRemoteTrust_alike h hremote (Nat.succ_le_succ hle) ?_
  exact fun hne => congrArg Nat.succ (hothers hne)

theorem persistRemoteSigningKey_alike :
    StatesAlike serverName (persistRemoteSigningKey full remote)
      (persistRemoteSigningKey spared other) := by
  obtain ⟨remotes, rfl, hremotes⟩ := h
  obtain ⟨count, -, rfl, -⟩ := hremote
  refine ⟨_, rfl, updateRemote_alike hremotes remote.serverName ?_⟩
  rintro existing _ hname ⟨count', hle, rfl, hothers⟩
  exact ⟨count', hle, rfl, hothers⟩

end Records

section Stages

variable {server : FederationServer Keys World Rates}
  {full spared : FederationRuntimeState Keys World Rates} {remote other : FederationRemoteRuntime}
  {remotes : List FederationRemoteRuntime} {request : SignedFederationRequest}

inductive OutcomesAlike (serverName : Bytes) {Result : Type} (Related : Result → Result → Prop) :
    Except FederationResponse Result × FederationRuntimeState Keys World Rates →
    Except FederationResponse Result × FederationRuntimeState Keys World Rates → Prop where
  | refused {full spared : FederationRuntimeState Keys World Rates}
      (response : FederationResponse) (hstates : StatesAlike serverName full spared) :
      OutcomesAlike serverName Related (.error response, full) (.error response, spared)
  | passed {full spared : FederationRuntimeState Keys World Rates} {result other : Result}
      (hrelated : Related result other) (hstates : StatesAlike serverName full spared) :
      OutcomesAlike serverName Related (.ok result, full) (.ok other, spared)

def SameVerdict (serverName : Bytes) (full spared : FederationRemoteRuntime) : Prop :=
  RecordAlike serverName full spared ∧
    (spared = full ∨ full.trust.consecutiveFailures < maxConsecutiveFailures)

theorem remotePolicy_alike (h : SameVerdict serverName remote other) :
    remotePolicy server other = remotePolicy server remote := by
  obtain ⟨⟨failures, hle, rfl, -⟩, heq | hfew⟩ := h
  · rw [heq]
  · have htrust : remoteTrustPolicy (withFailures remote failures).trust =
        remoteTrustPolicy remote.trust := by
      have hfewer : ¬ maxConsecutiveFailures ≤ failures := by omega
      have hfull : ¬ maxConsecutiveFailures ≤ remote.trust.consecutiveFailures := by omega
      simp only [remoteTrustPolicy, withFailures, hfewer, hfull]
    rw [remotePolicy, remotePolicy, htrust]
    rfl

theorem admitLookup_withRemotes (steadyNow : Nat) (request : SignedFederationRequest)
    (state : FederationRuntimeState Keys World Rates) (remotes : List FederationRemoteRuntime) :
    admitLookup server steadyNow request (withRemotes state remotes) =
      ((admitLookup server steadyNow request state).1,
        withRemotes (admitLookup server steadyNow request state).2 remotes) := by
  unfold admitLookup admitKeyResolution withRemotes
  dsimp only
  split_ifs <;> rfl

theorem discoverRemote_alike (resolver : RemoteKeyResolver Keys) (steadyNow : Nat)
    (hremotes : List.Forall₂ (RecordAlike serverName) full.remotes remotes)
    (hnone : findRemote full.remotes request.origin = none) :
    ∃ refusal after after',
      discoverRemote server resolver steadyNow request full = (refusal, after) ∧
      discoverRemote server resolver steadyNow request (withRemotes full remotes) =
        (refusal, after') ∧
      StatesAlike serverName after after' ∧
      ∀ found found', findRemote after.remotes request.origin = some found →
        findRemote after'.remotes request.origin = some found' → found' = found := by
  have hnone' : findRemote remotes request.origin = none := by
    rcases findRemote_alike hremotes request.origin with ⟨-, hnone'⟩ | ⟨_, _, hsome, -⟩
    · exact hnone'
    · rw [hnone] at hsome
      cases hsome
  rw [← (admitLookup_frame server steadyNow request full).1] at hremotes hnone
  unfold discoverRemote
  rw [admitLookup_withRemotes]
  generalize admitLookup server steadyNow request full = lookup at hremotes hnone ⊢
  obtain ⟨- | reason, admitted⟩ := lookup
  · dsimp only [withRemotes]
    rcases resolver admitted.keys request.origin request.keyId with ⟨- | resolved, keys⟩
    · refine ⟨_, _, _, rfl, rfl, ⟨remotes, rfl, hremotes⟩, ?_⟩
      intro found found' hfound
      rw [hnone] at hfound
      cases hfound
    · refine ⟨_, _, _, rfl, rfl, ⟨_, rfl, upsertRemote_alike hremotes _⟩, ?_⟩
      intro found found' hfound hfound'
      rw [findRemote_upsertRemote_of_none hnone hfound,
        findRemote_upsertRemote_of_none hnone' hfound']
  · refine ⟨_, _, _, rfl, rfl, ⟨remotes, rfl, hremotes⟩, ?_⟩
    intro found found' hfound
    rw [hnone] at hfound
    cases hfound

def IgnoresRemotes
    (stage : FederationRuntimeState Keys World Rates → Handled Keys World Rates) : Prop :=
  ∀ state remotes, stage (withRemotes state remotes) =
    { stage state with state := withRemotes (stage state).state remotes }

section

variable {pdu : FederationPdu} {rejected : FederationRejection → FederationResponse}
  {badHash : FederationResponse} {accept : World → FederationResponse × World}
  {route : FederationRoute} {signingKey : FederationKeyRecord}

theorem acceptMembershipPdu_ignoresRemotes :
    IgnoresRemotes fun state : FederationRuntimeState Keys World Rates =>
      acceptMembershipPdu server request signingKey pdu state rejected badHash accept := by
  intro state remotes
  dsimp only [acceptMembershipPdu, withRemotes]
  rcases membershipPduKey server request signingKey pdu state.keys with ⟨key, keys⟩
  rcases authorizeFederationPdu server.yyjson server.sodium pdu key request.nowTs with - | -
  · rfl
  · split_ifs <;> rfl

theorem handleSendMembership_ignoresRemotes :
    IgnoresRemotes fun state : FederationRuntimeState Keys World Rates =>
      handleSendMembership server request route signingKey state := by
  intro state remotes
  dsimp only [handleSendMembership, withRemotes]
  rcases server.membershipAcceptor with - | acceptor
  · rfl
  rcases parseMembershipPath route.endpoint request.target with - | params
  · rfl
  dsimp only
  rcases parseInboundPduEnvelope server.yyjson server.sodium request.body _ with - | envelope
  · rfl
  dsimp only
  split_ifs
  · rfl
  all_goals exact acceptMembershipPdu_ignoresRemotes state remotes

theorem handleInvite_ignoresRemotes :
    IgnoresRemotes fun state : FederationRuntimeState Keys World Rates =>
      handleInvite server request route signingKey state := by
  intro state remotes
  dsimp only [handleInvite, withRemotes]
  rcases server.inviteHandler with - | handler
  · rfl
  rcases parseMembershipPath .invite request.target with - | params
  · rfl
  dsimp only
  rcases parseInviteBody server.yyjson request.body params.roomId params.subject with - | invite
  · rfl
  dsimp only
  rcases parseLossless server.yyjson invite.inviteEventJson with error | value
  · rfl
  dsimp only
  rcases parseEventEnvelope value with error | event
  · rfl
  rcases findRoomVersionPolicy (inviteRoomVersion server state.world invite) with - | policy
  · rfl
  · exact acceptMembershipPdu_ignoresRemotes state remotes

variable (server request route signingKey) in
theorem dispatchNonTransactionEndpoint_ignoresRemotes :
    IgnoresRemotes fun state : FederationRuntimeState Keys World Rates =>
      dispatchNonTransactionEndpoint server request route signingKey state := by
  unfold dispatchNonTransactionEndpoint
  split
  next => exact handleSendMembership_ignoresRemotes
  next => exact handleSendMembership_ignoresRemotes
  next => exact handleSendMembership_ignoresRemotes
  next => exact handleInvite_ignoresRemotes
  next => exact fun state remotes => rfl
  next => exact fun state remotes => rfl

end

variable (h : StatesAlike serverName full spared) (steadyNow : Nat)
  (hfew : ∀ remote, findRemote full.remotes request.origin = some remote →
    remote.serverName = serverName → remote.trust.consecutiveFailures < maxConsecutiveFailures)

include h

include hfew in
variable (server) in
theorem knownRemote_alike :
    OutcomesAlike serverName (SameVerdict serverName)
      (knownRemote server steadyNow request full)
      (knownRemote server steadyNow request spared) := by
  obtain ⟨remotes, rfl, hremotes⟩ := h
  unfold knownRemote
  rcases findRemote_alike hremotes request.origin with
    ⟨hnone, hnone'⟩ | ⟨remote, other, hsome, hsome', halike⟩
  · rw [hnone, remotes_withRemotes, hnone']
    rcases server.remoteKeyResolver with - | resolver
    · exact .refused _ ⟨remotes, rfl, hremotes⟩
    · obtain ⟨refusal, after, after', hfull, hspared, hstates, hfound⟩ :=
        discoverRemote_alike resolver steadyNow hremotes hnone
      dsimp only
      rw [hfull, hspared]
      rcases refusal with - | response
      · obtain ⟨remotes', rfl, hremotes'⟩ := id hstates
        dsimp only
        rcases findRemote_alike hremotes' request.origin with
          ⟨hgone, hgone'⟩ | ⟨found, found', hthere, hthere', -⟩
        · rw [hgone, remotes_withRemotes, hgone']
          exact .refused _ hstates
        · rw [hthere, remotes_withRemotes, hthere']
          obtain rfl := hfound found found' hthere hthere'
          exact .passed ⟨.refl _, .inl rfl⟩ hstates
      · exact .refused _ hstates
  · rw [hsome, remotes_withRemotes, hsome']
    refine .passed ⟨halike, ?_⟩ ⟨remotes, rfl, hremotes⟩
    obtain ⟨failures, -, rfl, hothers⟩ := halike
    rcases decEq remote.serverName serverName with hne | heq
    · rw [hothers hne]
      exact .inl rfl
    · exact .inr (hfew remote hsome heq)

variable (server) in
theorem refreshRemoteKey_alike (request : SignedFederationRequest)
    (hverdict : SameVerdict serverName remote other) :
    OutcomesAlike serverName (SameVerdict serverName)
      (refreshRemoteKey server steadyNow request remote full)
      (refreshRemoteKey server steadyNow request other spared) := by
  obtain ⟨remotes, rfl, hremotes⟩ := h
  obtain ⟨⟨failures, hle, rfl, hothers⟩, hpolicy⟩ := id hverdict
  have hadmitted := hremotes
  rw [← (admitLookup_frame server steadyNow request full).1] at hadmitted
  unfold refreshRemoteKey
  rw [admitLookup_withRemotes]
  rcases server.remoteKeyResolver with - | resolver
  · exact .passed hverdict ⟨remotes, rfl, hremotes⟩
  · rw [show keyIsStale request (withFailures remote failures) = keyIsStale request remote from rfl]
    rcases keyIsStale request remote with - | -
    · exact .passed hverdict ⟨remotes, rfl, hremotes⟩
    · generalize admitLookup server steadyNow request full = lookup at hadmitted ⊢
      obtain ⟨- | reason, admitted⟩ := lookup
      · simp only [Bool.not_true, Bool.false_eq_true, if_false, withRemotes]
        rcases resolver admitted.keys request.origin request.keyId with ⟨- | refreshed, keys⟩
        · exact .passed hverdict ⟨remotes, rfl, hadmitted⟩
        · dsimp only
          split_ifs
          · exact .passed hverdict ⟨remotes, rfl, hadmitted⟩
          · refine .passed ⟨⟨failures, hle, rfl, hothers⟩, ?_⟩ ?_
            · exact hpolicy.imp_left fun heq => congrArg
                (fun record : FederationRemoteRuntime =>
                  { record with signingKey := refreshed.signingKey }) heq
            · refine persistRemoteSigningKey_alike ?_ ?_
              · exact ⟨remotes, rfl, hadmitted⟩
              · exact ⟨failures, hle, rfl, hothers⟩
      · exact .refused _ ⟨remotes, rfl, hadmitted⟩

include hfew in
variable (server) in
theorem resolveInboundRemote_alike :
    OutcomesAlike serverName
      (fun result other => other.1 = result.1 ∧ RecordAlike serverName result.2 other.2)
      (resolveInboundRemote server steadyNow request full)
      (resolveInboundRemote server steadyNow request spared) := by
  unfold resolveInboundRemote
  rcases matchFederationRoute request.method request.target with - | route
  · exact .refused _ h
  rcases federationServerPolicy server.config request.origin with reason | ⟨⟩
  · exact .refused _ h
  have hknown := knownRemote_alike server h steadyNow hfew
  generalize knownRemote server steadyNow request full = known at hknown ⊢
  generalize knownRemote server steadyNow request spared = known' at hknown ⊢
  cases hknown with
  | refused response hstates => exact .refused _ hstates
  | @passed _ _ remote other hverdict hstates =>
    dsimp only
    have hrefresh := refreshRemoteKey_alike server hstates steadyNow request hverdict
    generalize refreshRemoteKey server steadyNow request remote _ = refreshed at hrefresh ⊢
    generalize refreshRemoteKey server steadyNow request other _ = refreshed' at hrefresh ⊢
    cases hrefresh with
    | refused response hstates => exact .refused _ hstates
    | passed hverdict hstates =>
      dsimp only
      rw [remotePolicy_alike hverdict]
      split
      · exact .refused _ hstates
      · exact .passed ⟨rfl, hverdict.1⟩ hstates

structure HandledAlike (serverName : Bytes) (full spared : Handled Keys World Rates) : Prop where
  response : spared.response = full.response
  states : StatesAlike serverName full.state spared.state

theorem IgnoresRemotes.alike
    {stage : FederationRuntimeState Keys World Rates → Handled Keys World Rates}
    (hstage : IgnoresRemotes stage) : HandledAlike serverName (stage full) (stage spared) := by
  obtain ⟨remotes, rfl, hremotes⟩ := h
  have hkept : (stage full).state.remotes = full.remotes :=
    congrArg (fun handled => handled.state.remotes) (hstage full full.remotes)
  rw [hstage full remotes]
  refine ⟨rfl, remotes, rfl, ?_⟩
  rw [hkept]
  exact hremotes

section

variable (request : SignedFederationRequest) (route : FederationRoute)
  (hremote : RecordAlike serverName remote other)

include hremote

theorem handleEndpoint_alike :
    HandledAlike serverName (handleEndpoint server request route remote full)
      (handleEndpoint server request route other spared) := by
  obtain ⟨remotes, rfl, hremotes⟩ := h
  unfold handleEndpoint
  rw [show (withRemotes full remotes).rates = full.rates from rfl]
  rcases server.originRequestRate full.rates request.origin with ⟨- | reason, rates⟩
  · have hlimited : StatesAlike serverName { full with rates := rates }
        { withRemotes full remotes with rates := rates } := ⟨remotes, rfl, hremotes⟩
    have hdispatch := (dispatchNonTransactionEndpoint_ignoresRemotes server request route
      remote.signingKey).alike hlimited
    dsimp only
    rw [hremote.signingKey, hdispatch.response]
    split_ifs
    · exact ⟨rfl, persistRemoteTrust_alike hdispatch.states hremote le_rfl fun _ => rfl⟩
    · exact hdispatch
  · exact ⟨rfl, remotes, rfl, hremotes⟩

theorem ingestTransaction_alike
    (transaction : FederationTransaction) (edus : List (Bytes × Bytes)) :
    HandledAlike serverName (ingestTransaction server request remote transaction edus full)
      (ingestTransaction server request other transaction edus spared) := by
  obtain ⟨remotes, rfl, hremotes⟩ := h
  obtain ⟨failures, hle, rfl, hothers⟩ := id hremote
  refine ⟨rfl, persistRemoteTrust_alike ?_ hremote ?_ ?_⟩
  · exact ⟨remotes, rfl, hremotes⟩
  · have hbound : ∀ distrusted : Nat, (if distrusted = 0 then 0 else failures + distrusted) ≤
        if distrusted = 0 then 0 else remote.trust.consecutiveFailures + distrusted := by
      intro distrusted
      split_ifs <;> omega
    exact hbound _
  · intro hne
    rw [show (withFailures remote failures).trust.consecutiveFailures = _ from hothers hne]
    rfl

theorem handleTransaction_alike :
    HandledAlike serverName (handleTransaction server request remote full)
      (handleTransaction server request other spared) := by
  obtain ⟨remotes, rfl, hremotes⟩ := id h
  unfold handleTransaction
  rw [show (withRemotes full remotes).rates = full.rates from rfl]
  generalize server.originTransactionRate full.rates request.origin = limit
  rcases readTransaction server request with response | ⟨transaction, edus⟩
  · exact ⟨rfl, persistFailure_alike h hremote⟩
  dsimp only
  rcases limit transaction.pdus.length transaction.edus.length with ⟨refusal, rates⟩
  have hlimited : StatesAlike serverName { full with rates := rates }
      { withRemotes full remotes with rates := rates } := ⟨remotes, rfl, hremotes⟩
  rcases refusal with - | reason
  · dsimp only
    split
    · next haccepted =>
        rw [if_pos (by exact haccepted)]
        exact ⟨rfl, persistRemoteTrust_alike hlimited hremote le_rfl fun _ => rfl⟩
    · next hnew =>
        rw [if_neg (by exact hnew)]
        exact ingestTransaction_alike hlimited request hremote transaction edus
  · exact ⟨rfl, hlimited⟩

variable (server) in
theorem serveAuthenticated_alike :
    HandledAlike serverName (serveAuthenticated server request route remote full)
      (serveAuthenticated server request route other spared) := by
  have hworld : spared.world = full.world := by
    obtain ⟨remotes, rfl, -⟩ := h
    rfl
  unfold serveAuthenticated
  rw [hworld]
  rcases checkRoomAclForEndpoint server full.world request route with - | response
  · split_ifs
    · exact handleTransaction_alike h request hremote
    · exact handleEndpoint_alike h request route hremote
  · exact ⟨rfl, h⟩

end

include hfew in
variable (server) in
theorem handleInboundFederationRequest_alike :
    HandledAlike serverName (handleInboundFederationRequest server steadyNow request full)
      (handleInboundFederationRequest server steadyNow request spared) := by
  have hresolve := resolveInboundRemote_alike server h steadyNow hfew
  unfold handleInboundFederationRequest
  generalize resolveInboundRemote server steadyNow request full = resolved at hresolve ⊢
  generalize resolveInboundRemote server steadyNow request spared = resolved' at hresolve ⊢
  cases hresolve with
  | refused response hstates => exact ⟨rfl, hstates⟩
  | @passed _ _ result other hrelated hstates =>
    obtain ⟨route, remote⟩ := result
    obtain ⟨route', remote'⟩ := other
    obtain ⟨rfl, hremote⟩ := hrelated
    change RecordAlike serverName remote remote' at hremote
    have hserve := serveAuthenticated_alike server hstates request route' hremote
    dsimp only [checkInboundRequestSignature]
    rw [hremote.signingKey]
    split_ifs
    · exact hserve
    · rcases verifySignedFederationRequest server.yyjson server.sodium request remote.signingKey
        with rejection | ⟨⟩
      · exact ⟨rfl, persistFailure_alike hstates hremote⟩
      · exact ⟨hserve.response, hserve.states⟩

end Stages

section Runs

variable (server : FederationServer Keys World Rates) {request : SignedFederationRequest}
  {remote : FederationRemoteRuntime}

structure ServerKey where
  keyId : Bytes
  publicKeyBytes : Bytes
deriving DecidableEq

section

variable (state : FederationRuntimeState Keys World Rates) (serverName : Bytes)
  (serverKeys : List ServerKey) (request : SignedFederationRequest)

/-- The request names the server, but its signature verifies under none of the
server's keys. -/
def forged : Bool :=
  request.origin = serverName && !request.signatureVerified &&
    !serverKeys.any fun key => key.keyId = request.keyId &&
      requestSignatureVerifies server.yyjson server.sodium request key.publicKeyBytes

structure TimedRequest where
  steadyNow : Nat
  request : SignedFederationRequest

def serve (timed : TimedRequest) : FederationRuntimeState Keys World Rates :=
  (handleInboundFederationRequest server timed.steadyNow timed.request state).state

def answers : FederationRuntimeState Keys World Rates → List TimedRequest →
    List (TimedRequest × FederationResponse)
  | _, [] => []
  | state, timed :: rest =>
    (timed, (handleInboundFederationRequest server timed.steadyNow timed.request state).response)
      :: answers (serve server state timed) rest

/-- The request is refused before the server's key is needed, or the record that
is held has the key that it names. -/
def needsNoLookup : Bool :=
  (matchFederationRoute request.method request.target).isNone ||
    !(federationServerPolicy server.config request.origin).isOk ||
    server.remoteKeyResolver.isNone ||
    (findRemote state.remotes request.origin).any fun remote => !keyIsStale request remote

/-- A forged request makes the server look up no key, and a request of the server
itself finds fewer than three failures in a row. -/
def Unharmed (state : FederationRuntimeState Keys World Rates) (timed : TimedRequest) : Prop :=
  if forged server serverName serverKeys timed.request then
    needsNoLookup server state timed.request = true
  else timed.request.origin = serverName → ((findRemote state.remotes serverName).all fun remote =>
      remote.trust.consecutiveFailures < maxConsecutiveFailures) = true

end

instance decidableUnharmed (serverName : Bytes) (serverKeys : List ServerKey)
    (state : FederationRuntimeState Keys World Rates) :
    DecidablePred (Unharmed server serverName serverKeys state) := by
  intro timed
  unfold Unharmed
  infer_instance

def ownKeys (Keys : Type) (serverName : Bytes) (serverKeys : List ServerKey) :
    KeyGuarantee Keys where
  Good _ name key := name = serverName → ⟨key.keyId, key.publicKeyBytes⟩ ∈ serverKeys
  Later _ _ := True
  refl _ := trivial
  trans _ _ := trivial
  mono _ h := h

variable {server} {serverKeys : List ServerKey} {state : FederationRuntimeState Keys World Rates}

theorem resolveInboundRemote_of_needsNoLookup (steadyNow : Nat)
    (h : needsNoLookup server state request = true) :
    (resolveInboundRemote server steadyNow request state).2 = state ∧ ∀ route remote,
        (resolveInboundRemote server steadyNow request state).1 = .ok (route, remote) →
          findRemote state.remotes request.origin = some remote := by
  unfold resolveInboundRemote
  rcases hroute : matchFederationRoute request.method request.target with - | route
  · exact ⟨rfl, by rintro route remote ⟨⟩⟩
  rcases hpolicy : federationServerPolicy server.config request.origin with reason | ⟨⟩
  · exact ⟨rfl, by rintro route remote ⟨⟩⟩
  simp only [needsNoLookup, hroute, hpolicy, Option.isNone_some, Except.isOk, Except.toBool,
    Bool.not_true, Bool.false_or, Bool.or_eq_true] at h
  rcases hfound : findRemote state.remotes request.origin with - | remote
  · rw [hfound] at h
    rcases h with hresolver | hstale
    · rw [Option.isNone_iff_eq_none] at hresolver
      simp only [knownRemote, hfound, hresolver]
      exact ⟨trivial, by rintro route remote ⟨⟩⟩
    · cases hstale
  · have hrefresh :
        refreshRemoteKey server steadyNow request remote state = (.ok remote, state) := by
      rw [hfound, Option.any_some] at h
      unfold refreshRemoteKey
      rcases h with hresolver | hstale
      · rw [Option.isNone_iff_eq_none.mp hresolver]
      · split
        · rfl
        · rw [if_pos hstale]
    simp only [knownRemote, hfound, hrefresh]
    rcases remotePolicy server remote with response | ⟨⟩
    · exact ⟨rfl, by rintro route remote ⟨⟩⟩
    · refine ⟨rfl, ?_⟩
      rintro route' remote' ⟨⟩
      rfl

theorem persistRemoteTrust_alike_left {spared : FederationRuntimeState Keys World Rates}
    (h : StatesAlike serverName state spared)
    (hfound : findRemote state.remotes serverName = some remote) {failures : Nat}
    (hle : remote.trust.consecutiveFailures ≤ failures) :
    StatesAlike serverName (persistRemoteTrust state remote failures) spared := by
  obtain ⟨remotes, rfl, hremotes⟩ := h
  obtain ⟨-, hname⟩ := findRemote_some hfound
  refine ⟨remotes, rfl, ?_⟩
  dsimp only [persistRemoteTrust]
  rw [hname]
  generalize state.remotes = records at hremotes hfound
  induction hremotes with
  | nil => exact .nil
  | @cons record other rest others halike hrest ih =>
    rw [updateRemote]
    split_ifs with hfirst
    · -- The first record of the server is the one that was found.
      rw [findRemote, find?_cons_of_pos (by simpa using hfirst)] at hfound
      obtain rfl := Option.some.inj hfound
      obtain ⟨count, hcount, rfl, -⟩ := halike
      exact .cons ⟨count, hcount.trans hle, rfl, fun hne => absurd hname hne⟩ hrest
    · rw [findRemote, find?_cons_of_neg (by simpa using hfirst)] at hfound
      exact .cons halike (ih hfound)

theorem serve_forged_alike {timed : TimedRequest}
    (hforged : forged server serverName serverKeys timed.request = true)
    (hlookup : needsNoLookup server state timed.request = true)
    (hremotes : RemotesGood (ownKeys Keys serverName serverKeys) state)
    {spared : FederationRuntimeState Keys World Rates} (h : StatesAlike serverName state spared) :
    StatesAlike serverName (serve server state timed) spared := by
  simp only [forged, Bool.and_eq_true, decide_eq_true_eq, Bool.not_eq_true',
    any_eq_false, not_and] at hforged
  obtain ⟨⟨horigin, hunverified⟩, hkeys⟩ := hforged
  obtain ⟨hstate, hremote⟩ := resolveInboundRemote_of_needsNoLookup timed.steadyNow hlookup
  unfold serve handleInboundFederationRequest
  rcases hresolved : resolveInboundRemote server timed.steadyNow timed.request state with
    ⟨response | ⟨route, remote⟩, resolved⟩
  · rw [hresolved] at hstate
    obtain rfl : resolved = state := hstate
    exact h
  · rw [hresolved] at hstate hremote
    obtain rfl : resolved = state := hstate
    have hfound := hremote route remote rfl
    rw [horigin] at hfound
    obtain ⟨hmem, hname⟩ := findRemote_some hfound
    dsimp only [checkInboundRequestSignature]
    rw [hunverified]
    rcases hverify : verifySignedFederationRequest server.yyjson server.sodium timed.request
      remote.signingKey with rejection | ⟨⟩
    · exact persistRemoteTrust_alike_left h hfound (Nat.le_succ _)
    · obtain ⟨-, hkeyId, -, hverified⟩ := verifySignedFederationRequest_ok hverify
      exact absurd hverified (hkeys _ (hremotes remote hmem hname) hkeyId)

/-- In a run where forged requests cause no lookups and the server's own requests
find fewer than three failures, leaving out the forged requests changes no other
answer. -/
theorem forged_requests_change_no_answer (server : FederationServer Keys World Rates)
    (serverName : Bytes) (serverKeys : List ServerKey)
    (hsound : ResolvesSoundly (ownKeys Keys serverName serverKeys) server)
    (state : FederationRuntimeState Keys World Rates)
    (hremotes : RemotesGood (ownKeys Keys serverName serverKeys) state)
    (requests : List TimedRequest)
    (hunharmed : Along (serve server) (Unharmed server serverName serverKeys) state requests) :
    ((answers server state requests).filter fun answered =>
        !forged server serverName serverKeys answered.1.request) =
      answers server state
        (requests.filter fun timed => !forged server serverName serverKeys timed.request) := by
  -- compared from any two states that differ in the server's failures
  suffices halike : ∀ spared, StatesAlike serverName state spared →
      ((answers server state requests).filter fun answered =>
          !forged server serverName serverKeys answered.1.request) =
        answers server spared
          (requests.filter fun timed => !forged server serverName serverKeys timed.request) from
    halike state (.refl state)
  induction requests generalizing state with
  | nil => exact fun _ _ => rfl
  | cons timed rest ih =>
    intro spared halike
    obtain ⟨hfirst, hrest⟩ := hunharmed
    have hkept : RemotesGood (ownKeys Keys serverName serverKeys) (serve server state timed) :=
      (handleInboundFederationRequest_serves hsound timed.steadyNow timed.request
        hremotes).keeps.remotes hremotes
    rw [answers]
    unfold Unharmed at hfirst
    split_ifs at hfirst with hforged
    · rw [filter_cons_of_neg (by simpa using hforged), filter_cons_of_neg (by simpa using hforged)]
      exact ih _ hkept hrest _ (serve_forged_alike hforged hfirst hremotes halike)
    · have hhandled := handleInboundFederationRequest_alike server halike timed.steadyNow (by
          intro remote hfound hname
          have horigin : timed.request.origin = serverName :=
            (findRemote_some hfound).2.symm.trans hname
          have hfew := hfirst horigin
          rw [← horigin, hfound, Option.all_some, decide_eq_true_eq] at hfew
          exact hfew)
      rw [filter_cons_of_pos (by simpa using hforged),
        filter_cons_of_pos (by simpa using hforged), answers, hhandled.response]
      exact congrArg (cons _) (ih _ hkept hrest _ hhandled.states)

end Runs

def forgedRequest : SignedFederationRequest :=
  { topicRequest with signature := sendRequest.signature }

def topicServer : FederationServer Unit Unit Unit :=
  { sampleServer with
    sodium := sodiumOf []
      [⟨(federationRequestPayload sampleYyjson topicRequest).getD [], topicRequest.signature,
        bobKey⟩]
    answer := fun world _ _ => (⟨200, [], []⟩, world) }

def bobKeys : List ServerKey := [⟨"ed25519:1", base64Decode bobKey⟩]

def attack (count : Nat) : List TimedRequest :=
  List.replicate count ⟨0, forgedRequest⟩ ++ [⟨0, topicRequest⟩]

def honestStatuses (requests : List TimedRequest) : List Nat :=
  ((answers topicServer sampleState requests).filter fun answered =>
    !forged topicServer "b.example" bobKeys answered.1.request).map fun answered =>
      answered.2.status

theorem two_forged_requests_change_no_answer : honestStatuses (attack 2) = [200] ∧
      ((answers topicServer sampleState (attack 2)).filter fun answered =>
          !forged topicServer "b.example" bobKeys answered.1.request) =
        answers topicServer sampleState
          ((attack 2).filter fun timed =>
            !forged topicServer "b.example" bobKeys timed.request) := by
  refine ⟨by decide +kernel, ?_⟩
  refine forged_requests_change_no_answer topicServer "b.example" bobKeys ?_ sampleState ?_
    (attack 2) (by decide +kernel)
  · rintro resolver ⟨⟩
  · intro remote hmem
    obtain rfl := mem_singleton.mp hmem
    intro _
    exact mem_singleton_self _

/-- After three forged requests the server is told to back off. -/
theorem three_forged_requests_lock_out : honestStatuses (attack 3) = [429] ∧
      honestStatuses ((attack 3).filter fun timed =>
        !forged topicServer "b.example" bobKeys timed.request) = [200] := by
  decide +kernel

end Merovingian.ForgedRequests
