import Merovingian.EduAccess
import Merovingian.OperationRuns
import Merovingian.ReplayLedger

/-!
Requests that are handled side by side. Each goes through the stages of the
pipeline; a stage is what happens under one lock, and between two stages of a
request those of others may run and the rest of the server may change whatever
is not the list of accepted transactions. The list is searched in one stage and
appended to in a later one.
-/

namespace Merovingian.ConcurrentSends

open ByteString JsonValue FederationPolicy FederationPdus InboundRequests TransactionIngestion
  SendResponses EduAccess ReplayLedger OperationRuns List

variable {Keys World Rates α : Type} {server : FederationServer Keys World Rates}
  {request : SignedFederationRequest}

structure Incoming (server : FederationServer Keys World Rates)
    (request : SignedFederationRequest) where
  remote : FederationRemoteRuntime
  transaction : FederationTransaction
  edus : List (Bytes × Bytes)
  read : readTransaction server request = .ok (transaction, edus)

inductive SendStage (server : FederationServer Keys World Rates)
    (request : SignedFederationRequest) where
  | received
  | resolved (route : FederationRoute) (remote : FederationRemoteRuntime)
  | authenticated (route : FederationRoute) (remote : FederationRemoteRuntime)
  | read (incoming : Incoming server request)
  | limited (incoming : Incoming server request)
  | checked (incoming : Incoming server request)
  | ingesting (incoming : Incoming server request) (senderKeys : SenderKeys)
      (progress : PduProgress Keys World) (pdus : List Bytes)
  | dispatching (incoming : Incoming server request) (progress : PduProgress Keys World)
      (edus : List (Bytes × Bytes))
  | recording (incoming : Incoming server request) (errors : Object)
  | answered (response : FederationResponse)

structure StageStep (server : FederationServer Keys World Rates)
    (request : SignedFederationRequest) where
  stage : SendStage server request
  state : FederationRuntimeState Keys World Rates
  handed : Bool := false
  recorded : Option FederationAcceptedTransaction := none

section Stages

variable (server : FederationServer Keys World Rates) (request : SignedFederationRequest)

section

variable (incoming : Incoming server request)

def isHandedToSink : FederationEvent World → Bool
  | .handedToSink _ _ _ => true
  | _ => false

def stepAuthenticated (route : FederationRoute) (remote : FederationRemoteRuntime)
    (state : FederationRuntimeState Keys World Rates) : StageStep server request :=
  match checkRoomAclForEndpoint server state.world request route with
  | some response => { stage := .answered response, state := state }
  | none =>
    if route.endpoint = .transaction then
      match hread : readTransaction server request with
      | .error response =>
        { stage := .answered response
          state := persistRemoteTrust state remote (remote.trust.consecutiveFailures + 1) }
      | .ok (transaction, edus) =>
        { stage := .read ⟨remote, transaction, edus, hread⟩, state := state }
    else
      let handled := handleEndpoint server request route remote state
      { stage := .answered handled.response, state := handled.state }

/-- One PDU, with the keys and the world as they are when its turn comes. -/
def stepIngesting (senderKeys : SenderKeys) (progress : PduProgress Keys World) (encoded : Bytes)
    (pdus : List Bytes) (state : FederationRuntimeState Keys World Rates) : StageStep server
    request :=
  let after := ingestPdu server request incoming.remote.signingKey senderKeys
    { progress with keys := state.keys, world := state.world } encoded
  { stage := .ingesting incoming senderKeys after pdus
    state := { state with keys := after.keys, world := after.world }
    handed := (after.events.drop progress.events.length).any isHandedToSink }

def trustFailures (progress : PduProgress Keys World) : Nat :=
  if progress.trustFailures = 0 then 0
  else incoming.remote.trust.consecutiveFailures + progress.trustFailures

def acceptedEntry : FederationAcceptedTransaction :=
  ⟨request.origin, incoming.transaction.transactionId, incoming.transaction.pdus.length,
    incoming.transaction.edus.length⟩

end

def stepStage (steadyNow : Nat) (state : FederationRuntimeState Keys World Rates) :
    SendStage server request → StageStep server request
  | .received =>
    match resolveInboundRemote server steadyNow request state with
    | (.error response, state) => { stage := .answered response, state := state }
    | (.ok (route, remote), state) => { stage := .resolved route remote, state := state }
  | .resolved route remote =>
    if request.signatureVerified then { stage := .authenticated route remote, state := state }
    else
      match checkInboundRequestSignature server request remote state with
      | (some response, state) => { stage := .answered response, state := state }
      | (none, state) => { stage := .authenticated route remote, state := state }
  | .authenticated route remote => stepAuthenticated server request route remote state
  | .read incoming =>
    match server.originTransactionRate state.rates request.origin
        incoming.transaction.pdus.length incoming.transaction.edus.length with
    | (some reason, rates) =>
      { stage := .answered ⟨429, matrixError "M_LIMIT_EXCEEDED" reason, []⟩
        state := { state with rates := rates } }
    | (none, rates) => { stage := .limited incoming, state := { state with rates := rates } }
  | .limited incoming =>
    if transactionAlreadyAccepted state request.origin incoming.transaction.transactionId then
      { stage := .answered (transactionResponse [])
        state := persistRemoteTrust state incoming.remote 0 }
    else { stage := .checked incoming, state := state }
  | .checked incoming =>
    let (senderKeys, keys) :=
      preResolve server request.origin state.world incoming.transaction.pdus state.keys
    { stage := .ingesting incoming senderKeys { keys := keys, world := state.world }
        incoming.transaction.pdus
      state := { state with keys := keys } }
  | .ingesting incoming senderKeys progress (encoded :: pdus) =>
    stepIngesting server request incoming senderKeys progress encoded pdus state
  | .ingesting incoming _ progress [] =>
    { stage := .dispatching incoming progress incoming.edus, state := state }
  | .dispatching incoming progress (edu :: edus) =>
    { stage := .dispatching incoming progress edus
      state := { state with world := dispatchEdu server request.origin state.world edu }
      handed := (eduCall server request.origin state.world edu).isSome }
  | .dispatching incoming progress [] =>
    { stage := .recording incoming progress.errors
      state := persistRemoteTrust state incoming.remote
        (trustFailures server request incoming progress) }
  | .recording incoming errors =>
    { stage := .answered (transactionResponse errors)
      state := { state with
        acceptedTransactions := pushBounded maxAcceptedTransactions state.acceptedTransactions
          (acceptedEntry server request incoming) }
      recorded := some (acceptedEntry server request incoming) }
  | .answered response => { stage := .answered response, state := state }

end Stages

section Effects

/-- The transaction is past the search of the list and not yet on it. -/
def SendStage.inFlight : SendStage server request → Bool
  | .checked _ | .ingesting .. | .dispatching .. | .recording .. => true
  | _ => false

def SendStage.atCheck : SendStage server request → Bool
  | .limited _ => true
  | _ => false

def transactionKey (request : SignedFederationRequest) : Bytes × Bytes :=
  (request.origin, transactionIdFromSendTarget request.target)

def entryKey (entry : FederationAcceptedTransaction) : Bytes × Bytes :=
  (entry.origin, entry.transactionId)

/-- What a stage can do to the list, and to the requests that are in flight. -/
inductive StageEffect (state : FederationRuntimeState Keys World Rates)
    (stage : SendStage server request) : StageStep server request → Prop where
  | pass {next : SendStage server request} {after : FederationRuntimeState Keys World Rates}
      (haccepted : after.acceptedTransactions = state.acceptedTransactions)
      (hcheck : stage.atCheck = true)
      (hnew : transactionKey request ∉ state.acceptedTransactions.map entryKey)
      (hnext : next.inFlight = true) : StageEffect state stage ⟨next, after, false, none⟩
  | keep {next : SendStage server request} {after : FederationRuntimeState Keys World Rates}
      {handed : Bool} (haccepted : after.acceptedTransactions = state.acceptedTransactions)
      (hflight : next.inFlight = stage.inFlight)
      (hhanded : handed = true → stage.inFlight = true) :
      StageEffect state stage ⟨next, after, handed, none⟩
  | record {next : SendStage server request} {after : FederationRuntimeState Keys World Rates}
      {entry : FederationAcceptedTransaction}
      (haccepted : after.acceptedTransactions =
        pushBounded maxAcceptedTransactions state.acceptedTransactions entry)
      (hentry : entryKey entry = transactionKey request) (hflight : stage.inFlight = true)
      (hnext : next.inFlight = false) : StageEffect state stage ⟨next, after, false, some entry⟩

theorem Incoming.transactionId (incoming : Incoming server request) :
    incoming.transaction.transactionId = transactionIdFromSendTarget request.target :=
  (PipelineSafety.readTransaction_eq incoming.read).1

variable {state after : FederationRuntimeState Keys World Rates} {route : FederationRoute}
  {remote : FederationRemoteRuntime} {signingKey : FederationKeyRecord}

theorem acceptMembershipPdu_accepted {pdu : FederationPdu}
    {rejected : FederationRejection → FederationResponse} {badHash : FederationResponse}
    {accept : World → FederationResponse × World} :
    (acceptMembershipPdu server request signingKey pdu state rejected badHash
      accept).state.acceptedTransactions = state.acceptedTransactions := by
  fun_cases acceptMembershipPdu server request signingKey pdu state rejected badHash accept <;> rfl

theorem dispatchNonTransactionEndpoint_accepted :
    (dispatchNonTransactionEndpoint server request route signingKey
      state).state.acceptedTransactions = state.acceptedTransactions := by
  have hmembership : (handleSendMembership server request route signingKey
      state).state.acceptedTransactions = state.acceptedTransactions := by
    fun_cases handleSendMembership server request route signingKey state <;>
      first | rfl | exact acceptMembershipPdu_accepted
  have hinvite : (handleInvite server request route signingKey
      state).state.acceptedTransactions = state.acceptedTransactions := by
    fun_cases handleInvite server request route signingKey state <;>
      first | rfl | exact acceptMembershipPdu_accepted
  fun_cases dispatchNonTransactionEndpoint server request route signingKey state <;>
    first | rfl | exact hmembership | exact hinvite

theorem handleEndpoint_accepted :
    (handleEndpoint server request route remote state).state.acceptedTransactions =
      state.acceptedTransactions := by
  fun_cases handleEndpoint server request route remote state <;>
    first | rfl | exact dispatchNonTransactionEndpoint_accepted

theorem stepAuthenticated_effect :
    StageEffect state (.authenticated route remote : SendStage server request)
      (stepAuthenticated server request route remote state) := by
  fun_cases stepAuthenticated server request route remote state
  case case4 => exact .keep handleEndpoint_accepted rfl (by simp)
  all_goals exact .keep rfl rfl (by simp)

theorem checkInboundRequestSignature_accepted {refusal : Option FederationResponse}
    (h : checkInboundRequestSignature server request remote state = (refusal, after)) :
    after.acceptedTransactions = state.acceptedTransactions := by
  revert h
  fun_cases checkInboundRequestSignature server request remote state <;> rintro ⟨⟩ <;> rfl

theorem stepStage_effect (steadyNow : Nat) (state : FederationRuntimeState Keys World Rates)
    (stage : SendStage server request) :
    StageEffect state stage (stepStage server request steadyNow state stage) := by
  fun_cases stepStage server request steadyNow state stage
  case case1 response after heq =>
    exact .keep (resolveInboundRemote_refuses heq).accepted rfl (by simp)
  case case2 route remote after heq =>
    exact .keep (resolveInboundRemote_refuses heq).accepted rfl (by simp)
  case case4 route remote _ response after heq =>
    exact .keep (checkInboundRequestSignature_accepted heq) rfl (by simp)
  case case5 route remote _ after heq =>
    exact .keep (checkInboundRequestSignature_accepted heq) rfl (by simp)
  case case6 => exact stepAuthenticated_effect
  case case10 incoming hnew =>
    refine .pass rfl rfl ?_ rfl
    simpa [incoming.transactionId, transactionAlreadyAccepted, entryKey, transactionKey] using hnew
  case case12 => exact .keep rfl rfl fun _ => rfl
  case case14 => exact .keep rfl rfl fun _ => rfl
  case case16 incoming errors =>
    exact .record rfl (congrArg (Prod.mk request.origin) incoming.transactionId) rfl rfl
  all_goals exact .keep rfl rfl (by simp)

end Effects

section Alone

variable {steadyNow : Nat}

/-- Left to itself, a stage leads to the answer and to the state after it. -/
inductive Finishes (server : FederationServer Keys World Rates) (request : SignedFederationRequest)
    (steadyNow : Nat) : SendStage server request → FederationRuntimeState Keys World Rates →
    FederationResponse → FederationRuntimeState Keys World Rates → Prop where
  | answered (response : FederationResponse) (state : FederationRuntimeState Keys World Rates) :
      Finishes server request steadyNow (.answered response) state response state
  | step {stage : SendStage server request} {state after : FederationRuntimeState Keys World Rates}
      {response : FederationResponse}
      (hnext : Finishes server request steadyNow
        (stepStage server request steadyNow state stage).stage
        (stepStage server request steadyNow state stage).state response after) :
      Finishes server request steadyNow stage state response after

def recordedState (incoming : Incoming server request) (progress : PduProgress Keys World)
    (state : FederationRuntimeState Keys World Rates) : FederationRuntimeState Keys World Rates :=
  persistRemoteTrust
    { state with
      acceptedTransactions := pushBounded maxAcceptedTransactions state.acceptedTransactions
        (acceptedEntry server request incoming) }
    incoming.remote (trustFailures server request incoming progress)

variable {state : FederationRuntimeState Keys World Rates}

section

variable (incoming : Incoming server request)

theorem dispatching_finishes (progress : PduProgress Keys World) (edus : List (Bytes × Bytes)) :
    Finishes server request steadyNow (.dispatching incoming progress edus) state
      (transactionResponse progress.errors)
      (recordedState incoming progress
        { state with world := edus.foldl (dispatchEdu server request.origin) state.world }) := by
  induction edus generalizing state with
  | nil => exact .step (.step (.answered _ _))
  | cons edu edus ih => exact .step ih

theorem ingesting_finishes (senderKeys : SenderKeys) (progress : PduProgress Keys World)
    (pdus : List Bytes) :
    let after :=
      pdus.foldl (ingestPdu server request incoming.remote.signingKey senderKeys) progress
    Finishes server request steadyNow (.ingesting incoming senderKeys progress pdus)
      { state with keys := progress.keys, world := progress.world }
      (transactionResponse after.errors)
      (recordedState incoming after
        { state with
          keys := after.keys
          world := incoming.edus.foldl (dispatchEdu server request.origin) after.world }) := by
  induction pdus generalizing progress with
  | nil => exact .step (dispatching_finishes _ _ _)
  | cons encoded pdus ih => exact .step (ih _)

theorem read_finishes :
    Finishes server request steadyNow (.read incoming) state
      (handleTransaction server request incoming.remote state).response
      (handleTransaction server request incoming.remote state).state := by
  refine .step ?_
  rw [stepStage]
  rcases hrate : server.originTransactionRate state.rates request.origin
    incoming.transaction.pdus.length incoming.transaction.edus.length with ⟨- | reason, rates⟩
  · simp only [handleTransaction, incoming.read, hrate]
    refine .step ?_
    rw [stepStage]
    split_ifs
    · exact .answered _ _
    · exact .step (ingesting_finishes incoming _ _ _)
  · simp only [handleTransaction, incoming.read, hrate]
    exact .answered _ _

end

theorem authenticated_finishes (route : FederationRoute) (remote : FederationRemoteRuntime) :
    Finishes server request steadyNow (.authenticated route remote) state
      (serveAuthenticated server request route remote state).response
      (serveAuthenticated server request route remote state).state := by
  refine .step ?_
  rw [stepStage, serveAuthenticated]
  fun_cases stepAuthenticated server request route remote state
  case case1 response hacl =>
    rw [hacl]
    exact .answered _ _
  case case2 hacl hendpoint response hread =>
    rw [hacl]
    rw [if_pos hendpoint, handleTransaction, hread]
    exact .answered _ _
  case case3 hacl hendpoint transaction edus hread =>
    rw [hacl]
    rw [if_pos hendpoint]
    exact read_finishes ⟨remote, transaction, edus, hread⟩
  case case4 hacl hendpoint handled =>
    rw [hacl]
    rw [if_neg hendpoint]
    exact .answered _ _

theorem received_finishes :
    Finishes server request steadyNow .received state
      (handleInboundFederationRequest server steadyNow request state).response
      (handleInboundFederationRequest server steadyNow request state).state := by
  rw [handleInboundFederationRequest]
  refine .step ?_
  rw [stepStage]
  rcases resolveInboundRemote server steadyNow request state with
    ⟨response | ⟨route, remote⟩, resolved⟩
  · exact .answered _ _
  · refine .step ?_
    rw [stepStage]
    dsimp only
    split_ifs
    · exact authenticated_finishes route remote
    · rcases checkInboundRequestSignature server request remote resolved with
        ⟨- | response, after⟩
      · exact authenticated_finishes route remote
      · exact .answered _ _

end Alone

section Runs

variable (server : FederationServer Keys World Rates)

structure SendTask where
  request : SignedFederationRequest
  steadyNow : Nat
  stage : SendStage server request

/-- The shared state and the requests that have come in, with every call of a
sink and every entry that was put on the list, the latest first. -/
structure SendRun where
  state : FederationRuntimeState Keys World Rates
  tasks : List (SendTask server) := []
  handed : List (Nat × SignedFederationRequest) := []
  recorded : List FederationAcceptedTransaction := []

inductive SendAction (Keys World Rates : Type) where
  | arrive (request : SignedFederationRequest) (steadyNow : Nat)
  | step (index : Nat)
  | interfere (state : FederationRuntimeState Keys World Rates)

variable {server}

def SendRun.stepTask (run : SendRun server) (index : Nat) (task : SendTask server) :
    SendRun server :=
  let next := stepStage server task.request task.steadyNow run.state task.stage
  { state := next.state
    tasks := run.tasks.set index { task with stage := next.stage }
    handed := if next.handed then (index, task.request) :: run.handed else run.handed
    recorded := next.recorded.toList ++ run.recorded }

def SendRun.act (run : SendRun server) : SendAction Keys World Rates → SendRun server
  | .arrive request steadyNow =>
    { run with tasks := run.tasks ++ [⟨request, steadyNow, .received⟩] }
  | .step index => run.tasks[index]?.elim run (run.stepTask index)
  | .interfere state =>
    { run with state := { state with acceptedTransactions := run.state.acceptedTransactions } }

def SendRun.start (state : FederationRuntimeState Keys World Rates) : SendRun server :=
  { state := { state with acceptedTransactions := [] } }

def requestedTransaction (request : SignedFederationRequest) : Bytes × Bytes :=
  (request.origin, transactionIdFromSendTarget (targetPath request.target))

def SendRun.HandedOnce (run : SendRun server) : Prop :=
  ∀ first ∈ run.handed, ∀ second ∈ run.handed,
    requestedTransaction first.2 = requestedTransaction second.2 → first.1 = second.1

instance (run : SendRun server) : Decidable run.HandedOnce :=
  inferInstanceAs (Decidable (∀ first ∈ run.handed, ∀ second ∈ run.handed,
    requestedTransaction first.2 = requestedTransaction second.2 → first.1 = second.1))

/-- The list is not so short that it has forgotten the transaction that is
searched for. -/
def SendRun.Remembers (run : SendRun server) (task : SendTask server) : Prop :=
  task.stage.atCheck = true → transactionKey task.request ∈ run.recorded.map entryKey →
    ((run.recorded.map entryKey).takeWhile fun key => key ≠ transactionKey task.request).length <
      maxAcceptedTransactions

/-- The list is searched while no other request for the transaction is in flight. -/
def SendRun.ChecksAlone (run : SendRun server) (task : SendTask server) : Prop :=
  task.stage.atCheck = true → ∀ other ∈ run.tasks, other.stage.inFlight = true →
    transactionKey other.request ≠ transactionKey task.request

instance (run : SendRun server) (task : SendTask server) : Decidable (run.Remembers task) :=
  inferInstanceAs (Decidable (_ → _ → _))

instance (run : SendRun server) (task : SendTask server) : Decidable (run.ChecksAlone task) :=
  inferInstanceAs (Decidable (_ → _))

def SendRun.Orderly (run : SendRun server) : SendAction Keys World Rates → Prop
  | .arrive request _ => targetPath request.target = request.target
  | .step index => ∀ task ∈ run.tasks[index]?, run.ChecksAlone task
  | .interfere _ => True

def SendRun.Recent (run : SendRun server) : SendAction Keys World Rates → Prop
  | .step index => ∀ task ∈ run.tasks[index]?, run.Remembers task
  | _ => True

instance (run : SendRun server) : DecidablePred run.Orderly
  | .arrive request _ => decEq (targetPath request.target) request.target
  | .step index => inferInstanceAs (Decidable (∀ task ∈ run.tasks[index]?, run.ChecksAlone task))
  | .interfere _ => inferInstanceAs (Decidable True)

instance (run : SendRun server) : DecidablePred run.Recent
  | .arrive _ _ => inferInstanceAs (Decidable True)
  | .step index => inferInstanceAs (Decidable (∀ task ∈ run.tasks[index]?, run.Remembers task))
  | .interfere _ => inferInstanceAs (Decidable True)

variable {index : Nat} {task : SendTask server}

theorem Finishes.run {steadyNow : Nat} {stage : SendStage server request}
    {state after : FederationRuntimeState Keys World Rates} {response : FederationResponse}
    (h : Finishes server request steadyNow stage state response after) (run : SendRun server)
    (htask : run.tasks[index]? = some ⟨request, steadyNow, stage⟩) (hstate : run.state = state) :
    ∃ stages, ((replicate stages (SendAction.step index)).foldl SendRun.act run).state = after ∧
      ((replicate stages (SendAction.step index)).foldl SendRun.act run).tasks[index]? =
        some ⟨request, steadyNow, .answered response⟩ := by
  induction h generalizing run with
  | answered => exact ⟨0, hstate, htask⟩
  | @step stage state after response _ ih =>
    have hact : run.act (.step index) = run.stepTask index ⟨request, steadyNow, stage⟩ := by
      rw [SendRun.act, htask]
      rfl
    have hlength : index < run.tasks.length := (List.getElem?_eq_some_iff.mp htask).1
    obtain ⟨stages, hafter, hanswered⟩ := ih (run.act (.step index))
      (by rw [hact, ← hstate]; exact getElem?_set_self hlength)
      (by rw [hact, ← hstate]; rfl)
    exact ⟨stages + 1, hafter, hanswered⟩

/-- A request that comes in and whose stages run in a row is handled as the pipeline says. -/
theorem request_alone (run : SendRun server) (steadyNow : Nat) :
    ∃ stages,
      let after := (replicate stages (.step run.tasks.length)).foldl SendRun.act
        (run.act (.arrive request steadyNow))
      after.state = (handleInboundFederationRequest server steadyNow request run.state).state ∧
        after.tasks[run.tasks.length]? = some ⟨request, steadyNow, .answered
          (handleInboundFederationRequest server steadyNow request run.state).response⟩ :=
  received_finishes.run _ (by simp [SendRun.act]) rfl

end Runs

section Ledgers

variable {index : Nat} {task : SendTask server}

theorem pushBounded_reverse_take {bound : Nat} (hbound : 0 < bound) (entries : List α) (entry : α) :
    pushBounded bound (entries.take bound).reverse entry =
      ((entry :: entries).take bound).reverse := by
  obtain ⟨bound, rfl⟩ := Nat.exists_eq_succ_of_ne_zero hbound.ne'
  rw [pushBounded, take_succ_cons, reverse_cons]
  congr 1
  split_ifs with hfull
  · rw [length_reverse, length_take] at hfull
    rw [tail_reverse, dropLast_eq_take, take_take, length_take]
    congr 2
    omega
  · rw [length_reverse, length_take] at hfull
    rw [take_of_length_le (by omega), take_of_length_le (by omega)]

theorem mem_take_of_takeWhile [DecidableEq α] {entry : α} {entries : List α} {bound : Nat}
    (hmem : entry ∈ entries)
    (hbound : (entries.takeWhile fun other => other ≠ entry).length < bound) :
    entry ∈ entries.take bound := by
  have hplace := idxOf_lt_length_iff.mpr hmem
  rw [mem_take_iff_idxOf_lt hmem]
  rw [takeWhile_eq_take_findIdx_not, length_take] at hbound
  simp only [ne_eq, decide_not, Bool.not_not] at hbound
  exact (min_lt_iff.mp hbound).elim id hplace.trans

theorem entriesOf_cons (entry : α) (entries : List α) :
    { other | other ∈ entry :: entries } = insert entry { other | other ∈ entries } :=
  Set.ext fun _ => mem_cons

def underWay (tasks : List (SendTask server)) : Set (Nat × SignedFederationRequest) :=
  { entry | ∃ task, tasks[entry.1]? = some task ∧ task.request = entry.2 ∧
    task.stage.inFlight = true }

def SendRun.ledger (run : SendRun server) :
    Ledger (Nat × SignedFederationRequest) (Bytes × Bytes) where
  underWay := underWay run.tasks
  recorded := { key | key ∈ run.recorded.map entryKey }
  acted := { entry | entry ∈ run.handed }

theorem underWay_set {tasks : List (SendTask server)} (htask : tasks[index]? = some task)
    (next : SendStage server task.request) :
    underWay (tasks.set index { task with stage := next }) =
      if next.inFlight = true then insert (index, task.request) (underWay tasks)
      else underWay tasks \ {(index, task.request)} := by
  have hlength : index < tasks.length := (List.getElem?_eq_some_iff.mp htask).1
  ext ⟨position, request⟩
  rcases eq_or_ne position index with rfl | hne
  · have hown : (position, request) ∈ underWay tasks → request = task.request := by
      rintro ⟨other, hother, rfl, -⟩
      rw [Option.some.inj (htask.symm.trans hother)]
    have hset : (position, request) ∈ underWay (tasks.set position { task with stage := next }) ↔
        task.request = request ∧ next.inFlight = true := by
      simp [underWay, getElem?_set_self hlength]
    split_ifs with hnext <;> grind
  · split_ifs <;> simp [underWay, getElem?_set_ne hne.symm, hne]

theorem underWay_arrive (tasks : List (SendTask server)) (request : SignedFederationRequest)
    (steadyNow : Nat) : underWay (tasks ++ [⟨request, steadyNow, .received⟩]) = underWay tasks := by
  ext ⟨position, arrived⟩
  refine exists_congr fun task => ?_
  rcases lt_trichotomy position tasks.length with hlt | rfl | hgt
  · rw [getElem?_append_left hlt]
  · rw [getElem?_concat_length, getElem?_eq_none le_rfl]
    refine iff_of_false ?_ fun h => by cases h.1
    rintro ⟨⟨⟩, -, hflight⟩
    cases hflight
  · rw [getElem?_eq_none (by rw [length_append]; exact hgt), getElem?_eq_none hgt.le]

/-- The ledger that a run keeps is valid, the list has its latest entries, and no
request has a query. -/
structure SendRun.Valid (run : SendRun server) : Prop where
  ledger : run.ledger.Valid fun entry => transactionKey entry.2
  accepted : run.state.acceptedTransactions = (run.recorded.take maxAcceptedTransactions).reverse
  plain : ∀ task ∈ run.tasks, targetPath task.request.target = task.request.target
  handed : ∀ entry ∈ run.handed, targetPath entry.2.target = entry.2.target

section

variable {run : SendRun server} (hvalid : run.Valid)
include hvalid

theorem stepTask_simulates (htask : run.tasks[index]? = some task) (halone : run.ChecksAlone task)
    (hremembers : run.Remembers task) :
    Relation.ReflTransGen (Ledger.Step fun entry => transactionKey entry.2) run.ledger
      (run.stepTask index task).ledger := by
  have heffect := stepStage_effect task.steadyNow run.state task.stage
  rw [SendRun.stepTask]
  generalize stepStage server task.request task.steadyNow run.state task.stage = next at heffect ⊢
  cases heffect with
  | pass haccepted hcheck hnew hnext =>
    have hfresh : transactionKey task.request ∉ run.recorded.map entryKey := by
      intro hmem
      have htake := mem_take_of_takeWhile hmem (hremembers hcheck hmem)
      rw [hvalid.accepted, map_reverse, map_take, mem_reverse] at hnew
      exact hnew htake
    have hothers : ∀ entry ∈ underWay run.tasks,
        transactionKey entry.2 ≠ transactionKey task.request := by
      rintro ⟨position, _⟩ ⟨other, hother, rfl, hflight⟩
      exact halone hcheck other (mem_of_getElem? hother) hflight
    simp only [SendRun.ledger, underWay_set htask, if_pos hnext]
    exact .single (.start (index, task.request) hfresh hothers)
  | @keep next after handed haccepted hflight hhanded =>
    have hsame : underWay (run.tasks.set index { task with stage := next }) =
        underWay run.tasks := by
      rcases hinFlight : task.stage.inFlight with - | -
      · rw [underWay_set htask, hflight.trans hinFlight, if_neg Bool.false_ne_true]
        refine Set.sdiff_singleton_eq_self ?_
        rintro ⟨other, hother, -, hother'⟩
        obtain rfl := Option.some.inj (htask.symm.trans hother)
        rw [hinFlight] at hother'
        cases hother'
      · rw [underWay_set htask, if_pos (hflight.trans hinFlight)]
        exact Set.insert_eq_of_mem ⟨task, htask, rfl, hinFlight⟩
    simp only [SendRun.ledger, hsame]
    cases handed with
    | false => exact .refl
    | true =>
      have hmem : (index, task.request) ∈ run.ledger.underWay :=
        ⟨task, htask, rfl, hhanded rfl⟩
      simp only [if_true, entriesOf_cons]
      exact .single (.act (index, task.request) hmem)
  | @record next after entry haccepted hentry hflight hnext =>
    have hmem : (index, task.request) ∈ run.ledger.underWay := ⟨task, htask, rfl, hflight⟩
    simp only [SendRun.ledger, underWay_set htask, hnext, Bool.false_eq_true, if_false,
      Option.toList_some, singleton_append, map_cons, hentry, entriesOf_cons]
    exact .single (.finish (index, task.request) hmem)

theorem stepTask_accepted (index : Nat) (task : SendTask server) :
    (run.stepTask index task).state.acceptedTransactions =
      ((run.stepTask index task).recorded.take maxAcceptedTransactions).reverse := by
  have heffect := stepStage_effect task.steadyNow run.state task.stage
  rw [SendRun.stepTask]
  generalize stepStage server task.request task.steadyNow run.state task.stage = next at heffect ⊢
  cases heffect with
  | pass haccepted => exact haccepted.trans hvalid.accepted
  | keep haccepted => exact haccepted.trans hvalid.accepted
  | @record _ _ entry haccepted =>
    refine haccepted.trans ?_
    rw [hvalid.accepted, pushBounded_reverse_take (by decide)]
    rfl

theorem stepTask_valid (htask : run.tasks[index]? = some task) (halone : run.ChecksAlone task)
    (hremembers : run.Remembers task) : (run.stepTask index task).Valid := by
  have hplain := hvalid.plain task (mem_of_getElem? htask)
  refine ⟨Ledger.valid_of_steps (stepTask_simulates hvalid htask halone hremembers) hvalid.ledger,
    stepTask_accepted hvalid index task, ?_, ?_⟩
  · intro other hother
    rcases mem_or_eq_of_mem_set hother with hmem | rfl
    · exact hvalid.plain other hmem
    · exact hplain
  · intro entry hentry
    dsimp only [SendRun.stepTask] at hentry
    split_ifs at hentry
    · rcases mem_cons.mp hentry with rfl | hmem
      · exact hplain
      · exact hvalid.handed entry hmem
    · exact hvalid.handed entry hentry

theorem act_valid {action : SendAction Keys World Rates} (horderly : run.Orderly action)
    (hrecent : run.Recent action) : (run.act action).Valid := by
  cases action with
  | arrive request steadyNow =>
    refine ⟨?_, hvalid.accepted, ?_, hvalid.handed⟩
    · have hledger : (run.act (.arrive request steadyNow)).ledger = run.ledger := by
        simp only [SendRun.act, SendRun.ledger, underWay_arrive]
      rw [hledger]
      exact hvalid.ledger
    · exact forall_mem_append.mpr ⟨hvalid.plain, forall_mem_singleton.mpr horderly⟩
  | step index =>
    rcases htask : run.tasks[index]? with - | task
    · rw [SendRun.act, htask]
      exact hvalid
    · rw [SendRun.act, htask]
      exact stepTask_valid hvalid htask (horderly task htask) (hrecent task htask)
  | interfere state => exact ⟨hvalid.ledger, hvalid.accepted, hvalid.plain, hvalid.handed⟩

end

theorem start_valid (state : FederationRuntimeState Keys World Rates) :
    (SendRun.start state : SendRun server).Valid := by
  have hledger : (SendRun.start state : SendRun server).ledger = Ledger.empty := by
    simp [SendRun.ledger, SendRun.start, underWay, Ledger.empty]
  refine ⟨?_, rfl, ?_, ?_⟩
  · rw [hledger]
    exact Ledger.valid_empty
  · intro task htask
    cases htask
  · intro entry hentry
    cases hentry

end Ledgers

/-- In a run in which every request comes in without a query and searches the
list while no other for its transaction is in flight, no transaction is handed
to the sinks by two requests. -/
theorem transaction_handed_once {server : FederationServer Keys World Rates}
    (state : FederationRuntimeState Keys World Rates) (actions : List (SendAction Keys World Rates))
    (hrecent : Along SendRun.act SendRun.Recent (SendRun.start state : SendRun server) actions)
    (horderly : Along SendRun.act SendRun.Orderly (SendRun.start state : SendRun server) actions) :
    (actions.foldl SendRun.act (SendRun.start state : SendRun server)).HandedOnce := by
  have hvalid := (horderly.and hrecent).invariant (motive := SendRun.Valid)
    (fun run action hrun haction => act_valid hrun haction.1 haction.2) (start_valid state)
  intro first hfirst second hsecond heq
  rw [requestedTransaction, requestedTransaction, hvalid.handed first hfirst,
    hvalid.handed second hsecond] at heq
  exact congrArg Prod.fst (hvalid.ledger.once first (.inr hfirst) second (.inr hsecond) heq)

/-- A request and, once it is answered, the same request again. -/
def repeated : List (SendAction Unit Unit Unit) :=
  .arrive sendRequest 0 :: List.replicate 11 (.step 0) ++
    .arrive sendRequest 0 :: List.replicate 11 (.step 1)

theorem repeated_handed_once : let start : SendRun sampleServer := SendRun.start sampleState
    (repeated.foldl SendRun.act start).handed.map Prod.fst = [0, 0] ∧
      (repeated.foldl SendRun.act start).HandedOnce :=
  ⟨by decide +kernel,
    transaction_handed_once sampleState repeated (by decide +kernel) (by decide +kernel)⟩

/-- A request and the same request, each past the search before the other is on
the list. -/
def racing : List (SendAction Unit Unit Unit) :=
  .arrive sendRequest 0 :: .arrive sendRequest 0 ::
    List.replicate 5 (.step 0) ++ List.replicate 5 (.step 1) ++
    List.replicate 6 (.step 0) ++ List.replicate 6 (.step 1)

def queryRequest : SignedFederationRequest :=
  { sendRequest with
    target := "/_matrix/federation/v1/send/t1?again"
    signatureVerified := true }

/-- A request and, once it is answered, one for the same transaction. -/
def queried : List (SendAction Unit Unit Unit) :=
  .arrive sendRequest 0 :: List.replicate 11 (.step 0) ++
    .arrive queryRequest 0 :: List.replicate 11 (.step 1)

theorem racing_and_queried_handed_twice :
    let start : SendRun sampleServer := SendRun.start sampleState
    (Along SendRun.act SendRun.Recent start racing ∧
        ¬ (racing.foldl SendRun.act start).HandedOnce) ∧
      Along SendRun.act SendRun.Recent start queried ∧
        ¬ (queried.foldl SendRun.act start).HandedOnce := by
  decide +kernel

end Merovingian.ConcurrentSends
