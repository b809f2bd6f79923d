import Merovingian.ServerDiscovery
import Merovingian.TableMirror

/-!
The worker that sends transactions to other servers. It keeps its queue in
memory and a row for each transaction in a table keyed by transaction id, and
reads the table back when the server starts. Writes to the store are assumed to
be committed by its backend. Times are in milliseconds.
-/

namespace Merovingian.DispatchWorker

open ByteString JsonValue CanonicalSerializer CanonicalParser ServerDiscovery KeyedFold TableMirror

structure OutboundTransaction where
  transactionId : Bytes := []
  destination : Bytes := []
  method : Bytes := "PUT"
  target : Bytes := []
  origin : Bytes := []
  originServerTs : Bytes := []
  body : Bytes := []
  retryCount : UInt32 := 0
  nextRetryTs : UInt64 := 0
deriving DecidableEq

structure PersistentFederationTransaction where
  transactionId : Bytes
  serverName : Bytes
  method : Bytes
  target : Bytes
  origin : Bytes
  originServerTs : Bytes
  body : Bytes
  retryCount : UInt32
  nextRetryTs : UInt64
deriving DecidableEq

structure FederationDestination where
  serverName : Bytes := []
  retryAfterTs : UInt64 := 0
  lastSuccessTs : UInt64 := 0
  consecutiveFailures : UInt32 := 0
  state : Bytes := "idle"
deriving DecidableEq

structure PersistentFederationDestination where
  serverName : Bytes
  state : Bytes
  retryAfterTs : UInt64
  lastSuccessTs : UInt64
  consecutiveFailures : UInt32
deriving DecidableEq

structure FederationTables where
  federationDestinations : List PersistentFederationDestination := []
  federationTransactions : List PersistentFederationTransaction := []
deriving DecidableEq

section

variable (tables : FederationTables) (transaction : PersistentFederationTransaction)

def federationTransactionIsValid : Bool :=
  !transaction.transactionId.isEmpty && !transaction.serverName.isEmpty &&
    !transaction.method.isEmpty && !transaction.target.isEmpty &&
    !transaction.origin.isEmpty && !transaction.body.isEmpty

def storeFederationDestination (destination : PersistentFederationDestination) : Option
    FederationTables :=
  if destination.serverName.isEmpty || destination.state.isEmpty then none
  else some { tables with
    federationDestinations := putRow PersistentFederationDestination.serverName destination
      tables.federationDestinations }

def storeFederationTransaction : Option FederationTables :=
  if !federationTransactionIsValid transaction then none
  else some { tables with
    federationTransactions := putRow PersistentFederationTransaction.transactionId transaction
      tables.federationTransactions }

def deleteFederationTransaction (transactionId : Bytes) : Option FederationTables :=
  if transactionId.isEmpty then none
  else some { tables with
    federationTransactions := deleteKey PersistentFederationTransaction.transactionId
      transactionId tables.federationTransactions }

end

def baseRetryIntervalMs : UInt64 := 2000

def maxRetryIntervalMs : UInt64 := 300000

def maxConsecutiveFailuresBeforeCircuitOpen : UInt32 := 3

def backoffLoop : Nat → UInt64 → UInt64
  | 0, interval => interval
  | attempts + 1, interval =>
    if interval ≥ maxRetryIntervalMs then maxRetryIntervalMs
    else if interval > maxRetryIntervalMs / 2 then maxRetryIntervalMs
    else backoffLoop attempts (interval * 2)

def computeBackoff (retryCount : UInt32) : UInt64 :=
  backoffLoop retryCount.toNat baseRetryIntervalMs

example : [0, 1, 7, 8, 4000000000].map computeBackoff = [2000, 4000, 256000, 300000, 300000] := by
  decide +kernel

def destinationShouldRetry (destination : FederationDestination) (nowTs : UInt64) : Bool :=
  if destination.consecutiveFailures ≥ maxConsecutiveFailuresBeforeCircuitOpen &&
      nowTs < destination.retryAfterTs then false
  else if nowTs < destination.retryAfterTs then false
  else true

inductive OutboundError where
  | none
  | invalidUrl
  | invalidMethod
  | httpsRequired
  | unresolvedHost
  | tlsVerificationFailed
  | connectionFailed
  | redirectRejected
  | responseTooLarge
  | timeout
  | networkError
deriving DecidableEq

def outboundErrorName : OutboundError → Bytes
  | .none => "none"
  | .invalidUrl => "invalid_url"
  | .invalidMethod => "invalid_method"
  | .httpsRequired => "https_required"
  | .unresolvedHost => "unresolved_host"
  | .tlsVerificationFailed => "tls_verification_failed"
  | .connectionFailed => "connection_failed"
  | .redirectRejected => "redirect_rejected"
  | .responseTooLarge => "response_too_large"
  | .timeout => "timeout"
  | .networkError => "network_error"

structure OutboundResult where
  ok : Bool := false
  status : UInt16 := 0
  body : Bytes := []
  error : OutboundError := .networkError

structure OutboundTransactionResult where
  sent : Bool := false
  httpStatus : UInt16 := 0
  responseBody : Bytes := []
  error : Bytes := []

structure OutboundCall where
  transaction : OutboundTransaction
  resolvedHost : Bytes
  tlsServerName : Bytes
  resolvedPort : UInt16
  pinnedAddresses : List Bytes
deriving DecidableEq

def statusIsSuccess (status : UInt16) : Bool :=
  status ≥ 200 && status < 300

def applyOutboundResult (destination : FederationDestination)
    (result : OutboundTransactionResult) (nowTs : UInt64) : FederationDestination :=
  if result.sent && statusIsSuccess result.httpStatus then
    { destination with
      consecutiveFailures := 0
      lastSuccessTs := nowTs
      retryAfterTs := 0
      state := "ok" }
  else
    { destination with
      consecutiveFailures := destination.consecutiveFailures + 1
      retryAfterTs := nowTs + computeBackoff (destination.consecutiveFailures + 1)
      state := "backoff" }

structure Performed where
  result : OutboundTransactionResult
  destination : FederationDestination
  calls : List OutboundCall

def performOutboundTransaction (client : OutboundCall → OutboundResult) (call : OutboundCall)
    (destination : FederationDestination) (nowTs : UInt64) : Performed :=
  if !destinationShouldRetry destination nowTs then
    ⟨⟨false, 0, [], "circuit_open"⟩, destination, []⟩
  else
    let outcome := client call
    let result : OutboundTransactionResult :=
      ⟨outcome.ok, outcome.status, outcome.body,
        if outcome.ok then [] else outboundErrorName outcome.error⟩
    ⟨result, applyOutboundResult destination result nowTs, [call]⟩

def transactionIsWellFormed (transaction : OutboundTransaction) : Bool :=
  !transaction.transactionId.isEmpty && !transaction.destination.isEmpty &&
    !transaction.method.isEmpty && !transaction.target.isEmpty &&
    !transaction.origin.isEmpty && !transaction.body.isEmpty

def toPersistentTransaction (transaction : OutboundTransaction) : PersistentFederationTransaction :=
  ⟨transaction.transactionId, transaction.destination, transaction.method, transaction.target,
    transaction.origin, transaction.originServerTs, transaction.body, transaction.retryCount,
    transaction.nextRetryTs⟩

def toOutboundTransaction (transaction : PersistentFederationTransaction) : OutboundTransaction :=
  ⟨transaction.transactionId, transaction.serverName, transaction.method, transaction.target,
    transaction.origin, transaction.originServerTs, transaction.body, transaction.retryCount,
    transaction.nextRetryTs⟩

def toPersistentDestination (destination : FederationDestination) :
    PersistentFederationDestination :=
  ⟨destination.serverName, destination.state, destination.retryAfterTs,
    destination.lastSuccessTs, destination.consecutiveFailures⟩

def toFederationDestination (destination : PersistentFederationDestination) :
    FederationDestination :=
  ⟨destination.serverName, destination.retryAfterTs, destination.lastSuccessTs,
    destination.consecutiveFailures, destination.state⟩

structure DispatchWorkerConfig where
  maxQueueDepth : Nat := 1024
  maxRetries : UInt32 := 8

structure DispatchDestinationSnapshot where
  serverName : Bytes
  state : FederationDestination
deriving DecidableEq

structure Worker where
  tables : FederationTables := {}
  queue : List OutboundTransaction := []
  pendingReplay : List OutboundTransaction := []
  destinations : List DispatchDestinationSnapshot := []
  shutdownRequested : Bool := false
deriving DecidableEq

def Worker.live (worker : Worker) : List OutboundTransaction :=
  worker.queue ++ worker.pendingReplay

section Operations

variable (config : DispatchWorkerConfig)

def queueIsFull (queue : List OutboundTransaction) : Bool :=
  config.maxQueueDepth ≠ 0 && queue.length ≥ config.maxQueueDepth

section

variable (worker : Worker) (transaction : OutboundTransaction)

def enqueue : Bool × Worker :=
  if !transactionIsWellFormed transaction then (false, worker)
  else if worker.shutdownRequested then (false, worker)
  else if queueIsFull config worker.queue then (false, worker)
  else
    match storeFederationTransaction worker.tables (toPersistentTransaction transaction) with
    | none => (false, worker)
    | some tables => (true, { worker with tables, queue := worker.queue ++ [transaction] })

def requestShutdown : Worker :=
  { worker with shutdownRequested := true }

def topUpReplay (queue : List OutboundTransaction) :
    List OutboundTransaction → List OutboundTransaction × List OutboundTransaction
  | [] => (queue, [])
  | front :: rest =>
    if queueIsFull config queue then (queue, front :: rest)
    else topUpReplay (queue ++ [front]) rest

def takeNext (now : UInt64) : Option (OutboundTransaction × Worker) :=
  match worker.queue.find? fun candidate => candidate.nextRetryTs ≤ now with
  | none => none
  | some ready =>
    let erased := worker.queue.eraseP fun candidate => candidate.nextRetryTs ≤ now
    let filled := topUpReplay config erased worker.pendingReplay
    some (ready, { worker with queue := filled.1, pendingReplay := filled.2 })

def findOrCreateDestination (destinations : List DispatchDestinationSnapshot)
    (serverName : Bytes) : FederationDestination :=
  match destinations.find? fun snapshot => snapshot.serverName = serverName with
  | some existing => existing.state
  | none => { serverName }

def Worker.putDestination (serverName : Bytes) (destination : FederationDestination) : Worker :=
  { worker with
    destinations := putRow DispatchDestinationSnapshot.serverName ⟨serverName, destination⟩
      worker.destinations
    tables := (storeFederationDestination worker.tables
      (toPersistentDestination destination)).getD worker.tables }

inductive AttemptOutcome where
  | idle
  | delivered (transaction : OutboundTransaction)
  | dropped (transaction : OutboundTransaction)
  | requeued
  | failed
deriving DecidableEq

def requeue : AttemptOutcome × Worker :=
  match storeFederationTransaction worker.tables (toPersistentTransaction transaction) with
  | none => (.failed, worker)
  | some tables => (.requeued, { worker with tables, queue := worker.queue ++ [transaction] })

def reEnqueueWithBackoff (taken : OutboundTransaction) (nowTs : UInt64) : AttemptOutcome × Worker :=
  let transaction := { taken with retryCount := taken.retryCount + 1 }
  if transaction.retryCount ≥ config.maxRetries then
    match deleteFederationTransaction worker.tables transaction.transactionId with
    | none => (.failed, worker)
    | some tables => (.dropped transaction, { worker with tables })
  else
    requeue worker
      { transaction with nextRetryTs := nowTs + computeBackoff transaction.retryCount }

/-- The two readings of the clock and the answers that an attempt meets. -/
structure Attempt where
  takenAt : UInt64
  now : UInt64
  resolver : Bytes → Option ServerDiscoveryResult
  client : OutboundCall → OutboundResult

structure Attempted where
  outcome : AttemptOutcome
  worker : Worker
  calls : List OutboundCall := []

def outboundCall (resolution : ServerDiscoveryResult) : OutboundCall :=
  ⟨transaction, resolution.resolvedHost, resolution.tlsServerName, resolution.resolvedPort,
    resolution.pinnedAddresses⟩

/-- The rest of an attempt once the client, or the circuit breaker, has answered. -/
def finishAttempt (result : OutboundTransactionResult) (destination : FederationDestination)
    (now : UInt64) : AttemptOutcome × Worker :=
  if result.sent && statusIsSuccess result.httpStatus then
    match deleteFederationTransaction worker.tables transaction.transactionId with
    | none => reEnqueueWithBackoff config worker transaction now
    | some tables => (.delivered transaction, { worker with tables })
  else if result.error = "circuit_open" then
    requeue worker { transaction with
      nextRetryTs :=
        if destination.retryAfterTs > now then destination.retryAfterTs
        else now + computeBackoff transaction.retryCount }
  else reEnqueueWithBackoff config worker transaction now

def runOnce (attempt : Attempt) : Attempted :=
  match takeNext config worker attempt.takenAt with
  | none => { outcome := .idle, worker }
  | some (transaction, taken) =>
    let destination := findOrCreateDestination taken.destinations transaction.destination
    match (attempt.resolver transaction.destination).filter (·.discoveryAllowed) with
    | none =>
      let failed := applyOutboundResult destination ⟨false, 0, [], "discovery_failed"⟩
        attempt.now
      let after := reEnqueueWithBackoff config
        (taken.putDestination transaction.destination failed) transaction attempt.now
      { outcome := after.1, worker := after.2 }
    | some resolution =>
      let performed := performOutboundTransaction attempt.client
        (outboundCall transaction resolution) destination attempt.now
      let after := finishAttempt config
        (taken.putDestination transaction.destination performed.destination) transaction
        performed.result performed.destination attempt.now
      { outcome := after.1, worker := after.2, calls := performed.calls }

def replayDestinations (destinations : List DispatchDestinationSnapshot)
    (rows : List PersistentFederationDestination) : List DispatchDestinationSnapshot :=
  rows.foldl (fun destinations row =>
    putRow DispatchDestinationSnapshot.serverName ⟨row.serverName, toFederationDestination row⟩
      destinations) destinations

def replayTransaction (row : PersistentFederationTransaction) : Worker :=
  let outbound := toOutboundTransaction row
  if !transactionIsWellFormed outbound then worker
  else if queueIsFull config worker.queue then
    { worker with pendingReplay := worker.pendingReplay ++ [outbound] }
  else { worker with queue := worker.queue ++ [outbound] }

end

def replayPending (worker : Worker) : Worker :=
  worker.tables.federationTransactions.foldl (replayTransaction config)
    { worker with
      destinations := replayDestinations worker.destinations
        worker.tables.federationDestinations }

end Operations

/-- The order in which a backend returns the rows of a table: by key where the
query asks for it, and otherwise unspecified. -/
structure LoadOrder (Row : Type) where
  rows : List Row → List Row
  perm : ∀ table, (rows table).Perm table

/-- A new worker on the tables as the backend loads them, after its replay. -/
def restart (config : DispatchWorkerConfig)
    (destinationOrder : LoadOrder PersistentFederationDestination)
    (transactionOrder : LoadOrder PersistentFederationTransaction) (worker : Worker) : Worker :=
  replayPending config
    { tables :=
        { federationDestinations := destinationOrder.rows worker.tables.federationDestinations
          federationTransactions := transactionOrder.rows worker.tables.federationTransactions } }

def memberServer (member : Bytes) : Option Bytes :=
  if member.contains (byte ':') then
    some (member.reverse.takeWhile fun character => character ≠ byte ':').reverse
  else none

def remoteServersInRoom (serverName : Bytes) (members : List Bytes) : List Bytes :=
  members.foldl (fun servers member =>
    match memberServer member with
    | none => servers
    | some server =>
      if server ≠ serverName && !servers.contains server then servers ++ [server]
      else servers) []

/-- The lossless parser leaves no float in the content, so the serializer that
allows them and the one that refuses them agree here. -/
def buildEduTransactionBody (yyjson : Yyjson) (origin eduType contentJson : Bytes)
    (nowMs : Int64) : Option Bytes :=
  if origin.isEmpty then none
  else
    match parseLossless yyjson contentJson with
    | .error _ => none
    | .ok content =>
      let edu : Object := [("edu_type", .string eduType), ("content", content)]
      (serializeCanonicalStrict (.object
        [("origin", .string origin), ("origin_server_ts", .integer nowMs), ("pdus", .array []),
          ("edus", .array [.object edu])])).toOption

def makeOutboundTransaction (destination method target origin body : Bytes) : OutboundTransaction :=
  { destination, method, target, origin, body }

structure EduOrigin where
  serverName : Bytes
  yyjson : Yyjson

/-- An EDU for the remote servers of a room, with the random transaction id and
the time that were drawn for it. -/
structure RoomEdu where
  members : List Bytes
  eduType : Bytes
  contentJson : Bytes
  transactionId : Bytes
  nowMs : Int64

/-- The transactions for the destinations of a room. All of them have the one id
that was drawn. -/
def eduTransactions (origin : EduOrigin) (edu : RoomEdu) : List OutboundTransaction :=
  match buildEduTransactionBody origin.yyjson origin.serverName edu.eduType edu.contentJson
      edu.nowMs with
  | none => []
  | some body =>
    (remoteServersInRoom origin.serverName edu.members).map fun destination =>
      { makeOutboundTransaction destination "PUT"
          (utf8 "/_matrix/federation/v1/send/" ++ edu.transactionId) origin.serverName body with
        transactionId := edu.transactionId }

def enqueueCounting (config : DispatchWorkerConfig) (progress : Nat × Worker)
    (transaction : OutboundTransaction) : Nat × Worker :=
  let enqueued := enqueue config progress.2 transaction
  (if enqueued.1 then progress.1 + 1 else progress.1, enqueued.2)

def dispatchOutboundEdu (config : DispatchWorkerConfig) (origin : EduOrigin) (worker : Worker)
    (edu : RoomEdu) : Nat × Worker :=
  (eduTransactions origin edu).foldl (enqueueCounting config) (0, worker)

end Merovingian.DispatchWorker
