import Merovingian.DecimalText
import Merovingian.PduIngestion

/-!
The delivery of events to application services. Each service has a row with the
next transaction id, the stream ordering up to which it has been served and at
most one pending transaction. A dispatch goes through the services for one event;
while a service is called the runtime lock is released, and what the dispatch
keeps of the row is a copy. Writes to the store are assumed to be committed by
its backend, and the outbound client to be configured.
-/

namespace Merovingian.AppserviceDelivery

open ByteString JsonValue CanonicalParser CanonicalSerializer DecimalText KeyedFold StoreTables
  PduIngestion

structure Namespace where
  exclusive : Bool
  regex : Bytes

structure Namespaces where
  users : List Namespace := []
  aliases : List Namespace := []
  rooms : List Namespace := []

structure AppserviceRegistration where
  id : Bytes
  url : Option Bytes
  senderLocalpart : Bytes
  namespaces : Namespaces := {}

/-- The registered services. Loading refuses a registration without an id and two
registrations with one id. -/
structure AppserviceRegistry where
  registrations : List AppserviceRegistration
  named : ∀ registration ∈ registrations, registration.id.isEmpty = false
  distinct : (registrations.map AppserviceRegistration.id).Nodup

/-- What a dispatch reads besides the runtime. `regexMatch` says whether a POSIX
extended expression matches a whole text; a malformed one matches nothing. -/
structure AppserviceHost where
  serverName : Bytes
  appservices : AppserviceRegistry
  regexMatch : Bytes → Bytes → Bool
  yyjson : Yyjson

structure AppserviceTransactionEvent where
  contentJson : Bytes := []
  eventId : Bytes
  originServerTs : UInt64 := 0
  roomId : Bytes
  sender : Bytes
  stateKey : Option Bytes := none
  type : Bytes := []
deriving DecidableEq

structure AppserviceTransaction where
  txnId : Bytes
  events : List AppserviceTransactionEvent
deriving DecidableEq

structure PersistentAppserviceTxnCursor where
  appserviceId : Bytes
  nextTxnId : UInt64 := 1
  deliveredStreamOrdering : UInt64 := 0
  pendingTxnId : UInt64 := 0
  pendingStreamOrdering : UInt64 := 0
deriving DecidableEq

def findAppserviceTxnCursor (cursors : List PersistentAppserviceTxnCursor)
    (appserviceId : Bytes) : PersistentAppserviceTxnCursor :=
  (rowAt PersistentAppserviceTxnCursor.appserviceId cursors appserviceId).getD { appserviceId }

def storeAppserviceTxnCursor (cursors : List PersistentAppserviceTxnCursor)
    (cursor : PersistentAppserviceTxnCursor) : Option (List PersistentAppserviceTxnCursor) :=
  if cursor.appserviceId.isEmpty then none
  else some (putRow PersistentAppserviceTxnCursor.appserviceId cursor cursors)

structure AppserviceRuntime where
  events : List PersistentEvent := []
  rooms : List LocalRoom := []
  cursors : List PersistentAppserviceTxnCursor := []
  nextStreamOrdering : UInt64 := 1

structure DispatchedEvent where
  eventId : Bytes
  eventType : Bytes
  stateKey : Option Bytes
  roomId : Bytes
  sender : Bytes
  roomAlias : Bytes
  persistedStreamOrdering : UInt64
deriving DecidableEq

section Interest

variable (host : AppserviceHost)

section

variable (registration : AppserviceRegistration)

def anyNamespaceMatches (namespaces : List Namespace) (value : Bytes) : Bool :=
  namespaces.any fun entry => host.regexMatch entry.regex value

def senderUserId : Bytes :=
  utf8 "@" ++ registration.senderLocalpart ++ utf8 ":" ++ host.serverName

def appserviceOwnsUser (userId : Bytes) : Bool :=
  senderUserId host registration = userId ||
    anyNamespaceMatches host registration.namespaces.users userId

def registrationInterestedInRoomEvent (roomId roomAlias sender : Bytes) (roomMembers : List Bytes) :
    Bool :=
  anyNamespaceMatches host registration.namespaces.rooms roomId ||
    !roomAlias.isEmpty && anyNamespaceMatches host registration.namespaces.aliases roomAlias ||
    appserviceOwnsUser host registration sender ||
    roomMembers.any (appserviceOwnsUser host registration)

end

def appserviceTransactionEventFor (event : PersistentEvent) : Option AppserviceTransactionEvent :=
  match parseLossless host.yyjson event.json with
  | .error _ => none
  | .ok value =>
    (valueIsObject value).map fun root =>
      { contentJson := ((objectMember root "content").bind fun content =>
          (serializeCanonicalStrict content).toOption).getD []
        eventId := event.eventId
        originServerTs :=
          match integerMember root "origin_server_ts" with
          | none => 0
          | some ts => if 0 < ts then ts.toUInt64 else 0
        roomId := event.roomId
        sender := event.senderUserId
        stateKey := stringMember root "state_key"
        type := (stringMember root "type").getD [] }

end Interest

structure AppserviceCall where
  registration : AppserviceRegistration
  cursor : PersistentAppserviceTxnCursor
  transaction : AppserviceTransaction
  retry : Bool

structure Dispatch where
  event : DispatchedEvent
  call : AppserviceCall
  rest : List AppserviceRegistration

section Dispatching

variable (host : AppserviceHost) (event : DispatchedEvent)

section

variable (runtime : AppserviceRuntime) (cursor : PersistentAppserviceTxnCursor)

def AppserviceRuntime.members (roomId : Bytes) : List Bytes :=
  ((rowAt LocalRoom.roomId runtime.rooms roomId).map LocalRoom.members).getD []

/-- The event as a new transaction carries it: from its row where that can be read. -/
def freshEvent : AppserviceTransactionEvent :=
  ((rowAt PersistentEvent.eventId runtime.events event.eventId).bind
    (appserviceTransactionEventFor host)).getD
      { eventId := event.eventId
        roomId := event.roomId
        sender := event.sender
        stateKey := event.stateKey
        type := event.eventType }

section

variable (registration : AppserviceRegistration) (cursor : PersistentAppserviceTxnCursor)

def appserviceCall (event : AppserviceTransactionEvent) (retry : Bool) : AppserviceCall :=
  { registration, cursor, retry
    transaction := ⟨decimalDigits cursor.pendingTxnId.toNat, [event]⟩ }

def allocated (event : DispatchedEvent) : PersistentAppserviceTxnCursor :=
  { cursor with
    pendingTxnId := cursor.nextTxnId
    nextTxnId := cursor.nextTxnId + 1
    pendingStreamOrdering := event.persistedStreamOrdering }

def acknowledged : PersistentAppserviceTxnCursor :=
  { cursor with
    deliveredStreamOrdering := cursor.pendingStreamOrdering
    pendingTxnId := 0
    pendingStreamOrdering := 0 }

def newCall : Option (AppserviceRuntime × AppserviceCall) :=
  if event.persistedStreamOrdering ≤ cursor.deliveredStreamOrdering then none
  else
    let cursor := allocated cursor event
    (storeAppserviceTxnCursor runtime.cursors cursor).map fun cursors =>
      ({ runtime with cursors },
        appserviceCall registration cursor (freshEvent host event runtime) false)

end

def pendingEvent : Option AppserviceTransactionEvent :=
  (rowAt PersistentEvent.streamOrdering runtime.events cursor.pendingStreamOrdering).bind
    (appserviceTransactionEventFor host)

end

/-- The loop over the services up to the next call. -/
def visit (runtime : AppserviceRuntime) : List AppserviceRegistration →
    AppserviceRuntime × Option (AppserviceCall × List AppserviceRegistration)
  | [] => (runtime, none)
  | registration :: rest =>
    if !registrationInterestedInRoomEvent host registration event.roomId event.roomAlias
        event.sender (runtime.members event.roomId) then visit runtime rest
    else
      let cursor := findAppserviceTxnCursor runtime.cursors registration.id
      if cursor.pendingTxnId ≠ 0 then
        -- sent again with its id before anything newer
        match pendingEvent host runtime cursor with
        | none => visit runtime rest
        | some pending => (runtime, some (appserviceCall registration cursor pending true, rest))
      else
        match newCall host event runtime registration cursor with
        | none => visit runtime rest
        | some (runtime, call) => (runtime, some (call, rest))

end Dispatching

/-- A service without a URL is sent nothing, and that counts as success. -/
def AppserviceCall.succeeds (call : AppserviceCall) (ok : Bool) : Bool :=
  ok || call.registration.url.isNone

def finishAttempt (runtime : AppserviceRuntime) (call : AppserviceCall) (ok : Bool) :
    AppserviceRuntime :=
  if call.succeeds ok then
    { runtime with
      cursors := (storeAppserviceTxnCursor runtime.cursors (acknowledged call.cursor)).getD
        runtime.cursors }
  else runtime

def resume (host : AppserviceHost) (runtime : AppserviceRuntime) (dispatch : Dispatch)
    (ok : Bool) : AppserviceRuntime × Option (AppserviceCall × List AppserviceRegistration) :=
  let call := dispatch.call
  let runtime := finishAttempt runtime call ok
  if call.retry then
    let cursor := findAppserviceTxnCursor runtime.cursors call.registration.id
    if cursor.pendingTxnId ≠ 0 then visit host dispatch.event runtime dispatch.rest
    else
      match newCall host dispatch.event runtime call.registration cursor with
      | none => visit host dispatch.event runtime dispatch.rest
      | some (runtime, call) => (runtime, some (call, dispatch.rest))
  else visit host dispatch.event runtime dispatch.rest

end Merovingian.AppserviceDelivery
