import Merovingian.OperationRuns
import Merovingian.StoreTables
import Merovingian.TableMirror

/-!
The transaction ids of the two idempotent `PUT` endpoints. A request that is answered is
recorded under the user, the room, the event type and the transaction id, but not under
the device, so that another device of the user is given the answer as a replay.
-/

namespace Merovingian.TransactionIds

open ByteString KeyedFold TableMirror OperationRuns List

structure PersistentClientTxnRecord where
  userId : Bytes
  roomId : Bytes
  eventType : Bytes
  txnId : Bytes
  eventId : Bytes
deriving DecidableEq

inductive TxnEndpoint where
  | roomSend (roomId eventType : Bytes)
  | sendToDevice (eventType : Bytes)
deriving DecidableEq

/-- A message to devices is recorded without a room. -/
def TxnEndpoint.roomId : TxnEndpoint → Bytes
  | .roomSend roomId _ => roomId
  | .sendToDevice _ => []

def TxnEndpoint.eventType : TxnEndpoint → Bytes
  | .roomSend _ eventType => eventType
  | .sendToDevice eventType => eventType

/-- A request with a valid token. `sent` is the event id that is answered when the request
itself succeeds, which is empty for `/sendToDevice`, and `persists` tells whether the
database takes the record. -/
structure TxnRequest where
  userId : Bytes
  deviceId : Bytes
  endpoint : TxnEndpoint
  txnId : Bytes
  sent : Option Bytes
  persists : Bool := true
deriving DecidableEq

/-- The user and every part of the path are there. -/
def TxnRequest.WellFormed (request : TxnRequest) : Prop :=
  request.userId ≠ [] ∧ request.txnId ≠ [] ∧
    match request.endpoint with
    | .roomSend roomId eventType => roomId ≠ [] ∧ eventType ≠ []
    | .sendToDevice eventType => eventType ≠ []

structure AnsweredRequest where
  request : TxnRequest
  eventId : Bytes
deriving DecidableEq

structure TxnRun where
  clientTxnIds : List PersistentClientTxnRecord := []
  answered : List AnsweredRequest := []

inductive TxnOperation where
  | request (request : TxnRequest)
  | refreshToken (userId deviceId : Bytes)
  | restart (loaded : List PersistentClientTxnRecord)

def recordKey (record : PersistentClientTxnRecord) : List Bytes :=
  [record.userId, record.roomId, record.eventType, record.txnId]

def recordOf (request : TxnRequest) (eventId : Bytes) : PersistentClientTxnRecord :=
  ⟨request.userId, request.endpoint.roomId, request.endpoint.eventType, request.txnId, eventId⟩

def txnKey (request : TxnRequest) : List Bytes :=
  recordKey (recordOf request [])

section Store

variable (records : List PersistentClientTxnRecord)

def findClientTxnEventId (key : List Bytes) : Option Bytes :=
  (rowAt recordKey records key).map PersistentClientTxnRecord.eventId

def storeClientTxn (record : PersistentClientTxnRecord) (persists : Bool) :
    Bool × List PersistentClientTxnRecord :=
  if record.userId.isEmpty || record.eventType.isEmpty || record.txnId.isEmpty then
    (false, records)
  else if (findClientTxnEventId records (recordKey record)).isSome then (true, records)
  else if !persists then (false, records)
  else (true, records ++ [record])

end Store

/-- A restart reads the table back, in an order of the database's own. -/
def act (run : TxnRun) : TxnOperation → TxnRun
  | .request request =>
    match findClientTxnEventId run.clientTxnIds (txnKey request), request.sent with
    | some eventId, _ => { run with answered := run.answered ++ [⟨request, eventId⟩] }
    | none, none => run
    | none, some eventId =>
      let stored := storeClientTxn run.clientTxnIds (recordOf request eventId) request.persists
      ⟨stored.2, run.answered ++ [⟨request, eventId⟩]⟩
  | .refreshToken _ _ => run
  | .restart loaded =>
    if loaded.isPerm run.clientTxnIds then { run with clientTxnIds := loaded } else run

structure Recorded (run : TxnRun) : Prop where
  keyed : (run.clientTxnIds.map recordKey).Nodup
  rows : ∀ record, record ∈ run.clientTxnIds ↔
    ∃ earlier ∈ run.answered, recordOf earlier.request earlier.eventId = record
  wellFormed : ∀ earlier ∈ run.answered, earlier.request.WellFormed

variable {records : List PersistentClientTxnRecord} {record : PersistentClientTxnRecord}
  {request : TxnRequest} {current : TxnRun}

theorem Recorded.append (h : Recorded current) {entry : AnsweredRequest}
    (hentry : entry.request.WellFormed) (hkeyed : (records.map recordKey).Nodup)
    (hrows : ∀ record, record ∈ records ↔ record ∈ current.clientTxnIds ∨
      recordOf entry.request entry.eventId = record) :
    Recorded ⟨records, current.answered ++ [entry]⟩ where
  keyed := hkeyed
  rows := by simp [hrows, h.rows, or_and_right, exists_or]
  wellFormed := forall_mem_append.mpr ⟨h.wellFormed, forall_mem_singleton.mpr hentry⟩

end Merovingian.TransactionIds
