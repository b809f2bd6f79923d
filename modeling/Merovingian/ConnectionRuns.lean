import Merovingian.OperationRuns
import Merovingian.SlidingSync

/-!
Runs of one sliding sync connection. The client sends the position of the last
response that reached it; responses may be lost, other connections are served in
between, and the tables change at will.
-/

namespace Merovingian.ConnectionRuns

open ByteString KeyedFold TableMirror StreamTokens SyncSurfaces SlidingSyncRequests SlidingSyncRooms
  SlidingSync List

structure Client where
  user : Bytes
  deviceId : Bytes
  connId : Option Bytes

def Client.key (client : Client) : Bytes :=
  requestConnectionKey client.user client.deviceId { connId := client.connId }

structure SentResponse where
  tables : SyncTables
  connection : SlidingSyncConnectionState
  call : SlidingSyncCall
  arrives : Bool

section Responses

variable (host : SyncHost) (client : Client) (sent : SentResponse)

def SentResponse.response : SlidingSyncResponse :=
  (respond host sent.tables client.user client.deviceId sent.call.request sent.connection
    sent.call.pos).1

def SentResponse.pending : SlidingSyncPendingResponse :=
  (respond host sent.tables client.user client.deviceId sent.call.request sent.connection
    sent.call.pos).2.2

def SentResponse.rooms : List (Bytes × SlidingSyncRoomResponse) :=
  builtRooms host sent.tables client.user sent.call.request sent.connection sent.call.pos

def SentResponse.ordering : UInt64 := eventWatermark sent.tables

end Responses

structure ConnectionRun where
  runtime : SlidingSyncRuntime
  pos : Option Bytes := none
  responses : List SentResponse := []

inductive ConnectionAction (client : Client) where
  | change (tables : SyncTables)
  | request (call : SlidingSyncCall) (arrives : Bool)
  | other (user deviceId : Bytes) (call : SlidingSyncCall)
      (hother : requestConnectionKey user deviceId call.request ≠ client.key)

def sentCall (client : Client) (pos : Option Bytes) (call : SlidingSyncCall) : SlidingSyncCall :=
  { call with
    request := { call.request with connId := client.connId, pos := none }
    targetPos := pos }

section Actions

variable (host : SyncHost) {client : Client}

def found (client : Client) (run : ConnectionRun) (call : SlidingSyncCall) (arrives : Bool) :
    SentResponse where
  tables := run.runtime.toSyncTables
  connection := foundConnection run.runtime client.user client.deviceId
    (sentCall client run.pos call)
  call := sentCall client run.pos call
  arrives := arrives

def ConnectionRun.act (run : ConnectionRun) : ConnectionAction client → ConnectionRun
  | .change tables => { run with runtime := { run.runtime with toSyncTables := tables } }
  | .request call arrives =>
    match dispatchSlidingSync host run.runtime client.user client.deviceId
        (sentCall client run.pos call) with
    | (.complete response, runtime) =>
      { runtime
        pos := if arrives then some response.pos else run.pos
        responses := run.responses ++ [found client run call arrives] }
    | (_, runtime) => { run with runtime }
  | .other user deviceId call _ =>
    { run with runtime := (dispatchSlidingSync host run.runtime user deviceId call).2 }

end Actions

section Connections

variable {host : SyncHost} {runtime : SlidingSyncRuntime} {user deviceId key : Bytes}
  {call : SlidingSyncCall} {connection : SlidingSyncConnectionState}

def connectionAt (runtime : SlidingSyncRuntime) (key : Bytes) : Option SlidingSyncConnectionState :=
  (rowAt Prod.fst runtime.slidingSyncConnections key).map Prod.snd

def KeysUnique (runtime : SlidingSyncRuntime) : Prop :=
  (runtime.slidingSyncConnections.map Prod.fst).Nodup

theorem connectionAt_of_sublist {others : Connections} (hunique : KeysUnique runtime)
    (hsublist : others.Sublist runtime.slidingSyncConnections)
    (hat : (rowAt Prod.fst others key).map Prod.snd = some connection) :
    connectionAt runtime key = some connection := by
  obtain ⟨row, hfound, hconnection⟩ := Option.map_eq_some_iff.mp hat
  have hmem := hsublist.subset (mem_of_find?_eq_some hfound)
  obtain rfl : row.1 = key := by simpa using find?_some hfound
  rw [connectionAt, rowAt_of_mem hunique hmem, Option.map_some, hconnection]

theorem prune_sublist (connections : Connections) (connKey : Bytes) (now : Nat) :
    (pruneSlidingSyncConnections connections user deviceId connKey now).Sublist connections := by
  unfold pruneSlidingSyncConnections
  simp only
  split_ifs
  · exact filter_sublist
  · exact filter_sublist
  · exact filter_sublist.trans filter_sublist

variable (hunique : KeysUnique runtime)

include hunique

variable (user deviceId call) in
theorem foundConnection_cases : ∃ base : SlidingSyncConnectionState, (base = {} ∨
        connectionAt runtime (requestConnectionKey user deviceId call.request) = some base) ∧
      foundConnection runtime user deviceId call =
        acknowledge { base with lastUsed := call.now } call.pos := by
  refine ⟨_, ?_, rfl⟩
  cases hpruned : (rowAt Prod.fst (pruneSlidingSyncConnections _ user deviceId _ _)
      (requestConnectionKey user deviceId call.request)).map Prod.snd with
  | none => exact .inl rfl
  | some base => exact .inr (connectionAt_of_sublist hunique (prune_sublist _ _ _) hpruned)

theorem keysUnique_putConnection (connection : SlidingSyncConnectionState) :
    KeysUnique (putConnection runtime key connection) :=
  nodup_keys_putRow hunique

omit hunique in
theorem connectionAt_putConnection (connection : SlidingSyncConnectionState) :
    connectionAt (putConnection runtime key connection) key = some connection := by
  rw [connectionAt, putConnection, rowAt_putRow, if_pos rfl]
  rfl

omit hunique in
theorem connectionAt_putConnection_of_ne {other : Bytes} (hne : other ≠ key)
    (connection : SlidingSyncConnectionState) :
    connectionAt (putConnection runtime other connection) key = connectionAt runtime key := by
  rw [connectionAt, putConnection, rowAt_putRow, if_neg hne, connectionAt]

theorem keysUnique_openedRuntime : KeysUnique (openedRuntime runtime user deviceId call) :=
  keysUnique_putConnection (hunique.sublist ((prune_sublist _ _ _).map Prod.fst)) _

variable (host user deviceId call) in
theorem keysUnique_dispatch :
    KeysUnique (dispatchSlidingSync host runtime user deviceId call).2 := by
  rcases dispatchSlidingSync_cases host runtime user deviceId call with
    ⟨-, hrefused⟩ | ⟨_, _, hwaits⟩ | hanswered
  · rw [hrefused]
    exact nodup_keys_deleteKey hunique _
  · rw [hwaits]
    exact keysUnique_openedRuntime hunique
  · rw [hanswered]
    have hopened : KeysUnique (openedRuntime runtime user deviceId call) :=
      keysUnique_openedRuntime hunique
    exact nodup_keys_putRow hopened

/-- A call on another connection leaves this one alone or evicts it. -/
theorem connectionAt_of_dispatch_other
    (hother : requestConnectionKey user deviceId call.request ≠ key)
    (hat : connectionAt (dispatchSlidingSync host runtime user deviceId call).2 key =
      some connection) : connectionAt runtime key = some connection := by
  have hopened (hat : connectionAt (openedRuntime runtime user deviceId call) key =
      some connection) : connectionAt runtime key = some connection := by
    rw [openedRuntime, openConnection, connectionAt_putConnection_of_ne hother] at hat
    exact connectionAt_of_sublist hunique (prune_sublist _ _ _) hat
  rcases dispatchSlidingSync_cases host runtime user deviceId call with
    ⟨-, hrefused⟩ | ⟨_, _, hwaits⟩ | hanswered
  · rw [hrefused] at hat
    exact connectionAt_of_sublist hunique filter_sublist hat
  · rw [hwaits] at hat
    exact hopened hat
  · rw [hanswered, answeredRuntime, connectionAt_putConnection_of_ne hother] at hat
    exact hopened hat

end Connections

section Requests

variable {host : SyncHost} {client : Client} {run : ConnectionRun}

@[simp] theorem pos_sentCall (pos : Option Bytes) (call : SlidingSyncCall) :
    (sentCall client pos call).pos = pos.bind decodeStreamToken := by
  rw [SlidingSyncCall.pos, requestPos]
  simp [sentCall]

variable (client) in
theorem requestedPos_sentCall {pos : Option Bytes}
    (hissued : ∀ text, pos = some text → ∃ token, text = encodeStreamToken token)
    (call : SlidingSyncCall) : requestedPos (sentCall client pos call).pos = pos.getD [] := by
  rw [pos_sentCall]
  rcases pos with _ | text
  · rfl
  · obtain ⟨token, rfl⟩ := hissued text rfl
    rw [Option.bind_some, decodeStreamToken_encodeStreamToken]
    rfl

variable (host client run) in
theorem request_cases (call : SlidingSyncCall) (arrives : Bool) :
    let after := run.act host (.request call arrives : ConnectionAction client)
    let sent := found client run call arrives
    (after.responses = run.responses ∧ after.pos = run.pos ∧
        after.runtime.toSyncTables = run.runtime.toSyncTables ∧
        (connectionAt after.runtime client.key = none ∨
          connectionAt after.runtime client.key = some sent.connection)) ∨
      (after.responses = run.responses ++ [sent] ∧
        after.pos = (if arrives then some (sent.response host client).pos else run.pos) ∧
        connectionAt after.runtime client.key =
          some { sent.connection with pendingResponse := some (sent.pending host client) }) := by
  rcases dispatchSlidingSync_cases host run.runtime client.user client.deviceId
      (sentCall client run.pos call) with ⟨-, hrefused⟩ | ⟨_, _, hwaits⟩ | hanswered
  · rw [ConnectionRun.act, hrefused]
    refine .inl ⟨rfl, rfl, rfl, .inl ?_⟩
    have hgone : rowAt Prod.fst (deleteKey Prod.fst client.key
        run.runtime.slidingSyncConnections) client.key = none := by
      simp [rowAt, deleteKey]
    exact congrArg (Option.map Prod.snd) hgone
  · rw [ConnectionRun.act, hwaits]
    exact .inl ⟨rfl, rfl, rfl, .inr (connectionAt_putConnection _)⟩
  · rw [ConnectionRun.act, hanswered]
    exact .inr ⟨rfl, rfl, connectionAt_putConnection _⟩

variable (host) in
theorem keysUnique_act (hunique : KeysUnique run.runtime) (action : ConnectionAction client) :
    KeysUnique (run.act host action).runtime := by
  cases action with
  | change tables => exact hunique
  | request call arrives =>
    have hdispatched := keysUnique_dispatch host client.user client.deviceId
      (sentCall client run.pos call) hunique
    rw [ConnectionRun.act]
    split
    · next hcomplete => rwa [hcomplete] at hdispatched
    · next hincomplete => rwa [hincomplete] at hdispatched
  | other user deviceId call hother => exact keysUnique_dispatch _ _ _ _ hunique

theorem mem_roomsSeen_pending {sent : SentResponse} {room : Bytes} {ordering : UInt64}
    (hmem : (room, ordering) ∈ (sent.pending host client).roomsSeen) :
    (room, ordering) ∈ sent.connection.roomsSeen ∨
      ordering = sent.ordering ∧ room ∈ (sent.rooms host client).map Prod.fst := by
  change (room, ordering) ∈ ((sent.rooms host client).map Prod.fst).foldl
    (fun seen roomId => putRow Prod.fst (roomId, sent.ordering) seen)
    sent.connection.roomsSeen at hmem
  generalize (sent.rooms host client).map Prod.fst = rooms at hmem ⊢
  generalize sent.connection.roomsSeen = seen at hmem ⊢
  induction rooms generalizing seen with
  | nil => exact .inl hmem
  | cons first rest ih =>
    rcases ih _ hmem with hold | ⟨hordering, hroom⟩
    · rcases mem_of_mem_putRow hold with hbefore | hnew
      · exact .inl hbefore
      · obtain ⟨rfl, rfl⟩ := Prod.mk.inj hnew
        exact .inr ⟨rfl, mem_cons_self⟩
    · exact .inr ⟨hordering, mem_cons_of_mem _ hroom⟩

end Requests

end Merovingian.ConnectionRuns
