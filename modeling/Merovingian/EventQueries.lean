import Merovingian.GraphWalk
import Merovingian.ServerAcl
import Merovingian.TransactionIngestion

/-!
What other servers may read: single events, the state of a room at an event,
its ids, and missing events. The answers are built from the store; the pipeline
has authenticated the server and checked the access control list of the room
that the path names, and nothing else is checked.
-/

namespace Merovingian.EventQueries

open ByteString JsonValue CanonicalParser EventSigning StoreTables GraphWalk ServerAcl
  FederationPolicy FederationPdus InboundRequests TransactionIngestion List Option
open Identifiers (userIdServerName)

variable {store : PersistentStore} {response : FederationResponse} {serverName : Bytes}
  {nowMs : Int64} {yyjson : Yyjson}

def parsedValue (yyjson : Yyjson) (json : Bytes) : Option Value :=
  (parseLossless yyjson json).toOption

abbrev Pdu := PersistentEvent × Value

inductive EventAnswer where
  | event (origin : Bytes) (originServerTs : Int64) (pdu : Pdu)
  | state (authChain pdus : List Pdu)
  | stateIds (authChainIds pduIds : List Bytes)
  | missingEvents (events : List Pdu)

/-- The object of a response. What was read with raw numbers has no `double`, so
it does not matter that the serializer of responses would print one. -/
def EventAnswer.object : EventAnswer → Object
  | .event origin originServerTs pdu =>
    [("origin", .string origin), ("origin_server_ts", .integer originServerTs),
      ("pdus", .array [pdu.2])]
  | .state authChain pdus =>
    [("auth_chain", .array (authChain.map Prod.snd)), ("pdus", .array (pdus.map Prod.snd))]
  | .stateIds authChainIds pduIds =>
    [("auth_chain_ids", .array (authChainIds.map .string)),
      ("pdu_ids", .array (pduIds.map .string))]
  | .missingEvents events => [("events", .array (events.map Prod.snd))]

/-- A response that cannot be serialized is empty. -/
def EventAnswer.body (answer : EventAnswer) : Bytes :=
  canonicalText (.object answer.object)

def pduIds (pdus : List Pdu) : List Bytes :=
  pdus.map fun pdu => pdu.1.eventId

section

variable (yyjson : Yyjson) (store : PersistentStore) (roomId eventId : Bytes)

def EventAnswer.eventIds : EventAnswer → List Bytes
  | .event _ _ pdu => pduIds [pdu]
  | .state authChain pdus => pduIds authChain ++ pduIds pdus
  | .stateIds authChainIds pduIds => authChainIds ++ pduIds
  | .missingEvents events => pduIds events

def EventAnswer.pdus : EventAnswer → List Pdu
  | .event _ _ pdu => [pdu]
  | .state authChain pdus => authChain ++ pdus
  | .stateIds _ _ => []
  | .missingEvents events => events

def findEvent : Option PersistentEvent :=
  store.events.find? fun event => event.eventId = eventId

def authEventIds : List Bytes :=
  ((findEvent store eventId).map PersistentEvent.authEventIds).getD []

/-- The events reached through auth events, seeds included, that are stored. -/
def collectAuthChain (seedIds : List Bytes) : List Bytes :=
  (breadthFirst (authEventIds store)
    (seedIds.length + (store.events.flatMap PersistentEvent.authEventIds).length) seedIds).filter
      fun id => (findEvent store id).isSome

def stateIdentity (json : Bytes) : Option (Bytes × Bytes) :=
  ((parsedValue yyjson json).bind valueIsObject).bind fun object =>
    (stringMember object "state_key").map fun stateKey =>
      ((stringMember object "type").getD [], stateKey)

structure StateChoice where
  identity : Bytes × Bytes
  depth : UInt64
  eventId : Bytes

def identityBefore (left right : Bytes × Bytes) : Bool :=
  left.1 < right.1 || (left.1 = right.1 && left.2 < right.2)

/-- The deeper event wins, then the one with the greater id. The choices are kept
in the order of their tuples. -/
def chooseState (candidate : StateChoice) : List StateChoice → List StateChoice
  | [] => [candidate]
  | choice :: rest =>
    if candidate.identity = choice.identity then
      (if choice.depth < candidate.depth ||
          (candidate.depth = choice.depth && choice.eventId < candidate.eventId) then candidate
      else choice) :: rest
    else if identityBefore candidate.identity choice.identity then candidate :: choice :: rest
    else choice :: chooseState candidate rest

def roomEvent : Option PersistentEvent :=
  (findEvent store eventId).filter fun event => event.roomId = roomId && !event.json.isEmpty

def prevEventIds : List Bytes :=
  ((roomEvent store roomId eventId).map PersistentEvent.prevEventIds).getD []

def stateChoice : Option StateChoice :=
  (roomEvent store roomId eventId).bind fun event =>
    (stateIdentity yyjson event.json).map fun identity => ⟨identity, event.depth, eventId⟩

def reconstructStateAtEvent (atEventId : Bytes) : List Bytes :=
  match (findEvent store atEventId).filter fun start => start.roomId = roomId with
  | none => []
  | some start =>
    let ancestors := breadthFirst (prevEventIds store roomId)
      (start.prevEventIds.length +
        (store.events.flatMap PersistentEvent.prevEventIds).length) start.prevEventIds
    ((ancestors.filterMap (stateChoice yyjson store roomId)).foldl
      (fun chosen candidate => chooseState candidate chosen) []).map StateChoice.eventId

def currentStateEventIds : List Bytes :=
  (store.state.filter fun state => state.roomId = roomId).map PersistentStateEvent.eventId

def resolvedStateEventIds (atEventId : Bytes) : List Bytes :=
  if !atEventId.isEmpty && (findEvent store atEventId).isSome then
    reconstructStateAtEvent yyjson store roomId atEventId
  else currentStateEventIds store roomId

def readableEvent : Option Pdu :=
  ((findEvent store eventId).filter fun event => !event.json.isEmpty).bind fun event =>
    (parsedValue yyjson event.json).map fun value => (event, value)

def buildEventResponse (nowMs : Int64) (eventId originServerName : Bytes) : Option EventAnswer :=
  (readableEvent yyjson store eventId).map (.event originServerName nowMs)

def buildStateResponse (atEventId : Bytes) : Option EventAnswer :=
  let pdus := (resolvedStateEventIds yyjson store roomId atEventId).filterMap
    (readableEvent yyjson store)
  let authSeedIds := pdus.flatMap fun pdu => pdu.1.authEventIds
  if pdus.isEmpty then none
  else some (.state
    ((collectAuthChain store authSeedIds).filterMap (readableEvent yyjson store)) pdus)

/-- The ids of the state are given also where the event is not stored. -/
def buildStateIdsResponse (atEventId : Bytes) : Option EventAnswer :=
  let stateIds := resolvedStateEventIds yyjson store roomId atEventId
  if stateIds.isEmpty then none
  else some (.stateIds
    (collectAuthChain store (stateIds.flatMap (authEventIds store))) stateIds)

def missingEventsBounds (root : Object) : Nat × Int64 :=
  ((((integerMember root "limit").filter fun limit => 0 < limit).map fun limit =>
      limit.toInt.toNat).getD 10,
    (integerMember root "min_depth").getD 0)

/-- The first events of the room from the least depth on, in the order of their
depth. Which of two events of one depth comes first is left open by `std::sort`. -/
def buildGetMissingEventsResponse (requestBody : Bytes) : Option EventAnswer :=
  ((parsedValue yyjson requestBody).bind valueIsObject).map fun root =>
    let (limit, minDepth) := missingEventsBounds root
    let candidates := (store.events.filter fun event => event.roomId = roomId &&
      !event.json.isEmpty && minDepth ≤ event.depth.toInt64).insertionSort
        fun left right => left.depth ≤ right.depth
    .missingEvents ((candidates.filterMap fun event =>
      (parsedValue yyjson event.json).map fun value => (event, value)).take limit)

end

/-- An empty body counts as no answer. -/
def answerOr (missing : FederationResponse) (answer : Option EventAnswer) :
    Except FederationResponse EventAnswer :=
  match answer.filter fun answer => !answer.body.isEmpty with
  | none => .error missing
  | some answer => .ok answer

section Handlers

variable (yyjson : Yyjson) (store : PersistentStore)

section

variable (request : SignedFederationRequest)

def handleQueryEvent (nowMs : Int64) (serverName : Bytes) (request : SignedFederationRequest) :
    Except FederationResponse EventAnswer :=
  let eventId := extractPathSegment request.target "/_matrix/federation/v1/event/"
  if eventId.isEmpty then .error ⟨400, "event path is malformed", []⟩
  else answerOr ⟨404, matrixError "M_NOT_FOUND" "Event not found", []⟩
    (buildEventResponse yyjson store nowMs eventId serverName)

/-- `state` and `state_ids` differ in their paths and in what they build. -/
def handleStateQuery (pathStart malformed : Bytes)
    (build : Bytes → Bytes → Option EventAnswer) (request : SignedFederationRequest) :
    Except FederationResponse EventAnswer :=
  let roomId := extractPathSegment request.target pathStart
  let eventId := queryParamValue request.target "event_id"
  if roomId.isEmpty then .error ⟨400, malformed, []⟩
  else if eventId.isEmpty then
    .error ⟨400, matrixError "M_MISSING_PARAM" "event_id query parameter is required", []⟩
  else answerOr ⟨404, matrixError "M_NOT_FOUND" "Room state not found", []⟩ (build roomId eventId)

def handleQueryState : Except FederationResponse EventAnswer :=
  handleStateQuery "/_matrix/federation/v1/state/" "state path is malformed"
    (buildStateResponse yyjson store) request

def handleQueryStateIds : Except FederationResponse EventAnswer :=
  handleStateQuery "/_matrix/federation/v1/state_ids/" "state_ids path is malformed"
    (buildStateIdsResponse yyjson store) request

def handleGetMissingEvents : Except FederationResponse EventAnswer :=
  let roomId := extractPathSegment request.target "/_matrix/federation/v1/get_missing_events/"
  if roomId.isEmpty then .error ⟨400, "get_missing_events path is malformed", []⟩
  else answerOr ⟨400, "get_missing_events body is malformed", []⟩
    (buildGetMissingEventsResponse yyjson store roomId request.body)

end

def queryEvents (nowMs : Int64) (serverName : Bytes) (endpoint : FederationEndpoint)
    (request : SignedFederationRequest) : Option (Except FederationResponse EventAnswer) :=
  match endpoint with
  | .queryEvent => some (handleQueryEvent yyjson store nowMs serverName request)
  | .queryState => some (handleQueryState yyjson store request)
  | .queryStateIds => some (handleQueryStateIds yyjson store request)
  | .getMissingEvents => some (handleGetMissingEvents yyjson store request)
  | _ => none

end Handlers

def respond : Except FederationResponse EventAnswer → FederationResponse
  | .error response => response
  | .ok answer => ⟨200, answer.body, []⟩

variable {Keys World Rates : Type}

structure HomeserverReads (World : Type) where
  store : World → PersistentStore
  nowMs : World → Int64
  serverName : Bytes

/-- The pipeline with the event queries and access control lists wired to the
store. -/
def wireEventQueries (reads : HomeserverReads World)
    (server : FederationServer Keys World Rates) : FederationServer Keys World Rates :=
  { server with
    roomServerAclProvider := some fun world =>
      roomServerAclAllows server.libc server.yyjson (reads.store world)
    answer := fun world route request =>
      match queryEvents server.yyjson (reads.store world) (reads.nowMs world) reads.serverName
          route.endpoint request with
      | none => server.answer world route request
      | some answer => (respond answer, world) }

theorem findEvent_spec {eventId : Bytes} {event : PersistentEvent}
    (h : findEvent store eventId = some event) :
    event ∈ store.events ∧ event.eventId = eventId := by
  refine ⟨mem_of_find?_eq_some h, ?_⟩
  simpa using find?_some h

theorem readableEvent_spec {eventId : Bytes} {pdu : Pdu}
    (h : readableEvent yyjson store eventId = some pdu) : findEvent store eventId = some pdu.1 := by
  obtain ⟨event, hfound, hparsed⟩ := bind_eq_some_iff.mp h
  obtain ⟨value, -, rfl⟩ := map_eq_some_iff.mp hparsed
  exact (filter_eq_some_iff.mp hfound).1

/-- The row of what is given out is stored, and its value was read from the row. -/
def Stored (yyjson : Yyjson) (store : PersistentStore) (pdu : Pdu) : Prop :=
  pdu.1 ∈ store.events ∧ parsedValue yyjson pdu.1.json = some pdu.2

theorem readableEvent_stored {eventId : Bytes} {pdu : Pdu}
    (h : readableEvent yyjson store eventId = some pdu) : Stored yyjson store pdu := by
  refine ⟨(findEvent_spec (readableEvent_spec h)).1, ?_⟩
  obtain ⟨event, -, hparsed⟩ := bind_eq_some_iff.mp h
  obtain ⟨value, hvalue, rfl⟩ := map_eq_some_iff.mp hparsed
  exact hvalue

theorem stored_of_mem_filterMap {ids : List Bytes} {pdu : Pdu}
    (h : pdu ∈ ids.filterMap (readableEvent yyjson store)) : Stored yyjson store pdu := by
  obtain ⟨id, -, hread⟩ := mem_filterMap.mp h
  exact readableEvent_stored hread

section AuthChains

theorem mem_authEventIds_iff {eventId authId : Bytes} : authId ∈ authEventIds store eventId ↔
      ∃ event, findEvent store eventId = some event ∧ authId ∈ event.authEventIds := by
  rw [authEventIds]
  rcases findEvent store eventId with - | event <;> simp

/-- The auth chain of some events is what they reach through auth events, as far
as it is stored. -/
theorem mem_collectAuthChain_iff {seedIds : List Bytes} {eventId : Bytes} :
    eventId ∈ collectAuthChain store seedIds ↔
      (∃ seed ∈ seedIds, Reaches (authEventIds store) seed eventId) ∧
        (findEvent store eventId).isSome := by
  let bound := (seedIds ++ store.events.flatMap PersistentEvent.authEventIds).toFinset
  have hseeds : ∀ seed ∈ seedIds, seed ∈ bound := fun seed hseed =>
    mem_toFinset.mpr (mem_append_left _ hseed)
  have hclosed : ∀ node ∈ bound, ∀ authId ∈ authEventIds store node, authId ∈ bound := by
    intro node _ authId hauth
    obtain ⟨event, hfound, hmem⟩ := mem_authEventIds_iff.mp hauth
    refine mem_toFinset.mpr (mem_append_right _ ?_)
    exact mem_flatMap.mpr ⟨event, (findEvent_spec hfound).1, hmem⟩
  have hfuel : bound.card ≤
      seedIds.length + (store.events.flatMap PersistentEvent.authEventIds).length := by
    refine (toFinset_card_le _).trans ?_
    rw [length_append]
  rw [collectAuthChain, mem_filter, mem_breadthFirst_iff hclosed hseeds hfuel]

end AuthChains

section StateAtEvent

theorem chooseState_subperm (candidate : StateChoice) (chosen : List StateChoice) :
    chooseState candidate chosen <+~ candidate :: chosen := by
  induction chosen with
  | nil => exact Subperm.refl _
  | cons first rest ih =>
    rw [chooseState]
    split_ifs
    · exact (subperm_cons _).mpr Subperm.cons_self
    · exact Subperm.cons_self
    · exact Subperm.refl _
    · exact ((subperm_cons first).mpr ih).trans (Perm.swap ..).subperm

theorem foldl_chooseState_subperm (candidates chosen : List StateChoice) :
    candidates.foldl (fun chosen candidate => chooseState candidate chosen) chosen <+~
      candidates ++ chosen := by
  induction candidates generalizing chosen with
  | nil => exact Subperm.refl _
  | cons first rest ih =>
    refine (ih _).trans ?_
    exact ((subperm_append_left rest).mpr (chooseState_subperm first chosen)).trans
      perm_middle.subperm

theorem mem_reconstructStateAtEvent {roomId atEventId eventId : Bytes}
    (h : eventId ∈ reconstructStateAtEvent yyjson store roomId atEventId) :
    ∃ event, findEvent store eventId = some event ∧ event.roomId = roomId := by
  rw [reconstructStateAtEvent] at h
  split at h
  · cases h
  · obtain ⟨choice, hchoice, rfl⟩ := mem_map.mp h
    have hcandidate := (foldl_chooseState_subperm _ _).subset hchoice
    rw [append_nil] at hcandidate
    obtain ⟨id, -, hid⟩ := mem_filterMap.mp hcandidate
    obtain ⟨event, hevent, hidentity⟩ := bind_eq_some_iff.mp hid
    obtain ⟨identity, -, rfl⟩ := map_eq_some_iff.mp hidentity
    obtain ⟨hfound, hroom⟩ := filter_eq_some_iff.mp hevent
    refine ⟨event, hfound, ?_⟩
    exact of_decide_eq_true (Bool.and_eq_true_iff.mp hroom).1

theorem map_eventId_stateChoice_sublist {roomId : Bytes} (ids : List Bytes) :
    (ids.filterMap (stateChoice yyjson store roomId)).map StateChoice.eventId <+ ids := by
  induction ids with
  | nil => exact .slnil
  | cons id rest ih =>
    rcases hchoice : stateChoice yyjson store roomId id with - | choice
    · rw [filterMap_cons_none hchoice]
      exact ih.cons id
    · obtain ⟨event, -, hidentity⟩ := bind_eq_some_iff.mp hchoice
      obtain ⟨identity, -, rfl⟩ := map_eq_some_iff.mp hidentity
      rw [filterMap_cons_some hchoice]
      exact ih.cons_cons id

theorem nodup_reconstructStateAtEvent (roomId atEventId : Bytes) :
    (reconstructStateAtEvent yyjson store roomId atEventId).Nodup := by
  rw [reconstructStateAtEvent]
  split
  · exact nodup_nil
  · obtain ⟨kept, hperm, hsublist⟩ := foldl_chooseState_subperm _ _
    rw [← (hperm.map StateChoice.eventId).nodup_iff]
    rw [append_nil] at hsublist
    have hids := (hsublist.map StateChoice.eventId).trans (map_eventId_stateChoice_sublist _)
    exact hids.nodup (nodup_breadthFirst _ _)

end StateAtEvent

/-- An event of a room: by its row, or since the current state of the room names
it. -/
def BelongsTo (store : PersistentStore) (roomId eventId : Bytes) : Prop :=
  (∃ event ∈ store.events, event.eventId = eventId ∧ event.roomId = roomId) ∨
    eventId ∈ currentStateEventIds store roomId

/-- An event of a room, or one that such an event reaches through auth events. -/
def SuppliedBy (store : PersistentStore) (roomId eventId : Bytes) : Prop :=
  ∃ base, BelongsTo store roomId base ∧ Reaches (authEventIds store) base eventId

theorem BelongsTo.suppliedBy {roomId eventId : Bytes} (h : BelongsTo store roomId eventId) :
    SuppliedBy store roomId eventId :=
  ⟨eventId, h, .refl⟩

/-- What is given out is stored, and a room supplies every event that is named. -/
structure Supplies (yyjson : Yyjson) (store : PersistentStore) (roomId : Bytes)
    (answer : EventAnswer) : Prop where
  stored : ∀ pdu ∈ answer.pdus, Stored yyjson store pdu
  supplied : ∀ eventId ∈ answer.eventIds, SuppliedBy store roomId eventId

variable {answer : EventAnswer}

section Supplied

variable {roomId atEventId eventId : Bytes}

theorem mem_resolvedStateEventIds
    (h : eventId ∈ resolvedStateEventIds yyjson store roomId atEventId) :
    BelongsTo store roomId eventId := by
  rw [resolvedStateEventIds] at h
  split_ifs at h
  · obtain ⟨event, hfound, hroom⟩ := mem_reconstructStateAtEvent h
    obtain ⟨hmem, hid⟩ := findEvent_spec hfound
    exact .inl ⟨event, hmem, hid, hroom⟩
  · exact .inr h

theorem suppliedBy_of_mem_collectAuthChain {seedIds : List Bytes}
    (hseeds : ∀ seed ∈ seedIds, ∃ stateId, BelongsTo store roomId stateId ∧
      seed ∈ authEventIds store stateId) (h : eventId ∈ collectAuthChain store seedIds) :
    SuppliedBy store roomId eventId := by
  obtain ⟨⟨seed, hseed, hreach⟩, -⟩ := mem_collectAuthChain_iff.mp h
  obtain ⟨stateId, hbelongs, hauth⟩ := hseeds seed hseed
  exact ⟨stateId, hbelongs, .head hauth hreach⟩

theorem mem_pduIds_filterMap_iff {ids : List Bytes} :
    eventId ∈ pduIds (ids.filterMap (readableEvent yyjson store)) ↔
      eventId ∈ ids ∧ (readableEvent yyjson store eventId).isSome := by
  constructor
  · intro h
    obtain ⟨pdu, hpdu, rfl⟩ := mem_map.mp h
    obtain ⟨id, hid, hread⟩ := mem_filterMap.mp hpdu
    rw [(findEvent_spec (readableEvent_spec hread)).2, hread]
    exact ⟨hid, rfl⟩
  · rintro ⟨hmem, hread⟩
    obtain ⟨pdu, hread⟩ := isSome_iff_exists.mp hread
    exact mem_map.mpr ⟨pdu, mem_filterMap.mpr ⟨eventId, hmem, hread⟩,
      (findEvent_spec (readableEvent_spec hread)).2⟩

theorem buildStateResponse_spec
    (h : buildStateResponse yyjson store roomId atEventId = some answer) :
    Supplies yyjson store roomId answer := by
  rw [buildStateResponse] at h
  split_ifs at h
  cases h
  refine ⟨forall_mem_append.mpr
    ⟨fun _ => stored_of_mem_filterMap, fun _ => stored_of_mem_filterMap⟩, fun id hid => ?_⟩
  rcases mem_append.mp hid with hchain | hpdu
  · refine suppliedBy_of_mem_collectAuthChain ?_ (mem_pduIds_filterMap_iff.mp hchain).1
    intro seed hseed
    obtain ⟨pdu, hpdu, hauth⟩ := mem_flatMap.mp hseed
    obtain ⟨stateId, hstate, hread⟩ := mem_filterMap.mp hpdu
    exact ⟨stateId, mem_resolvedStateEventIds hstate,
      mem_authEventIds_iff.mpr ⟨pdu.1, readableEvent_spec hread, hauth⟩⟩
  · exact (mem_resolvedStateEventIds (mem_pduIds_filterMap_iff.mp hpdu).1).suppliedBy

theorem buildStateIdsResponse_spec
    (h : buildStateIdsResponse yyjson store roomId atEventId = some answer) :
    Supplies yyjson store roomId answer := by
  rw [buildStateIdsResponse] at h
  split_ifs at h
  cases h
  refine ⟨forall_mem_nil _, fun id hid => ?_⟩
  rcases mem_append.mp hid with hchain | hstate
  · refine suppliedBy_of_mem_collectAuthChain ?_ hchain
    intro seed hseed
    obtain ⟨stateId, hstate, hauth⟩ := mem_flatMap.mp hseed
    exact ⟨stateId, mem_resolvedStateEventIds hstate, hauth⟩
  · exact (mem_resolvedStateEventIds hstate).suppliedBy

theorem buildGetMissingEventsResponse_spec {requestBody : Bytes}
    (h : buildGetMissingEventsResponse yyjson store roomId requestBody = some answer) :
    Supplies yyjson store roomId answer := by
  obtain ⟨root, -, hanswer⟩ := map_eq_some_iff.mp h
  have hpdus : ∀ pdu ∈ answer.pdus, Stored yyjson store pdu ∧ pdu.1.roomId = roomId := by
    rw [← hanswer]
    intro pdu hpdu
    obtain ⟨event, hevent, hparsed⟩ := mem_filterMap.mp (mem_of_mem_take hpdu)
    obtain ⟨value, hvalue, rfl⟩ := map_eq_some_iff.mp hparsed
    obtain ⟨hmem, hroom⟩ := mem_filter.mp ((mem_insertionSort _).mp hevent)
    simp only [Bool.and_eq_true, decide_eq_true_eq] at hroom
    exact ⟨⟨hmem, hvalue⟩, hroom.1.1⟩
  refine ⟨fun pdu hpdu => (hpdus pdu hpdu).1, fun id hid => ?_⟩
  subst hanswer
  obtain ⟨pdu, hpdu, rfl⟩ := mem_map.mp hid
  obtain ⟨hstored, hroom⟩ := hpdus pdu hpdu
  exact BelongsTo.suppliedBy (.inl ⟨pdu.1, hstored.1, rfl, hroom⟩)

end Supplied

section Answers

variable {request : SignedFederationRequest} {answer : EventAnswer}

theorem answerOr_ok {missing : FederationResponse} {built : Option EventAnswer}
    (h : answerOr missing built = .ok answer) : built = some answer := by
  rw [answerOr] at h
  split at h
  · cases h
  · cases h
    next hfiltered => exact (filter_eq_some_iff.mp hfiltered).1

theorem handleStateQuery_ok {pathStart malformed : Bytes}
    {build : Bytes → Bytes → Option EventAnswer}
    (h : handleStateQuery pathStart malformed build request = .ok answer) :
    (extractPathSegment request.target pathStart).isEmpty = false ∧
      build (extractPathSegment request.target pathStart)
        (queryParamValue request.target "event_id") = some answer := by
  rw [handleStateQuery] at h
  split_ifs at h with hroom
  exact ⟨Bool.eq_false_of_not_eq_true hroom, answerOr_ok h⟩

theorem answerOr_error {missing : FederationResponse} {built : Option EventAnswer}
    (hmissing : missing.status ≠ 200) (h : answerOr missing built = .error response) :
    response.status ≠ 200 := by
  rw [answerOr] at h
  split at h <;> cases h
  exact hmissing

theorem handleStateQuery_error {pathStart malformed : Bytes}
    {build : Bytes → Bytes → Option EventAnswer}
    (h : handleStateQuery pathStart malformed build request = .error response) :
    response.status ≠ 200 := by
  rw [handleStateQuery] at h
  split_ifs at h
  · cases h
    simp
  · cases h
    simp
  · exact answerOr_error (by simp) h

theorem queryEvents_error {endpoint : FederationEndpoint}
    (h : queryEvents yyjson store nowMs serverName endpoint request = some (.error response)) :
    response.status ≠ 200 := by
  revert h
  fun_cases queryEvents yyjson store nowMs serverName endpoint request <;> intro h
  · have hhandled := some.inj h
    rw [handleQueryEvent] at hhandled
    split_ifs at hhandled
    · cases hhandled
      simp
    · exact answerOr_error (by simp) hhandled
  · exact handleStateQuery_error (some.inj h)
  · exact handleStateQuery_error (some.inj h)
  · have hhandled := some.inj h
    rw [handleGetMissingEvents] at hhandled
    split_ifs at hhandled
    · cases hhandled
      simp
    · exact answerOr_error (by simp) hhandled
  · cases h

end Answers

def eventQueryEndpoints : List FederationEndpoint :=
  [.queryEvent, .queryState, .queryStateIds, .getMissingEvents]

section Pipeline

variable (reads : HomeserverReads World) (server : FederationServer Keys World Rates)

variable {request : SignedFederationRequest} {route : FederationRoute}
  {remote : FederationRemoteRuntime} {state : FederationRuntimeState Keys World Rates}

section

variable {result : Except FederationResponse EventAnswer}
  (hresult : queryEvents server.yyjson (reads.store state.world) (reads.nowMs state.world)
    reads.serverName route.endpoint request = some result)
include hresult

theorem dispatch_eventQuery (signingKey : FederationKeyRecord) (rates : Rates) :
    dispatchNonTransactionEndpoint (wireEventQueries reads server) request route signingKey
        { state with rates := rates } = ⟨respond result, { state with rates := rates }, []⟩ := by
  have hanswer : (wireEventQueries reads server).answer state.world route request =
      (respond result, state.world) := by
    simp only [wireEventQueries, hresult]
  rw [dispatchNonTransactionEndpoint, hanswer]
  revert hresult
  fun_cases queryEvents server.yyjson (reads.store state.world) (reads.nowMs state.world)
    reads.serverName route.endpoint request <;> intro hresult
  · rfl
  · rfl
  · rfl
  · rfl
  · cases hresult

/-- How an event query is served: unless the access control list or the rate
limit refuses it, the answer is that of its handler. -/
theorem serveAuthenticated_eventQuery
    (hok : (serveAuthenticated (wireEventQueries reads server) request route remote
      state).response.status = 200) :
    checkRoomAclForEndpoint (wireEventQueries reads server) state.world request route = none ∧
      (serveAuthenticated (wireEventQueries reads server) request route remote
        state).response = respond result := by
  have hroute : route.endpoint ≠ .transaction := by
    intro heq
    rw [heq] at hresult
    cases hresult
  rw [serveAuthenticated] at hok ⊢
  split at hok
  · next response hrefused =>
      rw [checkRoomAclForEndpoint] at hrefused
      split at hrefused
      · cases hrefused
      · split_ifs at hrefused
        cases hrefused
        cases hok
  · next hallowed =>
      refine ⟨hallowed, ?_⟩
      rw [if_neg hroute, handleEndpoint] at hok ⊢
      rcases hrate : (wireEventQueries reads server).originRequestRate state.rates request.origin
        with ⟨refusal | refusal, rates⟩
      · simp only [dispatch_eventQuery reads server hresult]
        split_ifs <;> rfl
      · rw [hrate] at hok
        cases hok

end

/-- What an answer to an event query may hold. What it gives out is stored. The room
that the path names must admit the server and supplies the events; a path that names
an event is answered with that event. -/
def AnswersAbout (libc : Libc) (yyjson : Yyjson) (store : PersistentStore)
    (endpoint : FederationEndpoint) (request : SignedFederationRequest)
    (answer : EventAnswer) : Prop :=
  (∀ pdu ∈ answer.pdus, Stored yyjson store pdu) ∧
  match protectedEndpointRoomId libc endpoint request.target with
  | none =>
    pduIds answer.pdus = [extractPathSegment request.target "/_matrix/federation/v1/event/"]
  | some roomId =>
    roomServerAclAllows libc yyjson store roomId request.origin = true ∧
      ∀ eventId ∈ answer.eventIds, SuppliedBy store roomId eventId

section

variable
  (hcheck : checkRoomAclForEndpoint (wireEventQueries reads server) state.world request route =
    none)
include hcheck

theorem queryEvents_ok
    (h : queryEvents server.yyjson (reads.store state.world) (reads.nowMs state.world)
      reads.serverName route.endpoint request = some (.ok answer)) :
    AnswersAbout server.libc server.yyjson (reads.store state.world) route.endpoint request
      answer := by
  have hsupplied : ∀ {roomId},
      protectedEndpointRoomId server.libc route.endpoint request.target = some roomId →
      roomId.isEmpty = false →
      Supplies server.yyjson (reads.store state.world) roomId answer →
      AnswersAbout server.libc server.yyjson (reads.store state.world) route.endpoint request
        answer := by
    intro roomId hroom hname hsupplies
    refine ⟨hsupplies.stored, ?_⟩
    rw [hroom]
    refine ⟨?_, hsupplies.supplied⟩
    rw [checkRoomAclForEndpoint, show protectedEndpointRoomId (wireEventQueries reads server).libc
      route.endpoint request.target = some roomId from hroom] at hcheck
    simpa [hname, aclAllows, wireEventQueries] using hcheck
  rcases hendpoint : route.endpoint <;> rw [hendpoint] at h hsupplied <;>
    simp only [queryEvents, some.injEq, reduceCtorEq] at h
  case queryEvent =>
    rw [handleQueryEvent] at h
    split_ifs at h
    obtain ⟨pdu, hread, rfl⟩ := map_eq_some_iff.mp (answerOr_ok h)
    exact ⟨forall_mem_singleton.mpr (readableEvent_stored hread),
      congrArg (fun id => [id]) (findEvent_spec (readableEvent_spec hread)).2⟩
  case queryState =>
    obtain ⟨hname, hbuilt⟩ := handleStateQuery_ok h
    exact hsupplied rfl hname (buildStateResponse_spec hbuilt)
  case queryStateIds =>
    obtain ⟨hname, hbuilt⟩ := handleStateQuery_ok h
    exact hsupplied rfl hname (buildStateIdsResponse_spec hbuilt)
  case getMissingEvents =>
    change handleGetMissingEvents server.yyjson _ request = .ok answer at h
    rw [handleGetMissingEvents] at h
    split_ifs at h with hroom
    exact hsupplied rfl (Bool.eq_false_of_not_eq_true hroom)
      (buildGetMissingEventsResponse_spec (answerOr_ok h))

end

theorem event_queries_answer_about_their_path (hendpoint : route.endpoint ∈ eventQueryEndpoints)
    (hok : (serveAuthenticated (wireEventQueries reads server) request route remote
      state).response.status = 200) :
    ∃ answer, queryEvents server.yyjson (reads.store state.world) (reads.nowMs state.world)
        reads.serverName route.endpoint request = some (.ok answer) ∧
      (serveAuthenticated (wireEventQueries reads server) request route remote
        state).response.body = answer.body ∧
      AnswersAbout server.libc server.yyjson (reads.store state.world) route.endpoint request
        answer := by
  obtain ⟨result, hresult⟩ : ∃ result, queryEvents server.yyjson (reads.store state.world)
      (reads.nowMs state.world) reads.serverName route.endpoint request = some result := by
    simp only [eventQueryEndpoints, mem_cons, not_mem_nil, or_false] at hendpoint
    rcases hendpoint with heq | heq | heq | heq <;> rw [heq] <;> exact ⟨_, rfl⟩
  obtain ⟨hcheck, hresponse⟩ := serveAuthenticated_eventQuery reads server hresult hok
  rw [hresponse] at hok ⊢
  rcases result with response | answer
  · exact absurd hok (queryEvents_error hresult)
  · exact ⟨answer, hresult, rfl, queryEvents_ok reads server hcheck hresult⟩

end Pipeline

def clubEvent (type : Bytes) (content : Object) : Value :=
  .object [("content", .object content), ("room_id", .string "!club:a.example"),
    ("sender", .string "@alice:a.example"), ("state_key", .string ""), ("type", .string type)]

def clubTopic : Value := clubEvent "m.room.topic" [("topic", .string "go")]

def clubAcl : Value :=
  clubEvent "m.room.server_acl"
    [("allow", .array [.string "*"]), ("deny", .array [.string "b.example"])]

def clubRow (eventId : Bytes) (json : Value) : PersistentEvent :=
  ⟨eventId, "!club:a.example", "@alice:a.example", canonicalText json, 1, 1, [], [], []⟩

def clubStore : PersistentStore where
  events := [clubRow "$topic" clubTopic, clubRow "$acl" clubAcl]
  state := [⟨"!club:a.example", "m.room.topic", [], "$topic"⟩,
    ⟨"!club:a.example", "m.room.server_acl", [], "$acl"⟩]
  memberships := [⟨"!club:a.example", "@alice:a.example", "join", 1⟩]

def clubReads : HomeserverReads Unit := ⟨fun _ => clubStore, fun _ => 5000, "a.example"⟩

def clubPipeline : FederationServer Unit Unit Unit :=
  { sampleServer with
    yyjson := readerOf [clubTopic, clubAcl]
    sodium := sodiumOf []
      [⟨(federationRequestPayload sampleYyjson topicRequest).getD [], topicRequest.signature,
        bobKey⟩] }

def clubStateRequest : SignedFederationRequest where
  method := "GET"
  target := "/_matrix/federation/v1/state/!club:a.example?event_id=$latest"
  origin := "c.example"
  destination := "a.example"
  keyId := "ed25519:1"
  signature := []

def stateRoute : FederationRoute :=
  dynamicRoute "GET" "/_matrix/federation/v1/state/" ["\x7broomId\x7d"] .queryState

theorem state_of_the_club_is_answered_about_the_club :
    let handled := serveAuthenticated (wireEventQueries clubReads clubPipeline) clubStateRequest
      stateRoute bobRemote sampleState
    handled.response.status = 200 ∧ ∃ answer : EventAnswer, handled.response.body = answer.body ∧
      AnswersAbout clubPipeline.libc clubPipeline.yyjson clubStore .queryState clubStateRequest
        answer := by
  have hok : (serveAuthenticated (wireEventQueries clubReads clubPipeline) clubStateRequest
      stateRoute bobRemote sampleState).response.status = 200 := by
    decide +kernel
  obtain ⟨answer, -, hbody, habout⟩ :=
    event_queries_answer_about_their_path clubReads clubPipeline (by decide) hok
  exact ⟨hok, answer, hbody, habout⟩

/-- Some user of the server is in the room, or the room is readable to the
world, and the access control list of the room admits the server. -/
def mayReadRoom (libc : Libc) (yyjson : Yyjson) (store : PersistentStore)
    (roomId serverName : Bytes) : Bool :=
  ((store.memberships.any fun membership => membership.roomId = roomId &&
      membership.membership = "join" && userIdServerName membership.userId = serverName) ||
    ((currentRoomEvent store roomId "m.room.history_visibility").bind fun event =>
      ((parsedValue yyjson event.json).bind valueIsObject).bind fun object =>
        (objectMemberAsObject object "content").bind fun content =>
          stringMember content "history_visibility") = some "world_readable") &&
    roomServerAclAllows libc yyjson store roomId serverName

/-- `b.example` has nobody in the club and is denied by its access control list,
and reads an event by its id. -/
theorem denied_server_reads_an_event :
    (handleInboundFederationRequest (wireEventQueries clubReads clubPipeline) 0 topicRequest
        sampleState).response =
        ⟨200, (EventAnswer.event "a.example" 5000 (clubRow "$topic" clubTopic, clubTopic)).body,
          []⟩ ∧
      mayReadRoom clubPipeline.libc clubPipeline.yyjson clubStore "!club:a.example" "b.example" =
        false := by
  decide +kernel

end Merovingian.EventQueries
