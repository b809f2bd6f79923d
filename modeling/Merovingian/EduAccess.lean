import Merovingian.SendResponses

/-!
Access control of EDUs. Typing names its room in a member and is checked against
the list of that room. A receipt has an entry for each of its rooms, under the
room id; the member by which it is checked is none of them.
-/

namespace Merovingian.EduAccess

open ByteString JsonValue CanonicalParser FederationPdus InboundRequests TransactionIngestion
  SendResponses

variable {Keys World Rates : Type} {origin : Bytes}

section Calls

variable (server : FederationServer Keys World Rates)

section

variable (steadyNow : Nat) (request : SignedFederationRequest)
  (state : FederationRuntimeState Keys World Rates) (origin : Bytes)

def eduCall (world : World) (edu : Bytes × Bytes) : Option InboundEduEnvelope :=
  match parseInboundEduEnvelope server.yyjson edu.1 origin edu.2, server.eduSink with
  | some envelope, some _ =>
    if (roomIdFromEduContent server.yyjson envelope.type edu.2).all fun roomId =>
        aclAllows server world roomId origin then
      some envelope
    else none
  | _, _ => none

def eduSteps (origin : Bytes) : World → List (Bytes × Bytes) → List (World × (Bytes × Bytes))
  | _, [] => []
  | world, edu :: rest =>
    (world, edu) :: eduSteps origin (dispatchEdu server origin world edu) rest

def callsOf (steps : List (World × (Bytes × Bytes))) : List (World × InboundEduEnvelope) :=
  steps.filterMap fun step =>
    (eduCall server origin step.1 step.2).map fun envelope => (step.1, envelope)

def requestEduSteps : List (World × (Bytes × Bytes)) :=
  match acceptedTransaction server steadyNow request state with
  | none => []
  | some accepted =>
    eduSteps server request.origin (ingestedPdus server request accepted).world accepted.edus

def requestEduCalls : List (World × InboundEduEnvelope) :=
  callsOf server request.origin (requestEduSteps server steadyNow request state)

end

variable {server}

variable {sink : World → InboundEduEnvelope → World}

theorem dispatchEdu_eq (hsink : server.eduSink = some sink) (origin : Bytes) (world : World)
    (edu : Bytes × Bytes) :
    dispatchEdu server origin world edu =
      (eduCall server origin world edu).elim world (sink world) := by
  rw [dispatchEdu, eduCall, hsink]
  rcases parseInboundEduEnvelope server.yyjson edu.1 origin edu.2 with - | envelope
  · rfl
  · dsimp only
    split_ifs <;> rfl

theorem foldl_dispatchEdu (hsink : server.eduSink = some sink) (origin : Bytes) (world : World)
    (edus : List (Bytes × Bytes)) :
    edus.foldl (dispatchEdu server origin) world =
      ((callsOf server origin (eduSteps server origin world edus)).map Prod.snd).foldl sink
        world := by
  induction edus generalizing world with
  | nil => rfl
  | cons edu edus ih =>
    rw [List.foldl_cons, ih, eduSteps, callsOf, callsOf, List.filterMap_cons, dispatchEdu_eq hsink]
    rcases eduCall server origin world edu with - | envelope <;> rfl

/-- The calls are all that the EDUs of a request do to the world. -/
theorem handled_world (hsink : server.eduSink = some sink) {steadyNow : Nat}
    {request : SignedFederationRequest} {state : FederationRuntimeState Keys World Rates}
    {accepted : AcceptedTransaction Keys World Rates}
    (h : acceptedTransaction server steadyNow request state = some accepted) :
    (handleInboundFederationRequest server steadyNow request state).state.world =
      ((requestEduCalls server steadyNow request state).map Prod.snd).foldl sink
        (ingestedPdus server request accepted).world := by
  rw [(handle_of_accepted h).2, requestEduCalls, requestEduSteps, h]
  exact foldl_dispatchEdu hsink ..

theorem mem_callsOf {steps : List (World × (Bytes × Bytes))} {call : World × InboundEduEnvelope} :
    call ∈ callsOf server origin steps ↔
      ∃ step ∈ steps, eduCall server origin step.1 step.2 = some call.2 ∧ step.1 = call.1 := by
  rw [callsOf, List.mem_filterMap]
  refine exists_congr fun step => and_congr_right fun _ => ?_
  rw [Option.map_eq_some_iff]
  constructor
  · rintro ⟨envelope, henvelope, rfl⟩
    exact ⟨henvelope, rfl⟩
  · rintro ⟨henvelope, hworld⟩
    exact ⟨call.2, henvelope, Prod.ext hworld rfl⟩

end Calls

section Rooms

def contentRoot (yyjson : Yyjson) (contentJson : Bytes) : Option Object :=
  (parseLossless yyjson contentJson).toOption.bind valueIsObject

/-- The rooms that an EDU has an effect in: the one that typing names, those that
a receipt has an entry for. -/
def eduRooms (yyjson : Yyjson) (envelope : InboundEduEnvelope) : List Bytes :=
  match envelope.type, contentRoot yyjson envelope.contentJson with
  | .typing, some root => (nonEmptyStringMember root "room_id").toList
  | .receipt, some root => root.map Prod.fst
  | _, _ => []

variable (server : FederationServer Keys World Rates)

def CallAllowed (origin : Bytes) (call : World × InboundEduEnvelope) : Prop :=
  ∀ roomId ∈ eduRooms server.yyjson call.2, aclAllows server call.1 roomId origin = true

/-- A receipt that is not for a denied room by its member `room_id` has entries
only for rooms that let the origin in. -/
def ReceiptAllowed (origin : Bytes) (step : World × (Bytes × Bytes)) : Prop :=
  ∀ envelope, parseInboundEduEnvelope server.yyjson step.2.1 origin step.2.2 = some envelope →
    envelope.type = .receipt → ∀ root, contentRoot server.yyjson step.2.2 = some root →
      (∀ roomId, nonEmptyStringMember root "room_id" = some roomId →
        aclAllows server step.1 roomId origin = true) →
      ∀ roomId ∈ root.map Prod.fst, aclAllows server step.1 roomId origin = true

variable {server}

theorem parseInboundEduEnvelope_content {yyjson : Yyjson} {eduType contentJson : Bytes}
    {envelope : InboundEduEnvelope}
    (h : parseInboundEduEnvelope yyjson eduType origin contentJson = some envelope) :
    envelope.contentJson = contentJson := by
  rw [parseInboundEduEnvelope] at h
  split_ifs at h
  cases h
  rfl

theorem eduCall_eq_some_iff (hsink : server.eduSink.isSome = true) {world : World}
    {edu : Bytes × Bytes} {envelope : InboundEduEnvelope} :
    eduCall server origin world edu = some envelope ↔
      parseInboundEduEnvelope server.yyjson edu.1 origin edu.2 = some envelope ∧
        ∀ roomId, roomIdFromEduContent server.yyjson envelope.type edu.2 = some roomId →
          aclAllows server world roomId origin = true := by
  obtain ⟨sink, hsink⟩ := Option.isSome_iff_exists.mp hsink
  rw [eduCall, hsink]
  rcases parseInboundEduEnvelope server.yyjson edu.1 origin edu.2 with - | parsed
  · simp
  · simp only [Option.all_eq_true]
    split_ifs with hallowed
    · constructor
      · rintro ⟨⟩
        exact ⟨rfl, hallowed⟩
      · exact fun h => h.1
    · constructor
      · rintro ⟨⟩
      · rintro ⟨⟨⟩, hrooms⟩
        exact absurd hrooms hallowed

theorem roomIdFromEduContent_eq {yyjson : Yyjson} {type : EduType} {contentJson : Bytes}
    {root : Object} (htype : type = .typing ∨ type = .receipt)
    (hroot : contentRoot yyjson contentJson = some root) :
    roomIdFromEduContent yyjson type contentJson = nonEmptyStringMember root "room_id" := by
  rw [contentRoot] at hroot
  rw [roomIdFromEduContent, hroot]
  rcases htype with rfl | rfl <;> rfl

theorem callAllowed_iff (hsink : server.eduSink.isSome = true) {step : World × (Bytes × Bytes)} :
    (∀ envelope, eduCall server origin step.1 step.2 = some envelope →
      CallAllowed server origin (step.1, envelope)) ↔ ReceiptAllowed server origin step := by
  constructor
  · intro hcalls envelope hparse htype root hroot hchecked
    have hcontent := parseInboundEduEnvelope_content hparse
    have hcall : eduCall server origin step.1 step.2 = some envelope := by
      refine (eduCall_eq_some_iff hsink).mpr ⟨hparse, ?_⟩
      rw [roomIdFromEduContent_eq (.inr htype) hroot]
      exact hchecked
    have hallowed := hcalls envelope hcall
    rw [CallAllowed, eduRooms, htype, hcontent, hroot] at hallowed
    exact hallowed
  · intro hreceipt envelope hcall roomId hroom
    obtain ⟨hparse, hchecked⟩ := (eduCall_eq_some_iff hsink).mp hcall
    rw [eduRooms, parseInboundEduEnvelope_content hparse] at hroom
    rcases hroot : contentRoot server.yyjson step.2.2 with - | root <;> rw [hroot] at hroom
    · rcases htype : envelope.type <;> rw [htype] at hroom <;> cases hroom
    · rcases htype : envelope.type
      case typing =>
        rw [roomIdFromEduContent_eq (.inl htype) hroot] at hchecked
        rw [htype] at hroom
        exact hchecked roomId (Option.mem_toList.mp hroom)
      case receipt =>
        rw [roomIdFromEduContent_eq (.inr htype) hroot] at hchecked
        rw [htype] at hroom
        exact hreceipt envelope hparse htype root hroot hchecked roomId hroom
      all_goals
        rw [htype] at hroom
        cases hroom

end Rooms

/-- Every call of the sink that a request leads to is allowed if and only if all
its receipts are. -/
theorem edu_access_controlled_iff (server : FederationServer Keys World Rates) (steadyNow : Nat)
    (request : SignedFederationRequest) (state : FederationRuntimeState Keys World Rates) :
    (∀ call ∈ requestEduCalls server steadyNow request state,
        CallAllowed server request.origin call) ↔
      (server.eduSink.isSome = true → ∀ step ∈ requestEduSteps server steadyNow request state,
          ReceiptAllowed server request.origin step) := by
  constructor
  · intro hcalls hsink step hstep
    rw [← callAllowed_iff hsink]
    intro envelope hcall
    exact hcalls _ (mem_callsOf.mpr ⟨step, hstep, hcall, rfl⟩)
  · rintro hsteps ⟨world, envelope⟩ hmem
    obtain ⟨step, hstep, hcall, rfl⟩ := mem_callsOf.mp hmem
    have hsink : server.eduSink.isSome = true := by
      rw [eduCall] at hcall
      split at hcall
      next hset => rw [hset]; rfl
      next => cases hcall
    exact (callAllowed_iff hsink).mpr (hsteps hsink step hstep) envelope hcall

def clubReceipt : Value :=
  .object [("!club:a.example", .object [("m.read", .object [("@bob:b.example",
    .object [("data", .object [("ts", .integer 1000)]),
      ("event_ids", .array [.string "$topic"])])])])]

def receiptTransaction : Value :=
  .object [
    ("edus", .array [.object [("content", clubReceipt), ("edu_type", .string "m.receipt")]]),
    ("origin", .string "b.example"), ("origin_server_ts", .integer 1000), ("pdus", .array [])]

def receiptRequest : SignedFederationRequest :=
  { sendRequest with body := canonicalText receiptTransaction, signatureVerified := true }

/-- The sample server with a sink that logs its calls and a list that lets nobody in. -/
def closedEduServer : FederationServer Unit (List InboundEduEnvelope) Unit :=
  { sampleServer with
    yyjson := readerOf [receiptTransaction, clubReceipt]
    pduSink := none
    stateConflictResolver := none
    eduSink := some fun world envelope => world ++ [envelope]
    roomVersionResolver := none
    roomServerAclProvider := some fun _ _ _ => false
    membershipAcceptor := none
    inviteHandler := none
    answer world _ _ := (⟨501, "not implemented", []⟩, world) }

def emptyLog : FederationRuntimeState Unit (List InboundEduEnvelope) Unit :=
  { sampleState with world := [] }

theorem receipt_is_handled :
    let logged := (handleInboundFederationRequest closedEduServer 0 receiptRequest
      emptyLog).state.world
    logged.map InboundEduEnvelope.eduType = ["m.receipt"] ∧
      ∃ accepted, acceptedTransaction closedEduServer 0 receiptRequest emptyLog = some accepted ∧
        logged = ((requestEduCalls closedEduServer 0 receiptRequest emptyLog).map Prod.snd).foldl
          (fun world envelope => world ++ [envelope])
          (ingestedPdus closedEduServer receiptRequest accepted).world :=
  have haccepted := (Option.some_get (by decide +kernel)).symm
  ⟨by decide +kernel, _, haccepted, handled_world rfl haccepted⟩

/-- The sink is called with a receipt for a room that denies its origin. -/
theorem receipt_reaches_denied_room :
    (handleInboundFederationRequest closedEduServer 0 receiptRequest emptyLog).response.status =
        200 ∧
      ∃ call ∈ requestEduCalls closedEduServer 0 receiptRequest emptyLog,
        ¬ CallAllowed closedEduServer receiptRequest.origin call := by
  refine ⟨by decide +kernel, ?_⟩
  have hrooms : (requestEduCalls closedEduServer 0 receiptRequest emptyLog).any (fun call =>
      (eduRooms closedEduServer.yyjson call.2).any fun roomId =>
        !aclAllows closedEduServer call.1 roomId receiptRequest.origin) = true := by
    decide +kernel
  obtain ⟨call, hcall, hdenied⟩ := List.any_eq_true.mp hrooms
  obtain ⟨roomId, hroom, hacl⟩ := List.any_eq_true.mp hdenied
  refine ⟨call, hcall, fun hallowed => ?_⟩
  rw [hallowed roomId hroom] at hacl
  cases hacl

end Merovingian.EduAccess
