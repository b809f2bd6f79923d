import Merovingian.EventAuthorization
import Merovingian.StableSort
import Mathlib.Data.Finmap

/-!
State resolution, version 2: partition the state groups, order the conflicted
events by power and by mainline, and auth-check them one by one against the
running state. An unordered map is a finite map, so nothing here can depend on
its iteration order; the resolved events are a multiset for the same reason.
-/

namespace Merovingian.StateResolution

open ByteString JsonValue EventSigning RoomVersions PowerLevels EventAuthorization StableSort

structure StateKey where
  eventType : Bytes
  stateKey : Bytes
deriving DecidableEq

structure StateEventReference where
  key : StateKey
  eventId : Bytes
  sender : Bytes
  originServerTs : Int64
  eventJson : Value

structure StateGroup where
  state : List StateEventReference

structure StateResolutionRequest where
  stateGroups : List StateGroup

structure StateResolutionResult where
  resolved : Bool
  resolvedState : Multiset StateEventReference
  reason : Bytes

abbrev StateMap := Finmap fun _ : StateKey => StateEventReference

abbrev EventJsonIndex := Finmap fun _ : Bytes => Value

def maxStateGroups : Nat := 1000

def maxEventsPerStateGroup : Nat := 10000

def maxConflictedStateKeys : Nat := 10000

def maxMainlineAuthChainDepth : Nat := 10000

def powerLevelsKey : StateKey := ⟨"m.room.power_levels", ""⟩

def stateJson (state : StateMap) (eventType stateKey : Bytes) : Value :=
  ((state.lookup ⟨eventType, stateKey⟩).map fun event => event.eventJson).getD .null

/-- One entry of `auth_events`: an event id, or a pair that starts with one. -/
def authEntryEventId : Value → Option Bytes
  | .string id => some id
  | .array (first :: _) => valueIsString first
  | _ => none

/-- The first auth event that the index knows as a power levels event. -/
def powerLevelsAuthAncestor (eventJson : Object) (eventsById : EventJsonIndex) : Option Bytes :=
  ((arrayMember eventJson "auth_events").getD []).findSome? fun entry =>
    (authEntryEventId entry).filter fun id =>
      ((eventsById.lookup id).bind valueIsObject).any fun object =>
        stringMember object "type" = some "m.room.power_levels"

def powerLevelFromEvent (event : StateEventReference) (unconflicted : StateMap)
    (policy : RoomVersionPolicy) : Int64 :=
  if event.key.eventType = "m.room.power_levels" && event.key.stateKey.isEmpty then
    extractUserPower event.eventJson event.sender policy
  else
    match unconflicted.lookup powerLevelsKey with
    | some powerLevels =>
      if valueHasContent powerLevels.eventJson then
        extractUserPower powerLevels.eventJson event.sender policy
      else 0
    | none => 0

/-- The comparator of both orderings, which differ in the rank they give an
event: higher rank first, then the earlier event, then the smaller id. -/
def rankedCompare {γ : Type} [LinearOrder γ] (rank : StateEventReference → γ)
    (a b : StateEventReference) : Bool :=
  if rank a ≠ rank b then rank a > rank b
  else if a.originServerTs ≠ b.originServerTs then a.originServerTs < b.originServerTs
  else a.eventId < b.eventId

def reverseTopoCompare (unconflicted : StateMap) (policy : RoomVersionPolicy) :
    StateEventReference → StateEventReference → Bool :=
  rankedCompare fun event => powerLevelFromEvent event unconflicted policy

def reverseTopologicalPowerSort (conflicted : List StateEventReference)
    (unconflicted : StateMap) (policy : RoomVersionPolicy) : List StateEventReference :=
  stableSort (reverseTopoCompare unconflicted policy) conflicted

/-- The loop of the mainline walk. Each round adds one event, so the fuel is
what is left of the depth cap. -/
def collectMainlineFrom (eventsById : EventJsonIndex) :
    Nat → List Bytes → Bytes → Option Object → List Bytes
  | 0, mainline, _, _ => mainline
  | _, mainline, _, none => mainline
  | fuel + 1, mainline, currentId, some current =>
    if currentId.isEmpty || mainline.contains currentId then mainline
    else
      match powerLevelsAuthAncestor current eventsById with
      | none => mainline ++ [currentId]
      | some ancestorId =>
        collectMainlineFrom eventsById fuel (mainline ++ [currentId]) ancestorId
          ((eventsById.lookup ancestorId).bind valueIsObject)

def collectMainlinePowerEvents (headEventId : Bytes) (powerLevelsEvent : Value)
    (eventsById : EventJsonIndex) : List Bytes :=
  collectMainlineFrom eventsById maxMainlineAuthChainDepth [] headEventId
    (valueIsObject powerLevelsEvent)

/-- The largest `std::size_t`, the position of an event off the mainline. -/
def infinity : Nat := 2 ^ 64 - 1

def mainlinePositionFrom (mainline : List Bytes) (eventsById : EventJsonIndex) :
    Nat → List Bytes → Option Object → Nat
  | 0, _, _ => infinity
  | _, _, none => infinity
  | fuel + 1, visited, some current =>
    match arrayMember current "auth_events" with
    | none => infinity
    | some auth =>
      match auth.findSome? fun entry =>
          (authEntryEventId entry).bind fun id => mainline.idxOf? id with
      | some depth => depth
      | none =>
        match powerLevelsAuthAncestor current eventsById with
        | none => infinity
        | some ancestorId =>
          if visited.contains ancestorId then infinity
          else
            mainlinePositionFrom mainline eventsById fuel (ancestorId :: visited)
              ((eventsById.lookup ancestorId).bind valueIsObject)

def mainlinePosition (mainline : List Bytes) (eventsById : EventJsonIndex)
    (event : StateEventReference) : Nat :=
  if mainline.length ≥ maxMainlineAuthChainDepth then infinity
  else
    mainlinePositionFrom mainline eventsById maxMainlineAuthChainDepth []
      (valueIsObject event.eventJson)

section

variable (events : List StateEventReference) (resolved : StateMap) (eventsById : EventJsonIndex)

def resolvedMainline : List Bytes :=
  match resolved.lookup powerLevelsKey with
  | some powerLevels =>
    if valueHasContent powerLevels.eventJson then
      collectMainlinePowerEvents powerLevels.eventId powerLevels.eventJson eventsById
    else []
  | none => []

/-- The position table keeps the first event with each id. -/
def positionByEventId (position : StateEventReference → Nat) (eventId : Bytes) : Nat :=
  ((events.find? fun event => event.eventId = eventId).map position).getD infinity

def mainlineCompare (position : Bytes → Nat) : StateEventReference → StateEventReference → Bool :=
  rankedCompare fun event => position event.eventId

def mainlineOrder : List StateEventReference :=
  stableSort
    (mainlineCompare (positionByEventId events
      (mainlinePosition (resolvedMainline resolved eventsById) eventsById)))
    events

end

def buildAuthEventMapFromState (event : Value) (currentState : StateMap) : AuthEventMap :=
  match valueIsObject event with
  | none => {}
  | some object =>
    let sender := stringMember object "sender"
    let stateKey := if stringMember object "type" = some "m.room.member" then
      stringMember object "state_key" else none
    let content := objectMemberAsObject object "content"
    let member := fun userId => stateJson currentState "m.room.member" userId
    let authorisingUser := content.bind fun members =>
      if stringMember members "membership" = some "join" then
        nonEmptyStringMember members "join_authorised_via_users_server"
      else none
    { create := stateJson currentState "m.room.create" ""
      powerLevels := stateJson currentState "m.room.power_levels" ""
      joinRules := stateJson currentState "m.room.join_rules" ""
      senderMember := (sender.map member).getD .null
      targetMember := (stateKey.map member).getD .null
      authorisingUserMember :=
        (stateKey.bind fun _ => authorisingUser.map member).getD .null
      thirdPartyInvite :=
        (stateKey.bind fun _ => (thirdPartyInviteToken event).map fun token =>
          stateJson currentState "m.room.third_party_invite" token).getD .null }

def stateGroupEvent (group : StateGroup) (key : StateKey) : Option StateEventReference :=
  group.state.find? fun event => event.key = key

def validateStateResolutionRequest (request : StateResolutionRequest) : Option Bytes :=
  if request.stateGroups.length > maxStateGroups then some "too many state groups"
  else if request.stateGroups.any fun group =>
      group.state.length > maxEventsPerStateGroup then
    some "too many events in state group"
  else none

def groupEvents (groups : List StateGroup) : List StateEventReference :=
  groups.flatMap StateGroup.state

abbrev KeyCounts := Finmap fun _ : StateKey => Nat

def countKey (counts : KeyCounts) (event : StateEventReference) : KeyCounts :=
  counts.insert event.key ((counts.lookup event.key).getD 0 + 1)

/-- The counting loop, which gives up at too many distinct keys. -/
def countStateKeys (events : List StateEventReference) : Option KeyCounts :=
  events.foldlM
    (fun counts event =>
      let counted := countKey counts event
      if counted.keys.card > maxConflictedStateKeys then none else some counted)
    ∅

section

variable (sodium : Libsodium) (policy : RoomVersionPolicy) (groups : List StateGroup)

/-- One event of the partition loop: unconflicted and conflicted state so far. -/
def partitionStep (counts : KeyCounts) (totalGroups : Nat) (maps : StateMap × StateMap)
    (event : StateEventReference) : StateMap × StateMap :=
  if (counts.lookup event.key).getD 0 = totalGroups then
    match maps.1.lookup event.key with
    | none => (maps.1.insert event.key event, maps.2)
    | some existing =>
      if existing.eventId ≠ event.eventId then
        (maps.1.erase event.key, (maps.2.insert event.key existing).insert event.key event)
      else maps
  else (maps.1, maps.2.insert event.key event)

def partitionConflictedState : StateMap × StateMap :=
  match countStateKeys (groupEvents groups) with
  | none => (∅, ∅)
  | some counts => (groupEvents groups).foldl (partitionStep counts groups.length) (∅, ∅)

def isPowerEvent (event : StateEventReference) : Bool :=
  if event.key.eventType = "m.room.power_levels" ||
      event.key.eventType = "m.room.join_rules" then event.key.stateKey.isEmpty
  else if event.key.eventType ≠ "m.room.member" then false
  else
    (eventContentString event.eventJson "membership").any fun membership : Bytes =>
      (membership = "leave" || membership = "ban") && event.sender ≠ event.key.stateKey

def buildEventJsonIndex : EventJsonIndex :=
  (groupEvents groups).foldl
    (fun index event =>
      if !event.eventId.isEmpty && valueHasContent event.eventJson &&
          (index.lookup event.eventId).isNone then
        index.insert event.eventId event.eventJson
      else index)
    ∅

/-- One event of the loop that collects the conflicted events once each. -/
def collectStep (conflicted : StateMap) (collected : List StateEventReference)
    (event : StateEventReference) : Option (List StateEventReference) :=
  if (conflicted.lookup event.key).isNone then some collected
  else if collected.any fun existing =>
      existing.key = event.key && existing.eventId = event.eventId then some collected
  else if (collected ++ [event]).length > maxConflictedStateKeys then none
  else some (collected ++ [event])

def collectConflicted (conflicted : StateMap) (groups : List StateGroup) :
    Option (List StateEventReference) :=
  (groupEvents groups).foldlM (collectStep conflicted) []

/-- One iterative auth check: bind the event if it is allowed by the running
state. -/
def applyAuthCheck (resolved : StateMap) (event : StateEventReference) : StateMap :=
  if valueHasContent event.eventJson &&
      (authorizeEventAgainstAuthEvents sodium event.eventJson policy
        (buildAuthEventMapFromState event.eventJson resolved)).allowed then
    resolved.insert event.key event
  else resolved

def applyIterativeAuthChecks (resolved : StateMap) (sorted : List StateEventReference) : StateMap :=
  sorted.foldl (applyAuthCheck sodium policy) resolved

def sortedPowerEvents (unconflicted : StateMap) (conflicted : List StateEventReference) : List
    StateEventReference :=
  reverseTopologicalPowerSort (conflicted.filter isPowerEvent) unconflicted policy

def sortedRemainingEvents (partiallyResolved : StateMap) (conflicted : List StateEventReference) :
    List StateEventReference :=
  mainlineOrder (conflicted.filter fun event => !isPowerEvent event) partiallyResolved
    (buildEventJsonIndex groups)

def resolveConflicted (unconflicted : StateMap) (conflicted : List StateEventReference) :
    StateMap :=
  let partiallyResolved := applyIterativeAuthChecks sodium policy unconflicted
    (sortedPowerEvents policy unconflicted conflicted)
  applyIterativeAuthChecks sodium policy partiallyResolved
    (sortedRemainingEvents groups partiallyResolved conflicted)

def resolveStateV2 (request : StateResolutionRequest) (policy : RoomVersionPolicy) :
    StateResolutionResult :=
  match validateStateResolutionRequest request with
  | some error => ⟨false, 0, error⟩
  | none =>
    if request.stateGroups.isEmpty then ⟨true, 0, []⟩
    else
      let (unconflicted, conflictedEvents) :=
        partitionConflictedState request.stateGroups
      if unconflicted.keys = ∅ ∧ conflictedEvents.keys = ∅ then
        ⟨false, 0, "too many state keys"⟩
      else
        match collectConflicted conflictedEvents request.stateGroups with
        | none => ⟨false, 0, "too many conflicted events"⟩
        | some allConflicted =>
          let resolved := resolveConflicted sodium policy request.stateGroups
            unconflicted allConflicted
          ⟨true, resolved.entries.map Sigma.snd, []⟩

end

end Merovingian.StateResolution
