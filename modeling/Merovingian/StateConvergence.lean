import Merovingian.AuthVerdicts
import Merovingian.PduIngestion

/-!
Whether the current state of a room depends on the order in which its events
arrive. The store keeps, under every key, the last event that was stored, so
two orders lead to the same state exactly when they end on the same event for
every key. Histories that are linear for every key converge; the first fork on
a key does not.
-/

namespace Merovingian.StateConvergence

open ByteString JsonValue CanonicalParser EventSigning KeyedFold StoreTables AuthVerdicts
  PduIngestion List

section Run

variable (yyjson : Yyjson) (sodium : Libsodium) (backend : Backend)

def ingestAll (database : LocalDatabase) (events : List InboundPduEnvelope) : LocalDatabase :=
  events.foldl
    (fun database envelope => (ingestPduEvent yyjson sodium backend database envelope).2)
    database

def authorizedInTurn : LocalDatabase → List InboundPduEnvelope → Bool
  | _, [] => true
  | database, envelope :: rest =>
    passesAuth yyjson sodium database.persistentStore envelope &&
      authorizedInTurn (ingestPduEvent yyjson sodium backend database envelope).2 rest

def citedIds (envelope : InboundPduEnvelope) : List Bytes :=
  envelope.prevEventIds ++ envelope.authEventIds

/-- An order in which state events of one room may arrive: every event comes after
those it cites, and passes the auth check in its turn. -/
@[mk_iff] structure AdmissibleOrder (database : LocalDatabase) (roomId : Bytes)
    (events : List InboundPduEnvelope) : Prop where
  oneRoom : ∀ envelope ∈ events, envelope.roomId = roomId
  stateEvents : ∀ envelope ∈ events, envelope.stateKey.isSome
  distinctIds : (events.map InboundPduEnvelope.eventId).Nodup
  citesEarlier : events.Pairwise fun earlier later => later.eventId ∉ citedIds earlier
  notItself : ∀ envelope ∈ events, envelope.eventId ∉ citedIds envelope
  authorized : authorizedInTurn yyjson sodium backend database events = true

def storedRows (store : PersistentStore) (events : List InboundPduEnvelope) :
    List PersistentStateEvent :=
  (events.filter (storable yyjson sodium store)).filterMap envelopeState

variable {yyjson sodium backend}

variable (store : PersistentStore)

theorem storedRows_cons (envelope : InboundPduEnvelope)
    (rest : List InboundPduEnvelope) :
    storedRows yyjson sodium store (envelope :: rest) =
      (if storable yyjson sodium store envelope then (envelopeState envelope).toList else []) ++
        storedRows yyjson sodium store rest := by
  unfold storedRows
  cases hstorable : storable yyjson sodium store envelope with
  | false => simp [hstorable]
  | true => cases hstate : envelopeState envelope <;> simp [hstorable, hstate]

theorem ingestAll_state (hbackend : ∀ statements, backend statements = true)
    {database : LocalDatabase} {events : List InboundPduEnvelope}
    (hdistinct : (events.map InboundPduEnvelope.eventId).Nodup)
    (hauthorized : authorizedInTurn yyjson sodium backend database events = true) :
    (ingestAll yyjson sodium backend database events).persistentStore.state =
      putStates database.persistentStore.state
        (storedRows yyjson sodium database.persistentStore events) := by
  induction events generalizing database with
  | nil => rfl
  | cons envelope rest ih =>
    obtain ⟨hfresh, hdistinct⟩ := nodup_cons.mp hdistinct
    simp only [authorizedInTurn, Bool.and_eq_true] at hauthorized
    obtain ⟨hpasses, hrest⟩ := hauthorized
    have hstep := ingestPduEvent_tables hbackend hpasses
    -- The ids differ, so what is storable later does not depend on this step.
    have hrows : storedRows yyjson sodium
        (ingestPduEvent yyjson sodium backend database envelope).2.persistentStore rest =
        storedRows yyjson sodium database.persistentStore rest := by
      unfold storedRows
      congr 1
      refine filter_congr fun later hlater => storable_congr later ?_
      have hother : envelope.eventId ≠ later.eventId := fun hsame =>
        hfresh (hsame ▸ mem_map_of_mem hlater)
      simp [hstep.exists_iff, hother]
    have hrun := ih hdistinct hrest
    rw [hrows, hstep.state] at hrun
    rw [ingestAll, foldl_cons]
    refine hrun.trans ?_
    rw [storedRows_cons]
    split <;> simp [putStates]

variable (yyjson sodium) in
def storesUnder (store : PersistentStore) (tuple : StateTuple)
    (envelope : InboundPduEnvelope) : Bool :=
  storable yyjson sodium store envelope &&
    (envelopeState envelope).any fun state => stateTuple state = tuple

variable (yyjson sodium) in
def lastStored (store : PersistentStore) (events : List InboundPduEnvelope)
    (tuple : StateTuple) : Option Bytes :=
  (events.filter (storesUnder yyjson sodium store tuple)).getLast?.map
    InboundPduEnvelope.eventId

theorem eventIds_storedRows (events : List InboundPduEnvelope)
    (tuple : StateTuple) :
    (withKey stateTuple tuple (storedRows yyjson sodium store events)).map
        PersistentStateEvent.eventId =
      (events.filter (storesUnder yyjson sodium store tuple)).map
        InboundPduEnvelope.eventId := by
  induction events with
  | nil => rfl
  | cons envelope rest ih =>
    rw [storedRows_cons, withKey_append, map_append, ih]
    cases hstorable : storable yyjson sodium store envelope with
    | false => simp [storesUnder, hstorable]
    | true =>
      cases hkey : envelope.stateKey with
      | none => simp [storesUnder, envelopeState, hkey]
      | some stateKey =>
        by_cases htuple : stateTuple ⟨envelope.roomId, envelope.eventType, stateKey,
            envelope.eventId⟩ = tuple <;>
          simp [storesUnder, hstorable, envelopeState, hkey, withKey, htuple]

theorem currentEventId_ingestAll (hbackend : ∀ statements, backend statements = true)
    {database : LocalDatabase} {roomId : Bytes} {events : List InboundPduEnvelope}
    (horder : AdmissibleOrder yyjson sodium backend database roomId events) (tuple : StateTuple) :
    currentEventId (ingestAll yyjson sodium backend database events).persistentStore tuple =
      (lastStored yyjson sodium database.persistentStore events tuple).or
        (currentEventId database.persistentStore tuple) := by
  rw [currentEventId, ingestAll_state hbackend horder.distinctIds horder.authorized,
    rowAt_putStates, Option.map_or, ← getLast?_map, eventIds_storedRows,
    getLast?_map, lastStored, currentEventId]

section Linear

variable {database : LocalDatabase} {roomId : Bytes}
  {events first second : List InboundPduEnvelope}

/-- One event of an order is cited by another, directly or through further events of
the order. -/
def Ancestor (events : List InboundPduEnvelope) : InboundPduEnvelope → InboundPduEnvelope → Prop :=
  Relation.TransGen fun earlier later =>
    earlier ∈ events ∧ later ∈ events ∧ earlier.eventId ∈ citedIds later

section

variable (horder : AdmissibleOrder yyjson sodium backend database roomId events)

include horder

theorem AdmissibleOrder.nodup : events.Nodup :=
  .of_map _ horder.distinctIds

theorem AdmissibleOrder.idxOf_lt {earlier later : InboundPduEnvelope}
    (hancestor : Ancestor events earlier later) : events.idxOf earlier < events.idxOf later := by
  have hdirect : ∀ earlier later : InboundPduEnvelope, earlier ∈ events ∧ later ∈ events ∧
      earlier.eventId ∈ citedIds later → events.idxOf earlier < events.idxOf later := by
    rintro earlier later ⟨hearlier, hlater, hcited⟩
    by_contra hnot
    rcases Nat.lt_or_eq_of_le (Nat.le_of_not_lt hnot) with hlt | heq
    · have hpair := pairwise_iff_getElem.mp horder.citesEarlier _ _
        (idxOf_lt_length_iff.mpr hlater) (idxOf_lt_length_iff.mpr hearlier) hlt
      simp only [getElem_idxOf] at hpair
      exact hpair hcited
    · have hsame : later = earlier := (idxOf_inj hlater).mp heq
      exact horder.notItself later hlater (hsame ▸ hcited)
  induction hancestor with
  | single h => exact hdirect _ _ h
  | tail _ h ih => exact ih.trans (hdirect _ _ h)

theorem AdmissibleOrder.pairwise_not_ancestor :
    events.Pairwise fun earlier later => ¬Ancestor events later earlier := by
  refine pairwise_iff_getElem.mpr fun i j hi hj hij hancestor => ?_
  have hlt := horder.idxOf_lt hancestor
  rw [horder.nodup.idxOf_getElem, horder.nodup.idxOf_getElem] at hlt
  exact hij.asymm hlt

end

theorem Ancestor.of_perm (hperm : first.Perm second) {earlier later : InboundPduEnvelope}
    (h : Ancestor first earlier later) : Ancestor second earlier later :=
  Relation.TransGen.mono (fun _ _ hcites =>
    ⟨hperm.mem_iff.mp hcites.1, hperm.mem_iff.mp hcites.2.1, hcites.2.2⟩) _ _ h

end Linear

section TwoOrders

variable {database : LocalDatabase} {roomId : Bytes} {first second : List InboundPduEnvelope}

variable (yyjson sodium) in
theorem lastStored_eq_none_iff (hperm : first.Perm second)
    (tuple : StateTuple) :
    lastStored yyjson sodium store first tuple = none ↔
      lastStored yyjson sodium store second tuple = none := by
  have hstored := hperm.filter (storesUnder yyjson sodium store tuple)
  simp only [lastStored, Option.map_eq_none_iff, getLast?_eq_none_iff]
  exact ⟨fun h => (h ▸ hstored.symm).eq_nil, fun h => (h ▸ hstored).eq_nil⟩

variable (hbackend : ∀ statements, backend statements = true) (hperm : first.Perm second)
  (hfirst : AdmissibleOrder yyjson sodium backend database roomId first)
  (hsecond : AdmissibleOrder yyjson sodium backend database roomId second)
include hbackend hperm hfirst hsecond

theorem currentEventId_eq_iff (tuple : StateTuple) :
    currentEventId (ingestAll yyjson sodium backend database first).persistentStore tuple =
        currentEventId (ingestAll yyjson sodium backend database second).persistentStore tuple ↔
      lastStored yyjson sodium database.persistentStore first tuple =
        lastStored yyjson sodium database.persistentStore second tuple := by
  rw [currentEventId_ingestAll hbackend hfirst, currentEventId_ingestAll hbackend hsecond]
  have hnone := lastStored_eq_none_iff yyjson sodium database.persistentStore hperm tuple
  cases hlast : lastStored yyjson sodium database.persistentStore first tuple with
  | none => simp [hnone.mp hlast]
  | some eventId =>
    obtain ⟨other, hother⟩ := Option.ne_none_iff_exists'.mp fun h =>
      Option.some_ne_none eventId (hlast ▸ hnone.mpr h)
    simp [hother]

/-- Two orders of the same events lead to the same current state exactly when they
end on the same event for every tuple. -/
theorem converges_iff :
    (∀ tuple,
        currentEventId (ingestAll yyjson sodium backend database first).persistentStore tuple =
          currentEventId (ingestAll yyjson sodium backend database second).persistentStore
            tuple) ↔
      ∀ tuple, lastStored yyjson sodium database.persistentStore first tuple =
          lastStored yyjson sodium database.persistentStore second tuple :=
  forall_congr' fun tuple => currentEventId_eq_iff hbackend hperm hfirst hsecond tuple

/-- Histories that are linear under every tuple converge: of two events stored under
one tuple, one descends from the other. -/
theorem converges_of_linear (hlinear : ∀ tuple, ∀ one ∈ first, ∀ other ∈ first,
      storesUnder yyjson sodium database.persistentStore tuple one = true →
      storesUnder yyjson sodium database.persistentStore tuple other = true →
      one = other ∨ Ancestor first one other ∨ Ancestor first other one) (tuple : StateTuple) :
    currentEventId (ingestAll yyjson sodium backend database first).persistentStore tuple =
      currentEventId (ingestAll yyjson sodium backend database second).persistentStore tuple := by
  refine (currentEventId_eq_iff hbackend hperm hfirst hsecond tuple).mpr ?_
  -- No event stands before an ancestor, so a linear history has one order only.
  have hstored : first.filter (storesUnder yyjson sodium database.persistentStore tuple) =
      second.filter (storesUnder yyjson sodium database.persistentStore tuple) := by
    refine Perm.eq_of_pairwise ?_ (hfirst.pairwise_not_ancestor.filter _)
      ((hsecond.pairwise_not_ancestor.imp fun h hancestor =>
        h (hancestor.of_perm hperm)).filter _) (hperm.filter _)
    intro one other hone hother hbehind hahead
    obtain ⟨honeMem, honeStores⟩ := mem_filter.mp hone
    obtain ⟨hotherMem, hotherStores⟩ := mem_filter.mp hother
    rcases hlinear tuple one honeMem other (hperm.mem_iff.mpr hotherMem) honeStores
      hotherStores with hsame | hancestor | hancestor
    · exact hsame
    · exact absurd hancestor hahead
    · exact absurd hancestor hbehind
  rw [lastStored, lastStored, hstored]

end TwoOrders

end Run

instance (yyjson : Yyjson) (sodium : Libsodium) (backend : Backend)
    (database : LocalDatabase) (roomId : Bytes) (events : List InboundPduEnvelope) :
    Decidable (AdmissibleOrder yyjson sodium backend database roomId events) :=
  decidable_of_iff' _ (admissibleOrder_iff ..)

/-- A state event of the restricted room with its real content hash. -/
structure HashedEvent where
  eventId : Bytes
  eventType : Bytes
  content : Object
  previous : Bytes := "$rules"
  contentHash : Bytes

def HashedEvent.json (event : HashedEvent) : Value :=
  .object [
    ("auth_events", .array [.string "$create", .string "$alice", .string "$levels"]),
    ("content", .object event.content),
    ("hashes", .object [("sha256", .string event.contentHash)]),
    ("prev_events", .array [.string event.previous]),
    ("room_id", .string "!club:example.org"),
    ("sender", .string "@alice:example.org"),
    ("state_key", .string ""),
    ("type", .string event.eventType)]

def HashedEvent.envelope (event : HashedEvent) : InboundPduEnvelope where
  eventId := event.eventId
  roomId := "!club:example.org"
  roomVersion := "11"
  sender := "@alice:example.org"
  eventType := event.eventType
  stateKey := some ""
  depth := 5
  prevEventIds := [event.previous]
  authEventIds := ["$create", "$alice", "$levels"]
  signatures := []
  json := canonicalText event.json

def chessEvent : HashedEvent where
  eventId := "$chess"
  eventType := "m.room.topic"
  content := [("topic", .string "chess")]
  contentHash := "yr03jm8q4DIRP+ON7ALQWqTsAfPMaFMITEapOaztDFM"

def goEvent : HashedEvent where
  eventId := "$go"
  eventType := "m.room.topic"
  content := [("topic", .string "go")]
  contentHash := "s+znT6tuEXSLKhNeYxBMjjjouU91LWxrbrWiCua9nWQ"

def shogiEvent : HashedEvent where
  eventId := "$shogi"
  eventType := "m.room.topic"
  content := [("topic", .string "shogi")]
  previous := "$chess"
  contentHash := "D9UFmLY80NmWob60BtZtjGh3yne08t7KTUpIkQFItL8"

def nameEvent : HashedEvent where
  eventId := "$name"
  eventType := "m.room.name"
  content := [("name", .string "Club")]
  contentHash := "SNrYY0vttPat1LeOSGCy5UCkB7CTFJIE63FDVid++Zc"

def clubHashed : List HashedEvent := [chessEvent, goEvent, shogiEvent, nameEvent]

def clubSodium : Libsodium :=
  sodiumOf (clubHashed.map fun event => ⟨canonicalText (.object (cloneWithoutFields
    ((valueIsObject event.json).getD []) ["hashes"])), event.contentHash⟩) []

def clubYyjson : Yyjson :=
  readerOf (clubEvents.map Prod.snd ++ clubHashed.map HashedEvent.json)

def clubDatabase : LocalDatabase :=
  { persistentStore := clubStore, nextStreamOrdering := 5 }

def clubTuple (event : HashedEvent) : StateTuple :=
  ⟨"!club:example.org", event.eventType, ""⟩

theorem clubTuple_of_storesUnder {event : HashedEvent} {tuple : StateTuple}
    (h : storesUnder clubYyjson clubSodium clubStore tuple event.envelope = true) :
    clubTuple event = tuple :=
  of_decide_eq_true (Bool.and_eq_true_iff.mp h).2

theorem topic_and_name_converge :
    currentEventId (ingestAll clubYyjson clubSodium memoryBackend clubDatabase
        [chessEvent.envelope, nameEvent.envelope]).persistentStore (clubTuple chessEvent) =
      currentEventId (ingestAll clubYyjson clubSodium memoryBackend clubDatabase
        [nameEvent.envelope, chessEvent.envelope]).persistentStore (clubTuple chessEvent) := by
  have horders : AdmissibleOrder clubYyjson clubSodium memoryBackend clubDatabase
        "!club:example.org" [chessEvent.envelope, nameEvent.envelope] ∧
      AdmissibleOrder clubYyjson clubSodium memoryBackend clubDatabase
        "!club:example.org" [nameEvent.envelope, chessEvent.envelope] := by
    decide +kernel
  refine (converges_iff (fun _ => rfl) (.swap _ _ _) horders.1 horders.2).mpr
    (fun tuple => ?_) (clubTuple chessEvent)
  -- No tuple has both events, so one of the two filters drops an event.
  unfold lastStored
  cases hchess : storesUnder clubYyjson clubSodium clubStore tuple chessEvent.envelope with
  | false => simp [clubDatabase, hchess]
  | true =>
    cases hname : storesUnder clubYyjson clubSodium clubStore tuple nameEvent.envelope with
    | false => simp [clubDatabase, hchess, hname]
    | true =>
      exact absurd ((clubTuple_of_storesUnder hchess).trans (clubTuple_of_storesUnder hname).symm)
        (by decide)

/-- Two topics, of which the second follows the first, and a name that comes before or
after the second. -/
theorem topics_in_line_converge :
    let current events := currentEventId
      (ingestAll clubYyjson clubSodium memoryBackend clubDatabase events).persistentStore
    current [chessEvent.envelope, shogiEvent.envelope, nameEvent.envelope]
        (clubTuple shogiEvent) =
      current [chessEvent.envelope, nameEvent.envelope, shogiEvent.envelope]
        (clubTuple shogiEvent) := by
  have hancestor : Ancestor [chessEvent.envelope, shogiEvent.envelope, nameEvent.envelope]
      chessEvent.envelope shogiEvent.envelope :=
    .single ⟨mem_cons_self, mem_cons_of_mem _ mem_cons_self, by decide⟩
  refine converges_of_linear (fun _ => rfl) (.cons _ (.swap _ _ _))
    (by decide +kernel : AdmissibleOrder _ _ _ _ "!club:example.org" _) (by decide +kernel) ?_ _
  intro tuple one hone other hother hstores hstored
  have hsame {event event' : HashedEvent}
      (h : storesUnder clubYyjson clubSodium clubStore tuple event.envelope = true)
      (h' : storesUnder clubYyjson clubSodium clubStore tuple event'.envelope = true) :
      clubTuple event = clubTuple event' :=
    (clubTuple_of_storesUnder h).trans (clubTuple_of_storesUnder h').symm
  simp only [mem_cons, not_mem_nil, or_false] at hone hother
  rcases hone with rfl | rfl | rfl <;> rcases hother with rfl | rfl | rfl
  · exact .inl rfl
  · exact .inr (.inl hancestor)
  · exact absurd (hsame hstores hstored) (by decide)
  · exact .inr (.inr hancestor)
  · exact .inl rfl
  · exact absurd (hsame hstores hstored) (by decide)
  · exact absurd (hsame hstores hstored) (by decide)
  · exact absurd (hsame hstores hstored) (by decide)
  · exact .inl rfl

theorem topic_depends_on_order :
    AdmissibleOrder clubYyjson clubSodium memoryBackend clubDatabase "!club:example.org"
        [chessEvent.envelope, goEvent.envelope] ∧
      AdmissibleOrder clubYyjson clubSodium memoryBackend clubDatabase "!club:example.org"
        [goEvent.envelope, chessEvent.envelope] ∧
      currentEventId (ingestAll clubYyjson clubSodium memoryBackend clubDatabase
        [chessEvent.envelope, goEvent.envelope]).persistentStore (clubTuple chessEvent) =
          some (utf8 "$go") ∧
      currentEventId (ingestAll clubYyjson clubSodium memoryBackend clubDatabase
        [goEvent.envelope, chessEvent.envelope]).persistentStore (clubTuple chessEvent) =
          some (utf8 "$chess") := by
  decide +kernel

end Merovingian.StateConvergence
