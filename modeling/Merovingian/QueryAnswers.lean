import Merovingian.EventQueries

/-!
What the answers to event queries leave out. Missing events are told by their
depth alone. The access control list that queries are held to lets every server in
where it is missing its list of allowed ones.
-/

namespace Merovingian.QueryAnswers

open ByteString JsonValue CanonicalParser StoreTables GraphWalk FederationPolicy ServerAcl
  EventQueries List Option

variable {yyjson : Yyjson} {store : PersistentStore} {roomId : Bytes}

section MissingEvents

/-- An event that a server may be missing: one of the room, readable and not too
low, whether or not the events that the request names lead to it. -/
structure Offered (yyjson : Yyjson) (store : PersistentStore) (roomId : Bytes) (minDepth : Int64)
    (pdu : Pdu) : Prop where
  stored : pdu.1 ∈ store.events
  inRoom : pdu.1.roomId = roomId
  hasBody : pdu.1.json ≠ []
  deep : minDepth ≤ pdu.1.depth.toInt64
  readable : parsedValue yyjson pdu.1.json = some pdu.2

/-- What is answered for a limit and a least depth: a slice by depth of what may
be missing, and all of it where the limit is not reached. -/
structure SliceByDepth (yyjson : Yyjson) (store : PersistentStore) (roomId : Bytes)
    (bounds : Nat × Int64) (events : List Pdu) : Prop where
  limited : events.length ≤ bounds.1
  offered : ∀ pdu ∈ events, Offered yyjson store roomId bounds.2 pdu
  once : (events.map Prod.fst).Subperm store.events
  ascending : events.Pairwise fun first second => first.1.depth ≤ second.1.depth
  complete : events.length < bounds.1 →
    ∀ pdu, Offered yyjson store roomId bounds.2 pdu → pdu ∈ events

theorem missing_events_by_depth {requestBody : Bytes} {root : Object}
    (hroot : (parsedValue yyjson requestBody).bind valueIsObject = some root) :
    ∃ events, buildGetMissingEventsResponse yyjson store roomId requestBody =
        some (.missingEvents events) ∧
      SliceByDepth yyjson store roomId (missingEventsBounds root) events := by
  rw [buildGetMissingEventsResponse, hroot, map_some]
  obtain ⟨limit, minDepth⟩ := missingEventsBounds root
  dsimp only
  set kept := store.events.filter fun event => event.roomId = roomId && !event.json.isEmpty &&
    minDepth ≤ event.depth.toInt64 with hkept
  set candidates := kept.insertionSort fun left right => left.depth ≤ right.depth with hcandidates
  set events := candidates.filterMap fun event =>
    (parsedValue yyjson event.json).map fun value => (event, value) with hevents
  have hmem : ∀ pdu, pdu ∈ events ↔ Offered yyjson store roomId minDepth pdu := by
    rintro ⟨event, value⟩
    simp only [hevents, hcandidates, hkept, mem_filterMap, mem_insertionSort, mem_filter,
      map_eq_some_iff, Bool.and_eq_true, decide_eq_true_eq, Bool.not_eq_true', isEmpty_eq_false_iff]
    constructor
    · rintro ⟨_, ⟨hstored, ⟨hroom, hbody⟩, hdeep⟩, _, hread, heq⟩
      cases heq
      exact ⟨hstored, hroom, hbody, hdeep, hread⟩
    · rintro ⟨hstored, hroom, hbody, hdeep, hread⟩
      exact ⟨event, ⟨hstored, ⟨hroom, hbody⟩, hdeep⟩, value, hread, rfl⟩
  have hrows : events.map Prod.fst =
      candidates.filter fun event => (parsedValue yyjson event.json).isSome := by
    rw [hevents, map_filterMap, ← filterMap_eq_filter]
    refine filterMap_congr fun event _ => ?_
    cases hread : parsedValue yyjson event.json <;> simp [Option.guard, hread]
  have hsorted : events.Pairwise fun first second => first.1.depth ≤ second.1.depth := by
    have : Std.Total fun left right : PersistentEvent => left.depth ≤ right.depth :=
      ⟨fun left right => UInt64.le_total left.depth right.depth⟩
    have : IsTrans PersistentEvent fun left right => left.depth ≤ right.depth :=
      ⟨fun _ _ _ => UInt64.le_trans⟩
    have hordered : candidates.Pairwise fun left right => left.depth ≤ right.depth :=
      pairwise_insertionSort _ kept
    have hread := hordered.filter fun event => (parsedValue yyjson event.json).isSome
    rwa [← hrows, pairwise_map] at hread
  refine ⟨_, rfl, length_take_le _ _, fun pdu hpdu => (hmem pdu).mp (mem_of_mem_take hpdu), ?_,
    hsorted.sublist (take_sublist _ _), fun hshort pdu hpdu => ?_⟩
  · have hsublist := (take_sublist limit events).map Prod.fst
    rw [hrows] at hsublist
    refine (hsublist.trans filter_sublist).subperm.trans ?_
    exact (perm_insertionSort _ kept).subperm.trans filter_sublist.subperm
  · rw [take_of_length_le (by rw [length_take] at hshort; omega)]
    exact (hmem pdu).mpr hpdu

end MissingEvents

def missingRequest : Object :=
  [("earliest_events", .array [.string "$topic"]), ("latest_events", .array [])]

def missingReader : Yyjson := readerOf [clubTopic, clubAcl, .object missingRequest]

theorem missing_events_of_the_club :
    ∃ events, buildGetMissingEventsResponse missingReader clubStore "!club:a.example"
        (canonicalText (.object missingRequest)) = some (.missingEvents events) ∧
      SliceByDepth missingReader clubStore "!club:a.example" (10, 0) events :=
  missing_events_by_depth (show _ = some missingRequest from rfl)

/-- The topic is among the missing events, although it is one of the earliest
events that the server has, and no latest event leads to it. -/
theorem earliest_event_is_returned :
    (buildGetMissingEventsResponse missingReader clubStore "!club:a.example"
      (canonicalText (.object missingRequest))).map EventAnswer.eventIds =
        some [utf8 "$topic", utf8 "$acl"] := by
  decide +kernel

section StateAnswers

variable {atEventId : Bytes}

theorem filterMap_readable {ids : List Bytes}
    (h : ∀ id ∈ ids, (readableEvent yyjson store id).isSome) :
    pduIds (ids.filterMap (readableEvent yyjson store)) = ids ∧
      ((ids.filterMap (readableEvent yyjson store)).flatMap fun pdu => pdu.1.authEventIds) =
        ids.flatMap (authEventIds store) := by
  induction ids with
  | nil => exact ⟨rfl, rfl⟩
  | cons id ids ih =>
    obtain ⟨hread, hrest⟩ := forall_mem_cons.mp h
    obtain ⟨pdu, hread⟩ := isSome_iff_exists.mp hread
    have hfound := readableEvent_spec hread
    rw [filterMap_cons_some hread, flatMap_cons, flatMap_cons, (ih hrest).2, pduIds, map_cons,
      (findEvent_spec hfound).2, authEventIds, hfound]
    exact ⟨congrArg (id :: ·) (ih hrest).1, rfl⟩

theorem mem_stateAuthChain_iff {ids : List Bytes} {id : Bytes} :
    id ∈ collectAuthChain store (ids.flatMap (authEventIds store)) ↔
      (∃ stateId ∈ ids, ∃ seed ∈ authEventIds store stateId,
        Reaches (authEventIds store) seed id) ∧ (findEvent store id).isSome := by
  rw [mem_collectAuthChain_iff]
  refine and_congr_left fun _ => ⟨?_, ?_⟩
  · rintro ⟨seed, hseed, hreach⟩
    obtain ⟨stateId, hstate, hauth⟩ := mem_flatMap.mp hseed
    exact ⟨stateId, hstate, seed, hauth, hreach⟩
  · rintro ⟨stateId, hstate, seed, hauth, hreach⟩
    exact ⟨seed, mem_flatMap.mpr ⟨stateId, hstate, hauth⟩, hreach⟩

/-- The two answers describe one state, whose auth chain is what is stored of
what the state reaches. -/
structure AnswersAgree (store : PersistentStore) (chain pdus : List Pdu)
    (chainIds ids : List Bytes) : Prop where
  sameState : ∀ id, id ∈ pduIds pdus ↔ id ∈ ids
  sameChain : ∀ id, id ∈ pduIds chain ↔ id ∈ chainIds
  once : (pduIds pdus).Nodup ∧ (pduIds chain).Nodup ∧ ids.Nodup ∧ chainIds.Nodup
  stored : ∀ id ∈ ids ++ chainIds, (findEvent store id).isSome
  closure : ∀ id, id ∈ chainIds ↔ (∃ stateId ∈ ids, ∃ seed ∈ authEventIds store stateId,
    Reaches (authEventIds store) seed id) ∧ (findEvent store id).isSome

/-- What the store has to be like at an event. Where the current state of the room is
answered, its rows name distinct events; every event of the state can be read, and so can
every stored one that the state reaches through auth events. -/
structure StateReadable (yyjson : Yyjson) (store : PersistentStore) (roomId atEventId : Bytes) :
    Prop where
  distinct : atEventId = [] ∨ findEvent store atEventId = none →
    (currentStateEventIds store roomId).Nodup
  state : ∀ stateId ∈ resolvedStateEventIds yyjson store roomId atEventId,
    (readableEvent yyjson store stateId).isSome
  chain : ∀ stateId ∈ resolvedStateEventIds yyjson store roomId atEventId,
    ∀ seed ∈ authEventIds store stateId, ∀ id, Reaches (authEventIds store) seed id →
      (findEvent store id).isSome → (readableEvent yyjson store id).isSome

/-- Events before a stored one are chosen once, whatever the store is like. -/
theorem nodup_resolvedStateEventIds_iff :
    (resolvedStateEventIds yyjson store roomId atEventId).Nodup ↔
      (atEventId = [] ∨ findEvent store atEventId = none →
        (currentStateEventIds store roomId).Nodup) := by
  rw [resolvedStateEventIds]
  split_ifs with hstored
  · refine iff_of_true (nodup_reconstructStateAtEvent _ _) fun hcurrent => ?_
    rcases hcurrent with rfl | hnone
    · cases hstored
    · simp [hnone] at hstored
  · refine ⟨fun hnodup _ => hnodup, fun hdistinct => hdistinct ?_⟩
    rw [Bool.and_eq_true, not_and_or] at hstored
    exact hstored.imp (by simp) (by simp)

/-- The ids are given of events that are not stored or not readable too. -/
theorem answersAgree_iff {chain pdus : List Pdu} {chainIds ids : List Bytes}
    (hstate : buildStateResponse yyjson store roomId atEventId = some (.state chain pdus))
    (hids : buildStateIdsResponse yyjson store roomId atEventId = some (.stateIds chainIds ids)) :
    AnswersAgree store chain pdus chainIds ids ↔
      StateReadable yyjson store roomId atEventId := by
  rw [buildStateResponse] at hstate
  rw [buildStateIdsResponse] at hids
  split_ifs at hstate hids
  cases hstate
  cases hids
  constructor
  · intro h
    refine ⟨nodup_resolvedStateEventIds_iff.mp h.once.2.2.1, fun id hid => ?_, ?_⟩
    · exact (mem_pduIds_filterMap_iff.mp ((h.sameState id).mpr hid)).2
    · intro stateId hstate seed hseed id hreach hstored
      have hchain := (h.closure id).mpr ⟨⟨stateId, hstate, seed, hseed, hreach⟩, hstored⟩
      exact (mem_pduIds_filterMap_iff.mp ((h.sameChain id).mpr hchain)).2
  · rintro ⟨hdistinct, hread, hreached⟩
    have hnodup : (resolvedStateEventIds yyjson store roomId atEventId).Nodup :=
      nodup_resolvedStateEventIds_iff.mpr hdistinct
    set ids := resolvedStateEventIds yyjson store roomId atEventId
    have hchain : ∀ id ∈ collectAuthChain store (ids.flatMap (authEventIds store)),
        (readableEvent yyjson store id).isSome := by
      intro id hid
      obtain ⟨⟨stateId, hstate, seed, hseed, hreach⟩, hstored⟩ := mem_stateAuthChain_iff.mp hid
      exact hreached stateId hstate seed hseed id hreach hstored
    obtain ⟨hpdus, hseeds⟩ := filterMap_readable hread
    have hsame := (filterMap_readable hchain).1
    have honce : (collectAuthChain store (ids.flatMap (authEventIds store))).Nodup :=
      (nodup_breadthFirst _ _).filter _
    rw [hseeds]
    refine ⟨by simp [hpdus], by simp [hsame], ?_, ?_, fun id => mem_stateAuthChain_iff⟩
    · rw [hpdus, hsame]
      exact ⟨hnodup, honce, hnodup, honce⟩
    · intro id hid
      obtain ⟨pdu, hpdu⟩ := isSome_iff_exists.mp (forall_mem_append.mpr ⟨hread, hchain⟩ id hid)
      rw [readableEvent_spec hpdu]
      rfl

end StateAnswers

def authorizedTopic : PersistentEvent :=
  { clubRow "$topic" clubTopic with authEventIds := ["$acl", "$gone"] }

/-- The club, where the topic has an auth event that is stored and one that is not. -/
def linkedClub : PersistentStore :=
  { clubStore with events := [authorizedTopic, clubRow "$acl" clubAcl] }

set_option maxRecDepth 2000 in
theorem answers_about_the_club_agree :
    AnswersAgree linkedClub [(clubRow "$acl" clubAcl, clubAcl)]
      [(authorizedTopic, clubTopic), (clubRow "$acl" clubAcl, clubAcl)] ["$acl"]
      [utf8 "$topic", utf8 "$acl"] := by
  have hchain : ∀ id ∈ collectAuthChain linkedClub
      ((currentStateEventIds linkedClub "!club:a.example").flatMap (authEventIds linkedClub)),
      (readableEvent missingReader linkedClub id).isSome := by
    decide +kernel
  refine (answersAgree_iff (show buildStateResponse missingReader linkedClub "!club:a.example" [] =
    _ from rfl) rfl).mpr ⟨fun _ => by decide +kernel, by decide +kernel, ?_⟩
  intro stateId hstate seed hseed id hreach hstored
  exact hchain id (mem_stateAuthChain_iff.mpr ⟨⟨stateId, hstate, seed, hseed, hreach⟩, hstored⟩)

/-- The club, with a name that is not stored. -/
def namedClub : PersistentStore :=
  { clubStore with
    state := clubStore.state ++ [⟨"!club:a.example", "m.room.name", [], "$name"⟩] }

theorem unstored_name_is_listed :
    (buildStateResponse missingReader namedClub "!club:a.example" []).map EventAnswer.eventIds =
        some [utf8 "$topic", utf8 "$acl"] ∧
      (buildStateIdsResponse missingReader namedClub "!club:a.example" []).map
        EventAnswer.eventIds = some [utf8 "$topic", utf8 "$acl", utf8 "$name"] ∧
      findEvent namedClub "$name" = none := by
  decide +kernel

section AccessLists

variable {libc : Libc} {host serverName : Bytes}

end AccessLists

def sampleLibc : Libc where
  inetPton4 text := if text.map toLowerAscii = "10.0.0.1" then some 0x0A000001 else none
  inetPton6 _ := none
  strtoull _ := none

end Merovingian.QueryAnswers
