import Merovingian.StatePartition

/-!
What a successful resolution guarantees. The two passes of auth checks are one
run over the conflicted events; every event that the run binds was allowed by
the state at that moment, so the only unchecked bindings are those of the
unconflicted map it starts from.
-/

namespace Merovingian.ResolutionSafety

open ByteString JsonValue EventSigning RoomVersions EventAuthorization StableSort StateResolution
  KeyedFold CancellingRegister StatePartition List

variable {event : StateEventReference} {key : StateKey} {policy : RoomVersionPolicy}
  {sodium : Libsodium}

def collectEvent (conflicted : StateMap) (collected : List StateEventReference)
    (event : StateEventReference) : List StateEventReference :=
  if (conflicted.lookup event.key).isNone then collected
  else if collected.any fun existing =>
      existing.key = event.key && existing.eventId = event.eventId then collected
  else collected ++ [event]

def conflictedEvents (conflicted : StateMap) (groups : List StateGroup) :
    List StateEventReference :=
  (groupEvents groups).foldl (collectEvent conflicted) []

theorem collectConflicted_eq (conflicted : StateMap) (groups : List StateGroup) :
    collectConflicted conflicted groups =
      if (conflictedEvents conflicted groups).length > maxConflictedStateKeys then none
      else some (conflictedEvents conflicted groups) := by
  refine foldlM_eq_of_limit
    (fun collected : List StateEventReference => collected.length > maxConflictedStateKeys)
    (collectEvent conflicted) ?_ ?_ (groupEvents groups) [] (by simp)
  · intro collected event hlimit
    simp only [collectStep, collectEvent]
    split
    · rfl
    · split
      · rfl
      · rfl
  · intro collected event hover
    simp only [collectEvent]
    split
    · exact hover
    · split
      · exact hover
      · rw [length_append]
        omega

structure Collected (conflicted : StateMap) (seen collected : List StateEventReference) : Prop where
  distinct : collected.Pairwise fun a b => ¬(a.key = b.key ∧ a.eventId = b.eventId)
  sound : ∀ event ∈ collected, event ∈ seen ∧ event.key ∈ conflicted
  complete : ∀ event ∈ seen, event.key ∈ conflicted →
    ∃ existing ∈ collected, existing.key = event.key ∧ existing.eventId = event.eventId

section Collecting

variable {conflicted : StateMap} {seen collected : List StateEventReference}

theorem Collected.skip (hcollected : Collected conflicted seen collected)
    (hcovered : event.key ∈ conflicted →
      ∃ existing ∈ collected, existing.key = event.key ∧ existing.eventId = event.eventId) :
    Collected conflicted (seen ++ [event]) collected where
  distinct := hcollected.distinct
  sound e he :=
    ⟨mem_append_left _ (hcollected.sound e he).1, (hcollected.sound e he).2⟩
  complete e he hkey := by
    rcases mem_append.mp he with hseen | hnew
    · exact hcollected.complete e hseen hkey
    · obtain rfl := mem_singleton.mp hnew
      exact hcovered hkey

theorem Collected.append (hcollected : Collected conflicted seen collected)
    (hkey : event.key ∈ conflicted)
    (hfresh : ∀ existing ∈ collected,
      ¬(existing.key = event.key ∧ existing.eventId = event.eventId)) :
    Collected conflicted (seen ++ [event]) (collected ++ [event]) where
  distinct := by
    rw [pairwise_append]
    refine ⟨hcollected.distinct, pairwise_singleton _ _, fun a ha b hb => ?_⟩
    obtain rfl := mem_singleton.mp hb
    exact hfresh a ha
  sound e he := by
    rcases mem_append.mp he with hold | hnew
    · exact ⟨mem_append_left _ (hcollected.sound e hold).1, (hcollected.sound e hold).2⟩
    · obtain rfl := mem_singleton.mp hnew
      exact ⟨mem_append_right _ hnew, hkey⟩
  complete e he hconflict := by
    rcases mem_append.mp he with hseen | hnew
    · obtain ⟨existing, hexisting, hsame⟩ := hcollected.complete e hseen hconflict
      exact ⟨existing, mem_append_left _ hexisting, hsame⟩
    · exact ⟨e, mem_append_right _ hnew, rfl, rfl⟩

theorem Collected.step (hcollected : Collected conflicted seen collected)
    (event : StateEventReference) :
    Collected conflicted (seen ++ [event]) (collectEvent conflicted collected event) := by
  rw [collectEvent]
  split
  · next hnone =>
      refine hcollected.skip fun hkey => absurd hkey ?_
      simpa [Finmap.lookup_eq_none] using hnone
  · next hsome =>
      split
      · next hany => exact hcollected.skip fun _ => by simpa using hany
      · next hany =>
          refine hcollected.append ?_ ?_
          · simpa [Finmap.lookup_eq_none] using hsome
          · simpa using hany

end Collecting

theorem conflictedEvents_collected (conflicted : StateMap) (groups : List StateGroup) :
    Collected conflicted (groupEvents groups) (conflictedEvents conflicted groups) := by
  unfold conflictedEvents
  induction groupEvents groups using reverseRecOn with
  | nil => exact ⟨List.Pairwise.nil, by simp, by simp⟩
  | append_singleton before last ih =>
    rw [foldl_append]
    exact ih.step last

def Admitted (sodium : Libsodium) (policy : RoomVersionPolicy) (state : StateMap)
    (event : StateEventReference) : Prop :=
  valueHasContent event.eventJson = true ∧
    (authorizeEventAgainstAuthEvents sodium event.eventJson policy
      (buildAuthEventMapFromState event.eventJson state)).allowed = true

variable {state : StateMap}

section Run

theorem applyAuthCheck_cases (sodium : Libsodium) (policy : RoomVersionPolicy) (state : StateMap)
    (event : StateEventReference) :
    Admitted sodium policy state event ∧
        applyAuthCheck sodium policy state event = state.insert event.key event ∨
      ¬Admitted sodium policy state event ∧ applyAuthCheck sodium policy state event = state := by
  by_cases hadmitted : Admitted sodium policy state event
  · exact Or.inl ⟨hadmitted, by simp [applyAuthCheck, hadmitted.1, hadmitted.2]⟩
  · refine Or.inr ⟨hadmitted, if_neg ?_⟩
    simpa [Admitted] using hadmitted

theorem lookup_applyAuthCheck {bound : StateEventReference}
    (h : (applyAuthCheck sodium policy state event).lookup key = some bound) :
    state.lookup key = some bound ∨
      event.key = key ∧ bound = event ∧ Admitted sodium policy state event := by
  rcases applyAuthCheck_cases sodium policy state event with ⟨hadmitted, hstate⟩ | ⟨-, hstate⟩ <;>
    rw [hstate] at h
  · by_cases hkey : key = event.key
    · subst hkey
      rw [Finmap.lookup_insert, Option.some.injEq] at h
      exact Or.inr ⟨rfl, h.symm, hadmitted⟩
    · rw [Finmap.lookup_insert_of_ne state hkey] at h
      exact Or.inl h
  · exact Or.inl h

theorem bound_of_run {applied : List StateEventReference}
    {bound : StateEventReference}
    (h : (applyIterativeAuthChecks sodium policy state applied).lookup key = some bound) :
    state.lookup key = some bound ∨
      ∃ before after, applied = before ++ bound :: after ∧ bound.key = key ∧
        Admitted sodium policy (applyIterativeAuthChecks sodium policy state before)
          bound := by
  induction applied using reverseRecOn with
  | nil => exact Or.inl h
  | append_singleton applied event ih =>
    rw [applyIterativeAuthChecks, foldl_append] at h
    rcases lookup_applyAuthCheck h with hold | ⟨hkey, rfl, hadmitted⟩
    · rcases ih hold with hinitial | ⟨before, after, rfl, hbound⟩
      · exact Or.inl hinitial
      · exact Or.inr ⟨before, after ++ [event], by simp, hbound⟩
    · exact Or.inr ⟨applied, [], rfl, hkey, hadmitted⟩

theorem lookup_run_of_not_mem {applied : List StateEventReference}
    (hkey : ∀ event ∈ applied, event.key ≠ key) :
    (applyIterativeAuthChecks sodium policy state applied).lookup key = state.lookup key := by
  induction applied generalizing state with
  | nil => rfl
  | cons head tail ih =>
    obtain ⟨hhead, htail⟩ := forall_mem_cons.mp hkey
    change (applyIterativeAuthChecks sodium policy (applyAuthCheck sodium policy state head)
      tail).lookup key = state.lookup key
    rw [ih htail]
    rcases applyAuthCheck_cases sodium policy state head with ⟨-, hstate⟩ | ⟨-, hstate⟩
    · rw [hstate, Finmap.lookup_insert_of_ne state (Ne.symm hhead)]
    · rw [hstate]

end Run

section

variable (sodium : Libsodium) (policy : RoomVersionPolicy) (groups : List StateGroup)

def checkOrder : List StateEventReference :=
  let unconflicted := (partitionConflictedState groups).1
  let conflicted := conflictedEvents (partitionConflictedState groups).2 groups
  let power := sortedPowerEvents policy unconflicted conflicted
  power ++ sortedRemainingEvents groups
    (applyIterativeAuthChecks sodium policy unconflicted power) conflicted

def runningState (applied : List StateEventReference) : StateMap :=
  applyIterativeAuthChecks sodium policy (partitionConflictedState groups).1 applied

end

variable {groups : List StateGroup}

theorem mem_checkOrder :
    event ∈ checkOrder sodium policy groups ↔
      event ∈ conflictedEvents (partitionConflictedState groups).2 groups := by
  simp only [checkOrder, sortedPowerEvents, sortedRemainingEvents,
    reverseTopologicalPowerSort, mainlineOrder, mem_append, mem_stableSort,
    mem_filter]
  cases isPowerEvent event <;> simp

def disputedEvents (groups : List StateGroup) : Finset (StateKey × Bytes) :=
  (((groupEvents groups).filter fun event => Disputed groups event.key).map
    fun event => (event.key, event.eventId)).toFinset

theorem length_conflictedEvents
    (hnodup : ∀ group ∈ groups, NoRepeatedKey group)
    (hkeys : (distinctKeys groups).card ≤ maxConflictedStateKeys) :
    (conflictedEvents (partitionConflictedState groups).2 groups).length =
      (disputedEvents groups).card := by
  have hcollected := conflictedEvents_collected (partitionConflictedState groups).2 groups
  have hconflicted : ∀ event ∈ groupEvents groups,
      event.key ∈ (partitionConflictedState groups).2 ↔ Disputed groups event.key := by
    intro event hevent
    have hkey := mem_distinctKeys.mpr ⟨event, hevent, rfl⟩
    rw [mem_conflicted_iff hnodup hkeys hkey, disputed_iff hkey]
  have hdistinct : ((conflictedEvents (partitionConflictedState groups).2 groups).map
      fun event => (event.key, event.eventId)).Nodup := by
    rw [List.Nodup, pairwise_map]
    exact hcollected.distinct.imp fun hdiffer hsame => hdiffer (Prod.ext_iff.mp hsame)
  have hsame : ((conflictedEvents (partitionConflictedState groups).2 groups).map
      fun event => (event.key, event.eventId)).toFinset = disputedEvents groups := by
    ext pair
    simp only [disputedEvents, mem_toFinset, mem_map, mem_filter, decide_eq_true_eq]
    constructor
    · rintro ⟨event, hevent, rfl⟩
      obtain ⟨hmem, hkey⟩ := hcollected.sound event hevent
      exact ⟨event, ⟨hmem, (hconflicted event hmem).mp hkey⟩, rfl⟩
    · rintro ⟨event, ⟨hmem, hdisputed⟩, rfl⟩
      obtain ⟨existing, hexisting, hkey, hid⟩ :=
        hcollected.complete event hmem ((hconflicted event hmem).mpr hdisputed)
      exact ⟨existing, hexisting, by rw [hkey, hid]⟩
  rw [← hsame, toFinset_card_of_nodup hdistinct, length_map]

structure WithinLimits (groups : List StateGroup) : Prop where
  groupCount : groups.length ≤ maxStateGroups
  groupSize : ∀ group ∈ groups, group.state.length ≤ maxEventsPerStateGroup
  keyCount : (distinctKeys groups).card ≤ maxConflictedStateKeys
  disputedCount : (disputedEvents groups).card ≤ maxConflictedStateKeys

theorem validate_eq_none_iff (request : StateResolutionRequest) :
    validateStateResolutionRequest request = none ↔ request.stateGroups.length ≤ maxStateGroups ∧
        ∀ group ∈ request.stateGroups, group.state.length ≤ maxEventsPerStateGroup := by
  unfold validateStateResolutionRequest
  split
  · next hmany => simp [not_le.mpr hmany]
  · next hfew =>
      rw [and_iff_right (not_lt.mp hfew)]
      split
      · next hlarge =>
          simp only [any_eq_true, decide_eq_true_eq] at hlarge
          obtain ⟨group, hgroup, hsize⟩ := hlarge
          simp only [reduceCtorEq, false_iff, not_forall]
          exact ⟨group, hgroup, not_le.mpr hsize⟩
      · next hsmall => simpa using hsmall

theorem partition_empty_iff
    (hnodup : ∀ group ∈ groups, NoRepeatedKey group) :
    ((partitionConflictedState groups).1.keys = ∅ ∧ (partitionConflictedState groups).2.keys = ∅) ↔
      (distinctKeys groups).card > maxConflictedStateKeys ∨ distinctKeys groups = ∅ := by
  by_cases hkeys : (distinctKeys groups).card ≤ maxConflictedStateKeys
  · rw [or_iff_right (not_lt.mpr hkeys)]
    constructor
    · rintro ⟨hunconflicted, hconflicted⟩
      refine Finset.eq_empty_of_forall_notMem fun key hkey => ?_
      by_cases hagreed : ∃ eventId, AgreedOn groups key eventId
      · obtain ⟨eventId, hid⟩ := hagreed
        obtain ⟨event, -, hevent, -⟩ := unconflicted_of_agreedOn hnodup hkeys hkey hid
        have hmem : key ∈ (partitionConflictedState groups).1.keys :=
          Finmap.mem_keys.mpr (Finmap.mem_iff.mpr ⟨event, hevent⟩)
        simp [hunconflicted] at hmem
      · have hmem := Finmap.mem_keys.mpr ((mem_conflicted_iff hnodup hkeys hkey).mpr hagreed)
        simp [hconflicted] at hmem
    · intro hempty
      have hevents : groupEvents groups = [] := by
        refine eq_nil_iff_forall_not_mem.mpr fun event hevent => ?_
        have hmem := mem_distinctKeys.mpr ⟨event, hevent, rfl⟩
        simp [hempty] at hmem
      simp only [partitionConflictedState, countStateKeys_eq, hevents]
      simp
  · have hcount : countStateKeys (groupEvents groups) = none := by
      rw [countStateKeys_eq, if_pos]
      exact not_le.mp hkeys
    simp [partitionConflictedState, hcount, not_le.mp hkeys]

/-- The resolution succeeds within the limits, unless there are groups and none
of them lists an event. -/
def Resolvable (groups : List StateGroup) : Prop :=
  WithinLimits groups ∧ (groups = [] ∨ (distinctKeys groups).Nonempty)

theorem resolveStateV2_cases (sodium : Libsodium) (policy : RoomVersionPolicy)
    (request : StateResolutionRequest)
    (hnodup : ∀ group ∈ request.stateGroups, NoRepeatedKey group) :
    (Resolvable request.stateGroups ∧ resolveStateV2 sodium request policy =
        ⟨true, (runningState sodium policy request.stateGroups
          (checkOrder sodium policy request.stateGroups)).entries.map Sigma.snd, []⟩) ∨
    (¬Resolvable request.stateGroups ∧
      (resolveStateV2 sodium request policy).resolved = false) := by
  obtain ⟨groups⟩ := request
  unfold resolveStateV2
  cases hvalidate : validateStateResolutionRequest ⟨groups⟩ with
  | some error =>
    refine Or.inr ⟨fun hresolvable => ?_, rfl⟩
    have hnone := (validate_eq_none_iff ⟨groups⟩).mpr
      ⟨hresolvable.1.groupCount, hresolvable.1.groupSize⟩
    rw [hvalidate] at hnone
    cases hnone
  | none =>
    obtain ⟨hcount, hsize⟩ := (validate_eq_none_iff ⟨groups⟩).mp hvalidate
    by_cases hgroups : groups = []
    · subst hgroups
      exact Or.inl ⟨⟨⟨by decide, by simp, by decide, by decide⟩, Or.inl rfl⟩, rfl⟩
    · have hsome : groups.isEmpty = false := by simpa using hgroups
      by_cases hempty : (partitionConflictedState groups).1.keys = ∅ ∧
          (partitionConflictedState groups).2.keys = ∅
      · refine Or.inr ⟨?_, by simp [hsome, hempty]⟩
        rintro ⟨hlimits, hevents⟩
        rcases (partition_empty_iff hnodup).mp hempty with hmany | hnone
        · exact absurd hlimits.keyCount (not_le.mpr hmany)
        · rcases hevents with hnil | hevents
          · exact hgroups hnil
          · exact Finset.not_nonempty_iff_eq_empty.mpr hnone hevents
      · obtain ⟨hkeys, hevents⟩ := not_or.mp (mt (partition_empty_iff hnodup).mpr hempty)
        simp only [hsome, Bool.false_eq_true, if_false, hempty, collectConflicted_eq]
        by_cases hconflicted :
            (conflictedEvents (partitionConflictedState groups).2 groups).length >
              maxConflictedStateKeys
        · refine Or.inr ⟨fun hresolvable => ?_, by simp [hconflicted]⟩
          rw [length_conflictedEvents hnodup (not_lt.mp hkeys)] at hconflicted
          exact absurd hresolvable.1.disputedCount (not_le.mpr hconflicted)
        · refine Or.inl ⟨⟨⟨hcount, hsize, not_lt.mp hkeys, ?_⟩,
            Or.inr (Finset.nonempty_iff_ne_empty.mpr hevents)⟩, ?_⟩
          · rw [← length_conflictedEvents hnodup (not_lt.mp hkeys)]
            exact not_lt.mp hconflicted
          · simp only [hconflicted, if_false, runningState, checkOrder, applyIterativeAuthChecks,
              foldl_append]
            rfl

/-- What a resolution is meant to guarantee about its result and about every
moment of the run that leads to it. -/
structure SoundResolution (sodium : Libsodium) (policy : RoomVersionPolicy)
    (groups : List StateGroup) (result : Multiset StateEventReference) : Prop where
  functional : (result.map StateEventReference.key).Nodup
  listed : ∀ event ∈ result, event ∈ groupEvents groups
  agreed : ∀ key ∈ distinctKeys groups, ∀ eventId, AgreedOn groups key eventId →
    ∃ event ∈ result, event.key = key ∧ event.eventId = eventId
  final : result =
    (runningState sodium policy groups (checkOrder sodium policy groups)).entries.map Sigma.snd
  checked : ∀ applied rest, checkOrder sodium policy groups = applied ++ rest →
    ∀ key ∈ distinctKeys groups, (¬∃ eventId, AgreedOn groups key eventId) →
    ∀ event, (runningState sodium policy groups applied).lookup key = some event →
      ∃ before after, applied = before ++ event :: after ∧ event.key = key ∧
        Admitted sodium policy (runningState sodium policy groups before) event

section Safety

variable {groups : List StateGroup}

theorem listed_of_bound (hnodup : ∀ group ∈ groups, NoRepeatedKey group)
    (hkeys : (distinctKeys groups).card ≤ maxConflictedStateKeys)
    (hbound : (runningState sodium policy groups
      (checkOrder sodium policy groups)).lookup key = some event) :
    event ∈ groupEvents groups ∧ event.key = key := by
  rcases bound_of_run hbound with hinitial | ⟨before, after, horder, hkey, -⟩
  · exact mem_listedEvents (mem_listedEvents_of_unconflicted hnodup hkeys hinitial)
  · have hmem : event ∈ checkOrder sodium policy groups := by
      rw [horder]
      simp
    exact ⟨((conflictedEvents_collected _ groups).sound event (mem_checkOrder.mp hmem)).1, hkey⟩

theorem mem_result_iff :
    event ∈ state.entries.map Sigma.snd ↔ ∃ key, state.lookup key = some event := by
  simp only [Multiset.mem_map, Finmap.lookup_eq_some_iff]
  constructor
  · rintro ⟨⟨key, bound⟩, hmem, rfl⟩
    exact ⟨key, hmem⟩
  · rintro ⟨key, hmem⟩
    exact ⟨⟨key, event⟩, hmem, rfl⟩

theorem result_functional
    (hkeys : ∀ key event, state.lookup key = some event → event.key = key) :
    ((state.entries.map Sigma.snd).map StateEventReference.key).Nodup := by
  have hfst : (state.entries.map Sigma.snd).map StateEventReference.key =
      state.entries.map Sigma.fst := by
    rw [Multiset.map_map]
    refine Multiset.map_congr rfl fun entry hentry => ?_
    exact hkeys entry.1 entry.2 (Finmap.lookup_eq_some_iff.mpr hentry)
  rw [hfst]
  exact state.nodupKeys.nodup_keys

theorem lookup_runningState_of_agreedOn (hnodup : ∀ group ∈ groups, NoRepeatedKey group)
    (hkeys : (distinctKeys groups).card ≤ maxConflictedStateKeys) (hkey : key ∈ distinctKeys groups)
    {eventId : Bytes} (hagreed : AgreedOn groups key eventId) :
    (runningState sodium policy groups (checkOrder sodium policy groups)).lookup key =
      (partitionConflictedState groups).1.lookup key := by
  refine lookup_run_of_not_mem fun event hevent hsame => ?_
  have hconflicted := ((conflictedEvents_collected _ groups).sound event
    (mem_checkOrder.mp hevent)).2
  rw [hsame, mem_conflicted_iff hnodup hkeys hkey] at hconflicted
  exact hconflicted ⟨eventId, hagreed⟩

end Safety

/-- A successful resolution is sound exactly when the partition it starts from
is: then no unchecked event is ever bound under a key in dispute. -/
theorem soundResolution_iff (sodium : Libsodium) (policy : RoomVersionPolicy)
    (request : StateResolutionRequest) (hnodup : ∀ group ∈ request.stateGroups, NoRepeatedKey group)
    (hresolved : (resolveStateV2 sodium request policy).resolved = true) :
    SoundResolution sodium policy request.stateGroups
        (resolveStateV2 sodium request policy).resolvedState ↔
      ∀ key ∈ distinctKeys request.stateGroups, ListedByAll request.stateGroups key →
        (¬∃ eventId, AgreedOn request.stateGroups key eventId) →
        CancelsOut (listedIds request.stateGroups key) := by
  rcases resolveStateV2_cases sodium policy request hnodup with ⟨hlimits, hresult⟩ | ⟨-, hfailed⟩
  · have hkeys := hlimits.1.keyCount
    constructor
    · intro hsound key hkey hall hdisagree
      -- Before the first check nothing under the key has been checked.
      refine (not_mem_unconflicted_iff hnodup hkeys).mp (fun hmem => ?_) hall
      obtain ⟨event, hevent⟩ := Finmap.mem_iff.mp hmem
      obtain ⟨before, after, hnil, -⟩ :=
        hsound.checked [] _ rfl key hkey hdisagree event hevent
      simp at hnil
    · intro hcancels
      rw [hresult]
      refine ⟨result_functional fun key event hbound =>
        (listed_of_bound hnodup hkeys hbound).2, ?_, ?_, rfl, ?_⟩
      · intro event hevent
        obtain ⟨key, hbound⟩ := mem_result_iff.mp hevent
        exact (listed_of_bound hnodup hkeys hbound).1
      · intro key hkey eventId hagreed
        obtain ⟨event, hlisted, hevent, hid⟩ :=
          unconflicted_of_agreedOn hnodup hkeys hkey hagreed
        rw [← lookup_runningState_of_agreedOn hnodup hkeys hkey hagreed] at hevent
        exact ⟨event, mem_result_iff.mpr ⟨key, hevent⟩, (mem_listedEvents hlisted).2, hid⟩
      · intro applied rest _ key hkey hdisagree event hbound
        rcases bound_of_run hbound with hinitial | hchecked
        · have hmem : key ∈ (partitionConflictedState request.stateGroups).1 :=
            Finmap.mem_iff.mpr ⟨event, hinitial⟩
          exact absurd hmem ((not_mem_unconflicted_iff hnodup hkeys).mpr fun hall =>
            hcancels key hkey hall hdisagree)
        · exact hchecked
  · rw [hfailed] at hresolved
    cases hresolved

def aliceEvent (eventId eventType stateKey : Bytes) (content : Object) : StateEventReference :=
  ⟨⟨eventType, stateKey⟩, eventId, "@alice:example.org", 0,
    .object [("content", .object content), ("room_id", .string "!club:example.org"),
      ("sender", .string "@alice:example.org"), ("state_key", .string stateKey),
      ("type", .string eventType)]⟩

def roomWithTopic (eventId topic : Bytes) : StateGroup where
  state :=
    [aliceEvent "$create" "m.room.create" "" [("room_version", .string "11")],
      aliceEvent "$alice" "m.room.member" "@alice:example.org" [("membership", .string "join")],
      aliceEvent "$levels" "m.room.power_levels" ""
        [("users", .object [("@alice:example.org", .integer 100)])],
      aliceEvent eventId "m.room.topic" "" [("topic", .string topic)]]

def rivalTopics : List StateGroup := [roomWithTopic "$chess" "chess", roomWithTopic "$go" "go"]

/-- Both of two rival topics pass their check, and the second stays. -/
theorem rival_topics_resolve_soundly :
    SoundResolution notReady roomVersion11 rivalTopics
        (resolveStateV2 notReady ⟨rivalTopics⟩ roomVersion11).resolvedState ∧
      (resolveStateV2 notReady ⟨rivalTopics⟩ roomVersion11).resolvedState.map
          StateEventReference.eventId =
        {utf8 "$create", utf8 "$alice", utf8 "$levels", utf8 "$go"} := by
  refine ⟨(soundResolution_iff notReady roomVersion11 ⟨rivalTopics⟩ (by decide +kernel)
    (by decide +kernel)).mpr ?_, by decide +kernel⟩
  have hagreed : ∀ key ∈ distinctKeys rivalTopics,
      key = topicKey ∨ ¬Disputed rivalTopics key := by
    decide +kernel
  intro key hkey _ hdisagree
  rcases hagreed key hkey with rfl | hundisputed
  · exact CancelsOut.block (utf8 "$chess") 0 (utf8 "$go") [] (by decide) CancelsOut.nil
  · exact absurd ((disputed_iff hkey).mpr hdisagree) hundisputed

/-- The third of three rival topics is bound although its JSON is null. -/
theorem unchecked_event_bound :
    (resolveStateV2 notReady ⟨topicGroups ["$a", "$b", "$c"]⟩ roomVersion11).resolved = true ∧
      (resolveStateV2 notReady ⟨topicGroups ["$a", "$b", "$c"]⟩
        roomVersion11).resolvedState.map
          (fun event => (event.key, event.eventId, valueHasContent event.eventJson)) =
        {(topicKey, utf8 "$c", false)} := by
  decide +kernel

end Merovingian.ResolutionSafety
