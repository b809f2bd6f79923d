import Merovingian.EventOrderings
import Merovingian.ResolutionSafety

/-!
Resolution and the order of presentation. Everything after the partition is a
function of the set of events, because ids name events and both sorts break
ties by id. The partition is not: what it leaves in the unconflicted map under
a disputed key depends on the order of the groups, unless the key has an even
number of distinct ids.
-/

namespace Merovingian.ResolutionOrder

open ByteString JsonValue EventSigning RoomVersions StateResolution KeyedFold CancellingRegister
  StatePartition EventOrderings ResolutionSafety List

variable {key : StateKey} {groups others : List StateGroup}

def Reordered (groups others : List StateGroup) : Prop :=
  ∃ shuffled, shuffled.Perm groups ∧
    List.Forall₂ (fun group other => StateGroup.state group |>.Perm other.state) shuffled others

/-- No group repeats a key, and an event id names one event. -/
structure WellFormed (groups : List StateGroup) : Prop where
  nodup : ∀ group ∈ groups, NoRepeatedKey group
  named : ∀ event ∈ groupEvents groups, ∀ other ∈ groupEvents groups,
    event.eventId = other.eventId → event = other

theorem resolvable_congr (hcount : groups.length = others.length)
    (hsize : (∀ group ∈ groups, group.state.length ≤ maxEventsPerStateGroup) ↔
      ∀ other ∈ others, other.state.length ≤ maxEventsPerStateGroup)
    (hkeys : distinctKeys groups = distinctKeys others)
    (hdisputed : disputedEvents groups = disputedEvents others) :
    Resolvable groups ↔ Resolvable others := by
  have hnil : groups = [] ↔ others = [] := by
    rw [← length_eq_zero_iff, ← length_eq_zero_iff, hcount]
  have hlimits : WithinLimits groups ↔ WithinLimits others := by
    constructor
    · rintro ⟨hgroups, hlengths, hkeyCount, hevents⟩
      exact ⟨hcount ▸ hgroups, hsize.mp hlengths, hkeys ▸ hkeyCount, hdisputed ▸ hevents⟩
    · rintro ⟨hgroups, hlengths, hkeyCount, hevents⟩
      exact ⟨hcount ▸ hgroups, hsize.mpr hlengths, hkeys ▸ hkeyCount, hdisputed ▸ hevents⟩
  rw [Resolvable, Resolvable, hlimits, hnil, hkeys]

theorem indexStep_actsByKey :
    ActsByKey (fun (index : EventJsonIndex) eventId => index.lookup eventId)
      StateEventReference.eventId
      (fun index event =>
        if !event.eventId.isEmpty && valueHasContent event.eventJson &&
            (index.lookup event.eventId).isNone then
          index.insert event.eventId event.eventJson
        else index)
      (fun held event =>
        if !event.eventId.isEmpty && valueHasContent event.eventJson && held.isNone then
          some event.eventJson
        else held) where
  own index event := by
    split
    · exact Finmap.lookup_insert index
    · rfl
  other index event eventId hid := by
    split
    · exact Finmap.lookup_insert_of_ne index hid
    · rfl

section Reorder

variable (h : Reordered groups others)

include h

theorem Reordered.groupEvents_perm : (groupEvents others).Perm (groupEvents groups) := by
  obtain ⟨shuffled, hperm, hstates⟩ := h
  refine List.Perm.trans ?_ (hperm.flatMap_right StateGroup.state)
  clear hperm
  induction hstates with
  | nil => exact List.Perm.refl _
  | cons hstate _ ih =>
    exact hstate.symm.append ih

theorem Reordered.length_eq : others.length = groups.length := by
  obtain ⟨shuffled, hperm, hstates⟩ := h
  rw [← hstates.length_eq, hperm.length_eq]

theorem Reordered.forall_iff {property : StateGroup → Prop}
    (hproperty : ∀ group other : StateGroup, group.state.Perm other.state →
      (property group ↔ property other)) :
    (∀ other ∈ others, property other) ↔ ∀ group ∈ groups, property group := by
  obtain ⟨shuffled, hperm, hstates⟩ := h
  have hshuffled : (∀ other ∈ others, property other) ↔ ∀ group ∈ shuffled, property group := by
    clear hperm
    induction hstates with
    | nil => simp
    | cons hstate _ ih =>
      simp only [forall_mem_cons]
      rw [hproperty _ _ hstate, ih]
  rw [hshuffled]
  exact ⟨fun hall group hgroup => hall group (hperm.mem_iff.mpr hgroup),
    fun hall group hgroup => hall group (hperm.mem_iff.mp hgroup)⟩

theorem Reordered.noRepeatedKey (hnodup : ∀ group ∈ groups, NoRepeatedKey group) :
    ∀ other ∈ others, NoRepeatedKey other :=
  (h.forall_iff fun _ _ hstate => (hstate.map _).nodup_iff).mpr hnodup

theorem Reordered.wellFormed (hwell : WellFormed groups) : WellFormed others := by
  refine ⟨h.noRepeatedKey hwell.nodup, fun event hevent other hother => ?_⟩
  exact hwell.named event (h.groupEvents_perm.mem_iff.mp hevent) other
    (h.groupEvents_perm.mem_iff.mp hother)

theorem Reordered.buildEventJsonIndex_eq (hwell : WellFormed groups) :
    buildEventJsonIndex others = buildEventJsonIndex groups := by
  refine Finmap.ext_lookup fun eventId => ?_
  have hsame : withKey StateEventReference.eventId eventId (groupEvents others) =
      withKey StateEventReference.eventId eventId (groupEvents groups) := by
    -- All events with the id are one event, so the two lists are repetitions of it.
    have htrivial : ∀ events : List StateEventReference,
        events.Pairwise fun _ _ => True := fun events =>
      pairwise_of_forall fun _ _ => trivial
    refine List.Perm.eq_of_pairwise ?_ (htrivial _) (htrivial _) (h.groupEvents_perm.filter _)
    intro event other hevent hother _ _
    obtain ⟨hmem, hid⟩ := mem_withKey.mp hevent
    obtain ⟨hotherMem, hotherId⟩ := mem_withKey.mp hother
    exact hwell.named event (h.groupEvents_perm.mem_iff.mp hmem) other hotherMem
      (hid.trans hotherId.symm)
  have hothers := indexStep_actsByKey.view_foldl (groupEvents others) ∅ eventId
  have hgroups := indexStep_actsByKey.view_foldl (groupEvents groups) ∅ eventId
  rw [hsame] at hothers
  exact hothers.trans hgroups.symm

theorem Reordered.distinctKeys_eq : distinctKeys others = distinctKeys groups :=
  toFinset_eq_of_perm _ _ (h.groupEvents_perm.map _)

variable (hnodup : ∀ group ∈ groups, NoRepeatedKey group)

include hnodup

theorem Reordered.listedEvents_perm : (listedEvents others key).Perm (listedEvents groups key) := by
  rw [← withKey_groupEvents hnodup, ← withKey_groupEvents (h.noRepeatedKey hnodup)]
  exact h.groupEvents_perm.filter _

theorem Reordered.listedIds_perm : (listedIds others key).Perm (listedIds groups key) :=
  (h.listedEvents_perm hnodup).map _

theorem Reordered.listedByAll_iff : ListedByAll others key ↔ ListedByAll groups key := by
  rw [← length_listedEvents_iff, ← length_listedEvents_iff,
    (h.listedEvents_perm hnodup).length_eq, h.length_eq]

theorem Reordered.disputed_iff (hkey : key ∈ distinctKeys groups) :
    Disputed others key ↔ Disputed groups key := by
  rw [StatePartition.disputed_iff hkey,
    StatePartition.disputed_iff (h.distinctKeys_eq ▸ hkey : key ∈ distinctKeys others),
    exists_agreedOn_iff hkey, exists_agreedOn_iff (h.distinctKeys_eq ▸ hkey),
    h.listedByAll_iff hnodup]
  simp only [(h.listedIds_perm hnodup).mem_iff]

theorem Reordered.disputedEvents_eq : disputedEvents others = disputedEvents groups := by
  ext pair
  simp only [disputedEvents, mem_toFinset, mem_map, mem_filter,
    decide_eq_true_eq, h.groupEvents_perm.mem_iff]
  refine exists_congr fun event => and_congr_left fun _ => and_congr_right fun hevent => ?_
  exact h.disputed_iff hnodup (mem_distinctKeys.mpr ⟨event, hevent, rfl⟩)

theorem Reordered.resolvable_iff : Resolvable others ↔ Resolvable groups :=
  resolvable_congr h.length_eq (h.forall_iff fun _ _ hstate => by rw [hstate.length_eq])
    h.distinctKeys_eq (h.disputedEvents_eq hnodup)

end Reorder

section Later

theorem nodup_conflictedEvents :
    (conflictedEvents (partitionConflictedState groups).2 groups).Nodup :=
  (conflictedEvents_collected _ groups).distinct.imp fun hdiffer hsame =>
    hdiffer ⟨congrArg _ hsame, congrArg _ hsame⟩

def EvenlyDisputed (groups : List StateGroup) : Prop :=
  ∀ key ∈ distinctKeys groups, ListedByAll groups key → Disputed groups key →
    Even groups.length ∧ (listedIds groups key).Nodup

theorem leftover_invariant_of_listedByAll (hkey : key ∈ distinctKeys groups)
    (hall : ListedByAll groups key) :
    (∀ ids, ids.Perm (listedIds groups key) → leftover ids = leftover (listedIds groups key)) ↔
      (Disputed groups key → Even groups.length ∧ (listedIds groups key).Nodup) := by
  have hlength : (listedIds groups key).length = groups.length := by
    rw [listedIds, length_map, length_listedEvents_iff.mpr hall]
  rw [leftover_invariant_iff, hlength, StatePartition.disputed_iff hkey,
    exists_agreedOn_iff hkey, and_iff_right hall]
  tauto

variable (hwell : WellFormed groups) (hkeys : (distinctKeys groups).card ≤ maxConflictedStateKeys)
include hwell hkeys

theorem mem_conflictedEvents_iff {event : StateEventReference} :
    event ∈ conflictedEvents (partitionConflictedState groups).2 groups ↔
      event ∈ groupEvents groups ∧ Disputed groups event.key := by
  have hcollected := conflictedEvents_collected (partitionConflictedState groups).2 groups
  have hconflicted : event ∈ groupEvents groups →
      (event.key ∈ (partitionConflictedState groups).2 ↔ Disputed groups event.key) := by
    intro hevent
    have hkey := mem_distinctKeys.mpr ⟨event, hevent, rfl⟩
    rw [mem_conflicted_iff hwell.nodup hkeys hkey, StatePartition.disputed_iff hkey]
  constructor
  · intro hevent
    obtain ⟨hmem, hkey⟩ := hcollected.sound event hevent
    exact ⟨hmem, (hconflicted hmem).mp hkey⟩
  · rintro ⟨hmem, hdisputed⟩
    obtain ⟨existing, hexisting, -, hid⟩ :=
      hcollected.complete event hmem ((hconflicted hmem).mpr hdisputed)
    have hsame := hwell.named existing (hcollected.sound existing hexisting).1 event hmem hid
    exact hsame ▸ hexisting

variable (h : Reordered groups others)
include h

theorem Reordered.conflictedEvents_perm :
    (conflictedEvents (partitionConflictedState others).2 others).Perm
      (conflictedEvents (partitionConflictedState groups).2 groups) := by
  rw [perm_ext_iff_of_nodup nodup_conflictedEvents nodup_conflictedEvents]
  intro event
  rw [mem_conflictedEvents_iff hwell hkeys,
    mem_conflictedEvents_iff (h.wellFormed hwell) (h.distinctKeys_eq ▸ hkeys),
    h.groupEvents_perm.mem_iff]
  refine and_congr_right fun hevent => ?_
  exact h.disputed_iff hwell.nodup (mem_distinctKeys.mpr ⟨event, hevent, rfl⟩)

variable (heven : EvenlyDisputed groups)
include heven

theorem Reordered.unconflicted_eq :
    (partitionConflictedState others).1 = (partitionConflictedState groups).1 := by
  have hnodup := h.noRepeatedKey hwell.nodup
  have hkeys' : (distinctKeys others).card ≤ maxConflictedStateKeys := h.distinctKeys_eq ▸ hkeys
  refine Finmap.ext_lookup fun key => ?_
  by_cases hall : ListedByAll groups key
  · by_cases hkey : key ∈ distinctKeys groups
    · have hids : ((partitionConflictedState others).1.lookup key).map
          StateEventReference.eventId =
          ((partitionConflictedState groups).1.lookup key).map StateEventReference.eventId := by
        rw [unconflicted_of_listedByAll hwell.nodup hkeys hall,
          unconflicted_of_listedByAll hnodup hkeys' ((h.listedByAll_iff hwell.nodup).mpr hall)]
        exact (leftover_invariant_of_listedByAll hkey hall).mpr
          (heven key hkey hall) _ (h.listedIds_perm hwell.nodup)
      -- Equal ids name equal events.
      cases hgroups : (partitionConflictedState groups).1.lookup key with
      | none => simpa [hgroups] using hids
      | some event =>
        rw [hgroups, Option.map_some] at hids
        obtain ⟨other, hother, hid⟩ := Option.map_eq_some_iff.mp hids
        have hevent := mem_listedEvents_of_unconflicted hwell.nodup hkeys hgroups
        have hotherMem := mem_listedEvents_of_unconflicted hnodup hkeys' hother
        rw [hother, hwell.named other
          (h.groupEvents_perm.mem_iff.mp (mem_listedEvents hotherMem).1) event
          (mem_listedEvents hevent).1 hid]
    · rw [unconflicted_of_not_listed hwell.nodup hkeys hkey,
        unconflicted_of_not_listed hnodup hkeys' (h.distinctKeys_eq ▸ hkey)]
  · rw [unconflicted_of_not_listedByAll hwell.nodup hkeys hall,
      unconflicted_of_not_listedByAll hnodup hkeys'
        (mt (h.listedByAll_iff hwell.nodup).mp hall)]

theorem Reordered.checkOrder_eq (sodium : Libsodium) (policy : RoomVersionPolicy) :
    checkOrder sodium policy others = checkOrder sodium policy groups := by
  have hperm := h.conflictedEvents_perm hwell hkeys
  have hnamed : ∀ select : StateEventReference → Bool,
      Named ((conflictedEvents (partitionConflictedState others).2 others).filter select) := by
    have hlisted : ∀ event ∈ conflictedEvents (partitionConflictedState others).2 others,
        event ∈ groupEvents groups := fun event hevent =>
      ((conflictedEvents_collected _ groups).sound event (hperm.mem_iff.mp hevent)).1
    intro select event hevent other hother
    exact hwell.named event (hlisted event (mem_filter.mp hevent).1) other
      (hlisted other (mem_filter.mp hother).1)
  have hpower : sortedPowerEvents policy (partitionConflictedState groups).1
      (conflictedEvents (partitionConflictedState others).2 others) =
      sortedPowerEvents policy (partitionConflictedState groups).1
        (conflictedEvents (partitionConflictedState groups).2 groups) :=
    rankedSort_eq_of_perm _ (hnamed _) (hperm.filter _)
  have hremaining := fun state : StateMap => mainlineOrder_eq_of_perm state
    (buildEventJsonIndex groups) (hnamed _) (hperm.filter fun event => !isPowerEvent event)
  simp only [checkOrder, h.unconflicted_eq hwell hkeys heven, hpower, sortedRemainingEvents,
    h.buildEventJsonIndex_eq hwell, hremaining]

end Later

def boundIds (result : StateResolutionResult) : Multiset (StateKey × Bytes) :=
  result.resolvedState.map fun event => (event.key, event.eventId)

def OrderIndependent (sodium : Libsodium) (policy : RoomVersionPolicy)
    (groups : List StateGroup) : Prop :=
  ∀ others, Reordered groups others → (resolveStateV2 sodium ⟨groups⟩ policy).resolved =
        (resolveStateV2 sodium ⟨others⟩ policy).resolved ∧
      ((resolveStateV2 sodium ⟨groups⟩ policy).resolved = true →
        boundIds (resolveStateV2 sodium ⟨groups⟩ policy) =
          boundIds (resolveStateV2 sodium ⟨others⟩ policy))

theorem orderIndependent_of_evenlyDisputed {groups : List StateGroup} (hwell : WellFormed groups)
    (hcases : ¬Resolvable groups ∨ EvenlyDisputed groups) (sodium : Libsodium)
    (policy : RoomVersionPolicy) : OrderIndependent sodium policy groups := by
  intro others h
  have hresolvable := h.resolvable_iff hwell.nodup
  rcases resolveStateV2_cases sodium policy ⟨groups⟩ hwell.nodup with
    ⟨hgroups, hresult⟩ | ⟨hgroups, hresult⟩
  · rcases resolveStateV2_cases sodium policy ⟨others⟩ (h.noRepeatedKey hwell.nodup) with
      ⟨-, hother⟩ | ⟨hothers, -⟩
    · have heven : EvenlyDisputed groups := hcases.resolve_left (not_not.mpr hgroups)
      have hkeys := hgroups.1.keyCount
      rw [hresult, hother, runningState, runningState, h.unconflicted_eq hwell hkeys heven,
        h.checkOrder_eq hwell hkeys heven]
      exact ⟨rfl, fun _ => rfl⟩
    · exact absurd (hresolvable.mpr hgroups) hothers
  · rcases resolveStateV2_cases sodium policy ⟨others⟩ (h.noRepeatedKey hwell.nodup) with
      ⟨hothers, -⟩ | ⟨-, hother⟩
    · exact absurd (hresolvable.mp hothers) hgroups
    · rw [hresult, hother]
      exact ⟨rfl, fun hfalse => by cases hfalse⟩

def shape (group : StateGroup) : List (StateKey × Bytes) :=
  group.state.map fun event => (event.key, event.eventId)

def SameShape (groups others : List StateGroup) : Prop :=
  groups.map shape = others.map shape

def shapeId (key : StateKey) (listing : List (StateKey × Bytes)) : Option Bytes :=
  (listing.find? fun entry => entry.1 = key).map Prod.snd

theorem map_stateGroupEvent (group : StateGroup) (key : StateKey) :
    (stateGroupEvent group key).map StateEventReference.eventId = shapeId key (shape group) := by
  simp only [stateGroupEvent, shapeId, shape, find?_map, Option.map_map]
  rfl

theorem listedIds_eq_shapes :
    listedIds groups key = (groups.map shape).filterMap (shapeId key) := by
  simp only [listedIds, listedEvents, map_filterMap, filterMap_map,
    map_stateGroupEvent, Function.comp_def]

theorem disputed_iff_shapes :
    Disputed groups key ↔ ∃ listing ∈ groups.map shape, ∃ other ∈ groups.map shape,
      shapeId key listing ≠ shapeId key other := by
  simp only [Disputed, map_stateGroupEvent, mem_map, exists_exists_and_eq_and]

theorem groupEvents_pairs :
    ((groupEvents groups).map fun event => (event.key, event.eventId)) =
      (groups.map shape).flatten := by
  rw [groupEvents, map_flatMap, flatMap_def]
  rfl

section Shape

variable (h : SameShape groups others)

include h

theorem SameShape.length_eq : groups.length = others.length := by
  simpa using congrArg length h

theorem SameShape.listedIds_eq : listedIds groups key = listedIds others key := by
  rw [listedIds_eq_shapes, listedIds_eq_shapes, h]

theorem SameShape.listedByAll_iff : ListedByAll groups key ↔ ListedByAll others key := by
  have hids : listedIds groups key = listedIds others key := h.listedIds_eq
  have hlength := congrArg length hids
  rw [listedIds, listedIds, length_map, length_map] at hlength
  rw [← length_listedEvents_iff, ← length_listedEvents_iff, hlength, h.length_eq]

theorem SameShape.disputed_iff : Disputed groups key ↔ Disputed others key := by
  rw [disputed_iff_shapes, disputed_iff_shapes, h]

theorem SameShape.pairs_eq : ((groupEvents groups).map fun event => (event.key, event.eventId)) =
      (groupEvents others).map fun event => (event.key, event.eventId) := by
  rw [groupEvents_pairs, groupEvents_pairs, h]

theorem SameShape.distinctKeys_eq : distinctKeys groups = distinctKeys others := by
  have hkeys := congrArg (map Prod.fst) h.pairs_eq
  rw [map_map, map_map] at hkeys
  exact congrArg toFinset hkeys

omit h in
theorem disputedEvents_eq_filter : disputedEvents groups =
      (((groupEvents groups).map fun event => (event.key, event.eventId)).filter
        fun pair => Disputed groups pair.1).toFinset := by
  rw [disputedEvents, filter_map]
  rfl

theorem SameShape.disputedEvents_eq : disputedEvents groups = disputedEvents others := by
  rw [disputedEvents_eq_filter, disputedEvents_eq_filter, h.pairs_eq]
  simp only [h.disputed_iff]

theorem SameShape.resolvable_iff : Resolvable groups ↔ Resolvable others := by
  refine resolvable_congr h.length_eq ?_ h.distinctKeys_eq h.disputedEvents_eq
  have hsize : ∀ listing : List StateGroup,
      (∀ group ∈ listing, group.state.length ≤ maxEventsPerStateGroup) ↔
        ∀ entries ∈ listing.map shape, entries.length ≤ maxEventsPerStateGroup := by
    simp [shape]
  rw [hsize, hsize, h]

theorem SameShape.evenlyDisputed_iff : EvenlyDisputed groups ↔ EvenlyDisputed others := by
  simp only [EvenlyDisputed, h.distinctKeys_eq, h.listedByAll_iff, h.disputed_iff,
    h.length_eq, h.listedIds_eq]

end Shape

def withoutJson (event : StateEventReference) : StateEventReference :=
  { event with eventJson := .null }

def groupsWithoutJson (groups : List StateGroup) : List StateGroup :=
  groups.map fun group => ⟨group.state.map withoutJson⟩

section WithoutJson

theorem sameShape_withoutJson : SameShape groups (groupsWithoutJson groups) := by
  simp only [SameShape, groupsWithoutJson, map_map]
  simp [shape, withoutJson, Function.comp_def]

theorem groupEvents_withoutJson :
    groupEvents (groupsWithoutJson groups) = (groupEvents groups).map withoutJson := by
  rw [groupEvents, groupsWithoutJson, flatMap_map, groupEvents, map_flatMap]

theorem wellFormed_withoutJson (hwell : WellFormed groups) :
    WellFormed (groupsWithoutJson groups) := by
  constructor
  · intro group hgroup
    obtain ⟨original, horiginal, rfl⟩ := mem_map.mp hgroup
    simpa [NoRepeatedKey, withoutJson, Function.comp_def] using hwell.nodup original horiginal
  · rw [groupEvents_withoutJson]
    intro event hevent other hother hid
    obtain ⟨first, hfirst, rfl⟩ := mem_map.mp hevent
    obtain ⟨second, hsecond, rfl⟩ := mem_map.mp hother
    rw [hwell.named first hfirst second hsecond hid]

theorem runningState_of_null {sodium : Libsodium} {policy : RoomVersionPolicy}
    (hnull : ∀ event ∈ groupEvents groups, event.eventJson = .null)
    {applied : List StateEventReference} (happlied : ∀ event ∈ applied,
      event ∈ groupEvents groups) :
    runningState sodium policy groups applied = (partitionConflictedState groups).1 := by
  induction applied using reverseRecOn with
  | nil => rfl
  | append_singleton applied event ih =>
    rw [← ih fun e he => happlied e (mem_append_left _ he)]
    have hevent := hnull event (happlied event (by simp))
    simp [applyAuthCheck, hevent, valueHasContent, runningState, applyIterativeAuthChecks]

theorem mem_boundIds_iff {state : StateMap} (reason : Bytes)
    (hkeys : ∀ key event, state.lookup key = some event → event.key = key) {eventId : Bytes} :
    (key, eventId) ∈ boundIds ⟨true, state.entries.map Sigma.snd, reason⟩ ↔
      (state.lookup key).map StateEventReference.eventId = some eventId := by
  rw [boundIds, Multiset.mem_map]
  simp only [mem_result_iff, Prod.mk.injEq, Option.map_eq_some_iff]
  constructor
  · rintro ⟨event, ⟨bound, hbound⟩, rfl, rfl⟩
    exact ⟨event, hkeys bound event hbound ▸ hbound, rfl⟩
  · rintro ⟨event, hevent, rfl⟩
    exact ⟨event, ⟨key, hevent⟩, hkeys key event hevent, rfl⟩

theorem exists_groups_of_ids_perm {ids : List Bytes} (hall : ListedByAll groups key)
    (hperm : ids.Perm (listedIds groups key)) :
    ∃ others, others.Perm groups ∧ listedIds others key = ids := by
  induction ids generalizing groups with
  | nil =>
    refine ⟨groups, List.Perm.refl _, ?_⟩
    exact perm_nil.mp hperm.symm
  | cons eventId ids ih =>
    have hmem : eventId ∈ listedIds groups key := hperm.mem_iff.mp mem_cons_self
    obtain ⟨event, hevent, hid⟩ := mem_map.mp hmem
    obtain ⟨group, hgroup, hlisted⟩ := mem_filterMap.mp hevent
    obtain ⟨before, after, rfl⟩ := append_of_mem hgroup
    have hmiddle : (before ++ group :: after).Perm (group :: (before ++ after)) :=
      perm_middle
    have hids : (listedIds (before ++ group :: after) key).Perm
        (eventId :: listedIds (before ++ after) key) := by
      simp [listedIds, listedEvents, hlisted, hid]
    obtain ⟨others, hothers, hsame⟩ := ih
      (fun other hother => hall other (hmiddle.mem_iff.mpr (mem_cons_of_mem _ hother)))
      (List.Perm.cons_inv (hperm.trans hids))
    refine ⟨group :: others, (hothers.cons group).trans hmiddle.symm, ?_⟩
    rw [← hsame]
    simp [listedIds, listedEvents, hlisted, hid]

theorem reordered_of_perm (hperm : others.Perm groups) : Reordered groups others :=
  ⟨others, hperm, forall₂_same.mpr fun _ _ => List.Perm.refl _⟩

end WithoutJson

/-- If a request whose JSON is not known resolves to the same ids in every
order, its disputes are even. -/
theorem evenlyDisputed_of_orderIndependent {groups : List StateGroup} (hwell : WellFormed groups)
    (hresolvable : Resolvable groups)
    (hnull : ∀ event ∈ groupEvents groups, event.eventJson = .null) {sodium : Libsodium}
    {policy : RoomVersionPolicy} (hindependent : OrderIndependent sodium policy groups) :
    EvenlyDisputed groups := by
  have hstate : ∀ {listing : List StateGroup}, Reordered groups listing →
      resolveStateV2 sodium ⟨listing⟩ policy =
        ⟨true, (partitionConflictedState listing).1.entries.map Sigma.snd, []⟩ := by
    intro listing h
    rcases resolveStateV2_cases sodium policy ⟨listing⟩ (h.noRepeatedKey hwell.nodup) with
      ⟨-, hresult⟩ | ⟨hfailed, -⟩
    · rw [hresult, runningState_of_null]
      · exact fun event hevent => hnull event (h.groupEvents_perm.mem_iff.mp hevent)
      · exact fun event hevent =>
          ((conflictedEvents_collected _ listing).sound event (mem_checkOrder.mp hevent)).1
    · exact absurd ((h.resolvable_iff hwell.nodup).mpr hresolvable) hfailed
  have hkeys := hresolvable.1.keyCount
  have hrefl : Reordered groups groups := reordered_of_perm (List.Perm.refl groups)
  intro key hkey hall
  refine (leftover_invariant_of_listedByAll hkey hall).mp fun ids hperm => ?_
  obtain ⟨others, hothers, rfl⟩ := exists_groups_of_ids_perm hall hperm
  have h := reordered_of_perm hothers
  have hkeys' : (distinctKeys others).card ≤ maxConflictedStateKeys := h.distinctKeys_eq ▸ hkeys
  have hnodup := h.noRepeatedKey hwell.nodup
  have hbound := (hindependent others h).2 (by rw [hstate hrefl])
  rw [hstate hrefl, hstate h] at hbound
  rw [← unconflicted_of_listedByAll hwell.nodup hkeys hall,
    ← unconflicted_of_listedByAll hnodup hkeys' ((h.listedByAll_iff hwell.nodup).mpr hall)]
  ext eventId
  rw [← mem_boundIds_iff [], ← mem_boundIds_iff [], hbound]
  · exact fun bound event hevent =>
      (mem_listedEvents (mem_listedEvents_of_unconflicted hwell.nodup hkeys hevent)).2
  · exact fun bound event hevent =>
      (mem_listedEvents (mem_listedEvents_of_unconflicted hnodup hkeys' hevent)).2

/-- For given keys and ids, resolution is independent of the order for all
events of those ids exactly when no request is resolved at all, or every
dispute that involves all groups is between an even number of distinct ids. -/
theorem orderIndependent_iff (sodium : Libsodium) {groups : List StateGroup}
    (hwell : WellFormed groups) :
    (∀ policy others, SameShape groups others → WellFormed others →
        OrderIndependent sodium policy others) ↔
      ¬Resolvable groups ∨ EvenlyDisputed groups := by
  constructor
  · intro hindependent
    by_cases hresolvable : Resolvable groups
    · refine Or.inr ?_
      have hshape : SameShape groups (groupsWithoutJson groups) := sameShape_withoutJson
      have hwell' := wellFormed_withoutJson hwell
      have heven := evenlyDisputed_of_orderIndependent hwell'
        (hshape.resolvable_iff.mp hresolvable)
        (by simp [groupEvents_withoutJson, withoutJson])
        (hindependent roomVersion11 _ hshape hwell')
      exact hshape.evenlyDisputed_iff.mpr heven
    · exact Or.inl hresolvable
  · rintro hcases policy others hshape hothers
    rw [hshape.resolvable_iff, hshape.evenlyDisputed_iff] at hcases
    exact orderIndependent_of_evenlyDisputed hothers hcases sodium policy

theorem wellFormed_topicGroups {eventIds : List Bytes} : WellFormed (topicGroups eventIds) := by
  constructor
  · intro group hgroup
    obtain ⟨eventId, -, rfl⟩ := mem_map.mp hgroup
    simp [NoRepeatedKey]
  · intro event hevent other hother hid
    simp only [groupEvents, topicGroups, mem_flatMap, mem_map] at hevent hother
    obtain ⟨_, ⟨eventId, -, rfl⟩, hmem⟩ := hevent
    obtain ⟨_, ⟨otherId, -, rfl⟩, hotherMem⟩ := hother
    obtain rfl := mem_singleton.mp hmem
    obtain rfl := mem_singleton.mp hotherMem
    exact congrArg topicEvent hid

theorem orderIndependent_two_groups :
    OrderIndependent notReady roomVersion11 (topicGroups ["$a", "$b"]) := by
  refine (orderIndependent_iff notReady wellFormed_topicGroups).mpr (Or.inr ?_)
    roomVersion11 _ rfl wellFormed_topicGroups
  have hkeys : ∀ key ∈ distinctKeys (topicGroups ["$a", "$b"]),
      Even (topicGroups ["$a", "$b"]).length ∧
        (listedIds (topicGroups ["$a", "$b"]) key).Nodup := by
    decide +kernel
  exact fun key hkey _ _ => hkeys key hkey

theorem three_groups_depend_on_order : ([utf8 "$b", utf8 "$c", utf8 "$a"] : List Bytes).Perm
        [utf8 "$a", utf8 "$b", utf8 "$c"] ∧
      (resolveStateV2 notReady ⟨topicGroups ["$a", "$b", "$c"]⟩ roomVersion11).resolved = true ∧
      boundIds (resolveStateV2 notReady ⟨topicGroups ["$a", "$b", "$c"]⟩ roomVersion11) =
        {(topicKey, utf8 "$c")} ∧
      boundIds (resolveStateV2 notReady ⟨topicGroups ["$b", "$c", "$a"]⟩ roomVersion11) =
        {(topicKey, utf8 "$a")} := by
  decide +kernel

end Merovingian.ResolutionOrder
