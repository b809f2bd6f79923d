import Merovingian.StateResolution
import Merovingian.KeyedFold
import Merovingian.CancellingRegister

/-!
The partition of the state groups, one key at a time. The loop treats the
unconflicted map as a register that is cleared by a different event id; a
third group can fill the register again after the key has been declared
conflicted.
-/

namespace Merovingian.StatePartition

open ByteString StateResolution KeyedFold CancellingRegister List Option

variable {groups : List StateGroup}

def NoRepeatedKey (group : StateGroup) : Prop :=
  (group.state.map StateEventReference.key).Nodup

instance (group : StateGroup) : Decidable (NoRepeatedKey group) :=
  inferInstanceAs (Decidable (List.Nodup _))

section

variable (groups : List StateGroup) (key : StateKey)

def listedEvents : List StateEventReference :=
  groups.filterMap fun group => stateGroupEvent group key

def listedIds : List Bytes :=
  (listedEvents groups key).map StateEventReference.eventId

def ListedByAll : Prop :=
  ∀ group ∈ groups, (stateGroupEvent group key).isSome = true

/-- Every group lists the key with this event id. -/
def AgreedOn (eventId : Bytes) : Prop :=
  ∀ group ∈ groups, (stateGroupEvent group key).map StateEventReference.eventId = some eventId

/-- Two groups differ on the key, be it that only one of them lists it. -/
def Disputed : Prop :=
  ∃ group ∈ groups, ∃ other ∈ groups, (stateGroupEvent group key).map StateEventReference.eventId ≠
      (stateGroupEvent other key).map StateEventReference.eventId

end

instance (groups : List StateGroup) (key : StateKey) : Decidable (Disputed groups key) :=
  inferInstanceAs (Decidable (∃ group ∈ groups, ∃ other ∈ groups, _ ≠ _))

def distinctKeys (groups : List StateGroup) : Finset StateKey :=
  ((groupEvents groups).map StateEventReference.key).toFinset

variable {event : StateEventReference} {key : StateKey} (events : List StateEventReference)
  (entry : Option StateEventReference × Option StateEventReference)

theorem mem_distinctKeys :
    key ∈ distinctKeys groups ↔ ∃ event ∈ groupEvents groups, event.key = key := by
  simp [distinctKeys]

section Groups

theorem withKey_groupEvents (hnodup : ∀ group ∈ groups, NoRepeatedKey group) (key : StateKey) :
    withKey StateEventReference.key key (groupEvents groups) = listedEvents groups key := by
  rw [groupEvents, withKey, filter_flatMap, listedEvents, filterMap_eq_flatMap_toList]
  exact flatMap_congr fun group hgroup => withKey_eq_toList (hnodup group hgroup) key

theorem mem_listedEvents (h : event ∈ listedEvents groups key) :
    event ∈ groupEvents groups ∧ event.key = key := by
  obtain ⟨group, hgroup, hevent⟩ := mem_filterMap.mp h
  refine ⟨mem_flatMap.mpr ⟨group, hgroup, mem_of_find?_eq_some hevent⟩, ?_⟩
  simpa using find?_some hevent

theorem listedEvents_ne_nil_iff : listedEvents groups key ≠ [] ↔ key ∈ distinctKeys groups := by
  constructor
  · intro hne
    obtain ⟨event, hevent⟩ := exists_mem_of_ne_nil _ hne
    exact mem_distinctKeys.mpr ⟨event, mem_listedEvents hevent⟩
  · intro hkey hnil
    obtain ⟨event, hevent, rfl⟩ := mem_distinctKeys.mp hkey
    obtain ⟨group, hgroup, hmem⟩ := mem_flatMap.mp hevent
    have hnone := filterMap_eq_nil_iff.mp hnil group hgroup
    simpa using find?_eq_none.mp hnone event hmem

theorem length_listedEvents_iff :
    (listedEvents groups key).length = groups.length ↔ ListedByAll groups key :=
  filterMap_length_eq_length

theorem AgreedOn.of_listed {eventId : Bytes} (hagreed : AgreedOn groups key eventId) :
    ∀ a ∈ listedIds groups key, a = eventId := by
  intro a ha
  obtain ⟨event, hevent, rfl⟩ := mem_map.mp ha
  obtain ⟨group, hgroup, hlisted⟩ := mem_filterMap.mp hevent
  simpa [hlisted] using hagreed group hgroup

theorem exists_agreedOn_iff (hkey : key ∈ distinctKeys groups) :
    (∃ eventId, AgreedOn groups key eventId) ↔ ListedByAll groups key ∧
        ∀ a ∈ listedIds groups key, ∀ b ∈ listedIds groups key, a = b := by
  constructor
  · rintro ⟨eventId, hagreed⟩
    refine ⟨fun group hgroup => ?_,
      fun a ha b hb => (hagreed.of_listed a ha).trans (hagreed.of_listed b hb).symm⟩
    obtain ⟨event, hevent, -⟩ := map_eq_some_iff.mp (hagreed group hgroup)
    simp [hevent]
  · rintro ⟨hall, hsame⟩
    obtain ⟨first, hfirst⟩ := exists_mem_of_ne_nil _ (listedEvents_ne_nil_iff.mpr hkey)
    refine ⟨first.eventId, fun group hgroup => ?_⟩
    obtain ⟨event, hevent⟩ := isSome_iff_exists.mp (hall group hgroup)
    rw [hevent, map_some, some.injEq]
    refine hsame _ (mem_map_of_mem ?_) _ (mem_map_of_mem hfirst)
    exact mem_filterMap.mpr ⟨group, hgroup, hevent⟩

theorem disputed_iff (hkey : key ∈ distinctKeys groups) :
    Disputed groups key ↔ ¬∃ eventId, AgreedOn groups key eventId := by
  constructor
  · rintro ⟨group, hgroup, other, hother, hdiffer⟩ ⟨eventId, hagreed⟩
    exact hdiffer ((hagreed group hgroup).trans (hagreed other hother).symm)
  · intro hdisagree
    by_contra hsame
    simp only [Disputed, not_exists, not_and, not_not] at hsame
    obtain ⟨event, hevent⟩ := exists_mem_of_ne_nil _ (listedEvents_ne_nil_iff.mpr hkey)
    obtain ⟨listing, hlisting, hlisted⟩ := mem_filterMap.mp hevent
    refine hdisagree ⟨event.eventId, fun group hgroup => ?_⟩
    rw [hsame group hgroup listing hlisting, hlisted, map_some]

end Groups

def keyCounts (events : List StateEventReference) : KeyCounts :=
  events.foldl countKey ∅

theorem countKey_actsByKey :
    ActsByKey (fun (counts : KeyCounts) key => counts.lookup key) StateEventReference.key
      countKey (fun count _ => some (count.getD 0 + 1)) where
  own counts _ := Finmap.lookup_insert counts
  other counts _ _ hkey := Finmap.lookup_insert_of_ne counts hkey

theorem foldl_count (count : Option Nat) :
    events.foldl (fun count _ => some (count.getD 0 + 1)) count =
      if events.isEmpty then count else some (count.getD 0 + events.length) := by
  induction events generalizing count with
  | nil => rfl
  | cons head tail ih =>
    rw [foldl_cons, ih]
    cases tail with
    | nil => rfl
    | cons second rest =>
      simp only [isEmpty_cons, Bool.false_eq_true, if_false, getD_some,
        length_cons, some.injEq]
      omega

theorem lookup_keyCounts (key : StateKey) : (keyCounts events).lookup key =
      if (withKey StateEventReference.key key events).isEmpty then none
      else some (withKey StateEventReference.key key events).length := by
  have hview := countKey_actsByKey.view_foldl events ∅ key
  simpa [keyCounts, foldl_count] using hview

theorem keys_keyCounts :
    (keyCounts events).keys = (events.map StateEventReference.key).toFinset := by
  ext key
  rw [Finmap.mem_keys, ← Finmap.lookup_isSome, lookup_keyCounts]
  simp [withKey]

theorem countStateKeys_eq : countStateKeys events =
      if (events.map StateEventReference.key).toFinset.card > maxConflictedStateKeys then none
      else some (keyCounts events) := by
  rw [← keys_keyCounts]
  refine foldlM_eq_of_limit
    (fun counts : KeyCounts => counts.keys.card > maxConflictedStateKeys) countKey
    (fun _ _ _ => rfl) ?_ events ∅ (by simp)
  intro counts event hover
  refine lt_of_lt_of_le hover (Finset.card_le_card fun key hkey => ?_)
  exact Finmap.mem_keys.mpr (Finmap.mem_insert.mpr (Or.inr (Finmap.mem_keys.mp hkey)))

def entryStep (listedByAll : Bool)
    (entry : Option StateEventReference × Option StateEventReference)
    (event : StateEventReference) :
    Option StateEventReference × Option StateEventReference :=
  if listedByAll then
    match entry.1 with
    | none => (some event, entry.2)
    | some existing =>
      if existing.eventId ≠ event.eventId then (none, some event) else entry
  else (entry.1, some event)

theorem partitionStep_actsByKey (counts : KeyCounts) (totalGroups : Nat) :
    ActsByKey (fun (maps : StateMap × StateMap) key => (maps.1.lookup key, maps.2.lookup key))
      StateEventReference.key (partitionStep counts totalGroups)
      (fun entry event =>
        entryStep ((counts.lookup event.key).getD 0 = totalGroups) entry event) where
  own maps event := by
    simp only [partitionStep, entryStep, decide_eq_true_eq]
    split
    · cases hentry : maps.1.lookup event.key with
      | none => simp
      | some existing =>
        simp only []
        split
        · simp
        · simp [hentry]
    · simp
  other maps event key hkey := by
    simp only [partitionStep]
    split
    · cases maps.1.lookup event.key with
      | none => simp [Finmap.lookup_insert_of_ne _ hkey]
      | some existing =>
        simp only []
        split
        · simp [Finmap.lookup_insert_of_ne _ hkey, Finmap.lookup_erase_ne hkey]
        · rfl
    · simp [Finmap.lookup_insert_of_ne _ hkey]

theorem foldl_entryStep_false : (events.foldl (entryStep false) entry).1 = entry.1 ∧
      ((events.foldl (entryStep false) entry).2.isSome = true ↔
        entry.2.isSome = true ∨ events ≠ []) := by
  induction events generalizing entry with
  | nil => simp
  | cons head tail ih =>
    obtain ⟨hfirst, hsecond⟩ := ih (entryStep false entry head)
    refine ⟨hfirst, ?_⟩
    rw [foldl_cons, hsecond]
    simp [entryStep]

theorem entryStep_true_fst (event : StateEventReference) :
    (entryStep true entry event).1.map StateEventReference.eventId =
      offer (entry.1.map StateEventReference.eventId) event.eventId := by
  obtain ⟨held, conflicted⟩ := entry
  cases held with
  | none => rfl
  | some existing =>
    by_cases hdiffer : existing.eventId = event.eventId
    · simp [entryStep, offer, hdiffer]
    · simp [entryStep, offer, hdiffer]

theorem foldl_entryStep_true_fst :
    (events.foldl (entryStep true) entry).1.map StateEventReference.eventId =
      (events.map StateEventReference.eventId).foldl offer
        (entry.1.map StateEventReference.eventId) := by
  induction events generalizing entry with
  | nil => rfl
  | cons head tail ih =>
    rw [foldl_cons, ih, entryStep_true_fst, map_cons, foldl_cons]

theorem mem_of_foldl_entryStep_true {events : List StateEventReference}
    {entry : Option StateEventReference × Option StateEventReference}
    (h : (events.foldl (entryStep true) entry).1 = some event) :
    entry.1 = some event ∨ event ∈ events := by
  induction events generalizing entry with
  | nil => exact Or.inl h
  | cons head tail ih =>
    rcases ih h with hstep | hmem
    · obtain ⟨held, conflicted⟩ := entry
      cases held with
      | none =>
        obtain rfl : head = event := by simpa [entryStep] using hstep
        exact Or.inr mem_cons_self
      | some existing =>
        by_cases hdiffer : existing.eventId = head.eventId
        · exact Or.inl (by simpa [entryStep, hdiffer] using hstep)
        · simp [entryStep, hdiffer] at hstep
    · exact Or.inr (mem_cons_of_mem head hmem)

theorem foldl_entryStep_true_stays (h : entry.2.isSome = true) :
    (events.foldl (entryStep true) entry).2.isSome = true := by
  induction events generalizing entry with
  | nil => exact h
  | cons head tail ih =>
    refine ih _ ?_
    obtain ⟨held, conflicted⟩ := entry
    cases held with
    | none => exact h
    | some existing =>
      by_cases hdiffer : existing.eventId = head.eventId
      · simpa [entryStep, hdiffer] using h
      · simp [entryStep, hdiffer]

/-- A key is declared conflicted at the first event id that differs from the
first one. -/
theorem foldl_entryStep_true_snd (existing : StateEventReference) :
    (events.foldl (entryStep true) (some existing, none)).2.isSome = true ↔
      ∃ event ∈ events, event.eventId ≠ existing.eventId := by
  induction events with
  | nil => simp
  | cons head tail ih =>
    by_cases hdiffer : existing.eventId = head.eventId
    · simpa [entryStep, hdiffer] using ih
    · have hstays := foldl_entryStep_true_stays tail (none, some head) rfl
      simp [entryStep, hdiffer, hstays, Ne.symm hdiffer]

section Partition

variable (hnodup : ∀ group ∈ groups, NoRepeatedKey group)

include hnodup

variable (hkeys : (distinctKeys groups).card ≤ maxConflictedStateKeys)

include hkeys

theorem lookup_partition (key : StateKey) : ((partitionConflictedState groups).1.lookup key,
        (partitionConflictedState groups).2.lookup key) =
      (listedEvents groups key).foldl
        (entryStep ((listedEvents groups key).length = groups.length)) (none, none) := by
  have hcounts : countStateKeys (groupEvents groups) = some (keyCounts (groupEvents groups)) := by
    rw [countStateKeys_eq, if_neg]
    exact not_lt.mpr hkeys
  have hcount : ∀ event ∈ listedEvents groups key,
      ((keyCounts (groupEvents groups)).lookup event.key).getD 0 =
        (listedEvents groups key).length := by
    intro event hevent
    rw [(mem_listedEvents hevent).2, lookup_keyCounts, withKey_groupEvents hnodup]
    simp [ne_nil_of_mem hevent]
  have hview := (partitionStep_actsByKey (keyCounts (groupEvents groups))
    groups.length).view_foldl (groupEvents groups) (∅, ∅) key
  rw [withKey_groupEvents hnodup] at hview
  simp only [partitionConflictedState, hcounts, hview, Finmap.lookup_empty]
  exact foldl_ext _ _ _ fun entry event hevent => by rw [hcount event hevent]

theorem unconflicted_of_listedByAll (hall : ListedByAll groups key) :
    ((partitionConflictedState groups).1.lookup key).map StateEventReference.eventId =
      leftover (listedIds groups key) := by
  have hlookup := congrArg Prod.fst (lookup_partition hnodup hkeys key)
  simp only [length_listedEvents_iff.mpr hall, decide_true] at hlookup
  rw [hlookup, foldl_entryStep_true_fst]
  rfl

theorem unconflicted_of_not_listedByAll (hall : ¬ListedByAll groups key) :
    (partitionConflictedState groups).1.lookup key = none := by
  have hlookup := congrArg Prod.fst (lookup_partition hnodup hkeys key)
  simp only [mt length_listedEvents_iff.mp hall, decide_false] at hlookup
  rw [hlookup, (foldl_entryStep_false _ _).1]

theorem mem_listedEvents_of_unconflicted
    (hevent : (partitionConflictedState groups).1.lookup key = some event) :
    event ∈ listedEvents groups key := by
  by_cases hall : ListedByAll groups key
  · have hlookup := congrArg Prod.fst (lookup_partition hnodup hkeys key)
    simp only [length_listedEvents_iff.mpr hall, decide_true, hevent] at hlookup
    rcases mem_of_foldl_entryStep_true hlookup.symm with hnone | hmem
    · cases hnone
    · exact hmem
  · rw [unconflicted_of_not_listedByAll hnodup hkeys hall] at hevent
    cases hevent

theorem unconflicted_of_not_listed (hkey : key ∉ distinctKeys groups) :
    (partitionConflictedState groups).1.lookup key = none := by
  cases hevent : (partitionConflictedState groups).1.lookup key with
  | none => rfl
  | some event =>
    have hmem := mem_listedEvents_of_unconflicted hnodup hkeys hevent
    exact absurd (listedEvents_ne_nil_iff.mp (ne_nil_of_mem hmem)) hkey

theorem mem_conflicted_iff (hkey : key ∈ distinctKeys groups) :
    key ∈ (partitionConflictedState groups).2 ↔ ¬∃ eventId, AgreedOn groups key eventId := by
  rw [← Finmap.lookup_isSome, exists_agreedOn_iff hkey]
  have hlookup := congrArg Prod.snd (lookup_partition hnodup hkeys key)
  have hne := listedEvents_ne_nil_iff.mpr hkey
  by_cases hall : ListedByAll groups key
  · simp only [length_listedEvents_iff.mpr hall, decide_true] at hlookup
    rw [hlookup, and_iff_right hall, listedIds]
    cases hevents : listedEvents groups key with
    | nil => exact absurd hevents hne
    | cons first rest =>
      change (rest.foldl (entryStep true) (some first, none)).2.isSome = true ↔ _
      rw [foldl_entryStep_true_snd]
      constructor
      · rintro ⟨event, hevent, hdiffer⟩ hsame
        refine hdiffer (hsame _ (mem_map_of_mem ?_) _ (mem_map_of_mem ?_))
        · exact mem_cons_of_mem first hevent
        · exact mem_cons_self
      · intro hdisagree
        by_contra hsame
        have hfirst : ∀ a ∈ (first :: rest).map StateEventReference.eventId, a = first.eventId := by
          simpa using hsame
        exact hdisagree fun a ha b hb => (hfirst a ha).trans (hfirst b hb).symm
  · simp only [mt length_listedEvents_iff.mp hall, decide_false] at hlookup
    rw [hlookup, (foldl_entryStep_false _ _).2]
    simp [hne, hall]

structure SoundPartition (groups : List StateGroup) (unconflicted conflicted : StateMap) :
    Prop where
  exactlyOne : ∀ key ∈ distinctKeys groups, Xor (key ∈ unconflicted) (key ∈ conflicted)
  agreed : ∀ key ∈ distinctKeys groups, key ∈ unconflicted ↔ ∃ eventId, AgreedOn groups key eventId
  held : ∀ key ∈ distinctKeys groups, ∀ eventId, AgreedOn groups key eventId →
    ∃ event ∈ listedEvents groups key,
      unconflicted.lookup key = some event ∧ event.eventId = eventId
  conflicted : ∀ key ∈ distinctKeys groups,
    key ∈ conflicted ↔ ¬∃ eventId, AgreedOn groups key eventId

theorem unconflicted_of_agreedOn (hkey : key ∈ distinctKeys groups) {eventId : Bytes}
    (hagreed : AgreedOn groups key eventId) :
    ∃ event ∈ listedEvents groups key, (partitionConflictedState groups).1.lookup key = some event ∧
        event.eventId = eventId := by
  have hall := ((exists_agreedOn_iff hkey).mp ⟨eventId, hagreed⟩).1
  have hne : listedIds groups key ≠ [] := by
    simpa [listedIds] using listedEvents_ne_nil_iff.mpr hkey
  have hlookup := unconflicted_of_listedByAll hnodup hkeys hall
  rw [leftover_of_agreed hne hagreed.of_listed] at hlookup
  obtain ⟨event, hevent, hid⟩ := map_eq_some_iff.mp hlookup
  exact ⟨event, mem_listedEvents_of_unconflicted hnodup hkeys hevent, hevent, hid⟩

/-- Under a key on which the groups disagree, the unconflicted map is empty
exactly when the listed ids cancel out. -/
theorem not_mem_unconflicted_iff : key ∉ (partitionConflictedState groups).1 ↔
      (ListedByAll groups key → CancelsOut (listedIds groups key)) := by
  rw [← Finmap.lookup_eq_none]
  by_cases hall : ListedByAll groups key
  · rw [← map_eq_none_iff, unconflicted_of_listedByAll hnodup hkeys hall,
      leftover_eq_none_iff]
    exact (imp_iff_right hall).symm
  · simp [unconflicted_of_not_listedByAll hnodup hkeys hall, hall]

/-- The partition is sound exactly when, under every key that all groups list
and disagree on, the ids in group order split into blocks of one repeated id
closed by another. With two groups they always do; with three groups a third
id is left over and put back into the unconflicted map. -/
theorem soundPartition_iff :
    SoundPartition groups (partitionConflictedState groups).1
        (partitionConflictedState groups).2 ↔
      ∀ key ∈ distinctKeys groups, ListedByAll groups key →
        (¬∃ eventId, AgreedOn groups key eventId) → CancelsOut (listedIds groups key) := by
  constructor
  · intro hsound key hkey hall hdisagree
    have hout := mt (hsound.agreed key hkey).mp hdisagree
    exact (not_mem_unconflicted_iff hnodup hkeys).mp hout hall
  · intro hcancels
    have hagreed : ∀ key ∈ distinctKeys groups, key ∈ (partitionConflictedState groups).1 ↔
          ∃ eventId, AgreedOn groups key eventId := by
      intro key hkey
      constructor
      · intro hmem
        by_contra hdisagree
        exact (not_mem_unconflicted_iff hnodup hkeys).mpr
          (fun hall => hcancels key hkey hall hdisagree) hmem
      · rintro ⟨eventId, hid⟩
        obtain ⟨event, -, hevent, -⟩ := unconflicted_of_agreedOn hnodup hkeys hkey hid
        exact Finmap.mem_iff.mpr ⟨event, hevent⟩
    have hconflicted : ∀ key ∈ distinctKeys groups, key ∈ (partitionConflictedState groups).2 ↔
          ¬∃ eventId, AgreedOn groups key eventId :=
      fun key hkey => mem_conflicted_iff hnodup hkeys hkey
    refine ⟨fun key hkey => ?_, hagreed, fun key hkey eventId hid =>
      unconflicted_of_agreedOn hnodup hkeys hkey hid, hconflicted⟩
    rw [Xor, hagreed key hkey, hconflicted key hkey]
    tauto

end Partition

def topicKey : StateKey := ⟨"m.room.topic", ""⟩

def topicEvent (eventId : Bytes) : StateEventReference :=
  ⟨topicKey, eventId, "@alice:example.org", 0, .null⟩

def topicGroups (eventIds : List Bytes) : List StateGroup :=
  eventIds.map fun eventId => ⟨[topicEvent eventId]⟩

theorem soundPartition_two_groups : SoundPartition (topicGroups ["$a", "$b"])
      (partitionConflictedState (topicGroups ["$a", "$b"])).1
      (partitionConflictedState (topicGroups ["$a", "$b"])).2 := by
  refine (soundPartition_iff (by decide +kernel) (by decide +kernel)).mpr ?_
  have honly : ∀ key ∈ distinctKeys (topicGroups ["$a", "$b"]), key = topicKey := by
    decide +kernel
  intro key hkey _ _
  rw [honly key hkey]
  exact CancelsOut.block (utf8 "$a") 0 (utf8 "$b") [] (by decide) CancelsOut.nil

theorem three_groups_put_back :
    topicKey ∈ (partitionConflictedState (topicGroups ["$a", "$b", "$c"])).1 ∧
      topicKey ∈ (partitionConflictedState (topicGroups ["$a", "$b", "$c"])).2 ∧
      listedIds (topicGroups ["$a", "$b", "$c"]) topicKey = ["$a", "$b", "$c"] := by
  decide +kernel

end Merovingian.StatePartition
