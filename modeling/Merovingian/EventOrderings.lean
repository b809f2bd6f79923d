import Merovingian.StateResolution
import Merovingian.VisibleRows

/-!
The two orderings of conflicted events. Power events are sorted by a comparator alone,
which is the reverse topological power ordering only where the comparator agrees with the
auth events. Other events are sorted by the place where the power levels events behind
them meet the mainline, as far as the walk is followed.
-/

namespace Merovingian.EventOrderings

open ByteString JsonValue RoomVersions StateResolution StableSort VisibleRows List

theorem rankedCompare_iff {γ : Type} [LinearOrder γ] (rank : StateEventReference → γ)
    (a b : StateEventReference) :
    rankedCompare rank a b = true ↔
      rankedKey rank StateEventReference.originServerTs StateEventReference.eventId a <
        rankedKey rank StateEventReference.originServerTs StateEventReference.eventId b := by
  rw [rankedKey_lt_iff, rankedCompare]
  by_cases hrank : rank a = rank b
  · by_cases htime : a.originServerTs = b.originServerTs
    · simp [hrank, htime]
    · simp [hrank, htime]
  · simp [hrank]

def Named (events : List StateEventReference) : Prop :=
  ∀ event ∈ events, ∀ other ∈ events, event.eventId = other.eventId → event = other

theorem rankedSort_eq_of_perm {γ : Type} [LinearOrder γ] (rank : StateEventReference → γ)
    {first second : List StateEventReference} (hnamed : Named first) (hperm : first.Perm second) :
    stableSort (rankedCompare rank) first = stableSort (rankedCompare rank) second := by
  refine stableSort_eq_of_perm (rankedCompare_iff rank) ?_ hperm
  intro a ha b hb hkey
  exact hnamed a ha b hb (name_eq_of_rankedKey_eq hkey)

variable {events : List StateEventReference}

theorem positionByEventId_eq (hnamed : Named events)
    (position : StateEventReference → Nat) {event : StateEventReference} (hevent : event ∈ events) :
    positionByEventId events position event.eventId = position event := by
  rw [positionByEventId]
  cases hfound : events.find? fun other => other.eventId = event.eventId with
  | none =>
    have habsent := find?_eq_none.mp hfound event hevent
    simp at habsent
  | some other =>
    have hid : other.eventId = event.eventId := by simpa using find?_some hfound
    rw [hnamed other (mem_of_find?_eq_some hfound) event hevent hid]
    rfl

theorem mainlineOrder_eq (hnamed : Named events)
    (resolved : StateMap) (eventsById : EventJsonIndex) :
    mainlineOrder events resolved eventsById = stableSort (rankedCompare
        (mainlinePosition (resolvedMainline resolved eventsById) eventsById)) events := by
  refine insertionSort_congr ?_
  intro first hfirst second hsecond
  rw [mainlineCompare, rankedCompare, rankedCompare, positionByEventId_eq hnamed _ hfirst,
    positionByEventId_eq hnamed _ hsecond]

theorem mainlineOrder_eq_of_perm (resolved : StateMap) (eventsById : EventJsonIndex)
    {first second : List StateEventReference} (hnamed : Named first) (hperm : first.Perm second) :
    mainlineOrder first resolved eventsById = mainlineOrder second resolved eventsById := by
  have hother : Named second := fun event hevent other hother =>
    hnamed event (hperm.mem_iff.mpr hevent) other (hperm.mem_iff.mpr hother)
  rw [mainlineOrder_eq hnamed, mainlineOrder_eq hother]
  exact rankedSort_eq_of_perm _ hnamed hperm

def citedEventIds (object : Object) : List Bytes :=
  ((arrayMember object "auth_events").getD []).filterMap authEntryEventId

def CitesEvent (event cited : StateEventReference) : Prop :=
  ∃ object ∈ valueIsObject event.eventJson, cited.eventId ∈ citedEventIds object

instance decidableCitesEvent (event : StateEventReference) :
    DecidablePred (CitesEvent event) := fun cited =>
  inferInstanceAs (Decidable (∃ object ∈ _, cited.eventId ∈ citedEventIds object))

/-- The power events are in the reverse topological power ordering exactly when every
event that another one cites is the smaller one of the two. -/
theorem power_sort_is_topological_iff (events : List StateEventReference) (unconflicted : StateMap)
    (policy : RoomVersionPolicy) (hdistinct : (events.map StateEventReference.eventId).Nodup) :
    KahnOrder CitesEvent (reverseTopoCompare unconflicted policy) events
        (reverseTopologicalPowerSort events unconflicted policy) ↔
      ∀ cited ∈ events, ∀ event ∈ events, CitesEvent event cited →
        reverseTopoCompare unconflicted policy cited event = true :=
  kahnOrder_stableSort_iff (rankedCompare_iff _)
    (fun _ ha _ hb hkey => inj_on_of_nodup_map hdistinct ha hb (name_eq_of_rankedKey_eq hkey))
    hdistinct.of_map

def citing (eventType : Bytes) (cited : List Bytes) : Object :=
  [(utf8 "auth_events", .array (cited.map .string)), (utf8 "type", .string eventType)]

def rulesEvent (eventId : Bytes) (originServerTs : Int64) (cited : List Bytes) :
    StateEventReference where
  key := ⟨"m.room.join_rules", ""⟩
  eventId := eventId
  sender := "@alice:example.org"
  originServerTs := originServerTs
  eventJson := .object (citing "m.room.join_rules" cited)

def inOrder : List StateEventReference := [rulesEvent "$b" 20 [utf8 "$a"], rulesEvent "$a" 10 []]

theorem older_cited_event_comes_first :
    KahnOrder CitesEvent (reverseTopoCompare ∅ roomVersion11) inOrder
      (reverseTopologicalPowerSort inOrder ∅ roomVersion11) :=
  (power_sort_is_topological_iff inOrder ∅ roomVersion11 (by decide)).mpr (by decide +kernel)

def outOfOrder : List StateEventReference :=
  [rulesEvent "$b" 10 [utf8 "$a"], rulesEvent "$a" 20 []]

theorem newer_cited_event_comes_last :
    ¬ KahnOrder CitesEvent (reverseTopoCompare ∅ roomVersion11) outOfOrder
      (reverseTopologicalPowerSort outOfOrder ∅ roomVersion11) := by
  intro horder
  have hpair : [rulesEvent "$a" 20 [], rulesEvent "$b" 10 [utf8 "$a"]].Sublist _ :=
    horder.cited (.single ⟨by simp [outOfOrder], by simp [outOfOrder], by decide +kernel⟩)
  exact absurd (hpair.map StateEventReference.eventId) (by decide +kernel)

section Mainline

variable (mainline : List Bytes) (eventsById : EventJsonIndex)

def eventObject (id : Bytes) : Option Object :=
  (eventsById.lookup id).bind valueIsObject

def indexedPowerLevels (id : Bytes) : Bool :=
  (eventObject eventsById id).any fun object =>
    stringMember object "type" = some "m.room.power_levels"

def namesPowerLevels (id : Bytes) : Bool :=
  mainline.contains id || indexedPowerLevels eventsById id

def citedPowerLevels (object : Object) : Option Bytes :=
  (citedEventIds object).find? (namesPowerLevels mainline eventsById)

/-- At most one power levels event is among the auth events. -/
def CitesOne (object : Object) : Prop :=
  ∀ id ∈ citedEventIds object, ∀ other ∈ citedEventIds object,
    namesPowerLevels mainline eventsById id = true →
      namesPowerLevels mainline eventsById other = true → id = other

/-- Replacing an event by the power levels event among its auth events for `hops` times
meets the mainline, for the first time and at the position. -/
inductive MeetsMainline : Object → Nat → Nat → Prop where
  | reached {object : Object} {id : Bytes} {position : Nat}
      (hcited : citedPowerLevels mainline eventsById object = some id)
      (hposition : mainline.idxOf? id = some position) : MeetsMainline object 1 position
  | replaced {object next : Object} {id : Bytes} {hops position : Nat}
      (hcited : citedPowerLevels mainline eventsById object = some id)
      (hoff : mainline.idxOf? id = none) (hnext : eventObject eventsById id = some next)
      (hmeets : MeetsMainline next hops position) : MeetsMainline object (hops + 1) position

def HasPosition (event : StateEventReference) (position : Nat) : Prop :=
  (∃ object ∈ valueIsObject event.eventJson, ∃ hops,
      MeetsMainline mainline eventsById object hops position) ∨
    position = infinity ∧ ∀ object ∈ valueIsObject event.eventJson, ∀ hops found,
      ¬ MeetsMainline mainline eventsById object hops found

variable {mainline eventsById} {object : Object} {hops position : Nat}

theorem MeetsMainline.unique (h : MeetsMainline mainline eventsById object hops position)
    {hops' position' : Nat} (h' : MeetsMainline mainline eventsById object hops' position') :
    hops = hops' ∧ position = position' := by
  induction h generalizing hops' position' with
  | reached hcited hposition =>
    cases h' with
    | reached hcited' hposition' =>
      obtain rfl := Option.some.inj (hcited.symm.trans hcited')
      exact ⟨rfl, Option.some.inj (hposition.symm.trans hposition')⟩
    | replaced hcited' hoff hnext hmeets =>
      obtain rfl := Option.some.inj (hcited.symm.trans hcited')
      exact absurd (hposition.symm.trans hoff) (by simp)
  | replaced hcited hoff hnext hmeets ih =>
    cases h' with
    | reached hcited' hposition' =>
      obtain rfl := Option.some.inj (hcited.symm.trans hcited')
      exact absurd (hposition'.symm.trans hoff) (by simp)
    | replaced hcited' hoff' hnext' hmeets' =>
      obtain rfl := Option.some.inj (hcited.symm.trans hcited')
      obtain rfl := Option.some.inj (hnext.symm.trans hnext')
      obtain ⟨rfl, rfl⟩ := ih hmeets'
      exact ⟨rfl, rfl⟩

theorem findSome?_eq_of_one {β γ δ : Type} {entries : List β} {read : β → Option γ}
    {look : γ → Option δ} {known : γ → Bool} (hlook : ∀ id, (look id).isSome → known id = true)
    (hone : ∀ id ∈ entries.filterMap read, ∀ other ∈ entries.filterMap read,
      known id = true → known other = true → id = other) :
    (entries.findSome? fun entry => (read entry).bind look) =
      ((entries.filterMap read).find? known).bind look := by
  induction entries with
  | nil => rfl
  | cons entry rest ih =>
    cases hread : read entry with
    | none =>
      simp only [filterMap_cons, hread] at hone
      simpa [hread] using ih hone
    | some id =>
      simp only [filterMap_cons, hread, mem_cons, forall_eq_or_imp] at hone
      have hrest := ih fun first hfirst second hsecond =>
        (hone.2 first hfirst).2 second hsecond
      simp only [findSome?_cons, hread, filterMap_cons, find?_cons, Option.bind_some, hrest]
      cases hfound : look id with
      | some found => simp [hlook id (by simp [hfound]), hfound]
      | none =>
        cases hknown : known id with
        | false => rfl
        | true =>
          cases hother : (rest.filterMap read).find? known with
          | none => simp [hfound]
          | some other =>
            obtain rfl := hone.1.2 other (mem_of_find?_eq_some hother) hknown
              (find?_some hother)
            simp [hfound]

theorem mainlinePositionFrom_succ (hone : CitesOne mainline eventsById object) (fuel : Nat)
    (visited : List Bytes) :
    mainlinePositionFrom mainline eventsById (fuel + 1) visited (some object) =
      match citedPowerLevels mainline eventsById object with
      | none => infinity
      | some id =>
        match mainline.idxOf? id with
        | some depth => depth
        | none =>
          if visited.contains id then infinity
          else mainlinePositionFrom mainline eventsById fuel (id :: visited)
            (eventObject eventsById id) := by
  have hancestor : powerLevelsAuthAncestor object eventsById =
      (citedPowerLevels mainline eventsById object).bind fun id =>
        (some id).filter (indexedPowerLevels eventsById) := by
    have hbind : ∀ entry, (authEntryEventId entry).filter (indexedPowerLevels eventsById) =
        (authEntryEventId entry).bind fun id => (some id).filter (indexedPowerLevels eventsById) :=
      fun entry => by cases authEntryEventId entry <;> rfl
    refine (congrArg (fun look => findSome? look _) (funext hbind)).trans ?_
    refine findSome?_eq_of_one ?_ hone
    intro id hsome
    rw [Option.isSome_filter, Option.any_some] at hsome
    simp [namesPowerLevels, hsome]
  rw [mainlinePositionFrom, hancestor]
  cases hauth : arrayMember object "auth_events" with
  | none => simp [citedPowerLevels, citedEventIds, hauth]
  | some auth =>
    have hcited : citedEventIds object = auth.filterMap authEntryEventId := by
      rw [citedEventIds, hauth]
      rfl
    have hsearch : (auth.findSome? fun entry => (authEntryEventId entry).bind fun id =>
        mainline.idxOf? id) =
        (citedPowerLevels mainline eventsById object).bind fun id => mainline.idxOf? id := by
      rw [CitesOne, hcited] at hone
      rw [citedPowerLevels, hcited]
      refine findSome?_eq_of_one ?_ hone
      intro id hsome
      simp [namesPowerLevels, isSome_idxOf?.mp hsome]
    dsimp only
    rw [hsearch]
    cases hid : citedPowerLevels mainline eventsById object with
    | none => rfl
    | some id =>
      have hnames := find?_some hid
      cases hdepth : mainline.idxOf? id with
      | some depth => simp [hdepth]
      | none =>
        have hoff := idxOf?_eq_none_iff.mp hdepth
        simp only [namesPowerLevels, contains_eq_mem, hoff, decide_false, Bool.false_or] at hnames
        simp only [Option.bind_some, hdepth, Option.filter_some, hnames, if_true, eventObject]

section

variable (hindex : ∀ id, ∀ next ∈ eventObject eventsById id, CitesOne mainline eventsById next)
include hindex

theorem mainlinePositionFrom_sound (fuel : Nat) (visited : List Bytes)
    (hone : CitesOne mainline eventsById object) :
    mainlinePositionFrom mainline eventsById fuel visited (some object) = infinity ∨
      ∃ hops, MeetsMainline mainline eventsById object hops
        (mainlinePositionFrom mainline eventsById fuel visited (some object)) := by
  induction fuel generalizing visited object with
  | zero => exact .inl rfl
  | succ fuel ih =>
    rw [mainlinePositionFrom_succ hone]
    split
    · exact .inl rfl
    next id hcited =>
      split
      next depth hdepth => exact .inr ⟨1, .reached hcited hdepth⟩
      next hoff =>
        split_ifs
        · exact .inl rfl
        · cases hnext : eventObject eventsById id with
          | none => exact .inl (by cases fuel <;> rfl)
          | some next =>
            rcases ih (id :: visited) (hindex id next hnext) with hlost | ⟨hops, hmeets⟩
            · exact .inl hlost
            · exact .inr ⟨hops + 1, .replaced hcited hoff hnext hmeets⟩

/-- The walk finds what is met, if it may go on for as long as that takes. Whatever was
visited meets the mainline later. -/
theorem mainlinePositionFrom_complete
    (hmeets : MeetsMainline mainline eventsById object hops position) {fuel : Nat}
    {visited : List Bytes} (hone : CitesOne mainline eventsById object) (hfuel : hops ≤ fuel)
    (hvisited : ∀ id ∈ visited, ∃ next more found, eventObject eventsById id = some next ∧
      MeetsMainline mainline eventsById next more found ∧ hops ≤ more) :
    mainlinePositionFrom mainline eventsById fuel visited (some object) = position := by
  induction hmeets generalizing fuel visited with
  | reached hcited hposition =>
    obtain ⟨fuel, rfl⟩ := Nat.exists_eq_succ_of_ne_zero (by omega : fuel ≠ 0)
    rw [mainlinePositionFrom_succ hone, hcited]
    dsimp only
    rw [hposition]
  | @replaced object next id hops position hcited hoff hnext hmeets ih =>
    obtain ⟨fuel, rfl⟩ := Nat.exists_eq_succ_of_ne_zero (by omega : fuel ≠ 0)
    have hnew : id ∉ visited := by
      intro hmem
      obtain ⟨again, more, found, hagain, hlater, hle⟩ := hvisited id hmem
      obtain rfl := Option.some.inj (hnext.symm.trans hagain)
      have := (hmeets.unique hlater).1
      omega
    rw [mainlinePositionFrom_succ hone, hcited]
    dsimp only
    rw [hoff]
    simp only [contains_eq_mem, hnew, decide_false, Bool.false_eq_true, if_false, hnext]
    refine ih (hindex id next hnext) (by omega) ?_
    intro other hother
    rcases mem_cons.mp hother with rfl | hold
    · exact ⟨next, hops, position, hnext, hmeets, le_rfl⟩
    · obtain ⟨again, more, found, hagain, hlater, hle⟩ := hvisited other hold
      exact ⟨again, more, found, hagain, hlater, by omega⟩

end

section

variable (mainline : List Bytes) (eventsById : EventJsonIndex)

def EachCitesOne (events : List StateEventReference) : Prop :=
  (∀ event ∈ events, ∀ object ∈ valueIsObject event.eventJson,
      CitesOne mainline eventsById object) ∧
    ∀ entry ∈ eventsById.entries, ∀ object ∈ valueIsObject entry.2,
      CitesOne mainline eventsById object

/-- Where an event of the list meets the mainline, it does so within the depth cap. -/
def MetInTime (events : List StateEventReference) : Prop :=
  ∀ event ∈ events, ∀ object ∈ valueIsObject event.eventJson, ∀ hops position,
    MeetsMainline mainline eventsById object hops position → hops ≤ maxMainlineAuthChainDepth

def AscendsByPosition (order : List StateEventReference) : Prop :=
  ∃ position, (∀ event ∈ order, HasPosition mainline eventsById event (position event)) ∧
    order.Pairwise fun first second => rankedCompare position first second = true

end

theorem EachCitesOne.indexed
    (h : EachCitesOne mainline eventsById events) (id : Bytes) :
    ∀ next ∈ eventObject eventsById id, CitesOne mainline eventsById next := by
  intro next hnext
  obtain ⟨value, hlookup, hvalue⟩ := Option.bind_eq_some_iff.mp hnext
  exact h.2 ⟨id, value⟩ (Finmap.lookup_eq_some_iff.mp hlookup) next hvalue

theorem hasPosition_mainlinePosition
    (hlength : mainline.length < maxMainlineAuthChainDepth)
    (hone : EachCitesOne mainline eventsById events) (htime : MetInTime mainline eventsById events)
    {event : StateEventReference} (hevent : event ∈ events) :
    HasPosition mainline eventsById event (mainlinePosition mainline eventsById event) := by
  rw [mainlinePosition, if_neg (by omega)]
  cases hobject : valueIsObject event.eventJson with
  | none =>
    exact .inr ⟨rfl, by rw [hobject]; rintro _ ⟨⟩⟩
  | some object =>
    have hcites := hone.1 event hevent object hobject
    by_cases hmeets : ∃ hops position, MeetsMainline mainline eventsById object hops position
    · obtain ⟨hops, position, hmeets⟩ := hmeets
      rw [mainlinePositionFrom_complete hone.indexed hmeets hcites
        (htime event hevent object hobject hops position hmeets) (by simp)]
      exact .inl ⟨object, hobject, hops, hmeets⟩
    · rcases mainlinePositionFrom_sound hone.indexed maxMainlineAuthChainDepth [] hcites with
        hlost | ⟨hops, hfound⟩
      · refine .inr ⟨hlost, ?_⟩
        rw [hobject]
        rintro _ ⟨⟩ hops position hfound
        exact hmeets ⟨hops, position, hfound⟩
      · exact absurd ⟨hops, _, hfound⟩ hmeets

/-- The result is the list in an order that depends on its events alone, and where the walks
are not cut short it ascends by the position on the mainline. -/
theorem mainline_order_ascends (events : List StateEventReference) (resolved : StateMap)
    (eventsById : EventJsonIndex) (hdistinct : (events.map StateEventReference.eventId).Nodup) :
    (mainlineOrder events resolved eventsById).Perm events ∧ (∀ others, others.Perm events →
        mainlineOrder others resolved eventsById = mainlineOrder events resolved eventsById) ∧
      ((resolvedMainline resolved eventsById).length < maxMainlineAuthChainDepth →
        EachCitesOne (resolvedMainline resolved eventsById) eventsById events →
        MetInTime (resolvedMainline resolved eventsById) eventsById events →
        AscendsByPosition (resolvedMainline resolved eventsById) eventsById
          (mainlineOrder events resolved eventsById)) := by
  have hnamed : Named events := fun _ ha _ hb => inj_on_of_nodup_map hdistinct ha hb
  refine ⟨perm_stableSort _ events, ?_, ?_⟩
  · intro others hperm
    exact (mainlineOrder_eq_of_perm resolved eventsById hnamed hperm.symm).symm
  · intro hlength hone htime
    rw [mainlineOrder_eq hnamed]
    refine ⟨_, fun event hevent => hasPosition_mainlinePosition hlength hone htime
      (mem_stableSort.mp hevent), strict_stableSort (rankedCompare_iff _) ?_ hdistinct.of_map⟩
    intro a ha b hb hkey
    exact hnamed a ha b hb (name_eq_of_rankedKey_eq hkey)

end Mainline

section Samples

def headState : StateMap :=
  (∅ : StateMap).insert powerLevelsKey
    { rulesEvent "$p" 0 [] with
      key := powerLevelsKey, eventJson := .object (citing "m.room.power_levels" []) }

theorem resolvedMainline_headState (eventsById : EventJsonIndex) :
    resolvedMainline headState eventsById = [utf8 "$p"] := by
  rfl

@[simp] theorem citedEventIds_citing (eventType : Bytes) (cited : List Bytes) :
    citedEventIds (citing eventType cited) = cited := by
  have hauth : arrayMember (citing eventType cited) "auth_events" = some (cited.map .string) := rfl
  simp [citedEventIds, hauth, filterMap_map, Function.comp_def, authEntryEventId]

theorem citesOne_citing (mainline : List Bytes) (eventsById : EventJsonIndex)
    (eventType id : Bytes) :
    CitesOne mainline eventsById (citing eventType [id]) := by
  simp [CitesOne]

theorem meets_head (eventsById : EventJsonIndex) (eventType : Bytes) :
    MeetsMainline [utf8 "$p"] eventsById (citing eventType [utf8 "$p"]) 1 0 :=
  have hcited : citedPowerLevels [utf8 "$p"] eventsById (citing eventType [utf8 "$p"]) =
      some (utf8 "$p") := by
    simp [citedPowerLevels, namesPowerLevels]
  .reached hcited rfl

theorem two_events_ascend : AscendsByPosition [utf8 "$p"] ∅ (mainlineOrder
      [rulesEvent "$b" 20 [utf8 "$p"], rulesEvent "$a" 10 [utf8 "$p"]] headState ∅) := by
  have hascends := (mainline_order_ascends
    [rulesEvent "$b" 20 [utf8 "$p"], rulesEvent "$a" 10 [utf8 "$p"]] headState ∅ (by decide)).2.2
  rw [resolvedMainline_headState] at hascends
  refine hascends (by decide)
    ⟨?_, fun entry hentry => absurd hentry (Multiset.notMem_zero entry)⟩ ?_
  · simp [rulesEvent, valueIsObject, citesOne_citing]
  · have hfirst : ∀ hops position, MeetsMainline [utf8 "$p"] ∅
        (citing "m.room.join_rules" [utf8 "$p"]) hops position →
          hops ≤ maxMainlineAuthChainDepth := by
      intro hops position hmeets
      obtain rfl := (hmeets.unique (meets_head ∅ _)).1
      decide
    simpa [MetInTime, rulesEvent, valueIsObject] using hfirst

def chainId (place : Nat) : Bytes :=
  List.replicate (place + 1) (byte 'q')

def chainCited : Nat → Bytes
  | 0 => "$p"
  | place + 1 => chainId place

def longChain : EventJsonIndex :=
  ((List.range maxMainlineAuthChainDepth).map fun place =>
    (⟨chainId place, .object (citing "m.room.power_levels" [chainCited place])⟩ :
      Sigma fun _ : Bytes => Value)).toFinmap

theorem idxOf?_chainId (place : Nat) : [utf8 "$p"].idxOf? (chainId place) = none := by
  rw [idxOf?_eq_none_iff, mem_singleton, chainId, replicate_succ]
  intro heq
  have hhead := congrArg head? heq
  rw [head?_cons] at hhead
  exact absurd hhead (by decide)

section

variable {place : Nat} (hplace : place < maxMainlineAuthChainDepth)
include hplace

theorem eventObject_chainId :
    eventObject longChain (chainId place) =
      some (citing "m.room.power_levels" [chainCited place]) := by
  have hkeys : ((range maxMainlineAuthChainDepth).map chainId).Nodup :=
    nodup_range.map fun first second heq => by simpa [chainId] using heq
  rw [eventObject, longChain, Finmap.dlookup_list_toFinmap, mem_dlookup (b := .object
    (citing "m.room.power_levels" [chainCited place]))]
  · rfl
  · rw [List.NodupKeys, keys, map_map]
    exact hkeys
  · exact mem_map.mpr ⟨place, mem_range.mpr hplace, rfl⟩

theorem citedPowerLevels_chainId (eventType : Bytes) :
    citedPowerLevels [utf8 "$p"] longChain (citing eventType [chainId place]) =
      some (chainId place) := by
  have hindexed : indexedPowerLevels longChain (chainId place) = true := by
    rw [indexedPowerLevels, eventObject_chainId hplace]
    rfl
  simp [citedPowerLevels, namesPowerLevels, hindexed]

theorem meets_chain (eventType : Bytes) :
    MeetsMainline [utf8 "$p"] longChain (citing eventType [chainId place]) (place + 2) 0 := by
  induction place generalizing eventType with
  | zero =>
    exact .replaced (citedPowerLevels_chainId hplace eventType) (idxOf?_chainId 0)
      (eventObject_chainId hplace) (meets_head _ _)
  | succ place ih =>
    exact .replaced (citedPowerLevels_chainId hplace eventType) (idxOf?_chainId _)
      (eventObject_chainId hplace) (ih (by omega) _)

theorem lost_in_chain {fuel : Nat} (hfuel : fuel ≤ place + 1) (visited : List Bytes)
    (eventType : Bytes) :
    mainlinePositionFrom [utf8 "$p"] longChain fuel visited
      (some (citing eventType [chainId place])) = infinity := by
  induction fuel generalizing place visited eventType with
  | zero => rfl
  | succ fuel ih =>
    rw [mainlinePositionFrom_succ (citesOne_citing _ _ _ _),
      citedPowerLevels_chainId hplace eventType]
    dsimp only
    rw [idxOf?_chainId]
    split_ifs
    · rfl
    · rw [eventObject_chainId hplace]
      cases place with
      | zero =>
        obtain rfl : fuel = 0 := by omega
        rfl
      | succ place => exact ih (by omega) (by omega) _ _

end

/-- One event cites the mainline, and the other the end of a chain that is as long as the walk
may be. Both have position 0, but the newer one goes first. -/
def nearAndFar : List StateEventReference :=
  [rulesEvent "$near" 10 [utf8 "$p"], rulesEvent "$far" 20 [chainId 9999]]

theorem long_chain_is_cut : (nearAndFar.map StateEventReference.eventId).Nodup ∧
      (resolvedMainline headState longChain).length < maxMainlineAuthChainDepth ∧
      EachCitesOne (resolvedMainline headState longChain) longChain nearAndFar ∧
      ¬ AscendsByPosition (resolvedMainline headState longChain) longChain
        (mainlineOrder nearAndFar headState longChain) := by
  have hdistinct : (nearAndFar.map StateEventReference.eventId).Nodup := by decide
  have hnamed : Named nearAndFar := fun _ ha _ hb => inj_on_of_nodup_map hdistinct ha hb
  rw [resolvedMainline_headState, mainlineOrder_eq hnamed, resolvedMainline_headState]
  refine ⟨hdistinct, by decide, ⟨?_, ?_⟩, ?_⟩
  · simp [nearAndFar, rulesEvent, valueIsObject, citesOne_citing]
  · rintro ⟨id, value⟩ hentry
    have hfound := Finmap.lookup_eq_some_iff.mpr hentry
    rw [longChain, Finmap.dlookup_list_toFinmap] at hfound
    obtain ⟨place, -, hplace⟩ := mem_map.mp (of_mem_dlookup hfound)
    cases hplace
    rintro _ ⟨⟩
    exact citesOne_citing _ _ _ _
  · rintro ⟨position, hposition, hpairwise⟩
    have hnear : mainlinePosition [utf8 "$p"] longChain
        (rulesEvent "$near" 10 [utf8 "$p"]) = 0 := by
      rw [mainlinePosition, if_neg (by decide)]
      refine (mainlinePositionFrom_succ (citesOne_citing _ _ _ _) 9999 []).trans ?_
      rfl
    have hfar : mainlinePosition [utf8 "$p"] longChain (rulesEvent "$far" 20 [chainId 9999]) =
        infinity := by
      rw [mainlinePosition, if_neg (by decide)]
      exact lost_in_chain (by decide) (by decide) [] "m.room.join_rules"
    have hbefore : rankedCompare (mainlinePosition [utf8 "$p"] longChain)
        (rulesEvent "$far" 20 [chainId 9999]) (rulesEvent "$near" 10 [utf8 "$p"]) = true := by
      rw [rankedCompare, hnear, hfar]
      rfl
    have hsorted : stableSort (rankedCompare (mainlinePosition [utf8 "$p"] longChain)) nearAndFar =
        nearAndFar.reverse := by
      simp [stableSort, nearAndFar, hbefore]
    have hzero : ∀ event ∈ nearAndFar, ∀ object hops, valueIsObject event.eventJson = some object →
        MeetsMainline [utf8 "$p"] longChain object hops 0 → position event = 0 := by
      intro event hevent object hops hobject hmeets
      rcases hposition event (mem_stableSort.mpr hevent) with
        ⟨other, hother, more, hfound⟩ | ⟨-, hnone⟩
      · obtain rfl := Option.some.inj (hobject.symm.trans hother)
        exact (hfound.unique hmeets).2
      · exact absurd hmeets (hnone object hobject hops 0)
    rw [hsorted] at hpairwise
    have hcompare := (pairwise_cons.mp hpairwise).1 _ mem_cons_self
    rw [rankedCompare, hzero _ (by simp [nearAndFar]) _ _ rfl (meets_chain (by decide) _),
      hzero _ (by simp [nearAndFar]) _ _ rfl (meets_head _ _)] at hcompare
    exact absurd hcompare (by decide)

end Samples

end Merovingian.EventOrderings
