import Merovingian.ConnectionRuns

/-!
The client's copy of the sliding lists. It applies the operations of the responses in
order and never sees the sorted list itself. The server leaves an operation out where
the previous window, read with the offsets of the new ranges, has the same rooms; that
says something about the client only if these offsets mean the same indices.
-/

namespace Merovingian.SlidingWindows

open ByteString KeyedFold OperationRuns SyncSurfaces SlidingSyncRequests SlidingSyncLists
  SlidingSync ConnectionRuns List

section Indices

/-- The indices that the ranges cover, in order. -/
def coveredIndices (ranges : List SlidingSyncRange) : List Nat :=
  ranges.flatMap fun range => List.range' range.start (range.end_ + 1 - range.start)

variable {sorted : List Bytes} {ranges : List SlidingSyncRange}

theorem coveredIndices_cons (range : SlidingSyncRange) (rest : List SlidingSyncRange) :
    coveredIndices (range :: rest) =
      range' range.start (range.end_ + 1 - range.start) ++ coveredIndices rest :=
  flatMap_cons

theorem mem_coveredIndices {index : Nat} : index ∈ coveredIndices ranges ↔
      ∃ range ∈ ranges, range.start ≤ index ∧ index ≤ range.end_ := by
  simp only [coveredIndices, mem_flatMap, mem_range'_1]
  refine exists_congr fun range => and_congr_right fun _ => and_congr_right fun _ => ?_
  omega

theorem pairwise_ranges (hvalid : slidingSyncRangesValid ranges = true) :
    ranges.Pairwise fun first second => first.end_ < second.start := by
  induction ranges with
  | nil => exact .nil
  | cons range rest ih =>
    obtain ⟨-, hlater, hrest⟩ := slidingSyncRangesValid_cons hvalid
    exact .cons hlater (ih hrest)

theorem pairwise_coveredIndices (hvalid : slidingSyncRangesValid ranges = true) :
    (coveredIndices ranges).Pairwise (· < ·) := by
  refine pairwise_flatMap.mpr ⟨fun _ _ => pairwise_lt_range', (pairwise_ranges hvalid).imp ?_⟩
  intro first second hlt index hindex other hother
  rw [mem_range'_1] at hindex hother
  omega

variable (sorted) in
theorem getElem?_rangeSlice {range : SlidingSyncRange} {index : Nat} (hstart : range.start ≤ index)
    (hend : index ≤ range.end_) :
    (rangeSlice sorted range)[index - range.start]? = sorted[index]? := by
  rw [rangeSlice, getElem?_take_of_lt (by omega), getElem?_drop, Nat.add_sub_cancel' hstart]

theorem rangeSlice_eq_filterMap (range : SlidingSyncRange) : rangeSlice sorted range =
      (range' range.start (range.end_ + 1 - range.start)).filterMap (sorted[·]?) := by
  unfold rangeSlice
  generalize range.end_ + 1 - range.start = length
  generalize range.start = start
  induction length generalizing start with
  | zero => rfl
  | succ length ih =>
    rw [range'_succ, filterMap_cons, ← ih]
    rcases hroom : sorted[start]? with _ | room
    · have hpast : sorted.length ≤ start := getElem?_eq_none_iff.mp hroom
      simp [drop_eq_nil_of_le hpast, drop_eq_nil_of_le (hpast.trans (Nat.le_succ _))]
    · obtain ⟨hlt, rfl⟩ := List.getElem?_eq_some_iff.mp hroom
      rw [drop_eq_getElem_cons hlt, take_succ_cons]

theorem windowRooms_eq_filterMap :
    windowRooms sorted ranges = (coveredIndices ranges).filterMap (sorted[·]?) := by
  rw [windowRooms, coveredIndices, filterMap_flatMap]
  exact flatMap_congr fun range _ => rangeSlice_eq_filterMap range

theorem getElem?_filterMap_of_pairwise {indices : List Nat} (hgrow : indices.Pairwise (· < ·))
    (position : Nat) :
    (indices.filterMap (sorted[·]?))[position]? = indices[position]?.bind (sorted[·]?) := by
  induction indices generalizing position with
  | nil => rfl
  | cons index rest ih =>
    obtain ⟨hafter, hrest⟩ := pairwise_cons.mp hgrow
    rw [filterMap_cons]
    rcases hroom : sorted[index]? with _ | room
    · have hpast : sorted.length ≤ index := getElem?_eq_none_iff.mp hroom
      have hnone : ∀ other ∈ index :: rest, sorted[other]? = none := by
        intro other hother
        rw [getElem?_eq_none_iff]
        rcases mem_cons.mp hother with rfl | hlater
        · exact hpast
        · exact hpast.trans (hafter other hlater).le
      have hempty : rest.filterMap (sorted[·]?) = [] :=
        filterMap_eq_nil_iff.mpr fun other hother =>
          hnone other (mem_cons_of_mem _ hother)
      rcases hat : (index :: rest)[position]? with _ | other
      · simp [hempty]
      · simp [hempty, hnone other (mem_of_getElem? hat)]
    · cases position with
      | zero => exact hroom.symm
      | succ position => exact ih hrest position

end Indices

section Operations

abbrev ClientList := Nat → Option Bytes

/-- An operation replaces what stood in its range. -/
def applyOp (held : ClientList) (op : SlidingSyncOp) : ClientList := fun index =>
  if op.range.start ≤ index ∧ index ≤ op.range.end_ then op.roomIds[index - op.range.start]?
  else held index

def applyOps (held : ClientList) (ops : List SlidingSyncOp) : ClientList := ops.foldl applyOp held

/-- In the range, and as far as the list goes, the client holds the sorted list. -/
def ShowsRange (held : ClientList) (sorted : List Bytes) (range : SlidingSyncRange) : Prop :=
  ∀ index, range.start ≤ index → index ≤ range.end_ → index < sorted.length →
    held index = sorted[index]?

/-- The piece of the window at the offset of a range is what the client holds from the
start of that range on. -/
def Aligned (held : ClientList) (window : List Bytes) (offset : Nat)
    (ranges : List SlidingSyncRange) : Prop :=
  ∀ position index room, (coveredIndices ranges)[position]? = some index →
    window[offset + position]? = some room → held index = some room

variable {sorted window : List Bytes} {ranges : List SlidingSyncRange} {held : ClientList}

theorem applyOps_outside {ops : List SlidingSyncOp} {index : Nat}
    (houtside : ∀ op ∈ ops, index < op.range.start ∨ op.range.end_ < index) :
    applyOps held ops index = held index := by
  induction ops generalizing held with
  | nil => rfl
  | cons op rest ih =>
    have hrest : applyOps (applyOp held op) rest index = applyOp held op index :=
      ih fun other hother => houtside other (mem_cons_of_mem _ hother)
    refine hrest.trans (if_neg ?_)
    have hop := houtside op mem_cons_self
    omega

theorem showsRange_applyOps (hvalid : slidingSyncRangesValid ranges = true)
    {ops : List SlidingSyncOp} (hops : ops.Sublist (makeSyncOps sorted ranges))
    (hcomplete : ∀ range ∈ ranges,
      ⟨range, rangeSlice sorted range⟩ ∈ ops ∨ ShowsRange held sorted range) :
    ∀ range ∈ ranges, ShowsRange (applyOps held ops) sorted range := by
  intro range hrange
  have hsymm : Std.Symm fun first second : SlidingSyncRange =>
      first.end_ < second.start ∨ second.end_ < first.start := ⟨fun _ _ => Or.symm⟩
  have hapart : ranges.Pairwise fun first second =>
      first.end_ < second.start ∨ second.end_ < first.start :=
    (pairwise_ranges hvalid).imp fun hlt => .inl hlt
  have hfrom : ∀ op ∈ ops, op.range ∈ ranges ∧ op = ⟨op.range, rangeSlice sorted op.range⟩ := by
    intro op hop
    obtain ⟨other, hother, rfl⟩ := mem_map.mp (hops.subset hop)
    exact ⟨hother, rfl⟩
  by_cases hop : (⟨range, rangeSlice sorted range⟩ : SlidingSyncOp) ∈ ops
  · -- the operations after it are for later ranges
    obtain ⟨before, after, rfl⟩ := append_of_mem hop
    have hordered : (makeSyncOps sorted ranges).Pairwise fun first second =>
        first.range.end_ < second.range.start := pairwise_map.mpr (pairwise_ranges hvalid)
    have hlater := (pairwise_cons.mp (pairwise_append.mp (hordered.sublist hops)).2.1).1
    intro index hstart hend hindex
    rw [applyOps, foldl_append, foldl_cons]
    refine (applyOps_outside fun op hafter => .inl ?_).trans
      ((if_pos ⟨hstart, hend⟩).trans (getElem?_rangeSlice _ hstart hend))
    exact hend.trans_lt (hlater op hafter)
  · intro index hstart hend hindex
    refine (applyOps_outside fun op hother => ?_).trans
      ((hcomplete range hrange).resolve_left hop index hstart hend hindex)
    obtain ⟨hmem, heq⟩ := hfrom op hother
    have hne : op.range ≠ range := fun h => hop (h ▸ heq ▸ hother)
    have hdisjoint := hapart.forall hmem hrange hne
    omega

theorem changedSyncOps_sublist (offset : Nat) :
    (changedSyncOps sorted window offset ranges).Sublist (makeSyncOps sorted ranges) := by
  induction ranges generalizing offset with
  | nil => exact List.Sublist.slnil
  | cons range rest ih =>
    unfold changedSyncOps
    simp only
    generalize (if range.end_ ≥ range.start then range.end_ - range.start + 1 else 0) = len
    split_ifs
    · exact (ih _).cons_cons _
    · exact (ih _).cons _

theorem changed_or_shown (hvalid : slidingSyncRangesValid ranges = true) {offset : Nat}
    (haligned : Aligned held window offset ranges) :
    ∀ range ∈ ranges,
      ⟨range, rangeSlice sorted range⟩ ∈ changedSyncOps sorted window offset ranges ∨
        ShowsRange held sorted range := by
  induction ranges generalizing offset with
  | nil => simp
  | cons range rest ih =>
    obtain ⟨hordered, -, hrest⟩ := slidingSyncRangesValid_cons hvalid
    have hlength : range.end_ - range.start + 1 = range.end_ + 1 - range.start := by omega
    have halignedRest : Aligned held window (offset + (range.end_ - range.start + 1)) rest := by
      intro position index room hindex hroom
      refine haligned (range.end_ - range.start + 1 + position) index room ?_
        (by rwa [← Nat.add_assoc])
      rw [coveredIndices_cons, getElem?_append_right (by simp; omega)]
      simpa [hlength] using hindex
    intro other hother
    unfold changedSyncOps
    simp only [ge_iff_le, hordered, if_true]
    rcases mem_cons.mp hother with rfl | hlater
    · split_ifs with hchanged
      · exact .inl mem_cons_self
      · refine .inr fun index hstart hend hindex => ?_
        have hpiece := getElem?_rangeSlice sorted hstart hend
        rw [not_not.mp hchanged, getElem?_take_of_lt (by omega), getElem?_drop,
          getElem?_eq_getElem hindex] at hpiece
        rw [getElem?_eq_getElem hindex]
        refine haligned (index - other.start) index _ ?_ hpiece
        rw [coveredIndices_cons, getElem?_append_left (by simp; omega), getElem?_range' (by omega)]
        simp [Nat.add_sub_cancel' hstart]
    · rcases ih hrest halignedRest other hlater with hop | hshown
      · split_ifs
        · exact .inl (mem_cons_of_mem _ hop)
        · exact .inl hop
      · exact .inr hshown

end Operations

section Runs

/-- The requests of one connection, whatever position they carry. The lists of a
request have different names. -/
inductive WindowAction (client : Client) where
  | change (tables : SyncTables)
  | request (call : SlidingSyncCall) (hnames : (call.request.lists.map Prod.fst).Nodup)
  | other (user deviceId : Bytes) (call : SlidingSyncCall)
      (hother : requestConnectionKey user deviceId call.request ≠ client.key)

structure WindowRun where
  runtime : SlidingSyncRuntime
  responses : List SentResponse := []

variable (host : SyncHost) {client : Client}

def connectedCall (client : Client) (call : SlidingSyncCall) : SlidingSyncCall :=
  { call with request := { call.request with connId := client.connId } }

def answered (client : Client) (run : WindowRun) (call : SlidingSyncCall) : SentResponse where
  tables := run.runtime.toSyncTables
  connection := foundConnection run.runtime client.user client.deviceId (connectedCall client call)
  call := connectedCall client call
  arrives := true

def WindowRun.act (run : WindowRun) : WindowAction client → WindowRun
  | .change tables => { run with runtime := { run.runtime with toSyncTables := tables } }
  | .request call _ =>
    match dispatchSlidingSync host run.runtime client.user client.deviceId
        (connectedCall client call) with
    | (.complete _, runtime) =>
      { runtime, responses := run.responses ++ [answered client run call] }
    | (_, runtime) => { run with runtime }
  | .other user deviceId call _ =>
    { run with runtime := (dispatchSlidingSync host run.runtime user deviceId call).2 }

def applyResponse (lists : Bytes → ClientList) (response : SlidingSyncResponse) :
    Bytes → ClientList := fun name =>
  match rowAt Prod.fst response.lists name with
  | none => lists name
  | some entry => applyOps (lists name) entry.2.2

def clientLists (client : Client) (responses : List SentResponse) : Bytes → ClientList :=
  responses.foldl (fun lists sent => applyResponse lists (sent.response host client))
    fun _ _ => none

def sortedIn (client : Client) (sent : SentResponse) (list : SlidingSyncList) : List Bytes :=
  sortedRoomIds host sent.tables client.user list

def lastWith (name : Bytes) (responses : List SentResponse) :
    Option (SentResponse × SlidingSyncList) :=
  (responses.filterMap fun sent =>
    (rowAt Prod.fst sent.call.request.lists name).map fun entry => (sent, entry.2)).getLast?

def committedWindow (connection : SlidingSyncConnectionState) (name : Bytes) : List Bytes :=
  ((rowAt Prod.fst connection.listPrevWindows name).map Prod.snd).getD []

/-- The committed window is that of the last response with the list, and as far as it
goes the new ranges cover the indices that it was cut from. -/
def Continues (client : Client) (responses : List SentResponse) (committed : List Bytes)
    (name : Bytes) (list : SlidingSyncList) : Prop :=
  ∃ last ∈ lastWith name responses,
    committed = windowRooms (sortedIn host client last.1 last.2) last.2.ranges ∧
      (coveredIndices list.ranges).take committed.length <+: coveredIndices last.2.ranges

/-- Every list of a request starts anew or continues its last response. -/
def Steady (run : WindowRun) : WindowAction client → Prop
  | .request call _ =>
    ∀ entry ∈ call.request.lists,
      committedWindow (answered client run call).connection entry.1 = [] ∨
        Continues host client run.responses
          (committedWindow (answered client run call).connection entry.1) entry.1 entry.2
  | _ => True

instance decidableContinues (client : Client) (responses : List SentResponse)
    (committed : List Bytes) (name : Bytes) (list : SlidingSyncList) :
    Decidable (Continues host client responses committed name list) :=
  inferInstanceAs (Decidable (∃ last ∈ lastWith name responses, _ ∧ _))

instance decidableSteady (run : WindowRun) :
    DecidablePred (Steady host run : WindowAction client → Prop)
  | .change _ => isTrue trivial
  | .request call _ => inferInstanceAs (Decidable (∀ entry ∈ call.request.lists, _ ∨ _))
  | .other _ _ _ _ => isTrue trivial

end Runs

section Steps

variable {host : SyncHost} {client : Client} {run : WindowRun} {responses : List SentResponse}

structure Current (host : SyncHost) (client : Client) (responses : List SentResponse) : Prop where
  names : ∀ sent ∈ responses, (sent.call.request.lists.map Prod.fst).Nodup
  shown : ∀ name last, lastWith name responses = some last → ∀ range ∈ last.2.ranges,
    ShowsRange (clientLists host client responses name) (sortedIn host client last.1 last.2) range

def opsFor (host : SyncHost) (client : Client) (sent : SentResponse)
    (entry : Bytes × SlidingSyncList) : List SlidingSyncOp :=
  (windowResult (sortedIn host client sent entry.2) entry.2.ranges
    (committedWindow sent.connection entry.1)).ops

theorem rowAt_lists_response (sent : SentResponse) (name : Bytes) :
    rowAt Prod.fst (sent.response host client).lists name =
      (rowAt Prod.fst sent.call.request.lists name).map fun entry =>
        (entry.1, (sortedIn host client sent entry.2).length, opsFor host client sent entry) := by
  have hlists : (sent.response host client).lists = sent.call.request.lists.map fun entry =>
        (entry.1, (sortedIn host client sent entry.2).length, opsFor host client sent entry) := by
    change (listResults host sent.tables client.user sent.call.request
      sent.connection.toConnectionSnapshot).map _ = _
    rw [listResults, map_map]
    rfl
  rw [hlists]
  exact find?_map

theorem lastWith_append (sent : SentResponse) (name : Bytes) : lastWith name (responses ++ [sent]) =
      match rowAt Prod.fst sent.call.request.lists name with
      | none => lastWith name responses
      | some entry => some (sent, entry.2) := by
  rw [lastWith, filterMap_append, filterMap_cons, filterMap_nil]
  rcases rowAt Prod.fst sent.call.request.lists name with _ | entry
  · rw [Option.map_none, append_nil]
    rfl
  · exact getLast?_concat

section

variable (hcurrent : Current host client responses)
include hcurrent

/-- The position of a room in the last window is the index that the client holds it
at. -/
theorem aligned_of_continues {committed : List Bytes} {name : Bytes} {list : SlidingSyncList}
    (hcontinues : Continues host client responses committed name list) :
    Aligned (clientLists host client responses name) committed 0 list.ranges := by
  obtain ⟨last, hlast, hcommitted, more, hmore⟩ := hcontinues
  intro position index room hindex hroom
  rw [Nat.zero_add] at hroom
  have hposition : position < committed.length := (List.getElem?_eq_some_iff.mp hroom).1
  have htaken : ((coveredIndices list.ranges).take committed.length)[position]? = some index := by
    rwa [getElem?_take_of_lt hposition]
  have hsame : (coveredIndices last.2.ranges)[position]? = some index := by
    rwa [← hmore, List.getElem?_append_left (List.getElem?_eq_some_iff.mp htaken).1]
  rw [hcommitted, windowRooms_eq_filterMap,
    getElem?_filterMap_of_pairwise (pairwise_coveredIndices last.2.rangesValid), hsame,
    Option.bind_some] at hroom
  obtain ⟨range, hrange, hstart, hend⟩ := mem_coveredIndices.mp (mem_of_getElem? hsame)
  have hshown := hcurrent.shown name last hlast range hrange index hstart hend
    (List.getElem?_eq_some_iff.mp hroom).1
  exact hshown.trans hroom

theorem showsRange_opsFor {sent : SentResponse} {entry : Bytes × SlidingSyncList}
    (hsteady : committedWindow sent.connection entry.1 = [] ∨
      Continues host client responses (committedWindow sent.connection entry.1) entry.1 entry.2) :
    ∀ range ∈ entry.2.ranges, ShowsRange (applyOps (clientLists host client responses entry.1)
        (opsFor host client sent entry)) (sortedIn host client sent entry.2) range := by
  unfold opsFor windowResult
  simp only [List.isEmpty_iff]
  split_ifs with hempty
  · refine showsRange_applyOps entry.2.rangesValid (List.Sublist.refl _) fun range hrange => ?_
    exact .inl (List.mem_map_of_mem hrange)
  · have haligned := aligned_of_continues hcurrent (hsteady.resolve_left hempty)
    exact showsRange_applyOps entry.2.rangesValid (changedSyncOps_sublist 0)
      (changed_or_shown entry.2.rangesValid haligned)

theorem current_append {sent : SentResponse} (hnames : (sent.call.request.lists.map Prod.fst).Nodup)
    (hsteady : ∀ entry ∈ sent.call.request.lists, committedWindow sent.connection entry.1 = [] ∨
        Continues host client responses (committedWindow sent.connection entry.1) entry.1
          entry.2) : Current host client (responses ++ [sent]) := by
  refine ⟨?_, ?_⟩
  · exact forall_mem_append.mpr ⟨hcurrent.names, forall_mem_singleton.mpr hnames⟩
  · intro name last hlast
    rw [lastWith_append] at hlast
    rw [clientLists, foldl_append, foldl_cons, foldl_nil, applyResponse, rowAt_lists_response]
    rcases hrow : rowAt Prod.fst sent.call.request.lists name with _ | entry
    · simp only [hrow] at hlast
      exact hcurrent.shown name last hlast
    · simp only [hrow, Option.some.injEq] at hlast
      subst hlast
      have hname : entry.1 = name := by simpa using find?_some hrow
      subst hname
      exact showsRange_opsFor hcurrent (hsteady entry (mem_of_find?_eq_some hrow))

end

theorem act_current (hcurrent : Current host client run.responses) {action : WindowAction client}
    (hsteady : Steady host run action) : Current host client (run.act host action).responses := by
  cases action with
  | change tables => exact hcurrent
  | request call hnames =>
    rw [WindowRun.act]
    split
    · exact current_append hcurrent hnames hsteady
    · exact hcurrent
  | other user deviceId call hother => exact hcurrent

end Steps

/-- Whatever happens to the rooms, and whatever positions the client sends. -/
theorem client_holds_requested_ranges (host : SyncHost) (client : Client) (tables : SyncTables)
    (actions : List (WindowAction client))
    (halong : Along (WindowRun.act host) (Steady host) { runtime := { toSyncTables := tables } }
      actions) :
    let last := run (WindowRun.act host) { runtime := { toSyncTables := tables } } actions
    ∀ sent ∈ last.responses.getLast?, ∀ entry ∈ sent.call.request.lists,
      ∀ range ∈ entry.2.ranges, ∀ index, range.start ≤ index → index ≤ range.end_ →
        index < (sortedRoomIds host sent.tables client.user entry.2).length →
        clientLists host client last.responses entry.1 index =
          (sortedRoomIds host sent.tables client.user entry.2)[index]? := by
  have hstart : Current host client [] := ⟨by simp, by simp [lastWith]⟩
  have hcurrent := halong.invariant (motive := fun run => Current host client run.responses)
    (fun _ _ hcurrent => act_current hcurrent) hstart
  intro last sent hsent entry hentry
  obtain ⟨before, hsplit⟩ := getLast?_eq_some_iff.mp hsent
  have hnames : (sent.call.request.lists.map Prod.fst).Nodup :=
    hcurrent.names sent (mem_of_getLast? hsent)
  have hrow : rowAt Prod.fst sent.call.request.lists entry.1 = some entry :=
    TableMirror.rowAt_of_mem hnames hentry
  have hlast : lastWith entry.1 last.responses = some (sent, entry.2) := by
    rw [hsplit, lastWith_append, hrow]
  exact hcurrent.shown entry.1 (sent, entry.2) hlast

def windowHost : SyncHost where
  yyjson := CanonicalParser.readerOf []
  parseJson _ := none
  backend := StoreTables.memoryBackend

/-- A user in some rooms; the lists below are in the order of the room ids. -/
def windowTables (rooms : List Bytes) : SyncTables where
  database :=
    { persistentStore :=
        { memberships := rooms.map fun roomId => ⟨roomId, "@alice:example.org", "join", 3⟩ }
      nextStreamOrdering := 7 }
  rooms := rooms

def windowClient : Client := ⟨"@alice:example.org", "PHONE", none⟩

/-- The same ranges twice, and two rooms that come in between. -/
def steadyActions : List (WindowAction windowClient) :=
  let call : SlidingSyncCall :=
    { request := { lists := [("all", { ranges := [⟨0, 1⟩, ⟨3, 4⟩] })] } }
  [.request call (by decide),
    .change (windowTables ["!a:x.org", "!b:x.org", "!c:x.org", "!d:x.org"]),
    .request call (by decide)]

/-- The window moves by two, and two rooms come before it. -/
def movedActions : List (WindowAction windowClient) :=
  [.request { request := { lists := [("all", { ranges := [⟨0, 1⟩] })] } } (by decide),
    .change (windowTables ["!a:x.org", "!b:x.org", "!c:x.org", "!d:x.org"]),
    .request { request := { lists := [("all", { ranges := [⟨2, 3⟩] })] } } (by decide)]

def windowRun (actions : List (WindowAction windowClient)) : WindowRun :=
  run (WindowRun.act windowHost)
    { runtime := { toSyncTables := windowTables ["!c:x.org", "!d:x.org"] } } actions

theorem steady_ranges_are_held : Along (WindowRun.act windowHost) (Steady windowHost)
        { runtime := { toSyncTables := windowTables ["!c:x.org", "!d:x.org"] } } steadyActions ∧
      (windowRun steadyActions).responses.length = 2 ∧
      (let last := windowRun steadyActions
      ∀ sent ∈ last.responses.getLast?, ∀ entry ∈ sent.call.request.lists,
        ∀ range ∈ entry.2.ranges, ∀ index, range.start ≤ index → index ≤ range.end_ →
          index < (sortedRoomIds windowHost sent.tables windowClient.user entry.2).length →
          clientLists windowHost windowClient last.responses entry.1 index =
            (sortedRoomIds windowHost sent.tables windowClient.user entry.2)[index]?) := by
  have halong : Along (WindowRun.act windowHost) (Steady windowHost)
      { runtime := { toSyncTables := windowTables ["!c:x.org", "!d:x.org"] } } steadyActions := by
    decide +kernel
  exact ⟨halong, by decide +kernel,
    client_holds_requested_ranges windowHost windowClient _ _ halong⟩

/-- The server takes the old window for the new one and sends nothing. -/
theorem moved_window_is_not_sent : (windowRun movedActions).responses.map (fun sent =>
        (sent.response windowHost windowClient).lists) =
      [[(utf8 "all", 2, [⟨⟨0, 1⟩, ["!c:x.org", "!d:x.org"]⟩])], [(utf8 "all", 4, [])]] ∧
    (windowRun movedActions).responses.map (fun sent =>
        sent.call.request.lists.map fun entry =>
          sortedRoomIds windowHost sent.tables windowClient.user entry.2) =
      [[[utf8 "!c:x.org", "!d:x.org"]], [["!a:x.org", "!b:x.org", "!c:x.org", "!d:x.org"]]] ∧
    clientLists windowHost windowClient (windowRun movedActions).responses "all" 2 = none := by
  decide +kernel

end Merovingian.SlidingWindows
