import Merovingian.ConnectionRuns

/-!
Whose connections are whose. The keys of connections tell users and devices apart,
so that a device's connections are counted and evicted on their own.
-/

namespace Merovingian.ConnectionLimits

open ByteString DecimalText KeyedFold TableMirror OperationRuns SyncSurfaces SlidingSync
  ConnectionRuns List

section Keys

theorem takeWhile_lengthTagged (text rest : Bytes) :
    (lengthTagged text ++ rest).takeWhile isDigit = decimalDigits text.length ∧
      (lengthTagged text ++ rest).dropWhile isDigit = byte ':' :: (text ++ rest) := by
  have hall := all_eq_true.mp (all_isDigit_decimalDigits text.length)
  have hcolon : isDigit (byte ':') = false := by decide
  rw [lengthTagged, show utf8 ":" = [byte ':'] by decide, append_assoc, append_assoc,
    takeWhile_append_of_pos hall, dropWhile_append_of_pos hall]
  simp [hcolon]

theorem lengthTagged_append_inj {first second rest others : Bytes} :
    lengthTagged first ++ rest = lengthTagged second ++ others ↔
      first = second ∧ rest = others := by
  refine ⟨fun heq => ?_, by rintro ⟨rfl, rfl⟩; rfl⟩
  obtain ⟨hdigits, htext⟩ := takeWhile_lengthTagged first rest
  rw [heq] at hdigits htext
  obtain ⟨hdigits', htext'⟩ := takeWhile_lengthTagged second others
  have hlength := congrArg digitsValue (hdigits.symm.trans hdigits')
  rw [digitsValue_decimalDigits, digitsValue_decimalDigits] at hlength
  exact append_inj (cons_inj_right _ |>.mp (htext.symm.trans htext')) hlength

variable {user deviceId connId user' deviceId' connId' : Bytes}

theorem slidingSyncConnectionKey_inj :
    slidingSyncConnectionKey user deviceId connId =
        slidingSyncConnectionKey user' deviceId' connId' ↔
      user = user' ∧ deviceId = deviceId' ∧ connId = connId' := by
  unfold slidingSyncConnectionKey slidingSyncDevicePrefix
  rw [append_assoc, append_assoc, lengthTagged_append_inj, lengthTagged_append_inj,
    ← append_nil (lengthTagged connId), ← append_nil (lengthTagged connId'),
    lengthTagged_append_inj, and_iff_left rfl]

theorem isPrefixOf_connectionKey :
    (slidingSyncDevicePrefix user deviceId).isPrefixOf
        (slidingSyncConnectionKey user' deviceId' connId) ↔
      user = user' ∧ deviceId = deviceId' := by
  constructor
  · intro h
    obtain ⟨rest, heq⟩ : slidingSyncDevicePrefix user deviceId <+:
        slidingSyncConnectionKey user' deviceId' connId := by
      simpa using h
    unfold slidingSyncConnectionKey slidingSyncDevicePrefix at heq
    rw [append_assoc, append_assoc, lengthTagged_append_inj, lengthTagged_append_inj] at heq
    exact ⟨heq.1, heq.2.1⟩
  · rintro ⟨rfl, rfl⟩
    simp [slidingSyncConnectionKey]

end Keys

section Counting

variable {user deviceId user' deviceId' connId connKey : Bytes} {connections : Connections}
  {now : Nat}

def ownedKeys (connections : Connections) (user deviceId : Bytes) : List Bytes :=
  (connections.map Prod.fst).filter fun key =>
    (slidingSyncDevicePrefix user deviceId).isPrefixOf key

/-- A connection of another device is evicted only when it is idle. -/
theorem mem_prune_of_ne (hother : ¬(user = user' ∧ deviceId = deviceId'))
    {connection : SlidingSyncConnectionState}
    (hmem : (slidingSyncConnectionKey user' deviceId' connId, connection) ∈ connections)
    (hused : now - connection.lastUsed ≤ slidingSyncIdleTtl) :
    (slidingSyncConnectionKey user' deviceId' connId, connection) ∈
      pruneSlidingSyncConnections connections user deviceId connKey now := by
  have hkept : (slidingSyncConnectionKey user' deviceId' connId, connection) ∈
      connections.filter fun entry => !decide (now - entry.2.lastUsed > slidingSyncIdleTtl) :=
    mem_filter.mpr ⟨hmem, by simpa using hused⟩
  unfold pruneSlidingSyncConnections
  simp only
  split_ifs
  · exact hkept
  · exact hkept
  · refine mem_filter.mpr ⟨hkept, ?_⟩
    -- Every evicted key has the prefix of the device that makes room.
    rw [Bool.not_eq_true', contains_eq_mem, decide_eq_false_iff_not]
    intro hevicted
    obtain ⟨entry, hentry, hkey⟩ := mem_map.mp hevicted
    have howned := (mem_filter.mp ((mem_insertionSort _).mp (mem_of_mem_take hentry))).2
    rw [hkey] at howned
    exact hother (isPrefixOf_connectionKey.mp howned)

theorem length_filter_take {sorted owned : Connections} (hperm : sorted.Perm owned) (count : Nat) :
    (owned.filter fun entry => !((sorted.take count).map Prod.fst).contains entry.1).length ≤
      owned.length - count := by
  generalize hgone : (fun entry : Bytes × SlidingSyncConnectionState =>
    !((sorted.take count).map Prod.fst).contains entry.1) = kept
  have htake : (sorted.take count).filter kept = [] := by
    rw [filter_eq_nil_iff, ← hgone]
    intro entry hentry
    simpa using mem_map_of_mem (f := Prod.fst) hentry
  calc (owned.filter kept).length = ((sorted.drop count).filter kept).length := by
        rw [← (hperm.filter kept).length_eq, ← take_append_drop count sorted, filter_append, htake,
          nil_append, take_append_drop]
    _ ≤ (sorted.drop count).length := length_filter_le _ _
    _ = owned.length - count := by rw [length_drop, hperm.length_eq]

theorem prune_leaves_room :
    connKey ∈ (pruneSlidingSyncConnections connections user deviceId connKey now).map Prod.fst ∨
      (ownedKeys (pruneSlidingSyncConnections connections user deviceId connKey now) user
        deviceId).length < slidingSyncConnectionsPerDevice := by
  unfold pruneSlidingSyncConnections ownedKeys
  simp only
  split_ifs with hfound hroom
  · obtain ⟨entry, hentry⟩ := Option.isSome_iff_exists.mp hfound
    exact .inl (mem_map.mpr ⟨entry, mem_of_find?_eq_some hentry, by simpa using find?_some hentry⟩)
  · right
    rwa [filter_map, length_map]
  · right
    rw [filter_map, length_map, filter_comm]
    have hcount := length_filter_take (perm_insertionSort
      (fun lhs rhs => lhs.2.lastUsed ≤ rhs.2.lastUsed) (filter
        (fun entry => (slidingSyncDevicePrefix user deviceId).isPrefixOf entry.1)
        (filter (fun entry => !decide (now - entry.2.lastUsed > slidingSyncIdleTtl)) connections)))
    refine (hcount _).trans_lt ?_
    rw [slidingSyncConnectionsPerDevice] at hroom ⊢
    omega

end Counting

section Runs

structure DeviceCall where
  tables : SyncTables := {}
  user : Bytes
  deviceId : Bytes
  call : SlidingSyncCall

def serveCall (host : SyncHost) (runtime : SlidingSyncRuntime) (operation : DeviceCall) :
    SlidingSyncRuntime :=
  (dispatchSlidingSync host { runtime with toSyncTables := operation.tables } operation.user
    operation.deviceId operation.call).2

def Limited (connections : Connections) : Prop :=
  ∀ user deviceId, (ownedKeys connections user deviceId).length ≤ slidingSyncConnectionsPerDevice

variable {host : SyncHost} {runtime : SlidingSyncRuntime} {connections others : Connections}

theorem Limited.of_sublist (hlimited : Limited connections)
    (hkeys : (others.map Prod.fst).Sublist (connections.map Prod.fst)) : Limited others :=
  fun user deviceId => (hkeys.filter _).length_le.trans (hlimited user deviceId)

theorem Limited.put {user deviceId connId : Bytes} {connection : SlidingSyncConnectionState}
    (hlimited : Limited connections)
    (hroom : slidingSyncConnectionKey user deviceId connId ∈ connections.map Prod.fst ∨
      (ownedKeys connections user deviceId).length < slidingSyncConnectionsPerDevice) :
    Limited (putRow Prod.fst (slidingSyncConnectionKey user deviceId connId, connection)
      connections) := by
  intro other otherDevice
  have hbound := hlimited other otherDevice
  rw [ownedKeys, keys_putRow]
  split_ifs with hpresent
  · exact hbound
  · rw [filter_append, length_append]
    by_cases hsame : (slidingSyncDevicePrefix other otherDevice).isPrefixOf
        (slidingSyncConnectionKey user deviceId connId) = true
    · obtain ⟨rfl, rfl⟩ := isPrefixOf_connectionKey.mp hsame
      simpa [hsame, ownedKeys] using Nat.succ_le_of_lt (hroom.resolve_left hpresent)
    · simpa [hsame, ownedKeys] using hbound

theorem limited_serveCall (operation : DeviceCall)
    (hlimited : Limited runtime.slidingSyncConnections) :
    Limited (serveCall host runtime operation).slidingSyncConnections := by
  have hopened : Limited (openedRuntime { runtime with toSyncTables := operation.tables }
      operation.user operation.deviceId operation.call).slidingSyncConnections :=
    (hlimited.of_sublist ((prune_sublist _ _ _).map Prod.fst)).put prune_leaves_room
  rcases dispatchSlidingSync_cases host { runtime with toSyncTables := operation.tables }
    operation.user operation.deviceId operation.call with ⟨-, hrefused⟩ | ⟨_, _, hwaits⟩ | hanswered
  · rw [serveCall, hrefused]
    exact hlimited.of_sublist (filter_sublist.map Prod.fst)
  · rw [serveCall, hwaits]
    exact hopened
  · rw [serveCall, hanswered]
    -- The response is stored in the connection that the call has opened.
    refine hopened.put (.inl ?_)
    rw [openedRuntime, openConnection, putConnection, keys_putRow]
    split_ifs with hpresent
    · exact hpresent
    · exact mem_append_right _ (mem_singleton_self _)

/-- The keys of connections are apart, a device's prefix is on its own keys only, no
device ever has more connections than are allowed, and none loses one that is in use
to another device's pruning. -/
theorem connections_are_separate_and_bounded (host : SyncHost) (tables : SyncTables)
    (calls : List DeviceCall) :
    (∀ user deviceId connId user' deviceId' connId',
      slidingSyncConnectionKey user deviceId connId =
          slidingSyncConnectionKey user' deviceId' connId' →
        user = user' ∧ deviceId = deviceId' ∧ connId = connId') ∧
      (∀ user deviceId user' deviceId' connId,
        (slidingSyncDevicePrefix user deviceId).isPrefixOf
            (slidingSyncConnectionKey user' deviceId' connId) = true ↔
          user = user' ∧ deviceId = deviceId') ∧
      Limited (run (serveCall host) { toSyncTables := tables } calls).slidingSyncConnections ∧
      ∀ connections user deviceId connKey now user' deviceId' connId connection,
        ¬(user = user' ∧ deviceId = deviceId') →
        (slidingSyncConnectionKey user' deviceId' connId, connection) ∈ connections →
        now - connection.lastUsed ≤ slidingSyncIdleTtl →
        (slidingSyncConnectionKey user' deviceId' connId, connection) ∈
          pruneSlidingSyncConnections connections user deviceId connKey now :=
  ⟨fun _ _ _ _ _ _ => slidingSyncConnectionKey_inj.mp, fun _ _ _ _ _ => isPrefixOf_connectionKey,
    run_invariant (motive := Limited ∘ SlidingSyncRuntime.slidingSyncConnections)
      (fun _ => limited_serveCall) (fun _ _ => Nat.zero_le _) calls,
    fun _ _ _ _ _ _ _ _ _ hother hmem hused => mem_prune_of_ne hother hmem hused⟩

end Runs

end Merovingian.ConnectionLimits
