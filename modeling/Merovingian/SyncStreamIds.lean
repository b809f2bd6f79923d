import Merovingian.OperationRuns
import Merovingian.StreamTokens
import Merovingian.SyncResponses
import Merovingian.WordCounters

/-!
The counter for the stream ids of the sync surfaces. It is kept in memory, written
to the store as decimal text at each change and read back, together with the ids
of the stored rows, when the server starts. A `/sync` request whose token is ahead
of the counter pushes it to the token's position. The counter is a 64-bit number,
so a token can put it right before the end of its range.
-/

namespace Merovingian.SyncStreamIds

open ByteString DecimalText OperationRuns StreamTokens WordCounters List

/-- The surfaces whose rows carry a stream id. -/
inductive SyncSurface where
  | accountData
  | toDevice
  | deviceListChanges
  | presence
deriving DecidableEq

/-- The counter, the watermark as the store has it, and the ids of the rows of each
surface. -/
structure SyncStream where
  nextSyncStreamId : UInt64 := 0
  watermark : Bytes := "0"
  rows : SyncSurface → List UInt64 := fun _ => []

section

variable (stream : SyncStream)

/-- The text of a number, read digit by digit; anything else reads as zero. -/
def parseU64 (text : Bytes) : UInt64 :=
  if text.all isDigit then
    text.foldl (fun result character => result * 10 + (character - byte '0').toUInt64) 0
  else 0

/-- `commits` says whether the backend takes the write. -/
def persistSyncStreamWatermark (watermark : UInt64) (commits : Bool) : Bool × SyncStream :=
  (commits, if commits then { stream with watermark := decimalDigits watermark.toNat } else stream)

def allocateSyncStreamId (commits : Bool) : UInt64 × SyncStream :=
  let newId := stream.nextSyncStreamId + 1
  (newId, (persistSyncStreamWatermark { stream with nextSyncStreamId := newId } newId commits).2)

def ensureSyncStreamIdAheadOf (sinceSyncStreamId : UInt64) (commits : Bool) : Bool × SyncStream :=
  if sinceSyncStreamId ≤ stream.nextSyncStreamId then (true, stream)
  else persistSyncStreamWatermark { stream with nextSyncStreamId := sinceSyncStreamId }
    sinceSyncStreamId commits

def consider (observed candidate : UInt64) : UInt64 :=
  if candidate > observed then candidate else observed

def restoreSyncStreamId (commits : Bool) : SyncStream :=
  let loaded := parseU64 stream.watermark
  let observed := [SyncSurface.accountData, .toDevice, .deviceListChanges, .presence].foldl
    (fun observed surface => (stream.rows surface).foldl consider observed) loaded
  (persistSyncStreamWatermark { stream with nextSyncStreamId := observed } observed commits).2

/-- The start of a `/sync` request: whether it goes on, and the counter. -/
def sinceHandling (since : Option Bytes) (commits : Bool) : Bool × SyncStream :=
  let sinceSyncStreamId := ((since.bind decodeStreamToken).map StreamToken.syncStreamId).getD 0
  if sinceSyncStreamId > 0 then ensureSyncStreamIdAheadOf stream sinceSyncStreamId commits
  else (true, stream)

structure StreamRun where
  stream : SyncStream
  allocated : List UInt64 := []

/-- An id is allocated for an ephemeral surface, or for a row that is then stored. -/
inductive StreamAction where
  | allocate (surface : Option SyncSurface) (commits : Bool)
  | sync (since : Option Bytes) (commits : Bool)
  | restart (commits : Bool)

def addRow (surface : SyncSurface) (id : UInt64) : SyncStream :=
  { stream with
    rows := fun other =>
      if other = surface then stream.rows other ++ [id] else stream.rows other }

end

def StreamRun.act (run : StreamRun) : StreamAction → StreamRun
  | .allocate surface commits =>
    let (id, stream) := allocateSyncStreamId run.stream commits
    { stream := (surface.map fun surface => addRow stream surface id).getD stream
      allocated := run.allocated ++ [id] }
  | .sync since commits => { run with stream := (sinceHandling run.stream since commits).2 }
  | .restart commits => { run with stream := restoreSyncStreamId run.stream commits }

/-- The backend takes every write, and nothing is allocated at the end of the
counter's range. -/
def Unwrapped (run : StreamRun) : StreamAction → Prop
  | .allocate _ commits =>
    commits = true ∧ run.stream.nextSyncStreamId ≠ 18446744073709551615
  | .sync _ commits => commits = true
  | .restart commits => commits = true

instance (run : StreamRun) : DecidablePred (Unwrapped run)
  | .allocate _ commits => inferInstanceAs (Decidable (commits = true ∧ _))
  | .sync _ commits => inferInstanceAs (Decidable (commits = true))
  | .restart commits => inferInstanceAs (Decidable (commits = true))

section Persistence

theorem toUInt64_digitChar {digit : Nat} (hdigit : digit < 10) :
    (byte (Nat.digitChar digit) - byte '0').toUInt64 = UInt64.ofNat digit := by
  revert digit
  decide

theorem foldl_decimalDigits (n : Nat) : (decimalDigits n).foldl (fun result character =>
      result * 10 + (character - byte '0').toUInt64) 0 = UInt64.ofNat n := by
  induction n using digitInduction (show 1 < 10 by decide) with
  | single n hlt =>
    rw [decimalDigits_of_lt hlt, foldl_cons, foldl_nil, toUInt64_digitChar hlt]
    simp
  | more n hge ih =>
    rw [decimalDigits_of_ge hge, foldl_append, ih, foldl_cons, foldl_nil,
      toUInt64_digitChar (Nat.mod_lt n (by omega)), ← UInt64.toNat_inj, UInt64.toNat_add,
      UInt64.toNat_mul]
    change (n / 10 % 2 ^ 64 * 10 % 2 ^ 64 + n % 10 % 2 ^ 64) % 2 ^ 64 = n % 2 ^ 64
    omega

theorem parseU64_decimalDigits (number : UInt64) :
    parseU64 (decimalDigits number.toNat) = number := by
  rw [parseU64, if_pos (all_isDigit_decimalDigits _), foldl_decimalDigits, UInt64.ofNat_toNat]

theorem foldl_consider_of_le {observed : UInt64} {ids : List UInt64}
    (h : ∀ id ∈ ids, id ≤ observed) : ids.foldl consider observed = observed := by
  induction ids with
  | nil => rfl
  | cons id rest ih =>
    have hkept : consider observed id = observed :=
      if_neg (UInt64.not_lt.mpr (h id mem_cons_self))
    rw [foldl_cons, hkept, ih fun other hother => h other (mem_cons_of_mem _ hother)]

theorem le_foldl_consider (observed : UInt64) (ids : List UInt64) :
    observed ≤ ids.foldl consider observed ∧ ∀ id ∈ ids, id ≤ ids.foldl consider observed := by
  induction ids generalizing observed with
  | nil => exact ⟨UInt64.le_refl _, by simp⟩
  | cons id rest ih =>
    obtain ⟨hobserved, hrest⟩ := ih (consider observed id)
    have hboth : observed ≤ consider observed id ∧ id ≤ consider observed id := by
      rw [consider]
      split_ifs with hgreater
      · exact ⟨UInt64.le_of_lt hgreater, UInt64.le_refl _⟩
      · exact ⟨UInt64.le_refl _, UInt64.not_lt.mp hgreater⟩
    exact ⟨UInt64.le_trans hboth.1 hobserved,
      forall_mem_cons.mpr ⟨UInt64.le_trans hboth.2 hobserved, hrest⟩⟩

end Persistence

structure Ahead (stream : SyncStream) : Prop where
  persisted : parseU64 stream.watermark = stream.nextSyncStreamId
  rows : ∀ surface, ∀ id ∈ stream.rows surface, id ≤ stream.nextSyncStreamId

structure Increasing (run : StreamRun) : Prop extends Ahead run.stream where
  allocatedLe : ∀ id ∈ run.allocated, id ≤ run.stream.nextSyncStreamId
  pairwise : run.allocated.Pairwise (· < ·)

section Steps

variable {stream : SyncStream} {run : StreamRun}

theorem restore_ahead (disk : SyncStream) : Ahead (restoreSyncStreamId disk true) := by
  refine ⟨parseU64_decimalDigits _, ?_⟩
  intro surface id hid
  -- each surface is considered in turn, and the later ones only raise the result
  cases surface with
  | presence => exact (le_foldl_consider _ _).2 id hid
  | deviceListChanges =>
    exact UInt64.le_trans ((le_foldl_consider _ _).2 id hid) (le_foldl_consider _ _).1
  | toDevice =>
    exact UInt64.le_trans (UInt64.le_trans ((le_foldl_consider _ _).2 id hid)
      (le_foldl_consider _ _).1) (le_foldl_consider _ _).1
  | accountData =>
    exact UInt64.le_trans (UInt64.le_trans (UInt64.le_trans ((le_foldl_consider _ _).2 id hid)
      (le_foldl_consider _ _).1) (le_foldl_consider _ _).1) (le_foldl_consider _ _).1

theorem nextSyncStreamId_restore (h : Ahead stream) (commits : Bool) :
    (restoreSyncStreamId stream commits).nextSyncStreamId = stream.nextSyncStreamId := by
  have hobserved : [SyncSurface.accountData, .toDevice, .deviceListChanges, .presence].foldl
      (fun observed surface => (stream.rows surface).foldl consider observed)
      (parseU64 stream.watermark) = stream.nextSyncStreamId := by
    simp only [foldl_cons, foldl_nil, h.persisted, foldl_consider_of_le (h.rows _)]
  simp only [restoreSyncStreamId, persistSyncStreamWatermark, hobserved]
  split_ifs <;> rfl

theorem Increasing.advance (h : Increasing run) (hahead : Ahead stream)
    (hle : run.stream.nextSyncStreamId ≤ stream.nextSyncStreamId) :
    Increasing { run with stream } :=
  { hahead with
    allocatedLe := fun id hid => UInt64.le_trans (h.allocatedLe id hid) hle
    pairwise := h.pairwise }

theorem addRow_ahead (h : Ahead stream) (surface : SyncSurface) :
    Ahead (addRow stream surface stream.nextSyncStreamId) := by
  refine ⟨h.persisted, ?_⟩
  intro other id hid
  simp only [addRow] at hid
  split_ifs at hid
  · rcases mem_append.mp hid with hold | hnew
    · exact h.rows other id hold
    · exact mem_singleton.mp hnew ▸ UInt64.le_refl _
  · exact h.rows other id hid

theorem allocate_increasing (h : Increasing run) (surface : Option SyncSurface)
    (hnext : run.stream.nextSyncStreamId ≠ 18446744073709551615) :
    Increasing (run.act (.allocate surface true)) := by
  have hlt := lt_succ hnext
  -- the counter stands at the new id, which is greater than all before it
  have hallocated : Ahead (allocateSyncStreamId run.stream true).2 :=
    ⟨parseU64_decimalDigits _, fun other id hid =>
      UInt64.le_trans (h.rows other id hid) (UInt64.le_of_lt hlt)⟩
  have hgreater : ∀ id ∈ run.allocated, id < run.stream.nextSyncStreamId + 1 :=
    fun id hid => UInt64.lt_of_le_of_lt (h.allocatedLe id hid) hlt
  have hpairwise : (run.allocated ++ [run.stream.nextSyncStreamId + 1]).Pairwise (· < ·) := by
    refine pairwise_append.mpr ⟨h.pairwise, pairwise_singleton _ _, ?_⟩
    intro id hid new hnew
    exact mem_singleton.mp hnew ▸ hgreater id hid
  have hle : ∀ id ∈ run.allocated ++ [run.stream.nextSyncStreamId + 1],
      id ≤ run.stream.nextSyncStreamId + 1 := by
    refine forall_mem_append.mpr ⟨?_, forall_mem_singleton.mpr (UInt64.le_refl _)⟩
    exact fun id hold => UInt64.le_of_lt (hgreater id hold)
  cases surface with
  | none => exact { hallocated with allocatedLe := hle, pairwise := hpairwise }
  | some surface =>
    exact { addRow_ahead hallocated surface with allocatedLe := hle, pairwise := hpairwise }

theorem act_increasing (h : Increasing run) {action : StreamAction}
    (hunwrapped : Unwrapped run action) : Increasing (run.act action) := by
  cases action with
  | allocate surface commits =>
    obtain ⟨rfl, hnext⟩ := hunwrapped
    exact allocate_increasing h surface hnext
  | sync since commits =>
    obtain rfl : commits = true := hunwrapped
    rw [StreamRun.act, sinceHandling, ensureSyncStreamIdAheadOf]
    split_ifs with _ hle
    · exact h
    · have hlt := UInt64.le_of_lt (UInt64.not_le.mp hle)
      exact h.advance ⟨parseU64_decimalDigits _, fun surface id hid =>
        UInt64.le_trans (h.rows surface id hid) hlt⟩ hlt
    · exact h
  | restart commits =>
    obtain rfl : commits = true := hunwrapped
    exact h.advance (restore_ahead run.stream)
      (nextSyncStreamId_restore h.toAhead true ▸ UInt64.le_refl _)

end Steps

section Store

open StoreTables SyncSurfaces

/-- The watermark that some statements have written last. -/
def writtenWatermark (statements : List PreparedStatement) : Bytes :=
  ((statements.filterMap fun
    | .upsertSyncStreamWatermark watermark => some (decimalDigits watermark.toNat)
    | _ => none).getLast?).getD "0"

/-- The counter and its watermark are those of the whole store. -/
@[mk_iff] structure Mirrors (stream : SyncStream) (store : PersistentStore) : Prop where
  next : stream.nextSyncStreamId = store.nextSyncStreamId
  watermark : stream.watermark = writtenWatermark store.preparedStatements

variable {stream : SyncStream} {store : PersistentStore} {backend : Backend}

theorem Mirrors.write (h : Mirrors stream store) (next : UInt64) :
    let written := commitPersistentTransaction backend { store with nextSyncStreamId := next }
      [.upsertSyncStreamWatermark next]
    let persisted := persistSyncStreamWatermark { stream with nextSyncStreamId := next } next
      (backend [.upsertSyncStreamWatermark next])
    persisted.1 = written.1 ∧ Mirrors persisted.2 written.2 := by
  cases hcommits : backend [.upsertSyncStreamWatermark next] with
  | true => simp [persistSyncStreamWatermark, commitPersistentTransaction, hcommits, mirrors_iff,
      writtenWatermark]
  | false => simpa [persistSyncStreamWatermark, commitPersistentTransaction, hcommits, mirrors_iff]
      using h.watermark

theorem Mirrors.allocate (h : Mirrors stream store) :
    let allocated := StoreTables.allocateSyncStreamId backend store
    let mirrored := allocateSyncStreamId stream
      (backend [.upsertSyncStreamWatermark (store.nextSyncStreamId + 1)])
    mirrored.1 = allocated.1 ∧ Mirrors mirrored.2 allocated.2 := by
  unfold allocateSyncStreamId
  rw [h.next]
  exact ⟨rfl, (h.write _).2⟩

theorem Mirrors.ensure (h : Mirrors stream store) (host : SyncHost) (since : UInt64) :
    let ensured := SyncResponses.ensureSyncStreamIdAheadOf host store since
    let mirrored := ensureSyncStreamIdAheadOf stream since
      (host.backend [.upsertSyncStreamWatermark since])
    mirrored.1 = ensured.1 ∧ Mirrors mirrored.2 ensured.2 := by
  unfold ensureSyncStreamIdAheadOf SyncResponses.ensureSyncStreamIdAheadOf
  rw [h.next]
  split
  · exact ⟨rfl, h⟩
  · exact h.write since

end Store

/-- From any store that a server starts on, ids are allocated in increasing order,
whatever tokens clients present and however often the server restarts, as long as
the backend takes the writes and the counter does not wrap around. -/
theorem allocated_ids_increase (disk : SyncStream) {actions : List StreamAction}
    (halong : Along StreamRun.act Unwrapped { stream := restoreSyncStreamId disk true } actions) :
    (run StreamRun.act { stream := restoreSyncStreamId disk true } actions).allocated.Pairwise
      (· < ·) := by
  have hstart : Increasing { stream := restoreSyncStreamId disk true } :=
    { restore_ahead disk with
      allocatedLe := by simp
      pairwise := List.Pairwise.nil }
  exact (halong.invariant (fun _ _ hbefore => act_increasing hbefore) hstart).pairwise

/-- A token ahead of the counter, and one that is not, before and after a restart. -/
def pushedActions : List StreamAction :=
  [.allocate none true, .sync (some "0_0_ff") true, .allocate (some .toDevice) true,
    .restart true, .sync (some "0_0_3") true, .allocate none true]

theorem pushed_ids_increase :
    (run StreamRun.act { stream := restoreSyncStreamId {} true } pushedActions).allocated.Pairwise
        (· < ·) ∧
      (run StreamRun.act { stream := restoreSyncStreamId {} true } pushedActions).allocated =
        [1, 256, 257] :=
  ⟨allocated_ids_increase {} (by decide +kernel), by decide +kernel⟩

/-- One request with the greatest token, and the next id is zero. -/
theorem greatest_token_wraps_counter : (run StreamRun.act { stream := restoreSyncStreamId {} true }
      [.allocate none true, .sync (some "0_0_ffffffffffffffff") true,
        .allocate none true]).allocated = [1, 0] := by
  decide +kernel

end Merovingian.SyncStreamIds
