import Merovingian.OperationRuns
import Merovingian.SlidingSyncExtensions
import Merovingian.TableMirror

/-!
The keys that devices upload for others to claim: one-time keys, which go to a single
claim, and fallback keys, which are returned once those have run out.
-/

namespace Merovingian.DeviceKeys

open ByteString KeyedFold TableMirror OperationRuns SyncSurfaces SlidingSyncRooms
  SlidingSyncExtensions List

/-- A row of either table, and the number of the upload that its payload is from. -/
structure StoredKey extends PersistentDeviceKey where
  json : Bytes
  upload : Nat

structure KeyRun where
  oneTimeKeys : List StoredKey := []
  fallbackKeys : List StoredKey := []
  uploads : Nat := 0
  /-- The fallback keys that were uploaded, the latest first. -/
  uploadedFallbacks : List StoredKey := []
  claimed : List StoredKey := []
  returned : List StoredKey := []

inductive KeyOperation where
  | uploadOneTimeKey (key : PersistentDeviceKey) (json : Bytes)
  | uploadFallbackKey (key : PersistentDeviceKey) (json : Bytes)
  | claim (userId deviceId algorithm : Bytes)

section Store

def rowKey (key : StoredKey) : Bytes × Bytes × Bytes :=
  (key.userId, key.deviceId, key.keyId)

def keyIsValid (key : PersistentDeviceKey) (json : Bytes) : Bool :=
  !json.isEmpty && !key.keyId.isEmpty

variable (keys : List StoredKey) (userId deviceId algorithm : Bytes)

def isOfAlgorithm (key : PersistentDeviceKey) : Bool :=
  key.userId = userId && key.deviceId = deviceId &&
    (algorithm.isEmpty || (algorithm ++ [byte ':']).isPrefixOf key.keyId)

def claimOneTimeKey : Option (StoredKey × List StoredKey) :=
  (keys.find? (isOfAlgorithm userId deviceId algorithm ·.toPersistentDeviceKey)).map fun claimed =>
    (claimed, keys.eraseP (isOfAlgorithm userId deviceId algorithm ·.toPersistentDeviceKey))

def findFallbackKey : Option StoredKey :=
  keys.find? (isOfAlgorithm userId deviceId algorithm ·.toPersistentDeviceKey)

def buildFallbackKeyTypes : List Bytes :=
  ((keys.filter fun key => key.userId = userId && key.deviceId = deviceId).map fun key =>
    otkAlgorithm key.keyId).foldl pushUnique []

end Store

namespace KeyRun

/-- Uploads and claims of several keys are made key by key, for clients and for other
servers alike. -/
def act (run : KeyRun) : KeyOperation → KeyRun
  | .uploadOneTimeKey key json =>
    if keyIsValid key json then
      { run with
        oneTimeKeys := putRow rowKey ⟨key, json, run.uploads⟩ run.oneTimeKeys
        uploads := run.uploads + 1 }
    else run
  | .uploadFallbackKey key json =>
    if keyIsValid key json then
      { run with
        fallbackKeys := putRow rowKey ⟨key, json, run.uploads⟩ run.fallbackKeys
        uploads := run.uploads + 1
        uploadedFallbacks := ⟨key, json, run.uploads⟩ :: run.uploadedFallbacks }
    else run
  | .claim userId deviceId algorithm =>
    match claimOneTimeKey run.oneTimeKeys userId deviceId algorithm with
    | some (claimed, rest) =>
      { run with oneTimeKeys := rest, claimed := claimed :: run.claimed }
    | none =>
      { run with
        returned := (findFallbackKey run.fallbackKeys userId deviceId algorithm).toList ++
          run.returned }

def currentFallback (run : KeyRun) (userId deviceId algorithm : Bytes) : Option StoredKey :=
  run.uploadedFallbacks.find? fun key => key.userId = userId && key.deviceId = deviceId &&
    otkAlgorithm key.keyId = algorithm

/-- A fallback key takes the id of those that are stored for its device and algorithm. -/
def KeepsKeyId (run : KeyRun) : KeyOperation → Prop
  | .uploadFallbackKey key _ => ∀ stored ∈ run.fallbackKeys, ∀ algorithm ≠ [],
      isOfAlgorithm key.userId key.deviceId algorithm key = true →
        isOfAlgorithm key.userId key.deviceId algorithm stored.toPersistentDeviceKey = true →
          stored.keyId = key.keyId
  | _ => True

/-- The fallback key that a claim finds is the one that was uploaded last. -/
def FindsLatest (run : KeyRun) : Prop :=
  ∀ userId deviceId algorithm, algorithm ≠ [] →
    findFallbackKey run.fallbackKeys userId deviceId algorithm =
      findFallbackKey run.uploadedFallbacks userId deviceId algorithm

variable {run : KeyRun} {operation : KeyOperation}

structure Kept (run : KeyRun) : Prop where
  /-- Every upload stands for one key at most, which was claimed or is still there. -/
  tagged : ((run.claimed ++ run.oneTimeKeys).map StoredKey.upload).Subperm
    (List.range run.uploads)
  sameKeys : ∀ key, key ∈ run.uploadedFallbacks.map rowKey ↔ key ∈ run.fallbackKeys.map rowKey

theorem act_kept (run : KeyRun) (operation : KeyOperation) (h : Kept run) :
    Kept (act run operation) := by
  fun_cases act run operation with
  | case1 key json hvalid =>
    refine ⟨?_, h.sameKeys⟩
    obtain ⟨rest, hrest, hperm⟩ := putRow_perm rowKey ⟨key, json, run.uploads⟩ run.oneTimeKeys
    have hrows := ((hperm.append_left run.claimed).trans perm_middle).map StoredKey.upload
    have hkept : ((run.claimed ++ rest).map StoredKey.upload).Subperm (range run.uploads) :=
      ((hrest.append_left run.claimed).map _).subperm.trans h.tagged
    rw [range_succ]
    exact hrows.subperm.trans (((subperm_cons run.uploads).mpr hkept).trans
      (perm_append_singleton _ _).symm.subperm)
  | case3 new json hvalid =>
    constructor
    · rw [range_succ]
      exact h.tagged.trans (sublist_append_left _ _).subperm
    · intro key
      rw [map_cons, mem_cons, keys_putRow, h.sameKeys]
      split_ifs with hold
      · exact ⟨fun hkey => hkey.elim (· ▸ hold) id, .inr⟩
      · rw [mem_append, mem_singleton, or_comm]
  | case5 userId deviceId algorithm claimed rest hclaim =>
    obtain ⟨found, hfound, heq⟩ := Option.map_eq_some_iff.mp hclaim
    cases heq
    have hrows := ((perm_eraseP_of_find? hfound).append_left run.claimed).trans perm_middle
    exact ⟨(hrows.map _).symm.subperm.trans h.tagged, h.sameKeys⟩
  | case6 => exact ⟨h.tagged, h.sameKeys⟩
  | _ => exact h

theorem of_isOfAlgorithm {userId deviceId algorithm : Bytes} {key : PersistentDeviceKey}
    (h : isOfAlgorithm userId deviceId algorithm key = true) :
    key.userId = userId ∧ key.deviceId = deviceId := by
  simp only [isOfAlgorithm, Bool.and_eq_true, decide_eq_true_eq] at h
  exact h.1

theorem act_findsLatest (h : FindsLatest run) (hkeeps : KeepsKeyId run operation) :
    FindsLatest (run.act operation) := by
  fun_cases act run operation with
  | case3 key json hvalid =>
    intro userId deviceId algorithm hne
    have hkeyed : ∀ row other : StoredKey, rowKey row = rowKey other →
        isOfAlgorithm userId deviceId algorithm row.toPersistentDeviceKey =
          isOfAlgorithm userId deviceId algorithm other.toPersistentDeviceKey := by
      intro row other heq
      simp only [rowKey, Prod.mk.injEq] at heq
      simp only [isOfAlgorithm, heq]
    have hsame : isOfAlgorithm userId deviceId algorithm key = true → ∀ old ∈ run.fallbackKeys,
        isOfAlgorithm userId deviceId algorithm old.toPersistentDeviceKey = true →
          rowKey old = rowKey ⟨key, json, run.uploads⟩ := by
      intro hnew old hold hmatch
      obtain ⟨rfl, rfl⟩ := of_isOfAlgorithm hnew
      obtain ⟨huser, hdevice⟩ := of_isOfAlgorithm hmatch
      exact Prod.ext huser (Prod.ext hdevice (hkeeps old hold algorithm hne hnew hmatch))
    rw [findFallbackKey, find?_putRow rowKey hkeyed hsame, findFallbackKey, find?_cons]
    split_ifs with hnew
    · rw [hnew]
    · rw [Bool.eq_false_of_not_eq_true hnew]
      exact h userId deviceId algorithm hne
  | _ => exact h

theorem Kept.mem_buildFallbackKeyTypes (h : Kept run) {userId deviceId algorithm : Bytes} :
    algorithm ∈ buildFallbackKeyTypes run.fallbackKeys userId deviceId ↔
      (run.currentFallback userId deviceId algorithm).isSome := by
  have hkeys : (∃ key ∈ run.fallbackKeys.map rowKey, key.1 = userId ∧ key.2.1 = deviceId ∧
      otkAlgorithm key.2.2 = algorithm) ↔ ∃ key ∈ run.uploadedFallbacks.map rowKey,
        key.1 = userId ∧ key.2.1 = deviceId ∧ otkAlgorithm key.2.2 = algorithm := by
    simp only [h.sameKeys]
  simpa [buildFallbackKeyTypes, mem_foldl_pushUnique, currentFallback, rowKey, and_assoc]
    using hkeys

/-- Over every run: an upload of a one-time key is handed out once at most, and a fallback
key is returned only if no one-time key of the algorithm is left. The latest fallback key
is the one that is found if each keeps the id of the one it replaces, and the list of
unused ones is right for an algorithm exactly if its current one was not returned. -/
theorem keys_handed_out (operations : List KeyOperation) :
    let reached := OperationRuns.run act {} operations
    (reached.claimed.map StoredKey.upload).Nodup ∧ (∀ userId deviceId algorithm,
        (reached.act (.claim userId deviceId algorithm)).returned ≠ reached.returned →
          ∀ key ∈ reached.oneTimeKeys,
            isOfAlgorithm userId deviceId algorithm key.toPersistentDeviceKey = false) ∧
      (Along act KeepsKeyId {} operations → FindsLatest reached) ∧
      ∀ userId deviceId algorithm,
        ((algorithm ∈ buildFallbackKeyTypes reached.fallbackKeys userId deviceId ↔
          ∃ key, reached.currentFallback userId deviceId algorithm = some key ∧
            key ∉ reached.returned) ↔
        ∀ key, reached.currentFallback userId deviceId algorithm = some key →
          key ∉ reached.returned) := by
  have hstart : Kept {} := ⟨nil_subperm, fun _ => Iff.rfl⟩
  have hkept := run_invariant act_kept hstart operations
  intro reached
  refine ⟨?_, ?_, ?_, ?_⟩
  · obtain ⟨uploads, hperm, hsublist⟩ := hkept.tagged
    have hdistinct := hperm.nodup_iff.mp (nodup_range.sublist hsublist)
    exact (nodup_append.mp (map_append ▸ hdistinct)).1
  · intro userId deviceId algorithm hreturned key hkey
    simp only [act] at hreturned
    split at hreturned
    · exact absurd rfl hreturned
    · rename_i hclaim
      simpa using find?_eq_none.mp (Option.map_eq_none_iff.mp hclaim) key hkey
  · intro halong
    exact halong.invariant (fun _ _ h => act_findsLatest h) fun _ _ _ _ => rfl
  · intro userId deviceId algorithm
    rw [hkept.mem_buildFallbackKeyTypes]
    cases reached.currentFallback userId deviceId algorithm <;> simp

theorem reuploaded_fallback_is_found :
    let key : PersistentDeviceKey := ⟨"@a:x", "PHONE", "curve:1"⟩
    let reached := OperationRuns.run act {} [.uploadFallbackKey key "old",
      .claim "@a:x" "PHONE" "curve", .uploadFallbackKey key "new"]
    FindsLatest reached ∧ (findFallbackKey reached.fallbackKeys "@a:x" "PHONE" "curve").map
      StoredKey.json = some (utf8 "new") := by
  intro key reached
  refine ⟨(keys_handed_out _).2.2.1 ⟨by simp [KeepsKeyId], trivial, ?_, trivial⟩, by decide +kernel⟩
  intro stored hstored _ _ _ _
  rw [mem_singleton.mp (show stored ∈ [⟨key, "old", 0⟩] from hstored)]

/-- The device replaces a fallback key that was used: before that it is still listed, and
afterwards it is still returned. -/
theorem replaced_fallback_is_returned :
    let key (id : Bytes) : PersistentDeviceKey := ⟨"@a:x", "PHONE", id⟩
    let used := OperationRuns.run act {}
      [.uploadFallbackKey (key "curve:1") "old", .claim "@a:x" "PHONE" "curve"]
    let replaced := used.act (.uploadFallbackKey (key "curve:2") "new")
    used.returned.map StoredKey.upload = used.uploadedFallbacks.map StoredKey.upload ∧
      buildFallbackKeyTypes used.fallbackKeys "@a:x" "PHONE" = [utf8 "curve"] ∧
      replaced.uploadedFallbacks.map StoredKey.json = [utf8 "new", utf8 "old"] ∧
      (findFallbackKey replaced.fallbackKeys "@a:x" "PHONE" "curve").map StoredKey.json =
        some (utf8 "old") := by
  decide +kernel

end KeyRun

end Merovingian.DeviceKeys
