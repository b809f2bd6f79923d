import Merovingian.SyncSurfaces
import Merovingian.TableMirror

/-!
The device list changes that a user is told, range by range: what two ranges that
adjoin say together is what they say as one.
-/

namespace Merovingian.DeviceListDeltas

open ByteString KeyedFold TableMirror SyncSurfaces List

variable {changes : List PersistentDeviceListChange} {subject : Bytes}

def changesIn (tables : SyncTables) (user : Bytes) (fromSyncStreamId toSyncStreamId : UInt64) :
    List PersistentDeviceListChange :=
  tables.deviceListChanges.filter fun change => change.observerUserId = user &&
    change.streamId > fromSyncStreamId && change.streamId ≤ toSyncStreamId

def deltaOf (changes : List PersistentDeviceListChange) : DeviceListDelta :=
  let latest := (changes.foldl putLatest []).insertionSort fun lhs rhs => lhs.1 ≤ rhs.1
  { changed := (latest.filter fun entry => !entry.2.2).map Prod.fst
    left := (latest.filter fun entry => entry.2.2).map Prod.fst }

def collectDeviceListDeltaUpTo (tables : SyncTables) (user : Bytes)
    (fromSyncStreamId toSyncStreamId : UInt64) : DeviceListDelta :=
  deltaOf (changesIn tables user fromSyncStreamId toSyncStreamId)

theorem collectDeviceListDelta_eq (tables : SyncTables) (user : Bytes) (since : UInt64) :
    collectDeviceListDelta tables user since =
      collectDeviceListDeltaUpTo tables user since 18446744073709551615 := by
  have hall : ∀ id : UInt64, id ≤ 18446744073709551615 := fun id =>
    UInt64.le_iff_toNat_le.mpr (Nat.le_of_lt_succ id.toNat_lt)
  simp [collectDeviceListDelta, collectDeviceListDeltaUpTo, deltaOf, changesIn, hall]

abbrev Entry := Bytes × UInt64 × Bool

def entryOf (change : PersistentDeviceListChange) : Entry :=
  (change.subjectUserId, change.streamId, decide (change.changeType = utf8 "left"))

def newer (latest : Option Entry) (change : PersistentDeviceListChange) : Option Entry :=
  if latest.any fun entry => change.streamId < entry.2.1 then latest else some (entryOf change)

end Merovingian.DeviceListDeltas
