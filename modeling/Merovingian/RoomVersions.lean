import Merovingian.ByteString

/-!
The room version table. Every authorization and resolution function takes the
policy as an argument, so its theorems hold for any combination of the flags
and not only for the twelve rows below.
-/

namespace Merovingian.RoomVersions

open ByteString

inductive EventFormat where
  | roomV1V2
  | roomV3Plus
deriving DecidableEq

inductive RedactionRules where
  | roomV1V7
  | roomV8V10
  | roomV11Plus
deriving DecidableEq

inductive AuthRules where
  | roomV1
  | roomV6Plus
  | roomV12
deriving DecidableEq

inductive StateResolutionAlgorithm where
  | v1
  | v2
deriving DecidableEq

inductive EventIdFormat where
  | referenceHash
deriving DecidableEq

structure RoomVersionPolicy where
  id : Bytes
  eventFormat : EventFormat := .roomV3Plus
  redactionRules : RedactionRules := .roomV11Plus
  authRules : AuthRules := .roomV6Plus
  stateResolution : StateResolutionAlgorithm := .v2
  eventIdFormat : EventIdFormat := .referenceHash
  stable : Bool := false
  createEventIsRoomId : Bool := false
  privilegeRoomCreators : Bool := false
  powerLevelsRequireIntegers : Bool := false
deriving DecidableEq

def policies : List RoomVersionPolicy :=
  [⟨"1", .roomV1V2, .roomV1V7, .roomV1, .v1, .referenceHash, true, false, false, false⟩,
    ⟨"2", .roomV1V2, .roomV1V7, .roomV1, .v2, .referenceHash, true, false, false, false⟩,
    ⟨"3", .roomV3Plus, .roomV1V7, .roomV1, .v2, .referenceHash, true, false, false, false⟩,
    ⟨"4", .roomV3Plus, .roomV1V7, .roomV1, .v2, .referenceHash, true, false, false, false⟩,
    ⟨"5", .roomV3Plus, .roomV1V7, .roomV1, .v2, .referenceHash, true, false, false, false⟩,
    ⟨"6", .roomV3Plus, .roomV1V7, .roomV6Plus, .v2, .referenceHash, true, false, false, false⟩,
    ⟨"7", .roomV3Plus, .roomV1V7, .roomV6Plus, .v2, .referenceHash, true, false, false, false⟩,
    ⟨"8", .roomV3Plus, .roomV8V10, .roomV6Plus, .v2, .referenceHash, true, false, false, false⟩,
    ⟨"9", .roomV3Plus, .roomV8V10, .roomV6Plus, .v2, .referenceHash, true, false, false, false⟩,
    ⟨"10", .roomV3Plus, .roomV8V10, .roomV6Plus, .v2, .referenceHash, true, false, false, true⟩,
    ⟨"11", .roomV3Plus, .roomV11Plus, .roomV6Plus, .v2, .referenceHash, true, false, false, true⟩,
    ⟨"12", .roomV3Plus, .roomV11Plus, .roomV12, .v2, .referenceHash, true, true, true, true⟩]

def findRoomVersionPolicy (id : Bytes) : Option RoomVersionPolicy :=
  policies.find? fun policy => policy.id = id

def roomVersionIsSupported (id : Bytes) : Bool :=
  (findRoomVersionPolicy id).isSome

/-- Room version 9, the newest that accepts string-encoded power levels. -/
def roomVersion9 : RoomVersionPolicy := policies.get ⟨8, by decide⟩

example : findRoomVersionPolicy "9" = some roomVersion9 := by decide

/-- Room version 11, the newest without privileged creators. -/
def roomVersion11 : RoomVersionPolicy := policies.get ⟨10, by decide⟩

example : findRoomVersionPolicy "11" = some roomVersion11 := by decide

end Merovingian.RoomVersions
