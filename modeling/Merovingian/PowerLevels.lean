import Merovingian.JsonValue
import Merovingian.RoomVersions

/-!
Readers of `m.room.power_levels` content. The authorization rules and state
resolution each have their own reader of a user's level; this module relates
both to the level the content states.
-/

namespace Merovingian.PowerLevels

open ByteString JsonValue RoomVersions

section

variable (powerLevelsEvent : Value) (userId : Bytes) (allowStringValues : Bool)

/-- A power level in a form the room version accepts: an integer or, where
strings are allowed, a plain optionally signed decimal integer. -/
def powerLevelValue (value : Option Value) (allowStringValues : Bool) : Option Int64 :=
  match value with
  | none => none
  | some (.integer level) => some level
  | some (.string text) =>
    if !allowStringValues || text.isEmpty then none
    else
      match fromChars text with
      | .ok parsed rest => if rest.isEmpty then some parsed else none
      | _ => none
  | some _ => none

def powerLevelMember (object : Object) (key : Bytes) (allowStringValues : Bool) : Option Int64 :=
  powerLevelValue (objectMember object key) allowStringValues

/-- The level of a user's own entry, with `-1` standing for an entry that is
absent or unreadable. -/
def extractUserLevelFromUsers (usersObject : Object) (userId : Bytes)
    (allowStringValues : Bool) : Int64 :=
  (powerLevelMember usersObject userId allowStringValues).getD (-1)

def extractPowerLevelKey (key : Bytes) (defaultValue : Int64) (allowStringValues : Bool) : Int64 :=
  match eventContent powerLevelsEvent with
  | none => defaultValue
  | some content => (powerLevelMember content key allowStringValues).getD defaultValue

/-- The reader of the authorization rules. -/
def extractUserPowerLevel : Int64 :=
  match eventContent powerLevelsEvent with
  | none => 0
  | some content =>
    let defaultLevel :=
      extractPowerLevelKey powerLevelsEvent "users_default" 0 allowStringValues
    match objectMemberAsObject content "users" with
    | none => defaultLevel
    | some users =>
      let userLevel := extractUserLevelFromUsers users userId allowStringValues
      if userLevel ≥ 0 then userLevel else defaultLevel

/-- The reader of state resolution. -/
def extractUserPower (policy : RoomVersionPolicy) : Int64 :=
  match eventContent powerLevelsEvent with
  | none => 0
  | some content =>
    let allowStringValues := !policy.powerLevelsRequireIntegers
    let defaultLevel :=
      (powerLevelMember content "users_default" allowStringValues).getD 0
    match objectMemberAsObject content "users" with
    | none => defaultLevel
    | some users => (powerLevelMember users userId allowStringValues).getD defaultLevel

/-- Room creators, where the room version privileges them: the sender of the
create event and the users it lists as additional creators. -/
def userIsRoomCreator (createEvent : Value) (userId : Bytes)
    (policy : RoomVersionPolicy) : Bool :=
  if !policy.privilegeRoomCreators then false
  else
    match valueIsObject createEvent with
    | none => false
    | some object =>
      if stringMember object "sender" = some userId then true
      else
        match objectMemberAsObject object "content" with
        | none => false
        | some content =>
          match objectMember content "additional_creators" with
          | none => false
          | some additional => arrayContainsString additional userId

def creatorPower : Int64 := Int64.maxValue

def effectiveSenderPower (powerLevels : Value) (sender : Bytes) (createEvent : Value)
    (policy : RoomVersionPolicy) : Int64 :=
  if userIsRoomCreator createEvent sender policy then creatorPower
  else if valueHasContent powerLevels then
    extractUserPowerLevel powerLevels sender (!policy.powerLevelsRequireIntegers)
  else if eventContentString createEvent "creator" = some sender then 100
  else 0

/-- The level a `content.users` entry states for the user, if it is readable. -/
def ownEntry : Option Int64 :=
  (eventContent powerLevelsEvent).bind fun content =>
    (objectMemberAsObject content "users").bind fun users =>
      powerLevelMember users userId allowStringValues

/-- `content.users_default` when it is readable, else zero. -/
def usersDefaultLevel : Int64 :=
  extractPowerLevelKey powerLevelsEvent "users_default" 0 allowStringValues

/-- The level the content states: the user's own entry when it is readable,
of either sign, and the users default otherwise. -/
def statedUserPower : Int64 :=
  (ownEntry powerLevelsEvent userId allowStringValues).getD
    (usersDefaultLevel powerLevelsEvent allowStringValues)

end

variable (powerLevelsEvent : Value)

theorem extractUserPower_eq_stated (userId : Bytes)
    (policy : RoomVersionPolicy) :
    extractUserPower powerLevelsEvent userId policy =
      statedUserPower powerLevelsEvent userId (!policy.powerLevelsRequireIntegers) := by
  unfold extractUserPower statedUserPower ownEntry usersDefaultLevel extractPowerLevelKey
  cases hcontent : eventContent powerLevelsEvent with
  | none => rfl
  | some content =>
    cases husers : objectMemberAsObject content "users" with
    | none => simp [husers]
    | some users => simp [husers]

/-- The authorization reader takes the own entry only when it is not negative:
the marker for a missing entry is itself a negative level. -/
theorem extractUserPowerLevel_eq (userId : Bytes)
    (allowStringValues : Bool) :
    extractUserPowerLevel powerLevelsEvent userId allowStringValues =
      ((ownEntry powerLevelsEvent userId allowStringValues).filter (0 ≤ ·)).getD
        (usersDefaultLevel powerLevelsEvent allowStringValues) := by
  unfold extractUserPowerLevel ownEntry extractUserLevelFromUsers
  cases hcontent : eventContent powerLevelsEvent with
  | none => simp [usersDefaultLevel, extractPowerLevelKey, hcontent]
  | some content =>
    cases husers : objectMemberAsObject content "users" with
    | none => simp [husers, usersDefaultLevel]
    | some users =>
      cases hlevel : powerLevelMember users userId allowStringValues with
      | none => simp [husers, hlevel, usersDefaultLevel]
      | some level =>
        by_cases hsign : 0 ≤ level <;>
          simp [husers, hlevel, hsign, usersDefaultLevel, Option.filter_some]

theorem extractUserPowerLevel_eq_stated_iff (userId : Bytes)
    (allowStringValues : Bool) :
    extractUserPowerLevel powerLevelsEvent userId allowStringValues =
        statedUserPower powerLevelsEvent userId allowStringValues ↔
      ∀ level, ownEntry powerLevelsEvent userId allowStringValues = some level →
        level < 0 → level = usersDefaultLevel powerLevelsEvent allowStringValues := by
  rw [extractUserPowerLevel_eq, statedUserPower]
  cases howner : ownEntry powerLevelsEvent userId allowStringValues with
  | none => simp
  | some level =>
    simp only [Option.getD_some, Option.some.injEq, forall_eq']
    by_cases hsign : 0 ≤ level
    · simp [hsign, not_lt.mpr hsign, Option.filter_some]
    · simp only [Option.filter_some, hsign, decide_false, Bool.false_eq_true, if_false,
        Option.getD_none, not_le.mp hsign, true_implies]
      exact eq_comm

/-- Both readers give the level the content states exactly when the user's own
entry is not a negative level different from the users default. -/
theorem powerReaders_agree_iff (policy : RoomVersionPolicy) (powerLevelsEvent : Value)
    (userId : Bytes) :
    (extractUserPower powerLevelsEvent userId policy =
          statedUserPower powerLevelsEvent userId (!policy.powerLevelsRequireIntegers) ∧
        extractUserPowerLevel powerLevelsEvent userId (!policy.powerLevelsRequireIntegers) =
          statedUserPower powerLevelsEvent userId (!policy.powerLevelsRequireIntegers)) ↔
      ∀ level, ownEntry powerLevelsEvent userId (!policy.powerLevelsRequireIntegers) = some level →
        level < 0 →
        level = usersDefaultLevel powerLevelsEvent (!policy.powerLevelsRequireIntegers) := by
  rw [← extractUserPowerLevel_eq_stated_iff]
  constructor
  · exact And.right
  · intro hlevel
    exact ⟨extractUserPower_eq_stated powerLevelsEvent userId policy, hlevel⟩

def mutingPowerLevels : Value :=
  .object [("type", .string "m.room.power_levels"),
    ("content", .object [("users", .object [("@muted:example.org", .integer (-5))])])]

theorem powerReaders_disagree_on_negative_entry :
    extractUserPower mutingPowerLevels "@muted:example.org" roomVersion11 = -5 ∧
      extractUserPowerLevel mutingPowerLevels "@muted:example.org"
        (!roomVersion11.powerLevelsRequireIntegers) = 0 := by
  decide +kernel

end Merovingian.PowerLevels
