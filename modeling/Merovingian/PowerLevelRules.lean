import Merovingian.PowerLevels

/-!
Rule 9 of the authorization rules: what an `m.room.power_levels` event may
contain, and how far it may move the levels of the event it replaces. Each
check reports the reason of the first violation, or nothing.
-/

namespace Merovingian.PowerLevelRules

open ByteString JsonValue RoomVersions PowerLevels Option

section

variable (content : Object) (policy : RoomVersionPolicy)

def scalarPowerLevelKeys : List Bytes :=
  ["users_default", "events_default", "state_default", "ban", "redact", "kick", "invite"]

def isStructurallyInvalid (character : UInt8) : Bool :=
  character ≤ 0x20 || character = 0x7F

/-- Permissive on the localpart; the server name must have a non-empty host
and at most one port separator. -/
def userIdIsWellFormed (userId : Bytes) : Bool :=
  if userId.length < 3 || userId.length > 255 || userId.head? ≠ some (byte '@') then false
  else
    match splitAtFirst (byte ':') userId with
    | none => false
    | some (sigilAndLocalpart, serverName) =>
      if serverName.isEmpty then false
      else if (sigilAndLocalpart.drop 1).any isStructurallyInvalid ||
          serverName.any isStructurallyInvalid then false
      else
        match splitAtFirst (byte ':') serverName with
        | none => true
        | some (host, port) => !host.isEmpty && (splitAtFirst (byte ':') port).isNone

def boundedPowerLevelMaps : List Bytes :=
  if policy.authRules = .roomV1 then ["events"] else ["events", "notifications"]

def allowStrings : Bool :=
  !policy.powerLevelsRequireIntegers

/-- Rule 9.1 for one scalar key. -/
def scalarContentRejection (key : Bytes) : Option Bytes :=
  match objectMember content key with
  | none => none
  | some value =>
    if (powerLevelValue (some value) (allowStrings policy)).isNone then
      some (key ++ utf8 " must be an integer")
    else none

/-- Rule 9.2 for one bounded map. -/
def mapContentRejection (key : Bytes) : Option Bytes :=
  match objectMember content key with
  | none => none
  | some value =>
    match valueIsObject value with
    | none => some (key ++ utf8 " must be an object")
    | some map =>
      if map.any fun entry =>
          (powerLevelValue (some entry.2) (allowStrings policy)).isNone then
        some (key ++ utf8 " values must be integers")
      else none

/-- Rule 9.3 for one entry of `content.users`. -/
def userEntryRejection (entry : Bytes × Value) : Option Bytes :=
  if !userIdIsWellFormed entry.1 then some "users keys must be valid user IDs"
  else if (powerLevelValue (some entry.2) (allowStrings policy)).isNone then
    some "users values must be integers"
  else none

def usersContentRejection : Option Bytes :=
  match objectMember content "users" with
  | none => none
  | some value =>
    match valueIsObject value with
    | none => some "users must be an object"
    | some users => users.findSome? (userEntryRejection policy)

/-- Rules 9.1, 9.2 and 9.3. -/
def powerLevelsContentRejectionReason : Option Bytes :=
  (scalarPowerLevelKeys.findSome? (scalarContentRejection content policy)).or <|
    ((boundedPowerLevelMaps policy).findSome? (mapContentRejection content policy)).or <|
      usersContentRejection content policy

end

/-- Rule 9.5 for one scalar key. An absent value is bounded by nothing. -/
def scalarChangeRejection (oldContent newContent : Object) (senderPower : Int64)
    (allowStringValues : Bool) (key : Bytes) : Option Bytes :=
  let oldLevel := powerLevelMember oldContent key allowStringValues
  let newLevel := powerLevelMember newContent key allowStringValues
  if oldLevel = newLevel then none
  else if oldLevel.any fun level => level > senderPower then
    some (utf8 "cannot alter " ++ key ++
      utf8 ": its current value exceeds the sender's power level")
  else if newLevel.any fun level => level > senderPower then
    some (utf8 "cannot set " ++ key ++ utf8 " above the sender's own power level")
  else none

def scalarPowerLevelRejectionReason (oldContent newContent : Object)
    (senderPower : Int64) (allowStringValues : Bool) : Option Bytes :=
  scalarPowerLevelKeys.findSome?
    (scalarChangeRejection oldContent newContent senderPower allowStringValues)

/-- The level a map of levels gives a key, if the map is there and the entry is
readable. -/
def mapLevel (map : Option Object) (key : Bytes) (allowStringValues : Bool) : Option Int64 :=
  map.bind fun entries => powerLevelMember entries key allowStringValues

/-- One direction of rules 9.6 and 9.7: an entry whose level is readable and
differs in the other map must not exceed the sender's power. -/
def mapEntryExceeds (other : Option Object) (senderPower : Int64)
    (allowStringValues : Bool) (entry : Bytes × Value) : Bool :=
  match powerLevelValue (some entry.2) allowStringValues with
  | none => false
  | some level =>
    mapLevel other entry.1 allowStringValues ≠ some level && level > senderPower

def powerLevelMapRejectionReason (oldContent newContent : Object) (mapKey : Bytes)
    (senderPower : Int64) (allowStringValues : Bool) : Option Bytes :=
  let oldMap := objectMemberAsObject oldContent mapKey
  let newMap := objectMemberAsObject newContent mapKey
  ((oldMap.getD []).findSome? fun entry =>
    if mapEntryExceeds newMap senderPower allowStringValues entry then
      some (mapKey ++ utf8 " entry '" ++ entry.1 ++
        utf8 "' currently exceeds the sender's power level")
    else none).or <|
  (newMap.getD []).findSome? fun entry =>
    if mapEntryExceeds oldMap senderPower allowStringValues entry then
      some (mapKey ++ utf8 " entry '" ++ entry.1 ++ utf8 "' exceeds the sender's power level")
    else none

/-- Rule 9.9: an entry that is added or changed is above the sender's power. -/
def elevatesUser (oldUsers : Option Object) (senderPower : Int64)
    (allowStringValues : Bool) (entry : Bytes × Value) : Bool :=
  match powerLevelValue (some entry.2) allowStringValues with
  | none => false
  | some newLevel =>
    let oldLevel :=
      match oldUsers with
      | none => -1
      | some users => extractUserLevelFromUsers users entry.1 allowStringValues
    (oldLevel < 0 || newLevel ≠ oldLevel) && newLevel > senderPower

/-- Rule 9.8: another user's entry at or above the sender's power is changed or
removed. An entry below zero is skipped like an absent one. -/
def demotesPeer (oldUsers : Object) (newUsers : Option Object) (sender : Bytes)
    (senderPower : Int64) (allowStringValues : Bool) (entry : Bytes × Value) : Bool :=
  if entry.1 = sender then false
  else
    let oldLevel := extractUserLevelFromUsers oldUsers entry.1 allowStringValues
    if oldLevel < 0 then false
    else
      mapLevel newUsers entry.1 allowStringValues ≠ some oldLevel && oldLevel ≥ senderPower

/-- Rules 9.5 to 9.9 against the power levels event being replaced. -/
def powerLevelsChangeRejection (powerLevels : Value) (newContent : Object)
    (sender : Bytes) (senderPower : Int64) (policy : RoomVersionPolicy) : Option Bytes :=
  let oldContent := eventContent powerLevels
  let oldUsers := oldContent.bind fun content => objectMemberAsObject content "users"
  let newUsers := objectMemberAsObject newContent "users"
  let contentRejection :=
    match oldContent with
    | none => none
    | some content =>
      (scalarPowerLevelRejectionReason content newContent senderPower
        (allowStrings policy)).or <|
      (boundedPowerLevelMaps policy).findSome? fun mapKey =>
        powerLevelMapRejectionReason content newContent mapKey senderPower
          (allowStrings policy)
  if contentRejection.isSome then contentRejection
  else if (newUsers.getD []).any (elevatesUser oldUsers senderPower (allowStrings policy)) then
    some "cannot elevate user above own power level"
  else if (oldUsers.getD []).any
      (demotesPeer (oldUsers.getD []) newUsers sender senderPower (allowStrings policy)) then
    some "cannot change or remove power level of user at or above own power level"
  else none

theorem check_eq_none_iff {rejected : Prop} [Decidable rejected] {reason : Bytes}
    {rest : Option Bytes} :
    (if rejected then some reason else rest) = none ↔ ¬rejected ∧ rest = none := by
  by_cases h : rejected <;> simp [h]

theorem scalarChangeRejection_eq_none_iff (oldContent newContent : Object) (senderPower : Int64)
    (allowStringValues : Bool) (key : Bytes) :
    scalarChangeRejection oldContent newContent senderPower allowStringValues key = none ↔
      powerLevelMember oldContent key allowStringValues =
          powerLevelMember newContent key allowStringValues ∨
        (∀ level, powerLevelMember oldContent key allowStringValues = some level →
          level ≤ senderPower) ∧
        (∀ level, powerLevelMember newContent key allowStringValues = some level →
          level ≤ senderPower) := by
  unfold scalarChangeRejection
  generalize powerLevelMember oldContent key allowStringValues = oldLevel
  generalize powerLevelMember newContent key allowStringValues = newLevel
  by_cases hsame : oldLevel = newLevel
  · simp [hsame]
  · have habove : ∀ candidate : Option Int64,
        (candidate.any fun level => level > senderPower) = false ↔
          ∀ level, candidate = some level → level ≤ senderPower := by
      intro candidate
      cases candidate <;> simp
    simp only [hsame, if_false, false_or, ← habove]
    cases oldLevel.any fun level => level > senderPower <;>
      cases newLevel.any fun level => level > senderPower <;> simp

variable {key userId : Bytes} {level senderPower : Int64} {allowStringValues : Bool}

/-- What rule 9.5 leaves standing: a scalar above the sender's power has the
same value before and after. -/
theorem scalar_kept_of_not_rejected {oldContent newContent : Object}
    (h : scalarPowerLevelRejectionReason oldContent newContent senderPower allowStringValues = none)
    (hkey : key ∈ scalarPowerLevelKeys) (hlevel : senderPower < level) :
    powerLevelMember oldContent key allowStringValues = some level ↔
      powerLevelMember newContent key allowStringValues = some level := by
  have hscalar := List.findSome?_eq_none_iff.mp h key hkey
  rw [scalarChangeRejection_eq_none_iff] at hscalar
  rcases hscalar with hsame | ⟨hold, hnew⟩
  · rw [hsame]
  · constructor
    · intro hmember
      exact absurd (hold level hmember) (not_le.mpr hlevel)
    · intro hmember
      exact absurd (hnew level hmember) (not_le.mpr hlevel)

theorem mem_of_powerLevelMember {object : Object}
    (h : powerLevelMember object key allowStringValues = some level) : ∃ value,
      (key, value) ∈ object ∧ powerLevelValue (some value) allowStringValues = some level := by
  unfold powerLevelMember at h
  cases hvalue : objectMember object key with
  | none => simp [hvalue, powerLevelValue] at h
  | some value => exact ⟨value, mem_of_objectMember hvalue, hvalue ▸ h⟩

theorem mapLevel_kept_of_not_exceeds {map other : Option Object}
    (h : ∀ entry ∈ map.getD [], mapEntryExceeds other senderPower allowStringValues entry = false)
    (hlevel : senderPower < level) (hmember : mapLevel map key allowStringValues = some level) :
    mapLevel other key allowStringValues = some level := by
  obtain ⟨entries, rfl, hentries⟩ := bind_eq_some_iff.mp hmember
  obtain ⟨value, hmem, hvalue⟩ := mem_of_powerLevelMember hentries
  have hkept := h (key, value) hmem
  simp only [mapEntryExceeds, hvalue] at hkept
  by_contra hdiffers
  simp [hdiffers, hlevel] at hkept

theorem powerLevelMapRejectionReason_eq_none_iff (oldContent newContent : Object) (mapKey : Bytes)
    (senderPower : Int64) (allowStringValues : Bool) :
    powerLevelMapRejectionReason oldContent newContent mapKey senderPower
        allowStringValues = none ↔
      (∀ entry ∈ (objectMemberAsObject oldContent mapKey).getD [],
        mapEntryExceeds (objectMemberAsObject newContent mapKey) senderPower
          allowStringValues entry = false) ∧
      ∀ entry ∈ (objectMemberAsObject newContent mapKey).getD [],
        mapEntryExceeds (objectMemberAsObject oldContent mapKey) senderPower
          allowStringValues entry = false := by
  simp only [powerLevelMapRejectionReason, or_eq_none_iff,
    List.findSome?_eq_none_iff, ite_eq_right_iff, reduceCtorEq, imp_false,
    Bool.not_eq_true]

theorem mapLevel_kept_of_not_rejected {oldContent newContent : Object} {mapKey : Bytes}
    (h : powerLevelMapRejectionReason oldContent newContent mapKey senderPower
      allowStringValues = none) (hlevel : senderPower < level) :
    mapLevel (objectMemberAsObject oldContent mapKey) key allowStringValues = some level ↔
      mapLevel (objectMemberAsObject newContent mapKey) key allowStringValues = some level := by
  rw [powerLevelMapRejectionReason_eq_none_iff] at h
  exact ⟨mapLevel_kept_of_not_exceeds h.1 hlevel, mapLevel_kept_of_not_exceeds h.2 hlevel⟩

theorem extractUserLevelFromUsers_of_nonneg {users : Object} (hlevel : 0 ≤ level) :
    extractUserLevelFromUsers users userId allowStringValues = level ↔
      powerLevelMember users userId allowStringValues = some level := by
  unfold extractUserLevelFromUsers
  cases hmember : powerLevelMember users userId allowStringValues with
  | none =>
    simp only [getD_none, reduceCtorEq, iff_false]
    rintro rfl
    exact absurd hlevel (by decide)
  | some own => simp

/-- What rule 9.9 leaves standing: a new entry above the sender's power is an
unchanged entry that is not negative. -/
theorem entry_kept_of_not_elevated {oldUsers newUsers : Option Object}
    (h : (newUsers.getD []).any (elevatesUser oldUsers senderPower allowStringValues) = false)
    (hlevel : senderPower < level)
    (hnew : mapLevel newUsers userId allowStringValues = some level) :
    mapLevel oldUsers userId allowStringValues = some level ∧ 0 ≤ level := by
  obtain ⟨users, rfl, husers⟩ := bind_eq_some_iff.mp hnew
  obtain ⟨value, hmem, hvalue⟩ := mem_of_powerLevelMember husers
  have hkept := List.any_eq_false.mp h (userId, value) hmem
  simp only [elevatesUser, hvalue, Bool.and_eq_true, Bool.or_eq_true,
    decide_eq_true_eq, not_and] at hkept
  have hsame := mt hkept (not_not.mpr hlevel)
  cases oldUsers with
  | none => exact absurd (Or.inl (show (-1 : Int64) < 0 by decide)) hsame
  | some old =>
    simp only [not_or, not_lt, not_not] at hsame
    obtain ⟨hnonneg, hequal⟩ := hsame
    rw [← hequal] at hnonneg
    exact ⟨(extractUserLevelFromUsers_of_nonneg hnonneg).mp hequal.symm, hnonneg⟩

/-- What rule 9.8 leaves standing: another user's entry that is not negative
and at least the sender's power is unchanged. -/
theorem entry_kept_of_not_demoted {oldUsers : Object} {newUsers : Option Object} {sender : Bytes}
    (h : oldUsers.any (demotesPeer oldUsers newUsers sender senderPower allowStringValues) = false)
    (huser : userId ≠ sender) (hnonneg : 0 ≤ level) (hlevel : senderPower ≤ level)
    (hold : powerLevelMember oldUsers userId allowStringValues = some level) :
    mapLevel newUsers userId allowStringValues = some level := by
  have hextract := (extractUserLevelFromUsers_of_nonneg hnonneg).mpr hold
  obtain ⟨value, hmem, -⟩ := mem_of_powerLevelMember hold
  have hkept := List.any_eq_false.mp h (userId, value) hmem
  by_contra hdiffers
  simp [demotesPeer, huser, hextract, not_lt.mpr hnonneg, hdiffers, hlevel] at hkept

theorem powerLevelsChangeRejection_eq_none_iff (powerLevels : Value) (newContent : Object)
    (sender : Bytes) (senderPower : Int64) (policy : RoomVersionPolicy) :
    powerLevelsChangeRejection powerLevels newContent sender senderPower policy = none ↔
      (∀ oldContent, eventContent powerLevels = some oldContent →
        scalarPowerLevelRejectionReason oldContent newContent senderPower
            (allowStrings policy) = none ∧
          ∀ mapKey ∈ boundedPowerLevelMaps policy,
            powerLevelMapRejectionReason oldContent newContent mapKey senderPower
              (allowStrings policy) = none) ∧
      ((objectMemberAsObject newContent "users").getD []).any
          (elevatesUser
            ((eventContent powerLevels).bind fun content =>
              objectMemberAsObject content "users")
            senderPower (allowStrings policy)) = false ∧
      ∀ oldUsers, ((eventContent powerLevels).bind fun content =>
          objectMemberAsObject content "users") = some oldUsers →
        oldUsers.any
          (demotesPeer oldUsers (objectMemberAsObject newContent "users") sender
            senderPower (allowStrings policy)) = false := by
  unfold powerLevelsChangeRejection
  cases eventContent powerLevels with
  | none => simp
  | some oldContent =>
    simp only [bind_some, some.injEq, forall_eq']
    cases hcontent : (scalarPowerLevelRejectionReason oldContent newContent senderPower
            (allowStrings policy)).or
          ((boundedPowerLevelMaps policy).findSome? fun mapKey =>
            powerLevelMapRejectionReason oldContent newContent mapKey senderPower
              (allowStrings policy)) with
    | some reason =>
      have hrejected := hcontent ▸ some_ne_none reason
      rw [ne_eq, or_eq_none_iff, List.findSome?_eq_none_iff] at hrejected
      simp [hrejected]
    | none =>
      rw [or_eq_none_iff, List.findSome?_eq_none_iff] at hcontent
      rw [and_iff_right hcontent]
      simp only [isSome_none, Bool.false_eq_true, if_false,
        check_eq_none_iff, Bool.not_eq_true]
      cases objectMemberAsObject oldContent "users" <;> simp

end Merovingian.PowerLevelRules
