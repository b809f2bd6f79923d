import Mathlib.Tactic.SplitIfs
import Merovingian.ByteString

/-!
The persistent store's tables of accounts, devices and tokens. Every write is
offered to the backend first and changes the tables only when the backend
commits it, so a failed write leaves them as they were. Times are in
milliseconds.
-/

namespace Merovingian.CredentialTables

open ByteString

structure PersistentUser where
  userId : Bytes
  passwordHash : Bytes
  locked : Bool := false
  suspended : Bool := false
  admin : Bool := false
  deactivated : Bool := false
deriving DecidableEq

structure PersistentDevice where
  userId : Bytes
  deviceId : Bytes
  displayName : Bytes
deriving DecidableEq

/-- A row of the access tokens or of the refresh tokens, which have the same
columns. -/
structure PersistentToken where
  userId : Bytes
  deviceId : Bytes
  tokenHash : Bytes
  revoked : Bool
  expiresAt : Option Int
deriving DecidableEq

abbrev PersistentAccessToken := PersistentToken

abbrev PersistentRefreshToken := PersistentToken

structure PersistentLoginToken where
  userId : Bytes
  tokenHash : Bytes
  expiresAt : Int
  used : Bool
deriving DecidableEq

/-- A statement for the backend, by its name and the values that it binds. -/
inductive CredentialStatement where
  | insertUser (user : PersistentUser)
  | updateUserPassword (userId newHash : Bytes)
  | updateUserDeactivated (userId : Bytes)
  | insertDevice (device : PersistentDevice)
  | deleteDevice (userId deviceId : Bytes)
  | insertAccessToken (token : PersistentAccessToken)
  | insertRefreshToken (token : PersistentRefreshToken)
  | revokeAccessToken (tokenHash : Bytes)
  | revokeRefreshToken (tokenHash : Bytes)
  | revokeUserAccessTokens (userId : Bytes)
  | revokeUserRefreshTokens (userId : Bytes)
  | revokeDeviceAccessTokens (userId deviceId : Bytes)
  | revokeDeviceRefreshTokens (userId deviceId : Bytes)
  | revokeUserAccessTokensExceptDevice (userId deviceId : Bytes)
  | revokeUserRefreshTokensExceptDevice (userId deviceId : Bytes)
  | insertLoginToken (token : PersistentLoginToken)
  | pruneLoginToken (tokenHash : Bytes)
  | consumeLoginToken (tokenHash : Bytes)
deriving DecidableEq

abbrev CredentialBackend := List CredentialStatement → Bool

structure CredentialStore where
  users : List PersistentUser := []
  devices : List PersistentDevice := []
  accessTokens : List PersistentAccessToken := []
  refreshTokens : List PersistentRefreshToken := []
  loginTokens : List PersistentLoginToken := []
deriving DecidableEq

def tokenIsHash (tokenHash : Bytes) : Bool :=
  (utf8 "token-hash:v2:").isPrefixOf tokenHash || (utf8 "token-hash:v3:").isPrefixOf tokenHash ||
    (utf8 "token-hash:v4:").isPrefixOf tokenHash

def deviceExists (store : CredentialStore) (userId deviceId : Bytes) : Bool :=
  store.devices.any fun existing => existing.userId = userId && existing.deviceId = deviceId

section

variable (backend : CredentialBackend) (store : CredentialStore) (userId : Bytes)

def tokenExists (rows : List PersistentToken) (tokenHash : Bytes) : Bool :=
  rows.any fun existing => existing.tokenHash = tokenHash

def storeUser (user : PersistentUser) : Option CredentialStore :=
  if store.users.any fun existing => existing.userId = user.userId then none
  else if backend [.insertUser user] then
    some { store with users := store.users ++ [user] }
  else none

def updateUser (userId : Bytes) (change : PersistentUser → PersistentUser) :
    List PersistentUser → List PersistentUser
  | [] => []
  | user :: rest =>
    if user.userId = userId then change user :: rest else user :: updateUser userId change rest

def changeUser (statement : CredentialStatement) (change : PersistentUser → PersistentUser) : Option
    CredentialStore :=
  if !store.users.any fun user => user.userId = userId then none
  else if backend [statement] then
    some { store with users := updateUser userId change store.users }
  else none

def updateUserPassword (newHash : Bytes) : Option CredentialStore :=
  changeUser backend store userId (.updateUserPassword userId newHash)
    fun user => { user with passwordHash := newHash }

def setUserDeactivated : Option CredentialStore :=
  changeUser backend store userId (.updateUserDeactivated userId)
    fun user => { user with deactivated := true }

def storeAccessToken (token : PersistentAccessToken) : Option CredentialStore :=
  if !tokenIsHash token.tokenHash || tokenExists store.accessTokens token.tokenHash then none
  else if backend [.insertAccessToken token] then
    some { store with accessTokens := store.accessTokens ++ [token] }
  else none

def storeRefreshToken (token : PersistentRefreshToken) : Option CredentialStore :=
  if !tokenIsHash token.tokenHash || tokenExists store.refreshTokens token.tokenHash then none
  else if backend [.insertRefreshToken token] then
    some { store with refreshTokens := store.refreshTokens ++ [token] }
  else none

def storeDeviceAndAccessToken (device : Option PersistentDevice) (token : PersistentAccessToken) :
    Option CredentialStore :=
  if !tokenIsHash token.tokenHash || tokenExists store.accessTokens token.tokenHash then none
  else if device.any fun device => deviceExists store device.userId device.deviceId then none
  else if backend ((device.map .insertDevice).toList ++ [.insertAccessToken token]) then
    some { store with
      devices := store.devices ++ device.toList
      accessTokens := store.accessTokens ++ [token] }
  else none

def deleteDevice (deviceId : Bytes) : Option CredentialStore :=
  if !deviceExists store userId deviceId then none
  else if backend [.deleteDevice userId deviceId] then
    some { store with
      devices := store.devices.eraseP fun device =>
        device.userId = userId && device.deviceId = deviceId }
  else none

def revokeWhere (selects : PersistentToken → Bool) (rows : List PersistentToken) :
    List PersistentToken :=
  rows.map fun row => if selects row && !row.revoked then { row with revoked := true } else row

section

variable (statement : CredentialStatement) (selects : PersistentToken → Bool)

def countLive (rows : List PersistentToken) : Nat :=
  rows.countP fun row => selects row && !row.revoked

def revokeAccessRows : Nat × CredentialStore :=
  if backend [statement] then
    (countLive selects store.accessTokens,
      { store with accessTokens := revokeWhere selects store.accessTokens })
  else (0, store)

def revokeRefreshRows : Nat × CredentialStore :=
  if backend [statement] then
    (countLive selects store.refreshTokens,
      { store with refreshTokens := revokeWhere selects store.refreshTokens })
  else (0, store)

end

def revokeAccessToken (tokenHash : Bytes) : Nat × CredentialStore :=
  revokeAccessRows backend store (.revokeAccessToken tokenHash)
    fun row => row.tokenHash = tokenHash

def revokeRefreshToken (tokenHash : Bytes) : Nat × CredentialStore :=
  revokeRefreshRows backend store (.revokeRefreshToken tokenHash)
    fun row => row.tokenHash = tokenHash

def revokeAccessTokensForUser : Nat × CredentialStore :=
  revokeAccessRows backend store (.revokeUserAccessTokens userId)
    fun row => row.userId = userId

def revokeRefreshTokensForUser : Nat × CredentialStore :=
  revokeRefreshRows backend store (.revokeUserRefreshTokens userId)
    fun row => row.userId = userId

def revokeAccessTokensForDevice (deviceId : Bytes) : Nat × CredentialStore :=
  revokeAccessRows backend store (.revokeDeviceAccessTokens userId deviceId)
    fun row => row.userId = userId && row.deviceId = deviceId

def revokeRefreshTokensForDevice (deviceId : Bytes) : Nat × CredentialStore :=
  revokeRefreshRows backend store (.revokeDeviceRefreshTokens userId deviceId)
    fun row => row.userId = userId && row.deviceId = deviceId

def revokeTokensForUserExceptDevice (keepDeviceId : Bytes) : Nat × CredentialStore :=
  let selects := fun row : PersistentToken =>
    row.userId = userId && row.deviceId ≠ keepDeviceId
  let (access, store) := revokeAccessRows backend store
    (.revokeUserAccessTokensExceptDevice userId keepDeviceId) selects
  let (refresh, store) := revokeRefreshRows backend store
    (.revokeUserRefreshTokensExceptDevice userId keepDeviceId) selects
  (access + refresh, store)

/-- Stores a login token and sweeps the ones that are used or over. The sweep
drops a row from memory whether or not the backend drops it. -/
def storeLoginToken (now : Int) (token : PersistentLoginToken) : Option CredentialStore :=
  if token.userId.isEmpty || !tokenIsHash token.tokenHash then none
  else if backend [.insertLoginToken token] then
    let rows := store.loginTokens ++ [token]
    let stale := (rows.filter fun row => row.expiresAt ≤ now || row.used).map
      PersistentLoginToken.tokenHash
    some { store with
      loginTokens := stale.foldl
        (fun rows tokenHash => rows.eraseP fun row => row.tokenHash = tokenHash) rows }
  else none

def markUsed (matched : PersistentLoginToken → Bool) :
    List PersistentLoginToken → List PersistentLoginToken
  | [] => []
  | row :: rest =>
    if matched row then { row with used := true } :: rest else row :: markUsed matched rest

def consumeLoginToken (now : Int) (candidateHashes : List Bytes) : Option (Bytes ×
    CredentialStore) :=
  let matched := fun row : PersistentLoginToken =>
    !row.used && now < row.expiresAt && candidateHashes.contains row.tokenHash
  match store.loginTokens.find? matched with
  | none => none
  | some row =>
    if backend [.consumeLoginToken row.tokenHash] then
      some (row.userId, { store with loginTokens := markUsed matched store.loginTokens })
    else none

end

section Revocation

variable {selects : PersistentToken → Bool} {rows : List PersistentToken}

theorem revokeWhere_eq_map : revokeWhere selects rows =
      rows.map fun row => { row with revoked := row.revoked || selects row } := by
  apply List.map_congr_left
  rintro ⟨userId, deviceId, tokenHash, revoked, expiresAt⟩ -
  cases revoked <;> cases selects _ <;> rfl

@[simp] theorem revokeWhere_never : revokeWhere (fun _ => false) rows = rows := by
  simp [revokeWhere]

theorem countLive_eq_zero_iff : countLive selects rows = 0 ↔
      ∀ row ∈ rows, selects row = true → row.revoked = true := by
  unfold countLive
  rw [List.countP_eq_zero]
  refine forall₂_congr fun row _ => ?_
  cases row.revoked <;> simp

theorem revokeWhere_eq_self (hlive : countLive selects rows = 0) :
    revokeWhere selects rows = rows := by
  conv_rhs => rw [← List.map_id rows]
  apply List.map_congr_left
  intro row hrow
  have hrevoked := countLive_eq_zero_iff.mp hlive row hrow
  cases hselects : selects row with
  | false => simp
  | true => simp [hrevoked hselects]

theorem exists_of_countLive_pos {count : Nat} (hcount : countLive selects rows = count + 1) :
    ∃ row ∈ rows, selects row = true ∧ row.revoked = false := by
  have hpos : 0 < countLive selects rows := by omega
  obtain ⟨row, hrow, hlive⟩ := List.countP_pos_iff.mp hpos
  exact ⟨row, hrow, by simpa using hlive⟩

theorem revoked_of_mem_revokeWhere {userId : Bytes} {committed : Bool}
    (hdone : committed = true ∨ countLive (fun row => row.userId = userId) rows = 0) :
    ∀ row ∈ revokeWhere (fun row => committed && row.userId = userId) rows,
      row.userId = userId → row.revoked = true := by
  rw [revokeWhere_eq_map]
  intro row hrow huser
  obtain ⟨old, hold, rfl⟩ := List.mem_map.mp hrow
  change old.userId = userId at huser
  rcases hdone with rfl | hnone
  · simp [huser]
  · simp [countLive_eq_zero_iff.mp hnone old hold (by simpa using huser)]

variable (backend : CredentialBackend) (store : CredentialStore)
  (statement : CredentialStatement)

/-- A revocation that is not committed selects no row. -/
theorem revokeAccessRows_eq : revokeAccessRows backend store statement selects =
      (countLive (fun row => backend [statement] && selects row) store.accessTokens, { store with
          accessTokens := revokeWhere (fun row => backend [statement] && selects row)
            store.accessTokens }) := by
  unfold revokeAccessRows
  cases backend [statement] <;> simp [countLive]

theorem revokeRefreshRows_eq : revokeRefreshRows backend store statement selects =
      (countLive (fun row => backend [statement] && selects row) store.refreshTokens, { store with
          refreshTokens := revokeWhere (fun row => backend [statement] && selects row)
            store.refreshTokens }) := by
  unfold revokeRefreshRows
  cases backend [statement] <;> simp [countLive]

end Revocation

section Storing

variable {backend : CredentialBackend} {store after : CredentialStore}
  {token : PersistentToken}

theorem storeAccessToken_eq_some (h : storeAccessToken backend store token = some after) :
    after = { store with accessTokens := store.accessTokens ++ [token] } := by
  unfold storeAccessToken at h
  split_ifs at h
  exact (Option.some.inj h).symm

theorem storeRefreshToken_eq_some (h : storeRefreshToken backend store token = some after) :
    after = { store with refreshTokens := store.refreshTokens ++ [token] } := by
  unfold storeRefreshToken at h
  split_ifs at h
  exact (Option.some.inj h).symm

theorem changeUser_eq_some {userId : Bytes} {statement : CredentialStatement}
    {change : PersistentUser → PersistentUser}
    (h : changeUser backend store userId statement change = some after) :
    after = { store with users := updateUser userId change store.users } := by
  unfold changeUser at h
  split_ifs at h
  exact (Option.some.inj h).symm

end Storing

end Merovingian.CredentialTables
