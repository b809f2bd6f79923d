import Merovingian.CredentialTables
import Merovingian.Identifiers

/-!
The authentication service: accounts and sessions held in memory over the
persistent tables, and the operations that log users in and out, rotate and
upgrade their tokens and close their accounts. A token is stored only as a
hash, in one of three versions of which the last two depend on the master key.
-/

namespace Merovingian.AuthService

open ByteString Identifiers CredentialTables

structure LocalUser where
  userId : Bytes
  passwordHash : Bytes
  locked : Bool := false
  suspended : Bool := false
  admin : Bool := false
  deactivated : Bool := false
deriving DecidableEq

structure LocalSession where
  userId : Bytes
  deviceId : Bytes
  accessTokenHash : Bytes
  revoked : Bool := false
  expiresAt : Option Int := none
deriving DecidableEq

structure FailedLoginRecord where
  count : Nat := 0
  firstFailure : Int := 0
  lastFailure : Int := 0
deriving DecidableEq

structure AppserviceRegistration where
  id : Bytes
  senderLocalpart : Bytes
  /-- Whether one of the regular expressions of its user namespaces matches. -/
  userNamespaceMatches : Bytes → Bool

/-- The parts of the configuration that the service reads, with the hash
functions of the cryptographic libraries. A keyed digest is missing when there
is no master key. -/
structure AuthConfig where
  serverName : Bytes
  accessTokenLifetimeMs : Int
  refreshTokenLifetimeMs : Int
  appservices : List AppserviceRegistration
  ssoEnabled : Bool
  ssoAuthorizationUrl : Bytes
  ssoRedirectUrlAllowlist : List Bytes
  digestV2 : Bytes → Option Bytes
  digestV3 : Bytes → Option Bytes
  digestV4 : Bytes → Option Bytes
  hashPassword : Bytes → Option Bytes
  passwordMatches : Bytes → Bytes → Bool

structure HomeserverRuntime where
  users : List LocalUser := []
  sessions : List LocalSession := []
  store : CredentialStore := {}
  failedLogins : List (Bytes × FailedLoginRecord) := []
  now : Int := 0
deriving DecidableEq

structure OperationResult where
  ok : Bool
  status : Nat
  value : Bytes
  reason : Bytes
  retryAfterMs : Nat := 0
deriving DecidableEq

def accepted (value : Bytes) : OperationResult := ⟨true, 200, value, [], 0⟩

def rejected (reason : Bytes) (status : Nat) : OperationResult :=
  ⟨false, status, [], reason, 0⟩

section

variable (config : AuthConfig) (tokenHash : Bytes)

def hashAccessToken (version : Bytes) (digest : Bytes → Option Bytes) (token : Bytes) :
    Option Bytes :=
  if token.isEmpty then none else (digest token).map (version ++ ·)

def hashAccessTokenV2 : Bytes → Option Bytes :=
  hashAccessToken "token-hash:v2:" config.digestV2

def hashAccessTokenV3 : Bytes → Option Bytes :=
  hashAccessToken "token-hash:v3:" config.digestV3

def hashAccessTokenV4 : Bytes → Option Bytes :=
  hashAccessToken "token-hash:v4:" config.digestV4

def tokenHashIsV2 : Bool := (utf8 "token-hash:v2:").isPrefixOf tokenHash

def tokenHashIsV3 : Bool := (utf8 "token-hash:v3:").isPrefixOf tokenHash

def tokenHashIsV4 : Bool := (utf8 "token-hash:v4:").isPrefixOf tokenHash

def issueTokenHash (token : Bytes) : Option Bytes :=
  (hashAccessTokenV4 config token).or
    ((hashAccessTokenV3 config token).or (hashAccessTokenV2 config token))

def lookupTokenHashes (token : Bytes) : List Bytes :=
  (hashAccessTokenV4 config token).toList ++ (hashAccessTokenV3 config token).toList ++
    (hashAccessTokenV2 config token).toList

end

def tokenHashMatches (left right : Bytes) : Bool :=
  ((tokenHashIsV2 left && tokenHashIsV2 right) || (tokenHashIsV3 left && tokenHashIsV3 right) ||
    (tokenHashIsV4 left && tokenHashIsV4 right)) && left = right

def matchesAnyTokenHash (storedHash : Bytes) (tokenHashes : List Bytes) : Bool :=
  tokenHashes.any (tokenHashMatches storedHash)

def issueToken (randomHex : Option Bytes) : Option Bytes :=
  randomHex.map (utf8 "mvs_" ++ ·)

section

variable (config : AuthConfig) (backend : CredentialBackend) (runtime : HomeserverRuntime)

def findUser (userId : Bytes) : Option LocalUser :=
  runtime.users.find? fun user => user.userId = userId

def isExpired (expiresAt : Option Int) (now : Int) : Bool :=
  expiresAt.any fun expiry => expiry ≤ now

def tokenExpiresAt (lifetimeMs : Int) (now : Int) : Option Int :=
  if lifetimeMs ≤ 0 then none else some (now + lifetimeMs)

def sessionIsLive (tokenHashes : List Bytes) (now : Int) (session : LocalSession) : Bool :=
  matchesAnyTokenHash session.accessTokenHash tokenHashes && !session.revoked &&
    !isExpired session.expiresAt now

def findSession (tokenHashes : List Bytes) : Option LocalSession :=
  runtime.sessions.find? (sessionIsLive tokenHashes runtime.now)

def revokeSessions (selects : LocalSession → Bool) (sessions : List LocalSession) :
    List LocalSession :=
  sessions.map fun session =>
    if selects session then { session with revoked := true } else session

/-- The upgrade's pass over the sessions: the rewritten sessions, what the view
of the matched hash reads afterwards, and the last session that was rewritten. -/
structure UpgradeScan where
  sessions : List LocalSession
  viewed : Bytes
  upgraded : Option LocalSession

/-- The pass gets its hash as a view of the text of the matched session, the
one at `position`. When it rewrites that session the view reads the new hash,
and the rest of the pass compares with that one. -/
def upgradeSessions (v4Hash : Bytes) (position : Nat) :
    Nat → Bytes → List LocalSession → UpgradeScan
  | _, viewed, [] => ⟨[], viewed, none⟩
  | index, viewed, session :: rest =>
    if !session.revoked && tokenHashMatches session.accessTokenHash viewed then
      let scan := upgradeSessions v4Hash position (index + 1)
        (if index = position then v4Hash else viewed) rest
      ⟨{ session with accessTokenHash := v4Hash } :: scan.sessions, scan.viewed,
        scan.upgraded.or (some session)⟩
    else
      let scan := upgradeSessions v4Hash position (index + 1) viewed rest
      ⟨session :: scan.sessions, scan.viewed, scan.upgraded⟩

def storeUpgrade (v4Hash : Bytes) (scan : UpgradeScan) : HomeserverRuntime :=
  match scan.upgraded with
  | none => { runtime with sessions := scan.sessions }
  | some session =>
    match revokeAccessToken backend runtime.store scan.viewed with
    | (0, store) => { runtime with sessions := scan.sessions, store := store }
    | (_ + 1, store) =>
      { runtime with
        sessions := scan.sessions
        store := (storeAccessToken backend store ⟨session.userId, session.deviceId, v4Hash,
          false, session.expiresAt⟩).getD store }

def upgradeV3AccessTokenToV4 (token : Bytes) (position : Nat) (matchedV3Hash : Bytes) :
    HomeserverRuntime :=
  if !tokenHashIsV3 matchedV3Hash then runtime
  else
    match hashAccessTokenV4 config token with
    | none => runtime
    | some v4Hash =>
      storeUpgrade backend runtime v4Hash
        (upgradeSessions v4Hash position 0 matchedV3Hash runtime.sessions)

def senderUserId (registration : AppserviceRegistration) (serverName : Bytes) : Bytes :=
  utf8 "@" ++ registration.senderLocalpart ++ utf8 ":" ++ serverName

def appserviceOwnsUser (registration : AppserviceRegistration) (serverName userId : Bytes) : Bool :=
  senderUserId registration serverName = userId || registration.userNamespaceMatches userId

def findRegistration (appserviceId : Bytes) : Option AppserviceRegistration :=
  config.appservices.find? fun registration => registration.id = appserviceId

def masqueradeIsValid (identity : MasqueradeIdentity) : Bool :=
  (findRegistration config identity.appserviceId).any fun registration =>
    appserviceOwnsUser registration config.serverName identity.userId

def sessionOwner (accessToken : Bytes) : Option Bytes × HomeserverRuntime :=
  match findSession runtime (lookupTokenHashes config accessToken) with
  | none => (none, runtime)
  | some session =>
    let upgraded := upgradeV3AccessTokenToV4 config backend runtime accessToken
      (runtime.sessions.findIdx
        (sessionIsLive (lookupTokenHashes config accessToken) runtime.now))
      session.accessTokenHash
    ((findUser upgraded session.userId).map fun _ => session.userId, upgraded)

def authenticatedUser (accessToken : Bytes) : Option Bytes × HomeserverRuntime :=
  match decodeMasqueradeToken accessToken with
  | some identity =>
    (if masqueradeIsValid config identity then some identity.userId else none, runtime)
  | none => sessionOwner config backend runtime accessToken

def authenticatedSession (accessToken : Bytes) : Option LocalSession :=
  match decodeMasqueradeToken accessToken with
  | some identity =>
    if masqueradeIsValid config identity then
      some ⟨identity.userId, identity.deviceId, [], false, none⟩
    else none
  | none =>
    (findSession runtime (lookupTokenHashes config accessToken)).filter fun session =>
      (findUser runtime session.userId).isSome

def makeUser (localpart password : Bytes) (admin enforcePasswordPolicy : Bool) : OperationResult ×
    HomeserverRuntime :=
  let userId := utf8 "@" ++ localpart ++ utf8 ":" ++ config.serverName
  if !userIdIsValid userId then (rejected "invalid user id" 400, runtime)
  else if enforcePasswordPolicy && !passwordIsAcceptable password then
    (rejected "password rejected" 400, runtime)
  else if (findUser runtime userId).isSome then (rejected "user already exists" 400, runtime)
  else
    match config.hashPassword password with
    | none => (rejected "password hashing failed" 400, runtime)
    | some passwordHash =>
      match storeUser backend runtime.store ⟨userId, passwordHash, false, false, admin, false⟩ with
      | none => (rejected "user persistence failed" 500, runtime)
      | some store =>
        (accepted userId, { runtime with
          users := runtime.users ++ [⟨userId, passwordHash, false, false, admin, false⟩]
          store := store })

inductive AccountState where
  | active
  | locked
  | suspended
deriving DecidableEq

/-- A suspension hides a lock here. -/
def accountState (user : LocalUser) : AccountState :=
  if user.suspended then .suspended else if user.locked then .locked else .active

structure UserIdentity where
  userId : Bytes
  state : AccountState
  passwordLoginEnabled : Bool := true

def loginPolicy (user : UserIdentity) : Option Bytes :=
  if !userIdIsValid user.userId then some "invalid user_id"
  else if !user.passwordLoginEnabled then some "password login disabled"
  else if user.state = .locked then some "account locked"
  else none

def loginRejection (user : LocalUser) (deviceId : Bytes) : Option OperationResult :=
  if !deviceIdIsValid deviceId then some (rejected "invalid device id" 400)
  else if user.deactivated then some (rejected "account deactivated" 403)
  else if (loginPolicy ⟨user.userId, accountState user, true⟩).isSome then
    some (rejected "invalid login" 403)
  else none

def completeLogin (user : LocalUser) (deviceId : Bytes) (withTtl : Bool)
    (randomHex : Option Bytes) : OperationResult × HomeserverRuntime :=
  match loginRejection user deviceId with
  | some result => (result, runtime)
  | none =>
    match issueToken randomHex with
    | none => (rejected "token generation failed" 400, runtime)
    | some token =>
      match issueTokenHash config token with
      | none => (rejected "token hashing failed" 400, runtime)
      | some tokenHash =>
        let device :=
          if deviceExists runtime.store user.userId deviceId then none
          else some ⟨user.userId, deviceId, deviceId⟩
        let expiresAt :=
          tokenExpiresAt (if withTtl then config.accessTokenLifetimeMs else 0) runtime.now
        match storeDeviceAndAccessToken backend runtime.store device
            ⟨user.userId, deviceId, tokenHash, false, expiresAt⟩ with
        | none => (rejected "login persistence failed" 500, runtime)
        | some store =>
          (accepted token, { runtime with
            store := store
            sessions := runtime.sessions ++
              [⟨user.userId, deviceId, tokenHash, false, expiresAt⟩] })

def loginLocalUserById (userId deviceId : Bytes) (withTtl : Bool) (randomHex : Option Bytes) :
    OperationResult × HomeserverRuntime :=
  match findUser runtime userId with
  | none => (rejected "invalid login" 403, runtime)
  | some user => completeLogin config backend runtime user deviceId withTtl randomHex

def loginAppserviceUser (userId deviceId : Bytes) (randomHex : Option Bytes) : OperationResult ×
    HomeserverRuntime :=
  match findUser runtime userId with
  | none => (rejected "invalid login" 403, runtime)
  | some user => completeLogin config backend runtime user deviceId false randomHex

end

def maxFailedLoginAttempts : Nat := 5

/-- The throttle reads a clock of its own, whose tick is a nanosecond. -/
def ticksPerMs : Int := 1000000

def failedLoginWindow : Int := 15 * 60 * 1000 * ticksPerMs

def failedLoginLockout : Int := 15 * 60 * 1000 * ticksPerMs

abbrev FailedLogins := List (Bytes × FailedLoginRecord)

section

variable (records : FailedLogins) (config : AuthConfig) (now : Int) (userId : Bytes)

def eraseFailedLogin : FailedLogins :=
  records.filter fun record => record.1 ≠ userId

def expireFailedLogins : FailedLogins :=
  records.filter fun record =>
    !(failedLoginWindow < now - record.2.lastFailure &&
      failedLoginLockout < now - record.2.lastFailure)

/-- The whole milliseconds until the account may try again, and the records without
a lockout that is over. -/
def failedLoginLockoutRemainingMs : Nat × FailedLogins :=
  match records.lookup userId with
  | none => (0, records)
  | some record =>
    if record.count < maxFailedLoginAttempts then (0, records)
    else if record.lastFailure + failedLoginLockout ≤ now then
      (0, eraseFailedLogin records userId)
    else (((record.lastFailure + failedLoginLockout - now) / ticksPerMs).toNat, records)

def recordFailedLogin : FailedLogins :=
  let records := expireFailedLogins records now
  let record := (records.lookup userId).getD {}
  let record : FailedLoginRecord :=
    if record.count = 0 || failedLoginWindow < now - record.firstFailure then
      { record with count := 0, firstFailure := now }
    else record
  (userId, { record with count := record.count + 1, lastFailure := now }) ::
    eraseFailedLogin records userId

/-- Whether the password opens the account. For an unknown account a dummy is
checked, and the answer is no. -/
def passwordOpens (user : Option LocalUser) (password : Bytes) : Bool :=
  user.any fun user => config.passwordMatches user.passwordHash password

def loginLocalUser (backend : CredentialBackend) (runtime : HomeserverRuntime)
    (userId password deviceId : Bytes) (withTtl : Bool) (randomHex : Option Bytes) : OperationResult
    × HomeserverRuntime :=
  let steadyNow := runtime.now * ticksPerMs
  let (retryAfterMs, records) :=
    failedLoginLockoutRemainingMs runtime.failedLogins steadyNow userId
  let runtime := { runtime with failedLogins := records }
  if 0 < retryAfterMs then
    ({ rejected "too many failed login attempts" 429 with
        retryAfterMs := min retryAfterMs (2 ^ 32 - 1) }, runtime)
  else if !passwordOpens config (findUser runtime userId) password then
    (rejected "invalid login" 403,
      { runtime with failedLogins := recordFailedLogin records steadyNow userId })
  else
    loginLocalUserById config backend
      { runtime with failedLogins := eraseFailedLogin records userId } userId deviceId withTtl
      randomHex

def issueRefreshTokenForSession (backend : CredentialBackend) (runtime : HomeserverRuntime)
    (userId deviceId : Bytes) (randomHex : Option Bytes) : OperationResult × HomeserverRuntime :=
  if (findUser runtime userId).isNone || !deviceIdIsValid deviceId then
    (rejected "invalid refresh subject" 400, runtime)
  else
    match issueToken randomHex with
    | none => (rejected "refresh token generation failed" 500, runtime)
    | some refreshToken =>
      match issueTokenHash config refreshToken with
      | none => (rejected "refresh token hashing failed" 500, runtime)
      | some refreshHash =>
        match storeRefreshToken backend runtime.store ⟨userId, deviceId, refreshHash, false,
            tokenExpiresAt config.refreshTokenLifetimeMs runtime.now⟩ with
        | none => (rejected "refresh token persistence failed" 500, runtime)
        | some store => (accepted refreshToken, { runtime with store := store })

end

structure SessionRefreshResult where
  ok : Bool
  status : Nat
  accessToken : Bytes
  refreshToken : Bytes
  userId : Bytes
  deviceId : Bytes
  reason : Bytes
  errcode : Bytes := []
  softLogout : Bool := false
deriving DecidableEq

def refreshRejected (status : Nat) (reason : Bytes) : SessionRefreshResult :=
  ⟨false, status, [], [], [], [], reason, [], false⟩

def findRefreshRow (runtime : HomeserverRuntime) (refreshHashes : List Bytes) :
    Option PersistentRefreshToken :=
  runtime.store.refreshTokens.find? fun row =>
    matchesAnyTokenHash row.tokenHash refreshHashes && !row.revoked &&
      !isExpired row.expiresAt runtime.now

def refreshRejection (runtime : HomeserverRuntime) (refresh : PersistentRefreshToken) :
    Option SessionRefreshResult :=
  match findUser runtime refresh.userId with
  | none => some (refreshRejected 401 "refresh subject rejected")
  | some user =>
    if !deviceIdIsValid refresh.deviceId then
      some (refreshRejected 401 "refresh subject rejected")
    else if user.deactivated then some (refreshRejected 401 "account deactivated")
    else if user.locked then
      some { refreshRejected 401 "This account has been locked" with
        errcode := "M_USER_LOCKED", softLogout := true }
    else if !deviceExists runtime.store refresh.userId refresh.deviceId then
      some (refreshRejected 401 "refresh device rejected")
    else none

def sessionOf (row : PersistentAccessToken) : LocalSession :=
  ⟨row.userId, row.deviceId, row.tokenHash, row.revoked, row.expiresAt⟩

section

variable (config : AuthConfig) (backend : CredentialBackend) (runtime : HomeserverRuntime)

/-- Stores a new pair of tokens and opens its session, in two transactions. -/
def storeRefreshedTokens (access : PersistentAccessToken) (refresh : PersistentRefreshToken) : Bool
    × HomeserverRuntime :=
  match storeAccessToken backend runtime.store access with
  | none => (false, runtime)
  | some store =>
    match storeRefreshToken backend store refresh with
    | none => (false, { runtime with store := store })
    | some store =>
      (true, { runtime with
        store := store
        sessions := runtime.sessions ++ [sessionOf access] })

def mintRefreshedTokens (userId deviceId : Bytes)
    (accessRandomHex refreshRandomHex : Option Bytes) : SessionRefreshResult × HomeserverRuntime :=
  match issueToken accessRandomHex, issueToken refreshRandomHex with
  | some accessToken, some refreshToken =>
    match issueTokenHash config accessToken, issueTokenHash config refreshToken with
    | some accessHash, some refreshHash =>
      let (stored, runtime) := storeRefreshedTokens backend runtime
        ⟨userId, deviceId, accessHash, false,
          tokenExpiresAt config.accessTokenLifetimeMs runtime.now⟩
        ⟨userId, deviceId, refreshHash, false,
          tokenExpiresAt config.refreshTokenLifetimeMs runtime.now⟩
      (if stored then
          ⟨true, 200, accessToken, refreshToken, userId, deviceId, [], [], false⟩
        else refreshRejected 500 "refreshed token persistence failed", runtime)
    | _, _ => (refreshRejected 500 "token hashing failed", runtime)
  | _, _ => (refreshRejected 500 "token generation failed", runtime)

/-- The device's session with its old tokens revoked, as far as the writes go
through. Only the revocation of the refresh token itself is checked. -/
def revokeRotated (store : CredentialStore) (userId deviceId : Bytes) : HomeserverRuntime :=
  { runtime with
    store := (revokeAccessTokensForDevice backend store userId deviceId).2
    sessions := revokeSessions
      (fun session => session.userId = userId && session.deviceId = deviceId)
      runtime.sessions }

def rotateSession (refresh : PersistentRefreshToken)
    (accessRandomHex refreshRandomHex : Option Bytes) : SessionRefreshResult × HomeserverRuntime :=
  match revokeRefreshToken backend runtime.store refresh.tokenHash with
  | (0, store) =>
    (refreshRejected 500 "refresh token revocation failed", { runtime with store := store })
  | (_ + 1, store) =>
    mintRefreshedTokens config backend
      (revokeRotated backend runtime store refresh.userId refresh.deviceId) refresh.userId
      refresh.deviceId accessRandomHex refreshRandomHex

def refreshLocalSession (refreshToken : Bytes) (accessRandomHex refreshRandomHex : Option Bytes) :
    SessionRefreshResult × HomeserverRuntime :=
  let refreshHashes := lookupTokenHashes config refreshToken
  if refreshHashes.isEmpty then (refreshRejected 401 "unauthenticated", runtime)
  else
    match findRefreshRow runtime refreshHashes with
    | none => (refreshRejected 401 "refresh token rejected", runtime)
    | some refresh =>
      match refreshRejection runtime refresh with
      | some result => (result, runtime)
      | none =>
        rotateSession config backend runtime refresh accessRandomHex refreshRandomHex

/-- The session that a logout is recorded for: the first one, as long as it
has an owner. -/
def loggedOutSession (sessions : List LocalSession) : Option LocalSession :=
  sessions.foldl
    (fun found session =>
      if found.any fun found => !found.userId.isEmpty then found else some session)
    none

def logoutLocalUser (accessToken : Bytes) : OperationResult × HomeserverRuntime :=
  let tokenHashes := lookupTokenHashes config accessToken
  let presented := fun session : LocalSession =>
    matchesAnyTokenHash session.accessTokenHash tokenHashes
  match loggedOutSession (runtime.sessions.filter fun session =>
      presented session && !session.revoked) with
  | none => (rejected "unauthenticated" 400, runtime)
  | some session =>
    let sessions := revokeSessions (fun session => presented session && !session.revoked)
      runtime.sessions
    match revokeAccessToken backend runtime.store session.accessTokenHash with
    | (0, store) =>
      (rejected "token revocation persistence failed" 500,
        { runtime with sessions := sessions, store := store })
    | (_ + 1, store) =>
      let (_, store) :=
        revokeRefreshTokensForDevice backend store session.userId session.deviceId
      (accepted session.userId,
        { runtime with sessions := revokeSessions presented sessions, store := store })

def logoutAllLocalUser (accessToken : Bytes) : OperationResult × HomeserverRuntime :=
  match authenticatedSession config runtime accessToken with
  | none => (rejected "unauthenticated" 401, runtime)
  | some session =>
    let (accessRevoked, store) :=
      revokeAccessTokensForUser backend runtime.store session.userId
    let (refreshRevoked, store) := revokeRefreshTokensForUser backend store session.userId
    if accessRevoked = 0 && refreshRevoked = 0 then
      (rejected "session revocation persistence failed" 500, { runtime with store := store })
    else
      (accepted session.userId, { runtime with
        store := store
        sessions := revokeSessions (fun candidate => candidate.userId = session.userId)
          runtime.sessions })

def updateLocalUser (userId : Bytes) (change : LocalUser → LocalUser) :
    List LocalUser → List LocalUser
  | [] => []
  | user :: rest =>
    if user.userId = userId then change user :: rest
    else user :: updateLocalUser userId change rest

def credentialsRemain (store : CredentialStore) (userId : Bytes) : Bool :=
  (store.accessTokens.any fun token => token.userId = userId && !token.revoked) ||
    store.refreshTokens.any fun token => token.userId = userId && !token.revoked

def closeAccount (userId : Bytes) : OperationResult × HomeserverRuntime :=
  let (_, store) := revokeAccessTokensForUser backend runtime.store userId
  let (_, store) := revokeRefreshTokensForUser backend store userId
  if credentialsRemain store userId then
    (rejected "token revocation failed during deactivation" 500, { runtime with store := store })
  else
    (accepted userId, { runtime with
      store := (updateUserPassword backend store userId "!deactivated").getD store
      users := updateLocalUser userId (fun user => { user with passwordHash := "!deactivated" })
        runtime.users
      sessions := revokeSessions (fun candidate => candidate.userId = userId)
        runtime.sessions })

def deactivateLocalUser (accessToken : Bytes) : OperationResult × HomeserverRuntime :=
  match authenticatedSession config runtime accessToken with
  | none => (rejected "unauthenticated" 401, runtime)
  | some session =>
    if (findUser runtime session.userId).isNone then (rejected "unknown user" 404, runtime)
    else
      match setUserDeactivated backend runtime.store session.userId with
      | none => (rejected "deactivation persistence failed" 500, runtime)
      | some store =>
        closeAccount backend
          { runtime with
            store := store
            users := updateLocalUser session.userId
              (fun user => { user with deactivated := true }) runtime.users }
          session.userId

def deleteLocalDevice (userId deviceId : Bytes) : OperationResult × HomeserverRuntime :=
  if !userIdIsValid userId || !deviceIdIsValid deviceId then
    (rejected "invalid device" 400, runtime)
  else
    match deleteDevice backend runtime.store userId deviceId with
    | none => (rejected "device not found" 404, runtime)
    | some store =>
      let (_, store) := revokeAccessTokensForDevice backend store userId deviceId
      let (_, store) := revokeRefreshTokensForDevice backend store userId deviceId
      (accepted deviceId, { runtime with
        store := store
        sessions := revokeSessions
          (fun session => session.userId = userId && session.deviceId = deviceId)
          runtime.sessions })

def changeLocalUserPassword (accessToken newPassword : Bytes) (logoutDevices : Bool) :
    OperationResult × HomeserverRuntime :=
  match authenticatedSession config runtime accessToken with
  | none => (rejected "unauthenticated" 401, runtime)
  | some session =>
    if !passwordIsAcceptable newPassword then (rejected "password rejected" 400, runtime)
    else
      match config.hashPassword newPassword with
      | none => (rejected "password hashing failed" 500, runtime)
      | some newHash =>
        match updateUserPassword backend runtime.store session.userId newHash with
        | none => (rejected "password update failed" 500, runtime)
        | some store =>
          let runtime := { runtime with
            store := store
            users := updateLocalUser session.userId
              (fun user => { user with passwordHash := newHash }) runtime.users }
          if logoutDevices then
            let (_, store) := revokeTokensForUserExceptDevice backend store session.userId
              session.deviceId
            (accepted session.userId, { runtime with
              store := store
              sessions := revokeSessions
                (fun candidate => candidate.userId = session.userId &&
                  candidate.deviceId ≠ session.deviceId) runtime.sessions })
          else (accepted session.userId, runtime)

def redirectUrlBoundaryIsValid (allowed redirectUrl : Bytes) : Bool :=
  let isDelimiter : UInt8 → Bool := fun character =>
    character = byte '/' || character = byte '?' || character = byte '#'
  allowed.getLast?.any isDelimiter || redirectUrl.length = allowed.length ||
    redirectUrl[allowed.length]?.any isDelimiter

def redirectUrlIsAllowed (redirectUrl : Bytes) : Bool :=
  !redirectUrl.isEmpty && config.ssoRedirectUrlAllowlist.any fun allowed =>
      !allowed.isEmpty && allowed.isPrefixOf redirectUrl &&
        redirectUrlBoundaryIsValid allowed redirectUrl

def ssoIsConfigured : Bool :=
  config.ssoEnabled && !config.ssoAuthorizationUrl.isEmpty &&
    !config.ssoRedirectUrlAllowlist.isEmpty

def loginTokenLifetime : Int := 30 * 1000

def completeSsoLogin (userId redirectUrl : Bytes) (randomHex : Option Bytes) : OperationResult ×
    HomeserverRuntime :=
  if !ssoIsConfigured config then (rejected "SSO not supported" 404, runtime)
  else if !redirectUrlIsAllowed config redirectUrl then
    (rejected "redirectUrl is not an allowed destination" 400, runtime)
  else if (findUser runtime userId).isNone then (rejected "unknown user" 400, runtime)
  else
    match issueToken randomHex with
    | none => (rejected "token generation failed" 500, runtime)
    | some token =>
      match issueTokenHash config token with
      | none => (rejected "token hashing failed" 500, runtime)
      | some tokenHash =>
        match storeLoginToken backend runtime.store runtime.now
            ⟨userId, tokenHash, runtime.now + loginTokenLifetime, false⟩ with
        | none => (rejected "login token persistence failed" 500, runtime)
        | some store => (accepted token, { runtime with store := store })

def redeemLoginToken (loginToken : Bytes) : Option (Bytes × HomeserverRuntime) :=
  (consumeLoginToken backend runtime.store runtime.now
    (lookupTokenHashes config loginToken)).map fun (userId, store) =>
      (userId, { runtime with store := store })

/-- Builds the users and sessions from the tables at start-up. A session gets
no expiry here, whatever its row says. -/
def hydrateLocalDatabase : HomeserverRuntime :=
  { runtime with
    users := runtime.store.users.map fun user =>
      ⟨user.userId, user.passwordHash, user.locked, user.suspended, user.admin, user.deactivated⟩
    sessions := runtime.store.accessTokens.map fun token =>
      ⟨token.userId, token.deviceId, token.tokenHash, token.revoked, none⟩
    failedLogins := [] }

inductive LoginCredential where
  | password (userId password : Bytes)
  | loginToken (token : Bytes)
  | applicationService (appserviceId userId : Bytes)
deriving DecidableEq

structure LoginRequest where
  credential : LoginCredential
  deviceId : Bytes
  supportsRefreshTokens : Bool
  accessRandomHex : Option Bytes
  refreshRandomHex : Option Bytes
deriving DecidableEq

structure LoginResponse where
  status : Nat
  userId : Bytes
  accessToken : Option Bytes
  refreshToken : Option Bytes
  reason : Bytes
deriving DecidableEq

/-- Adds the refresh token to a login that succeeded. When it cannot be issued
the client gets an error and the session stays. -/
def finishLogin (request : LoginRequest) (userId : Bytes) : OperationResult × HomeserverRuntime →
    LoginResponse × HomeserverRuntime
  | (result, runtime) =>
    if !result.ok then (⟨result.status, userId, none, none, result.reason⟩, runtime)
    else if !request.supportsRefreshTokens then
      (⟨200, userId, some result.value, none, []⟩, runtime)
    else
      match issueRefreshTokenForSession config backend runtime userId request.deviceId
          request.refreshRandomHex with
      | (refresh, runtime) =>
        if refresh.ok then
          (⟨200, userId, some result.value, some refresh.value, []⟩, runtime)
        else (⟨refresh.status, userId, none, none, refresh.reason⟩, runtime)

def handleLogin (request : LoginRequest) : LoginResponse × HomeserverRuntime :=
  match request.credential with
  | .password userId password =>
    finishLogin config backend request userId
      (loginLocalUser config backend runtime userId password request.deviceId
        request.supportsRefreshTokens request.accessRandomHex)
  | .loginToken token =>
    match redeemLoginToken config backend runtime token with
    | none => (⟨403, [], none, none, "invalid login token"⟩, runtime)
    | some (userId, runtime) =>
      finishLogin config backend request userId
        (loginLocalUserById config backend runtime userId request.deviceId
          request.supportsRefreshTokens request.accessRandomHex)
  | .applicationService appserviceId userId =>
    match findRegistration config appserviceId with
    | none =>
      (⟨401, userId, none, none,
        "m.login.application_service requires a valid appservice as_token"⟩, runtime)
    | some registration =>
      if !appserviceOwnsUser registration config.serverName userId then
        (⟨403, userId, none, none,
          "user is outside this appservice's registered namespace"⟩, runtime)
      else
        -- No refresh token is issued here, whatever the body asks for.
        finishLogin config backend { request with supportsRefreshTokens := false } userId
          (loginAppserviceUser config backend runtime userId request.deviceId
            request.accessRandomHex)

end

section TokenHashes

variable {config : AuthConfig} {token tokenHash : Bytes}

theorem hashAccessToken_starts {version : Bytes} {digest : Bytes → Option Bytes}
    (h : hashAccessToken version digest token = some tokenHash) :
    version.isPrefixOf tokenHash = true := by
  unfold hashAccessToken at h
  split_ifs at h
  obtain ⟨value, -, rfl⟩ := Option.map_eq_some_iff.mp h
  exact List.isPrefixOf_iff_prefix.mpr (List.prefix_append version value)

theorem mem_lookupTokenHashes : tokenHash ∈ lookupTokenHashes config token ↔
      hashAccessTokenV4 config token = some tokenHash ∨
        hashAccessTokenV3 config token = some tokenHash ∨
        hashAccessTokenV2 config token = some tokenHash := by
  simp [lookupTokenHashes]

theorem tokenHashMatches_self (h : tokenHash ∈ lookupTokenHashes config token) :
    tokenHashMatches tokenHash tokenHash = true := by
  unfold tokenHashMatches tokenHashIsV2 tokenHashIsV3 tokenHashIsV4
  rcases mem_lookupTokenHashes.mp h with hversion | hversion | hversion <;>
    simp [hashAccessToken_starts hversion]

theorem tokenHashMatches_eq {left right : Bytes} (h : tokenHashMatches left right = true) :
    left = right := by
  unfold tokenHashMatches at h
  rw [Bool.and_eq_true] at h
  exact of_decide_eq_true h.2

theorem matchesAnyTokenHash_iff :
    matchesAnyTokenHash tokenHash (lookupTokenHashes config token) = true ↔
      tokenHash ∈ lookupTokenHashes config token := by
  unfold matchesAnyTokenHash
  rw [List.any_eq_true]
  constructor
  · rintro ⟨candidate, hcandidate, hmatches⟩
    rwa [tokenHashMatches_eq hmatches]
  · intro h
    exact ⟨tokenHash, h, tokenHashMatches_self h⟩

theorem findSession_some {runtime : HomeserverRuntime} {session : LocalSession}
    (h : findSession runtime (lookupTokenHashes config token) = some session) :
    session ∈ runtime.sessions ∧ session.accessTokenHash ∈ lookupTokenHashes config token ∧
      session.revoked = false ∧ isExpired session.expiresAt runtime.now = false := by
  have hlive := List.find?_some h
  simp only [sessionIsLive, Bool.and_eq_true, Bool.not_eq_true', matchesAnyTokenHash_iff] at hlive
  exact ⟨List.mem_of_find?_eq_some h, hlive.1.1, hlive.1.2, hlive.2⟩

theorem tokenIsHash_of_mem (h : tokenHash ∈ lookupTokenHashes config token) :
    tokenIsHash tokenHash = true := by
  unfold tokenIsHash
  rcases mem_lookupTokenHashes.mp h with hversion | hversion | hversion <;>
    simp [hashAccessToken_starts hversion]

theorem issueTokenHash_mem (h : issueTokenHash config token = some tokenHash) :
    tokenHash ∈ lookupTokenHashes config token := by
  unfold issueTokenHash at h
  rw [Option.or_eq_some_iff, Option.or_eq_some_iff] at h
  rw [mem_lookupTokenHashes]
  rcases h with hv4 | ⟨-, hv3 | ⟨-, hv2⟩⟩
  · exact Or.inl hv4
  · exact Or.inr (Or.inl hv3)
  · exact Or.inr (Or.inr hv2)

end TokenHashes

theorem isExpired_tokenExpiresAt (lifetimeMs : Int) (now : Int) :
    isExpired (tokenExpiresAt lifetimeMs now) now = false := by
  unfold isExpired tokenExpiresAt
  split_ifs with hlifetime
  · rfl
  · simp only [Option.any_some, decide_eq_false_iff_not]
    omega

theorem isExpired_later {expiresAt : Option Int} {now later : Int}
    (hexpired : isExpired expiresAt now = true) (hle : now ≤ later) :
    isExpired expiresAt later = true := by
  cases expiresAt with
  | none => exact hexpired
  | some expiry =>
    simp only [isExpired, Option.any_some, decide_eq_true_eq] at hexpired ⊢
    omega

@[simp] theorem revokeSessions_never {sessions : List LocalSession} :
    revokeSessions (fun _ => false) sessions = sessions := by
  simp [revokeSessions]

theorem revokeSessions_eq_map {selects : LocalSession → Bool} {sessions : List LocalSession} :
    revokeSessions selects sessions = sessions.map fun session =>
        { session with revoked := session.revoked || selects session } := by
  apply List.map_congr_left
  rintro ⟨userId, deviceId, accessTokenHash, revoked, expiresAt⟩ -
  cases revoked <;> cases selects _ <;> rfl

/-- A refresh is refused and changes nothing, or it exchanges the tokens of the
row that the refresh token names. -/
theorem refreshLocalSession_cases (config : AuthConfig) (backend : CredentialBackend)
    (runtime : HomeserverRuntime) (refreshToken : Bytes)
    (accessRandomHex refreshRandomHex : Option Bytes) :
    let result := refreshLocalSession config backend runtime refreshToken accessRandomHex
      refreshRandomHex
    (result.1.ok = false ∧ result.2 = runtime) ∨
    ∃ refresh, findRefreshRow runtime (lookupTokenHashes config refreshToken) = some refresh ∧
      refreshRejection runtime refresh = none ∧ result =
        rotateSession config backend runtime refresh accessRandomHex refreshRandomHex := by
  unfold refreshLocalSession
  dsimp only
  split_ifs
  · exact Or.inl ⟨rfl, rfl⟩
  split
  · exact Or.inl ⟨rfl, rfl⟩
  next refresh hfound =>
  split
  next result hrejection =>
    refine Or.inl ⟨?_, rfl⟩
    unfold refreshRejection at hrejection
    split at hrejection
    · cases hrejection
      rfl
    · split_ifs at hrejection <;> cases hrejection <;> rfl
  next hrejection => exact Or.inr ⟨refresh, hfound, hrejection, rfl⟩

theorem storeUpgrade_frame (backend : CredentialBackend) (runtime : HomeserverRuntime)
    (v4Hash : Bytes) (scan : UpgradeScan) :
    (storeUpgrade backend runtime v4Hash scan).users = runtime.users ∧
      (storeUpgrade backend runtime v4Hash scan).sessions = scan.sessions := by
  unfold storeUpgrade
  cases scan.upgraded with
  | none => exact ⟨rfl, rfl⟩
  | some session =>
    rcases revokeAccessToken backend runtime.store scan.viewed with ⟨_ | count, store⟩ <;>
      exact ⟨rfl, rfl⟩

theorem upgradeV3AccessTokenToV4_users (config : AuthConfig) (backend : CredentialBackend)
    (runtime : HomeserverRuntime) (token : Bytes) (position : Nat) (matchedV3Hash : Bytes) :
    (upgradeV3AccessTokenToV4 config backend runtime token position matchedV3Hash).users =
      runtime.users := by
  unfold upgradeV3AccessTokenToV4
  split_ifs
  · rfl
  · cases hashAccessTokenV4 config token with
    | none => rfl
    | some v4Hash => exact (storeUpgrade_frame backend runtime v4Hash _).1

/-- Who a token authenticates: the user that an application service acts as,
or the owner of the first live session with one of the token's hashes. -/
def authenticates (config : AuthConfig) (runtime : HomeserverRuntime) (token : Bytes) :
    Option Bytes :=
  (authenticatedUser config (fun _ => true) runtime token).1

theorem authenticates_of_session {config : AuthConfig} {runtime : HomeserverRuntime} {token : Bytes}
    (hraw : decodeMasqueradeToken token = none) :
    authenticates config runtime token =
      (findSession runtime (lookupTokenHashes config token)).bind fun session =>
        (findUser runtime session.userId).map fun _ => session.userId := by
  unfold authenticates authenticatedUser sessionOwner
  rw [hraw]
  cases findSession runtime (lookupTokenHashes config token) with
  | none => rfl
  | some session => simp only [findUser, upgradeV3AccessTokenToV4_users, Option.bind_some]

end Merovingian.AuthService
