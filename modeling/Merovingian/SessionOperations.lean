import Merovingian.AuthService
import Merovingian.OperationRuns

/-!
The operations of the authentication service as the steps of one machine, and
what each of them does to tokens and sessions: it revokes some, issues at most
one token of either kind, and opens at most one session. Every property of
runs is read off these effects.
-/

namespace Merovingian.SessionOperations

open ByteString CredentialTables AuthService List

inductive Request where
  | register (localpart password : Bytes) (admin enforcePasswordPolicy : Bool)
  | login (request : LoginRequest)
  | completeSsoLogin (userId redirectUrl : Bytes) (randomHex : Option Bytes)
  | refresh (refreshToken : Bytes) (accessRandomHex refreshRandomHex : Option Bytes)
  | authenticate (accessToken : Bytes)
  | logout (accessToken : Bytes)
  | logoutAll (accessToken : Bytes)
  | deleteDevice (userId deviceId : Bytes)
  | deactivate (accessToken : Bytes)
  | changePassword (accessToken newPassword : Bytes) (logoutDevices : Bool)
  | advanceClock (elapsedMs : Nat)
  | restart
deriving DecidableEq

structure Operation where
  request : Request
  backend : CredentialBackend

def perform (config : AuthConfig) (runtime : HomeserverRuntime) (operation : Operation) :
    HomeserverRuntime :=
  match operation.request with
  | .register localpart password admin enforcePasswordPolicy =>
    (makeUser config operation.backend runtime localpart password admin
      enforcePasswordPolicy).2
  | .login request => (handleLogin config operation.backend runtime request).2
  | .completeSsoLogin userId redirectUrl randomHex =>
    (completeSsoLogin config operation.backend runtime userId redirectUrl randomHex).2
  | .refresh refreshToken accessRandomHex refreshRandomHex =>
    (refreshLocalSession config operation.backend runtime refreshToken accessRandomHex
      refreshRandomHex).2
  | .authenticate accessToken =>
    (authenticatedUser config operation.backend runtime accessToken).2
  | .logout accessToken => (logoutLocalUser config operation.backend runtime accessToken).2
  | .logoutAll accessToken =>
    (logoutAllLocalUser config operation.backend runtime accessToken).2
  | .deleteDevice userId deviceId =>
    (deleteLocalDevice operation.backend runtime userId deviceId).2
  | .deactivate accessToken =>
    (deactivateLocalUser config operation.backend runtime accessToken).2
  | .changePassword accessToken newPassword logoutDevices =>
    (changeLocalUserPassword config operation.backend runtime accessToken newPassword
      logoutDevices).2
  | .advanceClock elapsedMs => { runtime with now := runtime.now + elapsedMs }
  | .restart => hydrateLocalDatabase runtime

def issuedTokens : Request → List Bytes
  | .login request =>
    (issueToken request.accessRandomHex).toList ++ (issueToken request.refreshRandomHex).toList
  | .refresh _ accessRandomHex refreshRandomHex =>
    (issueToken accessRandomHex).toList ++ (issueToken refreshRandomHex).toList
  | _ => []

def presentedTokens : Request → List Bytes
  | .authenticate token => [token]
  | .logout token => [token]
  | .refresh token _ _ => [token]
  | _ => []

structure Effect where
  revokesAccess : PersistentToken → Bool := fun _ => false
  revokesRefresh : PersistentToken → Bool := fun _ => false
  revokesSession : LocalSession → Bool := fun _ => false
  issuedAccess : Option PersistentAccessToken := none
  issuedRefresh : Option PersistentRefreshToken := none
  openedSession : Option LocalSession := none

/-- A row that an operation may add: live, for one of the tokens it hands out,
and owned by an account that is there and not deactivated. -/
structure Mints (config : AuthConfig) (issued : List Bytes) (runtime : HomeserverRuntime)
    (row : PersistentToken) : Prop where
  live : row.revoked = false
  fromToken : ∃ token ∈ issued, issueTokenHash config token = some row.tokenHash
  owner : ∃ user, findUser runtime row.userId = some user ∧ user.deactivated = false

structure Performs (config : AuthConfig) (issued : List Bytes) (effect : Effect)
    (before after : HomeserverRuntime) : Prop where
  accessTokens : after.store.accessTokens =
    revokeWhere effect.revokesAccess before.store.accessTokens ++ effect.issuedAccess.toList
  refreshTokens : after.store.refreshTokens =
    revokeWhere effect.revokesRefresh before.store.refreshTokens ++ effect.issuedRefresh.toList
  sessions : after.sessions =
    revokeSessions effect.revokesSession before.sessions ++ effect.openedSession.toList
  now : after.now = before.now
  mintsAccess : ∀ row, effect.issuedAccess = some row → Mints config issued before row
  mintsRefresh : ∀ row, effect.issuedRefresh = some row → Mints config issued before row
  opens : ∀ session, effect.openedSession = some session →
    ∃ row, effect.issuedAccess = some row ∧ session = sessionOf row

structure SameTokens (before after : HomeserverRuntime) : Prop where
  accessTokens : after.store.accessTokens = before.store.accessTokens
  refreshTokens : after.store.refreshTokens = before.store.refreshTokens
  sessions : after.sessions = before.sessions
  now : after.now = before.now

structure SameAccounts (before after : HomeserverRuntime) : Prop where
  users : after.users = before.users
  storedUsers : after.store.users = before.store.users

structure KeepsAccounts (Leaves : HomeserverRuntime → Prop) (before after : HomeserverRuntime) :
    Prop where
  leaves : Leaves after
  accounts : SameAccounts before after

theorem SameAccounts.refl (runtime : HomeserverRuntime) : SameAccounts runtime runtime :=
  ⟨rfl, rfl⟩

theorem SameAccounts.trans {first second third : HomeserverRuntime} (h : SameAccounts first second)
    (h' : SameAccounts second third) : SameAccounts first third :=
  ⟨h'.users.trans h.users, h'.storedUsers.trans h.storedUsers⟩

/-- Memory and tables are changed alike: a session is revoked when its row is,
and a new row comes with its session. -/
structure Paired (effect : Effect) (before : HomeserverRuntime) : Prop where
  revoked : ∀ row ∈ before.store.accessTokens, ∀ session ∈ before.sessions,
    session.userId = row.userId → session.deviceId = row.deviceId →
    session.accessTokenHash = row.tokenHash →
    (session.revoked || effect.revokesSession session) =
      (session.revoked || effect.revokesAccess row)
  opened : effect.openedSession = effect.issuedAccess.map sessionOf

def HasEffect (config : AuthConfig) (issued : List Bytes) (condition : Prop)
    (before after : HomeserverRuntime) : Prop :=
  ∃ effect, Performs config issued effect before after ∧ (condition → Paired effect before)

def Commits (backend : CredentialBackend) : Prop :=
  ∀ statements, backend statements = true

/-- None of the tokens is stored yet, under any of its hashes. -/
def Fresh (config : AuthConfig) (runtime : HomeserverRuntime) (tokens : List Bytes) : Prop :=
  ∀ token ∈ tokens, ∀ row ∈ runtime.store.accessTokens ++ runtime.store.refreshTokens,
    row.tokenHash ∉ lookupTokenHashes config token

/-- The effect of a login, and of any operation that issues without revoking. -/
def issuingEffect (access refresh : Option PersistentToken) : Effect :=
  { issuedAccess := access
    issuedRefresh := refresh
    openedSession := access.map sessionOf }

theorem issuingEffect_paired (access refresh : Option PersistentToken)
    (before : HomeserverRuntime) : Paired (issuingEffect access refresh) before :=
  ⟨fun _ _ _ _ _ _ _ => rfl, rfl⟩

/-- An effect that revokes nothing, and opens the session of the row it adds
unless a write fails. -/
structure IssuesOnly (config : AuthConfig) (backend : CredentialBackend) (issued : List Bytes)
    (before : HomeserverRuntime) (effect : Effect) : Prop where
  keepsAccess : effect.revokesAccess = fun _ => false
  keepsRefresh : effect.revokesRefresh = fun _ => false
  keepsSessions : effect.revokesSession = fun _ => false
  opened : Commits backend → Fresh config before issued →
    effect.openedSession = effect.issuedAccess.map sessionOf

section Effects

variable {config : AuthConfig} {backend : CredentialBackend}
  {before after start : HomeserverRuntime} {issued : List Bytes} {condition : Prop}
  {effect : Effect}

theorem SameTokens.refl (runtime : HomeserverRuntime) : SameTokens runtime runtime :=
  ⟨rfl, rfl, rfl, rfl⟩

theorem performs_of_issued {access refresh : Option PersistentToken}
    (haccess : after.store.accessTokens = before.store.accessTokens ++ access.toList)
    (hrefresh : after.store.refreshTokens = before.store.refreshTokens ++ refresh.toList)
    (hsessions : after.sessions = before.sessions ++ (access.map sessionOf).toList)
    (hnow : after.now = before.now)
    (hmintsAccess : ∀ row, access = some row → Mints config issued before row)
    (hmintsRefresh : ∀ row, refresh = some row → Mints config issued before row) :
    Performs config issued (issuingEffect access refresh) before after where
  accessTokens := by rw [haccess, issuingEffect, revokeWhere_never]
  refreshTokens := by rw [hrefresh, issuingEffect, revokeWhere_never]
  sessions := by rw [hsessions, issuingEffect, revokeSessions_never]
  now := hnow
  mintsAccess := hmintsAccess
  mintsRefresh := hmintsRefresh
  opens session hopened := by
    obtain ⟨row, hrow, rfl⟩ := Option.map_eq_some_iff.mp hopened
    exact ⟨row, hrow, rfl⟩

structure Revoked (revokesAccess revokesRefresh : PersistentToken → Bool)
    (revokesSession : LocalSession → Bool) (before after : HomeserverRuntime) : Prop where
  accessTokens : after.store.accessTokens = revokeWhere revokesAccess before.store.accessTokens
  refreshTokens : after.store.refreshTokens = revokeWhere revokesRefresh before.store.refreshTokens
  sessions : after.sessions = revokeSessions revokesSession before.sessions
  now : after.now = before.now

section Revocations

variable {revokesAccess revokesRefresh : PersistentToken → Bool}
  {revokesSession : LocalSession → Bool} {middle : HomeserverRuntime}

theorem Revoked.performs
    (hrevoked : Revoked revokesAccess revokesRefresh revokesSession before after) :
    Performs config issued
      { revokesAccess := revokesAccess
        revokesRefresh := revokesRefresh
        revokesSession := revokesSession } before after where
  accessTokens := by rw [hrevoked.accessTokens, Option.toList_none, append_nil]
  refreshTokens := by rw [hrevoked.refreshTokens, Option.toList_none, append_nil]
  sessions := by rw [hrevoked.sessions, Option.toList_none, append_nil]
  now := hrevoked.now
  mintsAccess := by simp
  mintsRefresh := by simp
  opens := by simp

theorem Mints.of_users (husers : before.users = start.users)
    {row : PersistentToken} (hmints : Mints config issued before row) :
    Mints config issued start row := by
  refine ⟨hmints.live, hmints.fromToken, ?_⟩
  rw [findUser, ← husers]
  exact hmints.owner

theorem Revoked.then_issues
    (hrevoked : Revoked revokesAccess revokesRefresh revokesSession before middle)
    (husers : middle.users = before.users)
    (hissues : IssuesOnly config backend issued middle effect)
    (hperforms : Performs config issued effect middle after) :
    Performs config issued { effect with
        revokesAccess := revokesAccess
        revokesRefresh := revokesRefresh
        revokesSession := revokesSession } before after where
  accessTokens := by
    rw [hperforms.accessTokens, hissues.keepsAccess, revokeWhere_never, hrevoked.accessTokens]
  refreshTokens := by
    rw [hperforms.refreshTokens, hissues.keepsRefresh, revokeWhere_never, hrevoked.refreshTokens]
  sessions := by
    rw [hperforms.sessions, hissues.keepsSessions, revokeSessions_never, hrevoked.sessions]
  now := hperforms.now.trans hrevoked.now
  mintsAccess row h := (hperforms.mintsAccess row h).of_users husers
  mintsRefresh row h := (hperforms.mintsRefresh row h).of_users husers
  opens := hperforms.opens

theorem Revoked.fresh (hrevoked : Revoked revokesAccess revokesRefresh revokesSession before middle)
    (hfresh : Fresh config before issued) : Fresh config middle issued := by
  intro token htoken row hrow
  rw [hrevoked.accessTokens, hrevoked.refreshTokens, revokeWhere_eq_map, revokeWhere_eq_map,
    mem_append, mem_map, mem_map] at hrow
  rcases hrow with ⟨old, hold, rfl⟩ | ⟨old, hold, rfl⟩
  · exact hfresh token htoken old (mem_append_left _ hold)
  · exact hfresh token htoken old (mem_append_right _ hold)

end Revocations

theorem SameTokens.revoked (hsame : SameTokens before after) :
    Revoked (fun _ => false) (fun _ => false) (fun _ => false) before after := by
  refine ⟨?_, ?_, ?_, hsame.now⟩
  · rw [revokeWhere_never, hsame.accessTokens]
  · rw [revokeWhere_never, hsame.refreshTokens]
  · rw [revokeSessions_never, hsame.sessions]

theorem SameTokens.performs (hsame : SameTokens before after) :
    Performs config issued (issuingEffect none none) before after :=
  hsame.revoked.performs

theorem issuesOnly_issuingEffect (access refresh : Option PersistentToken) :
    IssuesOnly config backend issued before (issuingEffect access refresh) :=
  ⟨rfl, rfl, rfl, fun _ _ => rfl⟩

theorem HasEffect.mono {stronger : Prop} (heffect : HasEffect config issued condition before after)
    (himp : stronger → condition) : HasEffect config issued stronger before after := by
  obtain ⟨effect, hperforms, hpaired⟩ := heffect
  exact ⟨effect, hperforms, fun hstronger => hpaired (himp hstronger)⟩

theorem SameTokens.hasEffect (hsame : SameTokens before after) :
    HasEffect config issued condition before after :=
  ⟨_, hsame.performs, fun _ => issuingEffect_paired none none before⟩

theorem hasEffect_refl : KeepsAccounts (HasEffect config issued condition before) before before :=
  ⟨(SameTokens.refl before).hasEffect, .refl before⟩

variable {withTtl : Bool} (accessToken : Bytes) {randomHex : Option Bytes}
  {deviceId userId : Bytes}

theorem makeUser_sameTokens (localpart password : Bytes) (admin enforcePasswordPolicy : Bool) :
    SameTokens before
      (makeUser config backend before localpart password admin enforcePasswordPolicy).2 := by
  unfold makeUser storeUser
  dsimp only
  repeat' split
  all_goals try exact .refl before
  next hstore =>
    split_ifs at hstore
    cases hstore
    exact ⟨rfl, rfl, rfl, rfl⟩

theorem completeSsoLogin_sameTokens (userId redirectUrl : Bytes) (randomHex : Option Bytes) :
    KeepsAccounts (SameTokens before) before
      (completeSsoLogin config backend before userId redirectUrl randomHex).2 := by
  unfold completeSsoLogin storeLoginToken
  repeat' split
  all_goals try exact ⟨.refl before, .refl before⟩
  next hstore =>
    split_ifs at hstore
    cases hstore
    exact ⟨⟨rfl, rfl, rfl, rfl⟩, rfl, rfl⟩

theorem deactivated_of_loginRejection {user : LocalUser} (h : loginRejection user deviceId = none) :
    user.deactivated = false := by
  unfold loginRejection at h
  split_ifs at h with _ hdeactivated
  simpa using hdeactivated

structure LoginOutcome (config : AuthConfig) (issued : List Bytes) (userId : Bytes)
    (before : HomeserverRuntime) (outcome : OperationResult × HomeserverRuntime) : Prop where
  performs : ∃ access, Performs config issued (issuingEffect access none) before outcome.2
  users : outcome.2.users = before.users
  owner : outcome.1.ok = true →
    ∃ user, findUser before userId = some user ∧ user.deactivated = false

structure LoginKept (config : AuthConfig) (issued : List Bytes) (userId : Bytes)
    (before : HomeserverRuntime) (outcome : OperationResult × HomeserverRuntime) : Prop
    extends LoginOutcome config issued userId before outcome where
  accounts : SameAccounts before outcome.2

theorem LoginKept.refused {result : OperationResult} (hresult : result.ok = false) :
    LoginKept config issued userId before (result, before) :=
  ⟨⟨⟨none, (SameTokens.refl before).performs⟩, rfl, fun hok => by simp [hresult] at hok⟩,
    .refl before⟩

section

variable (hissued : (issueToken randomHex).toList ⊆ issued)

include hissued

theorem completeLogin_outcome {user : LocalUser} (huser : findUser before userId = some user) :
    LoginKept config issued userId before
      (completeLogin config backend before user deviceId withTtl randomHex) := by
  unfold completeLogin
  split
  next result hrejection =>
    have hresult : result.ok = false := by
      unfold loginRejection at hrejection
      split_ifs at hrejection <;> cases hrejection <;> rfl
    exact LoginKept.refused hresult
  next hrejection =>
  split
  · exact LoginKept.refused rfl
  next token htoken =>
  split
  · exact LoginKept.refused rfl
  next tokenHash hhash =>
  dsimp only
  split
  · exact LoginKept.refused rfl
  next store hstore =>
  have hid : user.userId = userId := by
    simpa using find?_some huser
  have howner : ∃ user, findUser before userId = some user ∧ user.deactivated = false :=
    ⟨user, huser, deactivated_of_loginRejection hrejection⟩
  have hmints : ∀ row, some ⟨user.userId, deviceId, tokenHash, false,
      tokenExpiresAt (if withTtl then config.accessTokenLifetimeMs else 0) before.now⟩ =
        some row → Mints config issued before row := by
    rintro row ⟨⟩
    exact ⟨rfl, ⟨token, hissued (Option.mem_toList.mpr htoken), hhash⟩, by rwa [hid]⟩
  simp only [storeDeviceAndAccessToken, Option.ite_none_left_eq_some,
    Option.ite_none_right_eq_some, Option.some.injEq] at hstore
  obtain ⟨-, -, -, rfl⟩ := hstore
  exact ⟨⟨⟨_, performs_of_issued (by rfl) (by simp) (by rfl) rfl hmints (by simp)⟩, rfl,
    fun _ => howner⟩, rfl, rfl⟩

theorem loginLocalUserById_outcome :
    LoginKept config issued userId before
      (loginLocalUserById config backend before userId deviceId withTtl randomHex) := by
  unfold loginLocalUserById
  split
  · exact LoginKept.refused rfl
  next user huser => exact completeLogin_outcome hissued huser

omit hissued in
theorem LoginKept.from_same
    {outcome : OperationResult × HomeserverRuntime}
    (houtcome : LoginKept config issued userId before outcome)
    (hsame : SameTokens start before) (haccounts : SameAccounts start before) :
    LoginKept config issued userId start outcome := by
  obtain ⟨access, hperforms⟩ := houtcome.performs
  have hissues : IssuesOnly config (fun _ => true) issued before (issuingEffect access none) :=
    issuesOnly_issuingEffect access none
  refine ⟨⟨⟨access, hsame.revoked.then_issues haccounts.users hissues hperforms⟩,
    houtcome.users.trans haccounts.users, ?_⟩, haccounts.trans houtcome.accounts⟩
  rw [findUser, ← haccounts.users]
  exact houtcome.owner

theorem loginLocalUser_outcome {password : Bytes} :
    LoginKept config issued userId before
      (loginLocalUser config backend before userId password deviceId withTtl randomHex) := by
  unfold loginLocalUser
  dsimp only
  split_ifs
  · exact LoginKept.from_same (LoginKept.refused rfl) ⟨rfl, rfl, rfl, rfl⟩ ⟨rfl, rfl⟩
  · exact LoginKept.from_same (LoginKept.refused rfl) ⟨rfl, rfl, rfl, rfl⟩ ⟨rfl, rfl⟩
  · exact LoginKept.from_same (loginLocalUserById_outcome hissued) ⟨rfl, rfl, rfl, rfl⟩
      ⟨rfl, rfl⟩

end

theorem issueRefreshTokenForSession_cases :
    (issueRefreshTokenForSession config backend before userId deviceId randomHex).2 = before ∨
      ∃ row : PersistentRefreshToken, row.revoked = false ∧ row.userId = userId ∧
        (∃ token, issueToken randomHex = some token ∧
          issueTokenHash config token = some row.tokenHash) ∧
        (issueRefreshTokenForSession config backend before userId deviceId randomHex).2 =
          { before with
            store := { before.store with
              refreshTokens := before.store.refreshTokens ++ [row] } } := by
  unfold issueRefreshTokenForSession
  split_ifs
  · exact Or.inl rfl
  split
  · exact Or.inl rfl
  next token htoken =>
  split
  · exact Or.inl rfl
  next refreshHash hhash =>
  split
  · exact Or.inl rfl
  next store hstore =>
  rw [storeRefreshToken_eq_some hstore]
  exact Or.inr ⟨_, rfl, rfl, ⟨token, htoken, hhash⟩, rfl⟩

theorem finishLogin_performs {request : LoginRequest}
    {outcome : OperationResult × HomeserverRuntime}
    (hissued : (issueToken request.refreshRandomHex).toList ⊆ issued)
    (houtcome : LoginKept config issued userId before outcome) :
    ∃ access refresh, KeepsAccounts (Performs config issued (issuingEffect access refresh) before)
      before (finishLogin config backend request userId outcome).2 := by
  obtain ⟨result, runtime⟩ := outcome
  obtain ⟨houtcome, haccounts⟩ := houtcome
  obtain ⟨access, hperforms⟩ := houtcome.performs
  have hboth : result.ok = true → ∃ access refresh,
      KeepsAccounts (Performs config issued (issuingEffect access refresh) before) before
        (issueRefreshTokenForSession config backend runtime userId request.deviceId
          request.refreshRandomHex).2 := by
    intro hok
    rcases issueRefreshTokenForSession_cases with
      hsame | ⟨row, hlive, hrowUser, ⟨token, htoken, hhash⟩, hafter⟩
    · rw [hsame]
      exact ⟨access, none, hperforms, haccounts⟩
    · rw [hafter]
      refine ⟨access, some row, { hperforms with refreshTokens := ?_, mintsRefresh := ?_ },
        haccounts.users, haccounts.storedUsers⟩
      · simpa [issuingEffect] using hperforms.refreshTokens
      · rintro minted ⟨⟩
        refine ⟨hlive, ⟨token, hissued (Option.mem_toList.mpr htoken), hhash⟩, ?_⟩
        rw [hrowUser]
        exact houtcome.owner hok
  unfold finishLogin
  dsimp only
  split_ifs with hok hsupports hrefresh
  · exact ⟨access, none, hperforms, haccounts⟩
  · exact ⟨access, none, hperforms, haccounts⟩
  · exact hboth (by simpa using hok)
  · exact hboth (by simpa using hok)

theorem handleLogin_performs (request : LoginRequest) :
    ∃ access refresh, KeepsAccounts (Performs config (issuedTokens (.login request))
      (issuingEffect access refresh) before) before
        (handleLogin config backend before request).2 := by
  have haccess : (issueToken request.accessRandomHex).toList ⊆ issuedTokens (.login request) :=
    subset_append_left _ _
  have hrefresh : (issueToken request.refreshRandomHex).toList ⊆ issuedTokens (.login request) :=
    subset_append_right _ _
  unfold handleLogin
  split
  · exact finishLogin_performs hrefresh (loginLocalUser_outcome haccess)
  · split
    · exact ⟨none, none, (SameTokens.refl before).performs, .refl before⟩
    next userId runtime hredeem =>
      unfold redeemLoginToken consumeLoginToken at hredeem
      obtain ⟨⟨owner, store⟩, hconsume, hpair⟩ := Option.map_eq_some_iff.mp hredeem
      dsimp only at hconsume
      split at hconsume
      · cases hconsume
      split_ifs at hconsume
      cases hconsume
      cases hpair
      exact finishLogin_performs hrefresh (LoginKept.from_same
        (loginLocalUserById_outcome haccess) ⟨rfl, rfl, rfl, rfl⟩ ⟨rfl, rfl⟩)
  · split
    · exact ⟨none, none, (SameTokens.refl before).performs, .refl before⟩
    · split_ifs
      · exact ⟨none, none, (SameTokens.refl before).performs, .refl before⟩
      · refine finishLogin_performs hrefresh ?_
        unfold loginAppserviceUser
        split
        · exact LoginKept.refused rfl
        next user huser => exact completeLogin_outcome haccess huser

theorem storeRefreshedTokens_performs {access refresh : PersistentToken}
    (hmintsAccess : Mints config issued before access)
    (hmintsRefresh : Mints config issued before refresh) :
    ∃ effect, IssuesOnly config backend issued before effect ∧
      KeepsAccounts (Performs config issued effect before) before
        (storeRefreshedTokens backend before access refresh).2 := by
  unfold storeRefreshedTokens
  split
  · exact ⟨_, issuesOnly_issuingEffect none none, (SameTokens.refl before).performs, .refl before⟩
  next store hstore =>
  have hstored := storeAccessToken_eq_some hstore
  split
  next hfailed =>
    refine ⟨{ issuedAccess := some access }, ⟨rfl, rfl, rfl, ?_⟩, ⟨?_, ?_, ?_, rfl, ?_, ?_, ?_⟩,
      rfl, by rw [hstored]⟩
    · -- A database that commits stores a fresh refresh token.
      intro hcommits hfresh
      obtain ⟨token, htoken, hhash⟩ := hmintsRefresh.fromToken
      have hexists : tokenExists before.store.refreshTokens refresh.tokenHash = false := by
        refine any_eq_false.mpr fun row hrow heq => ?_
        refine hfresh token htoken row (mem_append_right _ hrow) ?_
        rw [of_decide_eq_true heq]
        exact issueTokenHash_mem hhash
      simp [storeRefreshToken, hstored, tokenIsHash_of_mem (issueTokenHash_mem hhash), hexists,
        hcommits _] at hfailed
    · rw [hstored, revokeWhere_never, Option.toList_some]
    · rw [hstored, revokeWhere_never, Option.toList_none, append_nil]
    · rw [revokeSessions_never, Option.toList_none, append_nil]
    · rintro row ⟨⟩
      exact hmintsAccess
    · rintro row ⟨⟩
    · rintro session ⟨⟩
  next stored hstoredRefresh =>
    have hafter := storeRefreshToken_eq_some hstoredRefresh
    refine ⟨_, issuesOnly_issuingEffect (some access) (some refresh), ?_, rfl,
      by rw [hafter, hstored]⟩
    apply performs_of_issued
    · rw [hafter, hstored, Option.toList_some]
    · rw [hafter, hstored, Option.toList_some]
    · rw [Option.map_some, Option.toList_some]
    · rfl
    · rintro row ⟨⟩
      exact hmintsAccess
    · rintro row ⟨⟩
      exact hmintsRefresh

theorem mintRefreshedTokens_performs {accessRandomHex refreshRandomHex : Option Bytes}
    (haccess : (issueToken accessRandomHex).toList ⊆ issued)
    (hrefresh : (issueToken refreshRandomHex).toList ⊆ issued)
    (howner : ∃ user, findUser before userId = some user ∧ user.deactivated = false) :
    ∃ effect, IssuesOnly config backend issued before effect ∧
      KeepsAccounts (Performs config issued effect before) before (mintRefreshedTokens config
        backend before userId deviceId accessRandomHex refreshRandomHex).2 := by
  have hidle : ∃ effect, IssuesOnly config backend issued before effect ∧
      KeepsAccounts (Performs config issued effect before) before before :=
    ⟨_, issuesOnly_issuingEffect none none, (SameTokens.refl before).performs, .refl before⟩
  unfold mintRefreshedTokens
  split
  next accessToken refreshToken haccessToken hrefreshToken =>
    split
    next accessHash refreshHash haccessHash hrefreshHash =>
      apply storeRefreshedTokens_performs
      · exact ⟨rfl, ⟨_, haccess (Option.mem_toList.mpr haccessToken), haccessHash⟩, howner⟩
      · exact ⟨rfl, ⟨_, hrefresh (Option.mem_toList.mpr hrefreshToken), hrefreshHash⟩, howner⟩
    · exact hidle
  · exact hidle

theorem owner_of_refreshRejection {refresh : PersistentRefreshToken}
    (h : refreshRejection before refresh = none) :
    ∃ user, findUser before refresh.userId = some user ∧ user.deactivated = false := by
  unfold refreshRejection at h
  split at h
  · cases h
  next user huser =>
    split_ifs at h with _ hdeactivated
    exact ⟨user, huser, by simpa using hdeactivated⟩

theorem paired_of_owner (hselects : ∀ (row : PersistentToken) (session : LocalSession),
      session.userId = row.userId → session.deviceId = row.deviceId →
        effect.revokesSession session = effect.revokesAccess row)
    (hopened : effect.openedSession = effect.issuedAccess.map sessionOf) :
    Paired effect before := by
  refine ⟨?_, hopened⟩
  intro row _ session _ huser hdevice _
  rw [hselects row session huser hdevice]

theorem rotateSession_performs {refresh : PersistentRefreshToken}
    {accessRandomHex refreshRandomHex : Option Bytes}
    (haccess : (issueToken accessRandomHex).toList ⊆ issued)
    (hrefresh : (issueToken refreshRandomHex).toList ⊆ issued)
    (howner : ∃ user, findUser before refresh.userId = some user ∧ user.deactivated = false) :
    KeepsAccounts (HasEffect config issued (Commits backend ∧ Fresh config before issued) before)
      before (rotateSession config backend before refresh accessRandomHex refreshRandomHex).2 := by
  unfold rotateSession
  rw [revokeRefreshToken, revokeRefreshRows_eq]
  split
  next store hcount =>
    obtain ⟨-, rfl⟩ := Prod.mk.inj hcount
    exact ⟨⟨_, Revoked.performs ⟨(revokeWhere_never).symm, rfl, (revokeSessions_never).symm, rfl⟩,
      fun _ => paired_of_owner (fun _ _ _ _ => rfl) rfl⟩, rfl, rfl⟩
  next count store hcount =>
    obtain ⟨-, rfl⟩ := Prod.mk.inj hcount
    generalize hmiddle : revokeRotated backend before _ refresh.userId refresh.deviceId = middle
    obtain ⟨hrevoked, haccounts⟩ : Revoked
        (fun row => backend [.revokeDeviceAccessTokens refresh.userId refresh.deviceId] &&
          (row.userId = refresh.userId && row.deviceId = refresh.deviceId))
        (fun row => backend [.revokeRefreshToken refresh.tokenHash] &&
          row.tokenHash = refresh.tokenHash)
        (fun session => session.userId = refresh.userId &&
          session.deviceId = refresh.deviceId) before middle ∧ SameAccounts before middle := by
      rw [← hmiddle, revokeRotated, revokeAccessTokensForDevice, revokeAccessRows_eq]
      exact ⟨⟨rfl, rfl, rfl, rfl⟩, rfl, rfl⟩
    have howner' : ∃ user, findUser middle refresh.userId = some user ∧
        user.deactivated = false := by
      rwa [findUser, haccounts.users]
    obtain ⟨effect, hissues, hperforms, hminted⟩ :=
      mintRefreshedTokens_performs haccess hrefresh howner'
    refine ⟨⟨_, hrevoked.then_issues haccounts.users hissues hperforms, ?_⟩,
      haccounts.trans hminted⟩
    rintro ⟨hcommits, hfresh⟩
    apply paired_of_owner
    · intro row session huser hdevice
      simp [hcommits _, huser, hdevice]
    · exact hissues.opened hcommits (hrevoked.fresh hfresh)

theorem refreshLocalSession_performs (refreshToken : Bytes)
    (accessRandomHex refreshRandomHex : Option Bytes)
    (hissued : issued = issuedTokens (.refresh refreshToken accessRandomHex refreshRandomHex)) :
    KeepsAccounts (HasEffect config issued (Commits backend ∧ Fresh config before issued) before)
      before (refreshLocalSession config backend before refreshToken accessRandomHex
        refreshRandomHex).2 := by
  rcases refreshLocalSession_cases config backend before refreshToken accessRandomHex
    refreshRandomHex with ⟨-, hsame⟩ | ⟨refresh, -, hrejection, hrotate⟩
  · rw [hsame]
    exact hasEffect_refl
  · rw [hrotate]
    rw [hissued]
    exact rotateSession_performs (subset_append_left _ _) (subset_append_right _ _)
      (owner_of_refreshRejection hrejection)

theorem loggedOutSession_mem {sessions : List LocalSession} {session : LocalSession}
    (h : loggedOutSession sessions = some session) : session ∈ sessions := by
  refine foldlRecOn (motive := fun found => ∀ kept, found = some kept → kept ∈ sessions) sessions _
    (by simp) ?_ session h
  intro found hfound next hnext kept hkept
  split_ifs at hkept
  · exact hfound kept hkept
  · cases hkept
    exact hnext

theorem revokeSessions_twice {selects : LocalSession → Bool} {sessions : List LocalSession}
    (hselects : ∀ session revoked, selects { session with revoked := revoked } = selects session) :
    revokeSessions selects
        (revokeSessions (fun session => selects session && !session.revoked) sessions) =
      revokeSessions selects sessions := by
  rw [revokeSessions_eq_map, revokeSessions_eq_map, revokeSessions_eq_map, map_map]
  apply map_congr_left
  intro session _
  simp only [Function.comp_apply, hselects]
  cases session.revoked <;> cases selects session <;> rfl

/-- A token opens at most one row, and every session has a row with its hash. -/
structure OpensOneRow (config : AuthConfig) (runtime : HomeserverRuntime) (token : Bytes) :
    Prop where
  unique : ∀ row ∈ runtime.store.accessTokens, ∀ other ∈ runtime.store.accessTokens,
    row.tokenHash ∈ lookupTokenHashes config token →
    other.tokenHash ∈ lookupTokenHashes config token → row = other
  backed : ∀ session ∈ runtime.sessions, ∃ row ∈ runtime.store.accessTokens,
    row.tokenHash = session.accessTokenHash

variable (issued) in
theorem logoutLocalUser_performs :
    KeepsAccounts (HasEffect config issued (Commits backend ∧ OpensOneRow config before accessToken)
      before) before (logoutLocalUser config backend before accessToken).2 := by
  unfold logoutLocalUser
  dsimp only
  split
  · exact hasEffect_refl
  next session hsession =>
  obtain ⟨hmem, hpresented⟩ := mem_filter.mp (loggedOutSession_mem hsession)
  rw [Bool.and_eq_true, matchesAnyTokenHash_iff] at hpresented
  -- The rows with the logged out session's hash are the ones that the token opens.
  have hpaired : ∀ revokesRefresh revokesSession, Commits backend →
      OpensOneRow config before accessToken →
      (∀ other : LocalSession, (other.revoked || revokesSession other) = (other.revoked ||
          matchesAnyTokenHash other.accessTokenHash (lookupTokenHashes config accessToken))) →
      Paired
        { revokesAccess := fun row => backend [.revokeAccessToken session.accessTokenHash] &&
            row.tokenHash = session.accessTokenHash
          revokesRefresh := revokesRefresh
          revokesSession := revokesSession } before := by
    intro revokesRefresh revokesSession hcommits hone hselects
    refine ⟨?_, rfl⟩
    intro row hrow other hother _ _ hhash
    dsimp only
    rw [hselects other, hcommits, Bool.true_and, hhash]
    congr 1
    rw [Bool.eq_iff_iff, matchesAnyTokenHash_iff, decide_eq_true_iff]
    constructor
    · intro hopens
      obtain ⟨sessionRow, hsessionRow, hsessionHash⟩ := hone.backed session hmem
      rw [← hsessionHash] at hpresented ⊢
      rw [hone.unique row hrow sessionRow hsessionRow hopens hpresented.1]
    · rintro heq
      rw [heq]
      exact hpresented.1
  rw [revokeAccessToken, revokeAccessRows_eq]
  split
  next store hcount =>
    obtain ⟨-, rfl⟩ := Prod.mk.inj hcount
    refine ⟨⟨_, Revoked.performs ⟨rfl, by rw [revokeWhere_never], rfl, rfl⟩, ?_⟩, rfl, rfl⟩
    rintro ⟨hcommits, hone⟩
    apply hpaired _ _ hcommits hone
    intro other
    cases hrevoked : other.revoked <;> simp [hrevoked]
  next count store hcount =>
    obtain ⟨-, rfl⟩ := Prod.mk.inj hcount
    rw [revokeRefreshTokensForDevice, revokeRefreshRows_eq, revokeSessions_twice fun _ _ => rfl]
    refine ⟨⟨_, Revoked.performs ⟨rfl, rfl, rfl, rfl⟩, ?_⟩, rfl, rfl⟩
    rintro ⟨hcommits, hone⟩
    exact hpaired _ _ hcommits hone fun _ => rfl

variable (issued) in
theorem logoutAllLocalUser_performs :
    KeepsAccounts (HasEffect config issued (Commits backend) before) before
      (logoutAllLocalUser config backend before accessToken).2 := by
  unfold logoutAllLocalUser
  split
  · exact hasEffect_refl
  next session hsession =>
  rw [revokeAccessTokensForUser, revokeAccessRows_eq]
  dsimp only
  rw [revokeRefreshTokensForUser, revokeRefreshRows_eq]
  split_ifs with hcounts
  · -- Nothing was live, so the rows are as before, like the sessions.
    simp only [Bool.and_eq_true, decide_eq_true_eq] at hcounts
    rw [revokeWhere_eq_self hcounts.1]
    refine ⟨⟨_, Revoked.performs ⟨(revokeWhere_never).symm, rfl, (revokeSessions_never).symm, rfl⟩,
      fun _ => paired_of_owner (fun _ _ _ _ => rfl) rfl⟩, rfl, rfl⟩
  · refine ⟨⟨_, Revoked.performs ⟨rfl, rfl, rfl, rfl⟩, ?_⟩, rfl, rfl⟩
    intro hcommits
    refine paired_of_owner ?_ rfl
    intro row session huser hdevice
    simp [hcommits _, huser]

variable (config issued) in
theorem deleteLocalDevice_performs (userId deviceId : Bytes) :
    KeepsAccounts (HasEffect config issued (Commits backend) before) before
      (deleteLocalDevice backend before userId deviceId).2 := by
  unfold deleteLocalDevice
  split_ifs
  · exact hasEffect_refl
  split
  · exact hasEffect_refl
  next store hstore =>
  unfold deleteDevice at hstore
  split_ifs at hstore
  cases hstore
  rw [revokeAccessTokensForDevice, revokeAccessRows_eq]
  dsimp only
  rw [revokeRefreshTokensForDevice, revokeRefreshRows_eq]
  refine ⟨⟨_, Revoked.performs ⟨rfl, rfl, rfl, rfl⟩, ?_⟩, rfl, rfl⟩
  intro hcommits
  refine paired_of_owner ?_ rfl
  intro row session huser hdevice
  simp [hcommits _, huser, hdevice]

theorem updateUserPassword_tokens {store : CredentialStore} {newHash : Bytes} :
    ((updateUserPassword backend store userId newHash).getD store).accessTokens =
        store.accessTokens ∧
      ((updateUserPassword backend store userId newHash).getD store).refreshTokens =
        store.refreshTokens := by
  cases hupdate : updateUserPassword backend store userId newHash with
  | none => exact ⟨rfl, rfl⟩
  | some stored =>
    rw [Option.getD_some, changeUser_eq_some hupdate]
    exact ⟨rfl, rfl⟩

theorem credentialsRemain_eq_false {store : CredentialStore}
    (haccess : ∀ row ∈ store.accessTokens, row.userId = userId → row.revoked = true)
    (hrefresh : ∀ row ∈ store.refreshTokens, row.userId = userId → row.revoked = true) :
    credentialsRemain store userId = false := by
  unfold credentialsRemain
  rw [Bool.or_eq_false_iff, any_eq_false, any_eq_false]
  constructor
  · intro row hrow
    simpa using haccess row hrow
  · intro row hrow
    simpa using hrefresh row hrow

structure RevokesAll (backend : CredentialBackend) (store : CredentialStore) (userId : Bytes) :
    Prop where
  access : backend [.revokeUserAccessTokens userId] = true ∨
    countLive (fun row => row.userId = userId) store.accessTokens = 0
  refresh : backend [.revokeUserRefreshTokens userId] = true ∨
    countLive (fun row => row.userId = userId) store.refreshTokens = 0

variable (backend before) in
/-- Whatever the writes do, closing an account revokes tokens, and its sessions
or none: its sessions where all tokens are revoked. -/
theorem closeAccount_revokes (userId : Bytes) : ∃ revokesSession,
      Revoked (fun row => backend [.revokeUserAccessTokens userId] && row.userId = userId)
        (fun row => backend [.revokeUserRefreshTokens userId] && row.userId = userId)
        revokesSession before (closeAccount backend before userId).2 ∧
      (RevokesAll backend before.store userId →
        revokesSession = fun session => decide (session.userId = userId)) := by
  unfold closeAccount
  rw [revokeAccessTokensForUser, revokeAccessRows_eq]
  dsimp only
  rw [revokeRefreshTokensForUser, revokeRefreshRows_eq]
  split_ifs with hremain
  · refine ⟨_, ⟨rfl, rfl, (revokeSessions_never).symm, rfl⟩, fun hrevokes => ?_⟩
    rw [credentialsRemain_eq_false (revoked_of_mem_revokeWhere hrevokes.access)
      (revoked_of_mem_revokeWhere hrevokes.refresh)] at hremain
    cases hremain
  · exact ⟨_, ⟨updateUserPassword_tokens.1, updateUserPassword_tokens.2, rfl, rfl⟩, fun _ => rfl⟩

def markDeactivated (runtime : HomeserverRuntime) (userId : Bytes) : HomeserverRuntime :=
  { runtime with
    store := { runtime.store with
      users := updateUser userId (fun user => { user with deactivated := true })
        runtime.store.users }
    users := updateLocalUser userId (fun user => { user with deactivated := true })
      runtime.users }

/-- A deactivation changes nothing, or it sets the flag and closes the account. -/
theorem deactivateLocalUser_cases :
    (deactivateLocalUser config backend before accessToken).2 = before ∨
      ∃ session, authenticatedSession config before accessToken = some session ∧
        (findUser before session.userId).isSome ∧
        (before.store.users.any fun user => user.userId = session.userId) = true ∧
        backend [.updateUserDeactivated session.userId] = true ∧
        (deactivateLocalUser config backend before accessToken).2 =
          (closeAccount backend (markDeactivated before session.userId) session.userId).2 := by
  unfold deactivateLocalUser
  split
  · exact Or.inl rfl
  next session hsession =>
  split_ifs with huser
  · exact Or.inl rfl
  split
  · exact Or.inl rfl
  next store hstore =>
  have hafter := changeUser_eq_some hstore
  subst hafter
  have hfound : (findUser before session.userId).isSome :=
    Option.isSome_iff_ne_none.mpr fun hnone => huser (Option.isNone_iff_eq_none.mpr hnone)
  unfold setUserDeactivated changeUser at hstore
  split_ifs at hstore with hmissing hcommits
  exact Or.inr ⟨session, hsession, hfound, by simpa using hmissing, hcommits, rfl⟩

theorem deactivateLocalUser_performs : HasEffect config issued (Commits backend) before
      (deactivateLocalUser config backend before accessToken).2 := by
  rcases deactivateLocalUser_cases accessToken with hsame | ⟨session, -, -, -, -, hclosed⟩
  · rw [hsame]
    exact hasEffect_refl.1
  rw [hclosed]
  obtain ⟨revokesSession, hrevoked, hall⟩ := closeAccount_revokes backend
    (markDeactivated before session.userId) session.userId
  refine ⟨_, Revoked.performs ⟨hrevoked.accessTokens, hrevoked.refreshTokens, hrevoked.sessions,
    hrevoked.now⟩, fun hcommits => paired_of_owner ?_ rfl⟩
  intro row other huser _
  simp [hcommits _, huser, hall ⟨Or.inl (hcommits _), Or.inl (hcommits _)⟩]

theorem changeLocalUserPassword_performs (newPassword : Bytes) (logoutDevices : Bool) :
    HasEffect config issued (Commits backend) before
      (changeLocalUserPassword config backend before accessToken newPassword logoutDevices).2 := by
  unfold changeLocalUserPassword
  split
  · exact hasEffect_refl.1
  next session hsession =>
  split
  · exact hasEffect_refl.1
  split
  · exact hasEffect_refl.1
  next newHash hhash =>
  split
  · exact hasEffect_refl.1
  next store hstore =>
  have hafter := changeUser_eq_some hstore
  subst hafter
  split_ifs
  · unfold revokeTokensForUserExceptDevice
    dsimp only
    rw [revokeAccessRows_eq]
    rw [revokeRefreshRows_eq]
    refine ⟨_, Revoked.performs ⟨rfl, rfl, rfl, rfl⟩, fun hcommits => paired_of_owner ?_ rfl⟩
    intro row other huser hdevice
    simp [hcommits _, huser, hdevice]
  · exact SameTokens.hasEffect ⟨rfl, rfl, rfl, rfl⟩

end Effects

/-- What an operation may assume to change memory and tables alike: its writes
go through, its tokens are new, and a token that is logged out has one row. -/
structure Regular (config : AuthConfig) (runtime : HomeserverRuntime) (operation : Operation) :
    Prop where
  commits : Commits operation.backend
  fresh : Fresh config runtime (issuedTokens operation.request)
  loggedOut : ∀ token, operation.request = .logout token → OpensOneRow config runtime token

/-- Every operation has an effect, which is paired when the operation is regular,
or looks a token up, moves the clock, or restarts the server. -/
theorem perform_cases (config : AuthConfig) (runtime : HomeserverRuntime) (operation : Operation) :
    HasEffect config (issuedTokens operation.request) (Regular config runtime operation) runtime
      (perform config runtime operation) ∨
    (∃ token, operation.request = .authenticate token ∧ perform config runtime operation =
        (authenticatedUser config operation.backend runtime token).2) ∨
    (∃ elapsedMs : Nat, operation.request = .advanceClock elapsedMs ∧
      perform config runtime operation = { runtime with now := runtime.now + elapsedMs }) ∨
    (operation.request = .restart ∧
      perform config runtime operation = hydrateLocalDatabase runtime) := by
  obtain ⟨request, backend⟩ := operation
  cases request with
  | authenticate accessToken => exact .inr (.inl ⟨accessToken, rfl, rfl⟩)
  | advanceClock elapsedMs => exact .inr (.inr (.inl ⟨elapsedMs, rfl, rfl⟩))
  | restart => exact .inr (.inr (.inr ⟨rfl, rfl⟩))
  | register localpart password admin enforcePasswordPolicy =>
    exact .inl (makeUser_sameTokens localpart password admin enforcePasswordPolicy).hasEffect
  | login request =>
    obtain ⟨access, refresh, hperforms, -⟩ := handleLogin_performs request
    exact .inl ⟨_, hperforms, fun _ => issuingEffect_paired access refresh runtime⟩
  | completeSsoLogin userId redirectUrl randomHex =>
    exact .inl (completeSsoLogin_sameTokens userId redirectUrl randomHex).1.hasEffect
  | refresh refreshToken accessRandomHex refreshRandomHex =>
    exact .inl
      ((refreshLocalSession_performs refreshToken accessRandomHex refreshRandomHex rfl).1.mono
        fun hregular => ⟨hregular.commits, hregular.fresh⟩)
  | logout accessToken =>
    exact .inl ((logoutLocalUser_performs _ accessToken).1.mono fun hregular =>
      ⟨hregular.commits, hregular.loggedOut accessToken rfl⟩)
  | logoutAll accessToken =>
    exact .inl ((logoutAllLocalUser_performs _ accessToken).1.mono (·.commits))
  | deleteDevice userId deviceId =>
    exact .inl ((deleteLocalDevice_performs _ _ userId deviceId).1.mono (·.commits))
  | deactivate accessToken =>
    exact .inl ((deactivateLocalUser_performs accessToken).mono (·.commits))
  | changePassword accessToken newPassword logoutDevices =>
    exact .inl
      ((changeLocalUserPassword_performs accessToken newPassword logoutDevices).mono (·.commits))

end Merovingian.SessionOperations
