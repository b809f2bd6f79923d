import Merovingian.RefreshRuns

/-!
Deactivated accounts over runs in which any write may fail. No operation hands
out a token for a deactivated account. Old tokens are kept out by revocation
alone, since a lookup never reads the flag: they stay out as long as the
revocations of every deactivation go through, and no application service may
act as the account.
-/

namespace Merovingian.DeactivationRuns

open ByteString Identifiers CredentialTables AuthService OperationRuns SessionOperations SessionRuns
  RefreshRuns List

variable {config : AuthConfig} {backend : CredentialBackend} {before after : HomeserverRuntime}

def localFlags (users : List LocalUser) : List (Bytes × Bool) :=
  users.map fun user => (user.userId, user.deactivated)

def storedFlags (users : List PersistentUser) : List (Bytes × Bool) :=
  users.map fun user => (user.userId, user.deactivated)

def isDeactivated (flags : List (Bytes × Bool)) (userId : Bytes) : Bool :=
  (flags.find? fun entry => entry.1 = userId).any fun entry => entry.2

def setFlag (userId : Bytes) : List (Bytes × Bool) → List (Bytes × Bool)
  | [] => []
  | entry :: rest =>
    if entry.1 = userId then (entry.1, true) :: rest else entry :: setFlag userId rest

section Flags

variable {userId other : Bytes} {flags : List (Bytes × Bool)}

theorem isDeactivated_append_active :
    isDeactivated (flags ++ [(other, false)]) userId = isDeactivated flags userId := by
  unfold isDeactivated
  rw [find?_append]
  cases flags.find? fun entry => entry.1 = userId with
  | some entry => rfl
  | none =>
    rw [Option.none_or, find?_singleton]
    split <;> rfl

theorem isDeactivated_setFlag : isDeactivated (setFlag userId flags) other =
    if other = userId then flags.any fun entry => entry.1 = userId
    else isDeactivated flags other := by
  induction flags with
  | nil => simp [setFlag, isDeactivated]
  | cons head rest ih =>
    unfold isDeactivated at ih ⊢
    rw [setFlag]
    by_cases hother : head.1 = other <;> by_cases hhead : head.1 = userId <;>
      simp_all [eq_comm]

theorem isDeactivated_setFlag_of_flagged (h : isDeactivated flags other = true) :
    isDeactivated (setFlag userId flags) other = true := by
  rw [isDeactivated_setFlag]
  split_ifs with hsame
  · obtain ⟨entry, hfound, -⟩ := (Option.any_eq_true _ _).mp h
    rw [any_eq_true, ← hsame]
    exact ⟨entry, mem_of_find?_eq_some hfound, by simpa using find?_some hfound⟩
  · exact h

theorem localFlags_update {users : List LocalUser} {change : LocalUser → LocalUser} (closes : Bool)
    (hchange : ∀ user, ((change user).userId, (change user).deactivated) =
      (user.userId, closes || user.deactivated)) :
    localFlags (updateLocalUser userId change users) =
      if closes then setFlag userId (localFlags users) else localFlags users := by
  induction users with
  | nil => cases closes <;> rfl
  | cons head rest ih =>
    simp only [localFlags, updateLocalUser, map_cons, setFlag] at ih ⊢
    cases closes <;> split_ifs <;> simp_all

theorem storedFlags_update {users : List PersistentUser} {change : PersistentUser → PersistentUser}
    (closes : Bool) (hchange : ∀ user, ((change user).userId, (change user).deactivated) =
      (user.userId, closes || user.deactivated)) :
    storedFlags (updateUser userId change users) =
      if closes then setFlag userId (storedFlags users) else storedFlags users := by
  induction users with
  | nil => cases closes <;> rfl
  | cons head rest ih =>
    simp only [storedFlags, updateUser, map_cons, setFlag] at ih ⊢
    cases closes <;> split_ifs <;> simp_all

end Flags

structure SameFlags (before after : HomeserverRuntime) : Prop where
  memory : ∀ userId, isDeactivated (localFlags after.users) userId =
    isDeactivated (localFlags before.users) userId
  stored : ∀ userId, isDeactivated (storedFlags after.store.users) userId =
    isDeactivated (storedFlags before.store.users) userId

section FlagSteps

theorem sameFlags_of_accounts (h : SameAccounts before after) : SameFlags before after :=
  ⟨fun _ => by rw [h.users], fun _ => by rw [h.storedUsers]⟩

theorem makeUser_sameFlags (localpart password : Bytes) (admin enforcePasswordPolicy : Bool) :
    SameFlags before
      (makeUser config backend before localpart password admin enforcePasswordPolicy).2 := by
  have hsame := sameFlags_of_accounts (.refl before)
  unfold makeUser storeUser
  dsimp only
  repeat' split
  all_goals try exact hsame
  next hstore =>
    split_ifs at hstore
    cases hstore
    constructor
    · intro userId
      rw [localFlags, map_append]
      exact isDeactivated_append_active
    · intro userId
      rw [storedFlags, map_append]
      exact isDeactivated_append_active

theorem updateUserPassword_flags {store after : CredentialStore} {userId newHash : Bytes}
    (h : updateUserPassword backend store userId newHash = some after) :
    storedFlags after.users = storedFlags store.users := by
  rw [changeUser_eq_some h]
  exact storedFlags_update false fun _ => rfl

theorem closeAccount_sameFlags (userId : Bytes) :
    SameFlags before (closeAccount backend before userId).2 := by
  unfold closeAccount
  rw [revokeAccessTokensForUser, revokeAccessRows_eq]
  dsimp only
  rw [revokeRefreshTokensForUser, revokeRefreshRows_eq]
  split_ifs
  · exact ⟨fun _ => rfl, fun _ => rfl⟩
  constructor
  · intro other
    exact congrArg (isDeactivated · other) (localFlags_update false fun _ => rfl)
  · intro other
    cases hupdate : updateUserPassword backend _ userId _ with
    | none => rfl
    | some stored => rw [Option.getD_some, updateUserPassword_flags hupdate]

theorem changeLocalUserPassword_sameFlags (accessToken newPassword : Bytes) (logoutDevices : Bool) :
    SameFlags before
      (changeLocalUserPassword config backend before accessToken newPassword
        logoutDevices).2 := by
  have hsame := sameFlags_of_accounts (.refl before)
  unfold changeLocalUserPassword
  split
  · exact hsame
  split
  · exact hsame
  split
  · exact hsame
  split
  · exact hsame
  next store hstore =>
  have hstored := updateUserPassword_flags hstore
  split_ifs
  · unfold revokeTokensForUserExceptDevice
    dsimp only
    rw [revokeAccessRows_eq]
    rw [revokeRefreshRows_eq]
    exact ⟨fun other => congrArg (isDeactivated · other) (localFlags_update false fun _ => rfl),
      fun _ => by rw [hstored]⟩
  · exact ⟨fun other => congrArg (isDeactivated · other) (localFlags_update false fun _ => rfl),
      fun _ => by rw [hstored]⟩

theorem deactivateLocalUser_flags {accessToken userId : Bytes}
    (h : (deactivateLocalUser config backend before accessToken).2 =
      (closeAccount backend (markDeactivated before userId) userId).2) (other : Bytes) :
    isDeactivated (localFlags
        (deactivateLocalUser config backend before accessToken).2.users) other =
      isDeactivated (setFlag userId (localFlags before.users)) other ∧
    isDeactivated (storedFlags
        (deactivateLocalUser config backend before accessToken).2.store.users) other =
      isDeactivated (setFlag userId (storedFlags before.store.users)) other := by
  have hclosed : SameFlags (markDeactivated before userId)
      (closeAccount backend (markDeactivated before userId) userId).2 :=
    closeAccount_sameFlags userId
  rw [h, hclosed.memory, hclosed.stored, markDeactivated,
    localFlags_update true fun _ => rfl, storedFlags_update true fun _ => rfl]
  exact ⟨rfl, rfl⟩

/-- Only a deactivation sets flags, and a restart takes them from the tables. -/
theorem perform_flags (config : AuthConfig) (runtime : HomeserverRuntime) (operation : Operation) :
    SameFlags runtime (perform config runtime operation) ∨
    (operation.request = .restart ∧
      perform config runtime operation = hydrateLocalDatabase runtime) ∨
    ∃ token, operation.request = .deactivate token ∧ perform config runtime operation =
        (deactivateLocalUser config operation.backend runtime token).2 := by
  obtain ⟨request, backend⟩ := operation
  cases request with
  | restart => exact Or.inr (Or.inl ⟨rfl, rfl⟩)
  | deactivate accessToken => exact Or.inr (Or.inr ⟨accessToken, rfl, rfl⟩)
  | register localpart password admin enforcePasswordPolicy =>
    exact Or.inl (makeUser_sameFlags localpart password admin enforcePasswordPolicy)
  | login request =>
    obtain ⟨_, _, -, haccounts⟩ := handleLogin_performs request
    exact Or.inl (sameFlags_of_accounts haccounts)
  | completeSsoLogin userId redirectUrl randomHex =>
    exact Or.inl (sameFlags_of_accounts
      (completeSsoLogin_sameTokens userId redirectUrl randomHex).2)
  | refresh refreshToken accessRandomHex refreshRandomHex =>
    exact Or.inl (sameFlags_of_accounts
      (refreshLocalSession_performs refreshToken accessRandomHex refreshRandomHex rfl).2)
  | authenticate accessToken =>
    exact Or.inl (sameFlags_of_accounts authenticatedUser_looksUp.2)
  | logout accessToken =>
    exact Or.inl (sameFlags_of_accounts
      (logoutLocalUser_performs [] accessToken).2)
  | logoutAll accessToken =>
    exact Or.inl (sameFlags_of_accounts
      (logoutAllLocalUser_performs [] accessToken).2)
  | deleteDevice userId deviceId =>
    exact Or.inl (sameFlags_of_accounts
      (deleteLocalDevice_performs config [] userId deviceId).2)
  | changePassword accessToken newPassword logoutDevices =>
    exact Or.inl (changeLocalUserPassword_sameFlags accessToken newPassword logoutDevices)
  | advanceClock elapsedMs => exact Or.inl ⟨fun _ => rfl, fun _ => rfl⟩

end FlagSteps

section

variable (config : AuthConfig) (runtime : HomeserverRuntime) (userId : Bytes)

def FlagSet : Prop :=
  isDeactivated (localFlags runtime.users) userId = true ∨
    isDeactivated (storedFlags runtime.store.users) userId = true

/-- The account is closed: its flag is set on both sides, its access tokens and
sessions are revoked, and no application service may act as it. -/
structure Closed (config : AuthConfig) (userId : Bytes) (runtime : HomeserverRuntime) : Prop where
  flagged : isDeactivated (localFlags runtime.users) userId = true
  stored : isDeactivated (storedFlags runtime.store.users) userId = true
  rows : ∀ row ∈ runtime.store.accessTokens, row.userId = userId → row.revoked = true
  sessions : ∀ session ∈ runtime.sessions, session.userId = userId → session.revoked = true
  unserved : ∀ registration ∈ config.appservices,
    appserviceOwnsUser registration config.serverName userId = false

def FlaggedClosed : Prop :=
  ∀ userId, FlagSet runtime userId → Closed config userId runtime

/-- A deactivation that is recorded closes the account: both revocations go
through or have nothing to revoke, and no application service owns the account. -/
def closesAccount (operation : Operation) : Bool :=
  match operation.request with
  | .deactivate accessToken =>
    (authenticatedSession config runtime accessToken).all fun session =>
      !operation.backend [.updateUserDeactivated session.userId] ||
        (operation.backend [.revokeUserAccessTokens session.userId] ||
          countLive (fun row => row.userId = session.userId) runtime.store.accessTokens == 0) &&
        (operation.backend [.revokeUserRefreshTokens session.userId] ||
          countLive (fun row => row.userId = session.userId) runtime.store.refreshTokens == 0) &&
        config.appservices.all fun registration =>
          !appserviceOwnsUser registration config.serverName session.userId
  | _ => true

def tokenHashesOf (rows : List PersistentToken) : List Bytes :=
  (rows.filter fun row => row.userId = userId).map fun row => row.tokenHash

end

section Closing

variable {runtime : HomeserverRuntime} {userId : Bytes} {operation : Operation}

theorem tokenHashesOf_revokeWhere {selects : PersistentToken → Bool} {rows : List PersistentToken} :
    tokenHashesOf userId (revokeWhere selects rows) = tokenHashesOf userId rows := by
  unfold tokenHashesOf
  rw [revokeWhere_eq_map, filter_map, map_map]
  rfl

theorem Mints.not_deactivated {issued : List Bytes} {row : PersistentToken}
    (hmints : Mints config issued runtime row) :
    isDeactivated (localFlags runtime.users) row.userId = false := by
  obtain ⟨user, huser, hactive⟩ := hmints.owner
  rw [isDeactivated, localFlags, find?_map]
  change (Option.map _ (findUser runtime row.userId)).any _ = false
  rw [huser]
  exact hactive

theorem flagged_step (hflagged : isDeactivated (localFlags runtime.users) userId = true)
    (hstored : isDeactivated (storedFlags runtime.store.users) userId = true) :
    isDeactivated (localFlags (perform config runtime operation).users) userId = true ∧
      isDeactivated (storedFlags (perform config runtime operation).store.users) userId = true := by
  rcases perform_flags config runtime operation with hsame | ⟨-, hafter⟩ | ⟨token, -, hafter⟩
  · rw [hsame.memory, hsame.stored]
    exact ⟨hflagged, hstored⟩
  · rw [hafter]
    refine ⟨?_, hstored⟩
    rw [hydrateLocalDatabase, localFlags, map_map]
    exact hstored
  · rw [hafter]
    rcases deactivateLocalUser_cases token with hsame | ⟨session, -, -, -, -, hclosed⟩
    · rw [hsame]
      exact ⟨hflagged, hstored⟩
    · obtain ⟨hmemory, hstoredAfter⟩ := deactivateLocalUser_flags hclosed userId
      rw [hmemory, hstoredAfter]
      exact ⟨isDeactivated_setFlag_of_flagged hflagged, isDeactivated_setFlag_of_flagged hstored⟩

theorem Closed.step (hclosed : Closed config userId runtime) :
    Closed config userId (perform config runtime operation) := by
  obtain ⟨hflagged, hstored⟩ := flagged_step hclosed.flagged hclosed.stored
  rcases perform_cases config runtime operation with
    ⟨effect, hperforms, -⟩ | ⟨token, -, hafter⟩ | ⟨elapsedMs, -, hafter⟩ | ⟨-, hafter⟩
  · have hnotIssued : ∀ row, effect.issuedAccess = some row → row.userId ≠ userId := by
      intro row hrow huser
      have hactive := Mints.not_deactivated (hperforms.mintsAccess row hrow)
      rw [huser, hclosed.flagged] at hactive
      cases hactive
    refine ⟨hflagged, hstored, ?_, ?_, hclosed.unserved⟩
    · intro row hrow huser
      rw [hperforms.accessTokens, mem_revoked_append] at hrow
      rcases hrow with ⟨old, hold, rfl⟩ | hrow
      · simp [hclosed.rows old hold huser]
      · exact absurd huser (hnotIssued row hrow)
    · intro session hsession huser
      rw [hperforms.sessions, revokeSessions_eq_map, mem_append, mem_map,
        Option.mem_toList] at hsession
      rcases hsession with ⟨old, hold, rfl⟩ | hopened
      · simp [hclosed.sessions old hold huser]
      · obtain ⟨row, hrow, rfl⟩ := hperforms.opens session hopened
        exact absurd huser (hnotIssued row hrow)
  · have hlooks : LooksUp config token runtime (perform config runtime operation) := by
      rw [hafter]
      exact authenticatedUser_looksUp.1
    obtain ⟨selects, haccess⟩ := hlooks.accessTokens
    refine ⟨hflagged, hstored, ?_, ?_, hclosed.unserved⟩
    · intro row hrow huser
      rw [haccess, revokeWhere_eq_map] at hrow
      obtain ⟨old, hold, rfl⟩ := mem_map.mp hrow
      simp [hclosed.rows old hold huser]
    · intro session hsession huser
      rcases hlooks.sessions session hsession with hold | ⟨old, hold, -, -, tokenHash, -, rfl⟩
      · exact hclosed.sessions session hold huser
      · exact hclosed.sessions old hold huser
  · rw [hafter] at hflagged hstored ⊢
    exact ⟨hflagged, hstored, hclosed.rows, hclosed.sessions, hclosed.unserved⟩
  · rw [hafter] at hflagged hstored ⊢
    exact ⟨hflagged, hstored, hclosed.rows, forall_mem_map.mpr hclosed.rows, hclosed.unserved⟩

theorem closed_of_deactivate {token : Bytes} {session : LocalSession}
    (hrequest : operation.request = .deactivate token)
    (hcloses : closesAccount config runtime operation = true)
    (hsession : authenticatedSession config runtime token = some session)
    (huser : (findUser runtime session.userId).isSome)
    (hstoredUser : (runtime.store.users.any fun user => user.userId = session.userId) = true)
    (hcommits : operation.backend [.updateUserDeactivated session.userId] = true)
    (hafter : (deactivateLocalUser config operation.backend runtime token).2 =
      (closeAccount operation.backend (markDeactivated runtime session.userId)
        session.userId).2) :
    Closed config session.userId
      (deactivateLocalUser config operation.backend runtime token).2 := by
  simp only [closesAccount, hrequest, hsession, Option.all_some, hcommits, Bool.not_true,
    Bool.false_or, Bool.and_eq_true, Bool.or_eq_true, beq_iff_eq, all_eq_true,
    Bool.not_eq_true'] at hcloses
  obtain ⟨⟨haccess, hrefresh⟩, hunserved⟩ := hcloses
  obtain ⟨_, hrevoked, hall⟩ := closeAccount_revokes operation.backend
    (markDeactivated runtime session.userId) session.userId
  obtain rfl := hall ⟨haccess, hrefresh⟩
  obtain ⟨hmemory, hstored⟩ := deactivateLocalUser_flags hafter session.userId
  refine ⟨?_, ?_, ?_, ?_, hunserved⟩
  · rw [hmemory, isDeactivated_setFlag, if_pos rfl, localFlags, any_map, any_eq_true]
    exact find?_isSome.mp huser
  · rw [hstored, isDeactivated_setFlag, if_pos rfl, storedFlags, any_map]
    exact hstoredUser
  · rw [hafter, hrevoked.accessTokens]
    exact revoked_of_mem_revokeWhere haccess
  · intro candidate hcandidate hid
    rw [hafter, hrevoked.sessions, revokeSessions_eq_map] at hcandidate
    obtain ⟨old, -, rfl⟩ := mem_map.mp hcandidate
    change old.userId = session.userId at hid
    simp [hid]

theorem FlaggedClosed.step (hclosed : FlaggedClosed config runtime)
    (hcloses : closesAccount config runtime operation = true) :
    FlaggedClosed config (perform config runtime operation) := by
  intro userId hflag
  have hold : FlagSet runtime userId → Closed config userId (perform config runtime operation) :=
    fun h => (hclosed userId h).step
  rcases perform_flags config runtime operation with
    hsame | ⟨-, hafter⟩ | ⟨token, hrequest, hafter⟩
  · rw [FlagSet, hsame.memory, hsame.stored] at hflag
    exact hold hflag
  · apply hold
    rw [hafter, FlagSet, hydrateLocalDatabase, localFlags, map_map] at hflag
    exact Or.inr (hflag.elim id id)
  · rcases deactivateLocalUser_cases token with
      hsame | ⟨session, hsession, huser, hstoredUser, hcommits, hmarked⟩
    · apply hold
      rwa [hafter, hsame] at hflag
    · rcases eq_or_ne userId session.userId with rfl | hne
      · rw [hafter]
        exact closed_of_deactivate hrequest hcloses hsession huser hstoredUser hcommits hmarked
      · apply hold
        obtain ⟨hmemory, hstored⟩ := deactivateLocalUser_flags hmarked userId
        rwa [hafter, FlagSet, hmemory, hstored, isDeactivated_setFlag, isDeactivated_setFlag,
          if_neg hne, if_neg hne] at hflag

theorem Closed.not_authenticated (hclosed : Closed config userId runtime) (token : Bytes) :
    authenticates config runtime token ≠ some userId := by
  intro hauthenticates
  cases hraw : decodeMasqueradeToken token with
  | none =>
    rw [authenticates_of_session hraw] at hauthenticates
    obtain ⟨session, hfound, hmapped⟩ := Option.bind_eq_some_iff.mp hauthenticates
    obtain ⟨user, -, hid⟩ := Option.map_eq_some_iff.mp hmapped
    obtain ⟨hsession, -, hlive, -⟩ := findSession_some hfound
    have hrevoked := hclosed.sessions session hsession hid
    simp [hlive] at hrevoked
  | some identity =>
    simp only [authenticates, authenticatedUser, hraw] at hauthenticates
    split_ifs at hauthenticates with hvalid
    obtain ⟨registration, hfound, howns⟩ := (Option.any_eq_true _ _).mp hvalid
    rw [Option.some.inj hauthenticates,
      hclosed.unserved registration (mem_of_find?_eq_some hfound)] at howns
    cases howns

theorem tokenHashesOf_step (hflagged : isDeactivated (localFlags runtime.users) userId = true) :
    tokenHashesOf userId (perform config runtime operation).store.accessTokens =
        tokenHashesOf userId runtime.store.accessTokens ∧
      tokenHashesOf userId (perform config runtime operation).store.refreshTokens =
        tokenHashesOf userId runtime.store.refreshTokens := by
  have hissued : ∀ (selects : PersistentToken → Bool) (rows : List PersistentToken)
      (issued : Option PersistentToken),
      (∀ row, issued = some row → Mints config (issuedTokens operation.request) runtime row) →
      tokenHashesOf userId (revokeWhere selects rows ++ issued.toList) =
        tokenHashesOf userId rows := by
    intro selects rows issued hmints
    cases issued with
    | none => rw [Option.toList_none, append_nil, tokenHashesOf_revokeWhere]
    | some row =>
      have hne : row.userId ≠ userId := by
        rintro rfl
        have hactive := Mints.not_deactivated (hmints row rfl)
        rw [hflagged] at hactive
        cases hactive
      rw [Option.toList_some, tokenHashesOf, filter_append,
        filter_cons_of_neg (by simpa using hne), filter_nil, append_nil]
      exact tokenHashesOf_revokeWhere
  rcases perform_cases config runtime operation with
    ⟨effect, hperforms, -⟩ | ⟨token, -, hafter⟩ | ⟨elapsedMs, -, hafter⟩ | ⟨-, hafter⟩
  · rw [hperforms.accessTokens, hperforms.refreshTokens]
    exact ⟨hissued _ _ _ hperforms.mintsAccess, hissued _ _ _ hperforms.mintsRefresh⟩
  · have hlooks : LooksUp config token runtime (perform config runtime operation) := by
      rw [hafter]
      exact authenticatedUser_looksUp.1
    obtain ⟨selects, haccess⟩ := hlooks.accessTokens
    rw [haccess, hlooks.refreshTokens]
    exact ⟨tokenHashesOf_revokeWhere, rfl⟩
  all_goals
    rw [hafter]
    exact ⟨rfl, rfl⟩

end Closing

/-- In every run in which each recorded deactivation closes its account: once
an account's flag is set no token authenticates as the account, and no
operation adds an access or refresh token for it. -/
theorem deactivation_is_final (config : AuthConfig) (initial : HomeserverRuntime)
    (hinitial : FlaggedClosed config initial) (before later : List Operation)
    (hcloses : Along (perform config) (fun runtime operation =>
      closesAccount config runtime operation = true) initial (before ++ later)) (userId : Bytes)
    (hflag : FlagSet (run (perform config) initial before) userId) :
    (∀ token, authenticates config (run (perform config) initial (before ++ later)) token ≠
      some userId) ∧
    ∀ operation,
      tokenHashesOf userId (perform config (run (perform config) initial (before ++ later))
        operation).store.accessTokens = tokenHashesOf userId
            (run (perform config) initial (before ++ later)).store.accessTokens ∧
      tokenHashesOf userId (perform config (run (perform config) initial (before ++ later))
        operation).store.refreshTokens = tokenHashesOf userId
            (run (perform config) initial (before ++ later)).store.refreshTokens := by
  obtain ⟨hbefore, hlater⟩ := along_append.mp hcloses
  have hflagged : FlaggedClosed config (run (perform config) initial before) :=
    hbefore.invariant (fun _ _ hclosed hcloses => hclosed.step hcloses) hinitial
  have hkept : Closed config userId (run (perform config) initial (before ++ later)) := by
    rw [run_append]
    exact hlater.invariant (fun _ _ hclosed _ => Closed.step hclosed) (hflagged userId hflag)
  exact ⟨hkept.not_authenticated, fun operation => tokenHashesOf_step hkept.flagged⟩

theorem sampleRuntime_flaggedClosed : FlaggedClosed sampleConfig (sampleRuntime []) := by
  have hactive : ∀ userId, isDeactivated ([] ++ [(sampleUser, false)]) userId = false :=
    fun _ => isDeactivated_append_active
  rintro userId (hflag | hflag) <;>
    exact absurd (hflag.symm.trans (hactive userId)) (by decide)

theorem deactivated_token_stays_out : authenticates sampleConfig
      (sampleRun [] [sampleLogin false, .deactivate "mvs_a", .restart]) "mvs_a" ≠ some sampleUser :=
  (deactivation_is_final sampleConfig (sampleRuntime []) sampleRuntime_flaggedClosed
    [committed (sampleLogin false), committed (.deactivate "mvs_a")] [committed .restart]
    (by decide +kernel) sampleUser (Or.inl (by decide +kernel))).1 "mvs_a"

/-- An application service that may act as every user of the server. -/
def bridgeConfig : AuthConfig :=
  { sampleConfig with appservices := [⟨"bridge", "bot", fun _ => true⟩] }

/-- A deactivation whose revocation fails leaves the flag set and the token in
use. And an application service acts as an account that was closed in full. -/
theorem deactivated_account_authenticates : (FlagSet (run (perform sampleConfig) (sampleRuntime [])
        [committed (sampleLogin false), ⟨.deactivate "mvs_a", fun statements =>
          statements ≠ [.revokeUserAccessTokens sampleUser]⟩]) sampleUser ∧
      authenticates sampleConfig (run (perform sampleConfig) (sampleRuntime [])
        [committed (sampleLogin false), ⟨.deactivate "mvs_a", fun statements =>
          statements ≠ [.revokeUserAccessTokens sampleUser]⟩]) "mvs_a" = some sampleUser) ∧
    FlagSet (run (perform bridgeConfig) (sampleRuntime [])
        [committed (sampleLogin false), committed (.deactivate "mvs_a")]) sampleUser ∧
      authenticates bridgeConfig (run (perform bridgeConfig) (sampleRuntime [])
        [committed (sampleLogin false), committed (.deactivate "mvs_a")])
        "appservice-masquerade:v1:6:bridge16:@alice:a.example5:PHONE" = some sampleUser :=
  ⟨⟨Or.inl (by decide +kernel), by decide +kernel⟩, Or.inl (by decide +kernel),
    by decide +kernel⟩

end Merovingian.DeactivationRuns
