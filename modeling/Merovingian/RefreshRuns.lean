import Merovingian.SessionRuns

/-!
Refresh tokens over runs in which any write may fail. An exchange that
succeeds uses its refresh token up for good and hands out an access token that
works. The device's earlier access tokens stay out as well, as long as the
write that revokes their rows goes through: the exchange does not look at it,
and after a restart the rows decide.
-/

namespace Merovingian.RefreshRuns

open ByteString Identifiers CredentialTables AuthService OperationRuns SessionOperations SessionRuns
  List

variable {config : AuthConfig} {runtime after : HomeserverRuntime} {backend : CredentialBackend}
  {token : Bytes} {operation : Operation} {known : List Bytes}

section Upgrade

variable {v4Hash : Bytes} {position : Nat}

theorem mem_upgradeSessions {sessions : List LocalSession} {index : Nat} {viewed : Bytes}
    {session : LocalSession}
    (h : session ∈ (upgradeSessions v4Hash position index viewed sessions).sessions) :
    session ∈ sessions ∨ ∃ old ∈ sessions, old.revoked = false ∧
      (old.accessTokenHash = viewed ∨ old.accessTokenHash = v4Hash) ∧
      session = { old with accessTokenHash := v4Hash } := by
  induction sessions generalizing index viewed with
  | nil => exact Or.inl h
  | cons head rest ih =>
    unfold upgradeSessions at h
    split at h
    next hmatches =>
      rw [Bool.and_eq_true, Bool.not_eq_true'] at hmatches
      rcases mem_cons.mp h with rfl | hrest
      · exact Or.inr ⟨head, mem_cons_self, hmatches.1, Or.inl (tokenHashMatches_eq hmatches.2), rfl⟩
      · rcases ih hrest with hold | ⟨old, hold, hlive, hhash, rfl⟩
        · exact Or.inl (mem_cons_of_mem head hold)
        · refine Or.inr ⟨old, mem_cons_of_mem head hold, hlive, ?_, rfl⟩
          split_ifs at hhash
          · exact Or.inr (hhash.elim id id)
          · exact hhash
    · rcases mem_cons.mp h with rfl | hrest
      · exact Or.inl mem_cons_self
      · rcases ih hrest with hold | ⟨old, hold, hlive, hhash, rfl⟩
        · exact Or.inl (mem_cons_of_mem head hold)
        · exact Or.inr ⟨old, mem_cons_of_mem head hold, hlive, hhash, rfl⟩

theorem viewed_upgradeSessions_self (sessions : List LocalSession) (index : Nat) :
    (upgradeSessions v4Hash position index v4Hash sessions).viewed = v4Hash := by
  induction sessions generalizing index with
  | nil => rfl
  | cons head rest ih =>
    unfold upgradeSessions
    split_ifs
    · exact ih (index + 1)
    · exact ih (index + 1)
    · exact ih (index + 1)

/-- The pass rewrites the session that the view looks at, so the view reads the
new hash in the end. -/
theorem viewed_upgradeSessions {sessions : List LocalSession} {index : Nat} {viewed : Bytes}
    {session : LocalSession} (hat : sessions[position - index]? = some session)
    (hindex : index ≤ position) (hlive : session.revoked = false)
    (hmatches : tokenHashMatches session.accessTokenHash viewed = true) :
    (upgradeSessions v4Hash position index viewed sessions).viewed = v4Hash := by
  induction sessions generalizing index viewed with
  | nil => simp at hat
  | cons head rest ih =>
    unfold upgradeSessions
    by_cases heq : index = position
    · subst heq
      simp only [Nat.sub_self, getElem?_cons_zero, Option.some.injEq] at hat
      subst hat
      rw [hlive, hmatches]
      simp only [Bool.not_false, Bool.and_self, if_true]
      exact viewed_upgradeSessions_self rest (index + 1)
    · have hrest : rest[position - (index + 1)]? = some session := by
        have hsucc : position - index = position - (index + 1) + 1 := by omega
        rwa [hsucc, getElem?_cons_succ] at hat
      split_ifs
      · exact ih hrest (by omega) hmatches
      · exact ih hrest (by omega) hmatches

end Upgrade

/-- A known token opens at most one row of either kind, and every session has
a row with its owner and device that the session's token opens. -/
structure TokensHeld (config : AuthConfig) (known : List Bytes) (runtime : HomeserverRuntime) :
    Prop where
  oneAccess : OneRowEach config known runtime.store.accessTokens
  oneRefresh : OneRowEach config known runtime.store.refreshTokens
  backed : ∀ session ∈ runtime.sessions, ∃ row ∈ runtime.store.accessTokens,
    row.userId = session.userId ∧ row.deviceId = session.deviceId ∧
      ∀ token ∈ known, session.accessTokenHash ∈ lookupTokenHashes config token →
        Opens config token row

structure Dead (config : AuthConfig) (runtime : HomeserverRuntime) (token : Bytes) : Prop where
  stored : ∃ row ∈ runtime.store.accessTokens, Opens config token row
  rows : ∀ row ∈ runtime.store.accessTokens, Opens config token row → row.revoked = true
  sessions : ∀ session ∈ runtime.sessions,
    session.accessTokenHash ∈ lookupTokenHashes config token → session.revoked = true

structure UsedUp (config : AuthConfig) (runtime : HomeserverRuntime) (token : Bytes) : Prop where
  stored : ∃ row ∈ runtime.store.refreshTokens, Opens config token row
  rows : ∀ row ∈ runtime.store.refreshTokens, Opens config token row → row.revoked = true

/-- What a lookup may change: it revokes rows, and it moves live sessions of the
token that is looked up to another of its hashes. -/
structure LooksUp (config : AuthConfig) (token : Bytes) (before after : HomeserverRuntime) :
    Prop where
  accessTokens : ∃ selects, after.store.accessTokens = revokeWhere selects before.store.accessTokens
  refreshTokens : after.store.refreshTokens = before.store.refreshTokens
  sessions : ∀ session ∈ after.sessions, session ∈ before.sessions ∨
    ∃ old ∈ before.sessions, old.revoked = false ∧
      old.accessTokenHash ∈ lookupTokenHashes config token ∧
      ∃ tokenHash ∈ lookupTokenHashes config token,
        session = { old with accessTokenHash := tokenHash }

section Lookup

theorem LooksUp.refl (runtime : HomeserverRuntime) : LooksUp config token runtime runtime :=
  ⟨⟨fun _ => false, revokeWhere_never.symm⟩, rfl, fun _ h => Or.inl h⟩

/-- The row under the new hash is never added: the revocation looks for a row
with that very hash, and adding one needs that there is none. -/
theorem storeUpgrade_store (backend : CredentialBackend) (runtime : HomeserverRuntime)
    {v4Hash : Bytes} {scan : UpgradeScan} (hviewed : scan.viewed = v4Hash) :
    ∃ selects, (storeUpgrade backend runtime v4Hash scan).store = { runtime.store with
        accessTokens := revokeWhere selects runtime.store.accessTokens } := by
  unfold storeUpgrade
  split
  · exact ⟨fun _ => false, by rw [revokeWhere_never]⟩
  next session _ =>
  rw [revokeAccessToken, revokeAccessRows_eq]
  split
  next store hcount =>
    obtain ⟨-, rfl⟩ := Prod.mk.inj hcount
    exact ⟨_, rfl⟩
  next count store hcount =>
    obtain ⟨hlive, rfl⟩ := Prod.mk.inj hcount
    obtain ⟨row, hrow, hselected, -⟩ := exists_of_countLive_pos hlive
    simp only [Bool.and_eq_true, decide_eq_true_eq] at hselected
    have hexists : ∀ selects, tokenExists (revokeWhere selects runtime.store.accessTokens)
        v4Hash = true := by
      intro selects
      rw [tokenExists, any_eq_true]
      refine ⟨{ row with revoked := row.revoked || selects row }, ?_, ?_⟩
      · rw [revokeWhere_eq_map]
        exact mem_map_of_mem hrow
      · simp [hselected.2, hviewed]
    have hrefused : ∀ (store : CredentialStore) (added : PersistentToken),
        tokenExists store.accessTokens added.tokenHash = true →
        storeAccessToken backend store added = none := by
      intro store added hadded
      simp [storeAccessToken, hadded]
    rw [hrefused _ _ (hexists _)]
    exact ⟨_, rfl⟩

theorem authenticatedUser_looksUp :
    KeepsAccounts (LooksUp config token runtime) runtime
      (authenticatedUser config backend runtime token).2 := by
  have hidle : KeepsAccounts (LooksUp config token runtime) runtime runtime :=
    ⟨.refl runtime, .refl runtime⟩
  unfold authenticatedUser
  split
  · exact hidle
  unfold sessionOwner
  split
  · exact hidle
  next session hsession =>
  obtain ⟨-, hopens, hrevoked, -⟩ := findSession_some hsession
  unfold upgradeV3AccessTokenToV4
  split
  · exact hidle
  split
  · exact hidle
  next v4Hash hv4 =>
  have hv4Mem : v4Hash ∈ lookupTokenHashes config token :=
    mem_lookupTokenHashes.mpr (Or.inl hv4)
  have hat : runtime.sessions[runtime.sessions.findIdx
      (sessionIsLive (lookupTokenHashes config token) runtime.now) - 0]? = some session := by
    rw [Nat.sub_zero, ← find?_eq_getElem?_findIdx]
    exact hsession
  have hviewed : (upgradeSessions v4Hash (runtime.sessions.findIdx
      (sessionIsLive (lookupTokenHashes config token) runtime.now)) 0 session.accessTokenHash
      runtime.sessions).viewed = v4Hash :=
    viewed_upgradeSessions hat (Nat.zero_le _) hrevoked (tokenHashMatches_self hopens)
  obtain ⟨selects, hstore⟩ := storeUpgrade_store backend runtime hviewed
  refine ⟨⟨⟨selects, by rw [hstore]⟩, by rw [hstore], ?_⟩, (storeUpgrade_frame ..).1,
    by rw [hstore]⟩
  · intro moved hmoved
    rw [(storeUpgrade_frame ..).2] at hmoved
    rcases mem_upgradeSessions hmoved with hold | ⟨old, hold, holdLive, hhash, rfl⟩
    · exact Or.inl hold
    · refine Or.inr ⟨old, hold, holdLive, ?_, v4Hash, hv4Mem, rfl⟩
      rcases hhash with hhash | hhash
      · rw [hhash]
        exact hopens
      · rw [hhash]
        exact hv4Mem

end Lookup

/-- What every operation does: rows are revoked and at most one new one of
either kind is added; a session goes back to an earlier one of the same token,
or to a row that is there. -/
structure Evolves (config : AuthConfig) (known : List Bytes) (before after : HomeserverRuntime) :
    Prop where
  accessTokens : ∃ selects issued, after.store.accessTokens =
      revokeWhere selects before.store.accessTokens ++ issued.toList ∧
    IssuedAnew config known before.store.accessTokens issued
  refreshTokens : ∃ selects issued, after.store.refreshTokens =
      revokeWhere selects before.store.refreshTokens ++ issued.toList ∧
    IssuedAnew config known before.store.refreshTokens issued
  sessions : ∀ session ∈ after.sessions,
    (∃ old ∈ before.sessions, session.userId = old.userId ∧ session.deviceId = old.deviceId ∧
      (old.revoked = true → session.revoked = true) ∧
      ∀ token ∈ known, session.accessTokenHash ∈ lookupTokenHashes config token →
        old.accessTokenHash ∈ lookupTokenHashes config token) ∨
    ∃ row ∈ after.store.accessTokens, session.userId = row.userId ∧
      session.deviceId = row.deviceId ∧ session.accessTokenHash = row.tokenHash ∧
      (row.revoked = true → session.revoked = true)

section Steps

theorem issuedAnew_none {rows : List PersistentToken} : IssuedAnew config known rows none := by
  rintro row ⟨⟩

section

variable (hdistinct : DistinctTokens config known)

include hdistinct

theorem LooksUp.evolves (htoken : token ∈ known) (hlooks : LooksUp config token runtime after) :
    Evolves config known runtime after := by
  obtain ⟨selects, haccess⟩ := hlooks.accessTokens
  refine ⟨⟨selects, none, ?_, issuedAnew_none⟩, ⟨fun _ => false, none, ?_, issuedAnew_none⟩, ?_⟩
  · rw [haccess, Option.toList_none, append_nil]
  · rw [hlooks.refreshTokens, revokeWhere_never, Option.toList_none, append_nil]
  · intro session hsession
    left
    rcases hlooks.sessions session hsession with
      hold | ⟨old, hold, -, hopens, tokenHash, hhash, rfl⟩
    · exact ⟨session, hold, rfl, rfl, id, fun _ _ h => h⟩
    · refine ⟨old, hold, rfl, rfl, id, ?_⟩
      intro other hother hopensOther
      -- Both hashes are of the token that was looked up.
      rw [hdistinct other hother token htoken tokenHash hopensOther hhash]
      exact hopens

omit hdistinct in
theorem evolves_of_performs {effect : Effect}
    (hperforms : Performs config (issuedTokens operation.request) effect runtime after)
    (htokens : KnownTokens config known runtime operation) :
    Evolves config known runtime after := by
  refine ⟨⟨_, _, hperforms.accessTokens,
      htokens.issuedAnew (subset_append_left _ _) hperforms.mintsAccess⟩,
    ⟨_, _, hperforms.refreshTokens,
      htokens.issuedAnew (subset_append_right _ _) hperforms.mintsRefresh⟩, ?_⟩
  intro session hsession
  rw [hperforms.sessions, revokeSessions_eq_map, mem_append, mem_map, Option.mem_toList] at hsession
  rcases hsession with ⟨old, hold, rfl⟩ | hopened
  · left
    refine ⟨old, hold, rfl, rfl, ?_, fun _ _ h => h⟩
    intro hrevoked
    simp [hrevoked]
  · right
    obtain ⟨row, hrow, rfl⟩ := hperforms.opens session hopened
    refine ⟨row, ?_, rfl, rfl, rfl, id⟩
    rw [hperforms.accessTokens, mem_revoked_append]
    exact Or.inr hrow

theorem perform_evolves (htokens : KnownTokens config known runtime operation) :
    Evolves config known runtime (perform config runtime operation) := by
  have hidle : ∀ rows : List PersistentToken, rows = revokeWhere (fun _ => false) rows ++
      (none : Option PersistentToken).toList := by
    intro rows
    rw [revokeWhere_never, Option.toList_none, append_nil]
  rcases perform_cases config runtime operation with
    ⟨effect, hperforms, -⟩ | ⟨token, hrequest, hafter⟩ | ⟨elapsedMs, -, hafter⟩ | ⟨-, hafter⟩
  · exact evolves_of_performs hperforms htokens
  · rw [hafter]
    have htoken := htokens.presented token (by simp [presentedTokens, hrequest])
    exact authenticatedUser_looksUp.1.evolves hdistinct htoken
  · rw [hafter]
    refine ⟨⟨_, _, hidle _, issuedAnew_none⟩, ⟨_, _, hidle _, issuedAnew_none⟩, ?_⟩
    exact fun session hsession => Or.inl ⟨session, hsession, rfl, rfl, id, fun _ _ h => h⟩
  · rw [hafter]
    refine ⟨⟨_, _, hidle _, issuedAnew_none⟩, ⟨_, _, hidle _, issuedAnew_none⟩, ?_⟩
    intro session hsession
    obtain ⟨row, hrow, rfl⟩ := mem_map.mp hsession
    exact Or.inr ⟨row, hrow, rfl, rfl, rfl, id⟩

theorem TokensHeld.step (hheld : TokensHeld config known runtime)
    (hevolves : Evolves config known runtime after) : TokensHeld config known after := by
  obtain ⟨selects, issued, haccess, hissued⟩ := hevolves.accessTokens
  obtain ⟨selectsRefresh, issuedRefresh, hrefresh, hissuedRefresh⟩ := hevolves.refreshTokens
  refine ⟨?_, ?_, ?_⟩
  · rw [haccess]
    exact hheld.oneAccess.step hdistinct hissued
  · rw [hrefresh]
    exact hheld.oneRefresh.step hdistinct hissuedRefresh
  · intro session hsession
    rcases hevolves.sessions session hsession with
      ⟨old, hold, huser, hdevice, -, hopens⟩ | ⟨row, hrow, huser, hdevice, hhash, -⟩
    · obtain ⟨row, hrow, hrowUser, hrowDevice, hrowOpens⟩ := hheld.backed old hold
      refine ⟨{ row with revoked := row.revoked || selects row }, ?_, ?_, ?_, ?_⟩
      · rw [haccess, mem_revoked_append]
        exact Or.inl ⟨row, hrow, rfl⟩
      · exact hrowUser.trans huser.symm
      · exact hrowDevice.trans hdevice.symm
      · exact fun token htoken h => hrowOpens token htoken (hopens token htoken h)
    · refine ⟨row, hrow, huser.symm, hdevice.symm, ?_⟩
      intro token _ h
      rwa [Opens, ← hhash]

/-- Rows of a known token that are revoked, before or now, are the token's only
rows after it. -/
theorem revoked_step (htoken : token ∈ known) {rows after : List PersistentToken}
    {selects : PersistentToken → Bool} {issued : Option PersistentToken}
    (hafter : after = revokeWhere selects rows ++ issued.toList)
    (hissued : IssuedAnew config known rows issued) (hstored : ∃ row ∈ rows, Opens config token row)
    (hrevoked : ∀ row ∈ rows, Opens config token row → (row.revoked || selects row) = true) :
    (∃ row ∈ after, Opens config token row) ∧
      ∀ row ∈ after, Opens config token row → row.revoked = true := by
  subst hafter
  obtain ⟨stored, hmem, hopens⟩ := hstored
  constructor
  · exact ⟨_, mem_revoked_append.mpr (Or.inl ⟨stored, hmem, rfl⟩), hopens⟩
  · intro row hrow hopensRow
    rcases mem_revoked_append.mp hrow with ⟨old, hold, rfl⟩ | hnew
    · exact hrevoked old hold hopensRow
    · exact absurd hopensRow (not_opens_issued hdistinct hissued htoken hnew hmem hopens)

theorem Dead.step (htoken : token ∈ known) (hdead : Dead config runtime token)
    (hevolves : Evolves config known runtime after) : Dead config after token := by
  obtain ⟨selects, issued, haccess, hissued⟩ := hevolves.accessTokens
  have hrows := revoked_step hdistinct htoken haccess hissued hdead.stored
    fun row hrow hopens => by simp [hdead.rows row hrow hopens]
  refine ⟨hrows.1, hrows.2, ?_⟩
  intro session hsession hopens
  rcases hevolves.sessions session hsession with
    ⟨old, hold, -, -, hrevoked, holdOpens⟩ | ⟨row, hrow, -, -, hhash, hrevoked⟩
  · exact hrevoked (hdead.sessions old hold (holdOpens token htoken hopens))
  · apply hrevoked
    apply hrows.2 row hrow
    rwa [Opens, ← hhash]

theorem UsedUp.step (htoken : token ∈ known) (hused : UsedUp config runtime token)
    (hevolves : Evolves config known runtime after) : UsedUp config after token := by
  obtain ⟨selects, issued, hrefresh, hissued⟩ := hevolves.refreshTokens
  have hrows := revoked_step hdistinct htoken hrefresh hissued hused.stored
    fun row hrow hopens => by simp [hused.rows row hrow hopens]
  exact ⟨hrows.1, hrows.2⟩

theorem evolves_along {Holds : HomeserverRuntime → Prop} {operations : List Operation}
    (hstep : ∀ before after, Holds before → Evolves config known before after → Holds after)
    (hknown : Along (perform config) (KnownTokens config known) runtime operations)
    (hholds : Holds runtime) : Holds (run (perform config) runtime operations) := by
  refine hknown.invariant (fun before operation hbefore htokens => ?_) hholds
  exact hstep before _ hbefore (perform_evolves hdistinct htokens)

end

theorem Dead.authenticates_eq_none (hdead : Dead config runtime token)
    (hraw : decodeMasqueradeToken token = none) : authenticates config runtime token = none := by
  rw [authenticates_of_session hraw]
  cases hfound : findSession runtime (lookupTokenHashes config token) with
  | none => rfl
  | some session =>
    obtain ⟨hsession, hopens, hlive, -⟩ := findSession_some hfound
    have hrevoked := hdead.sessions session hsession hopens
    simp [hlive] at hrevoked

theorem UsedUp.refresh_refused (hused : UsedUp config runtime token) (backend : CredentialBackend)
    (accessRandomHex refreshRandomHex : Option Bytes) :
    (refreshLocalSession config backend runtime token accessRandomHex
      refreshRandomHex).1.ok = false := by
  rcases refreshLocalSession_cases config backend runtime token accessRandomHex
    refreshRandomHex with ⟨hrefused, -⟩ | ⟨row, hfound, -, -⟩
  · exact hrefused
  · exfalso
    have hlive := find?_some hfound
    simp only [Bool.and_eq_true, Bool.not_eq_true', matchesAnyTokenHash_iff] at hlive
    have hrevoked := hused.rows row (mem_of_find?_eq_some hfound) hlive.1.1
    simp [hlive.1.2] at hrevoked

end Steps

/-- A successful exchange of the row's tokens: the refresh token and the device's
sessions are revoked, the rows of its access tokens only if that write goes
through, and a new pair is stored with its session. -/
structure Exchanges (config : AuthConfig) (backend : CredentialBackend)
    (refresh : PersistentRefreshToken) (issued : List Bytes) (before : HomeserverRuntime)
    (result : SessionRefreshResult) (after : HomeserverRuntime) : Prop where
  owner : result.userId = refresh.userId
  users : after.users = before.users
  now : after.now = before.now
  issuedToken : result.accessToken ∈ issued
  ordinaryToken : decodeMasqueradeToken result.accessToken = none
  refreshTokens : ∃ row, Mints config issued before row ∧ after.store.refreshTokens =
      revokeWhere (fun row => row.tokenHash = refresh.tokenHash) before.store.refreshTokens ++ [row]
  accessTokens : ∃ row, Mints config issued before row ∧
    issueTokenHash config result.accessToken = some row.tokenHash ∧
    row.userId = refresh.userId ∧ isExpired row.expiresAt before.now = false ∧
    after.store.accessTokens = revokeWhere (fun row =>
        backend [.revokeDeviceAccessTokens refresh.userId refresh.deviceId] &&
          (row.userId = refresh.userId && row.deviceId = refresh.deviceId))
        before.store.accessTokens ++ [row] ∧
    after.sessions = revokeSessions (fun session =>
        session.userId = refresh.userId && session.deviceId = refresh.deviceId)
        before.sessions ++ [sessionOf row]

/-- The write that revokes the rows of the device's access tokens goes through,
or there is nothing for it to revoke. -/
def revokesDevice (config : AuthConfig) (runtime : HomeserverRuntime) (operation : Operation) :
    Bool :=
  match operation.request with
  | .refresh refreshToken _ _ =>
    (findRefreshRow runtime (lookupTokenHashes config refreshToken)).all fun refresh =>
      operation.backend [.revokeDeviceAccessTokens refresh.userId refresh.deviceId] ||
        countLive (fun row => row.userId = refresh.userId && row.deviceId = refresh.deviceId)
          runtime.store.accessTokens == 0
  | _ => true

/-- An access token of the device whose tokens the refresh token exchanges. -/
def PairedAccess (config : AuthConfig) (runtime : HomeserverRuntime)
    (refreshToken accessToken : Bytes) : Prop :=
  ∃ refresh, findRefreshRow runtime (lookupTokenHashes config refreshToken) = some refresh ∧
    ∃ row ∈ runtime.store.accessTokens, Opens config accessToken row ∧
      row.userId = refresh.userId ∧ row.deviceId = refresh.deviceId

section Exchange

variable {refresh : PersistentRefreshToken} {refreshToken : Bytes}
  {accessRandomHex refreshRandomHex : Option Bytes} {result : SessionRefreshResult}

theorem storeRefreshedTokens_ok {access : PersistentAccessToken}
    (hok : (storeRefreshedTokens backend runtime access refresh).1 = true) :
    (storeRefreshedTokens backend runtime access refresh).2 = { runtime with
      store := { runtime.store with
        accessTokens := runtime.store.accessTokens ++ [access]
        refreshTokens := runtime.store.refreshTokens ++ [refresh] }
      sessions := runtime.sessions ++ [sessionOf access] } := by
  unfold storeRefreshedTokens at hok ⊢
  split at hok
  · cases hok
  next store hstore =>
  split at hok
  · cases hok
  next stored hstored =>
  rw [storeRefreshToken_eq_some hstored, storeAccessToken_eq_some hstore]

theorem rotateSession_exchanges
    (howner : ∃ user, findUser runtime refresh.userId = some user ∧ user.deactivated = false)
    (hrotate : rotateSession config backend runtime refresh accessRandomHex refreshRandomHex =
      (result, after)) (hok : result.ok = true) :
    Exchanges config backend refresh
      (issuedTokens (.refresh refreshToken accessRandomHex refreshRandomHex)) runtime
      result after := by
  obtain ⟨rfl, rfl⟩ := Prod.ext_iff.mp hrotate
  unfold rotateSession at hok ⊢
  rw [revokeRefreshToken, revokeRefreshRows_eq] at hok ⊢
  split at hok
  · cases hok
  next count store hcount =>
  obtain ⟨hlive, rfl⟩ := Prod.mk.inj hcount
  obtain ⟨row, -, hselected, -⟩ := exists_of_countLive_pos hlive
  have hcommitted : backend [.revokeRefreshToken refresh.tokenHash] = true :=
    (Bool.and_eq_true_iff.mp hselected).1
  unfold mintRefreshedTokens at hok ⊢
  split at hok
  next accessToken newRefreshToken haccessToken hrefreshToken =>
    split at hok
    next accessHash refreshHash haccessHash hrefreshHash =>
      dsimp only at hok ⊢
      split_ifs at hok with hstored
      · have hissuedAccess : accessToken ∈
            issuedTokens (.refresh refreshToken accessRandomHex refreshRandomHex) := by
          simp [issuedTokens, haccessToken]
        have hissuedRefresh : newRefreshToken ∈
            issuedTokens (.refresh refreshToken accessRandomHex refreshRandomHex) := by
          simp [issuedTokens, hrefreshToken]
        rw [if_pos hstored, storeRefreshedTokens_ok hstored, revokeRotated,
          revokeAccessTokensForDevice, revokeAccessRows_eq]
        refine ⟨rfl, rfl, rfl, hissuedAccess,
            by obtain ⟨hex, -, rfl⟩ := Option.map_eq_some_iff.mp haccessToken; rfl,
          ⟨⟨refresh.userId, refresh.deviceId, refreshHash, false,
              tokenExpiresAt config.refreshTokenLifetimeMs runtime.now⟩,
            ⟨rfl, ⟨newRefreshToken, hissuedRefresh, hrefreshHash⟩, howner⟩, ?_⟩,
          ⟨⟨refresh.userId, refresh.deviceId, accessHash, false,
              tokenExpiresAt config.accessTokenLifetimeMs runtime.now⟩,
            ⟨rfl, ⟨accessToken, hissuedAccess, haccessHash⟩, howner⟩, haccessHash, rfl,
            isExpired_tokenExpiresAt _ _, rfl, rfl⟩⟩
        simp only [hcommitted, Bool.true_and]
      · cases hok
    · cases hok
  · cases hok

theorem exchanges_of_ok
    (hrefresh : refreshLocalSession config backend runtime refreshToken accessRandomHex
      refreshRandomHex = (result, after)) (hok : result.ok = true) :
    ∃ refresh, findRefreshRow runtime (lookupTokenHashes config refreshToken) = some refresh ∧
      Exchanges config backend refresh
        (issuedTokens (.refresh refreshToken accessRandomHex refreshRandomHex)) runtime
        result after := by
  rcases refreshLocalSession_cases config backend runtime refreshToken accessRandomHex
    refreshRandomHex with ⟨hrefused, -⟩ | ⟨refresh, hfound, hrejection, hrotate⟩
  · rw [hrefresh] at hrefused
    cases hok.symm.trans hrefused
  · have howner := owner_of_refreshRejection hrejection
    exact ⟨refresh, hfound, rotateSession_exchanges howner (hrotate.symm.trans hrefresh) hok⟩

variable (hheld : TokensHeld config known runtime)
  (htokens : KnownTokens config known runtime operation)
  (hexchanges : Exchanges config backend refresh (issuedTokens operation.request) runtime
    result after)

include hheld htokens hexchanges

theorem Exchanges.usedUp (hdistinct : DistinctTokens config known) (hknown : refreshToken ∈ known)
    (hfound : findRefreshRow runtime (lookupTokenHashes config refreshToken) = some refresh) :
    UsedUp config after refreshToken := by
  have hlive := find?_some hfound
  simp only [Bool.and_eq_true, matchesAnyTokenHash_iff] at hlive
  have hrefresh := mem_of_find?_eq_some hfound
  have hopens : Opens config refreshToken refresh := hlive.1.1
  obtain ⟨added, hmints, hrows⟩ := hexchanges.refreshTokens
  have hissued : IssuedAnew config known runtime.store.refreshTokens (some added) := by
    apply htokens.issuedAnew (subset_append_right _ _)
    rintro row ⟨⟩
    exact hmints
  have hafter := revoked_step hdistinct hknown hrows hissued ⟨refresh, hrefresh, hopens⟩
    fun old hold hopensOld => by
      simp [hheld.oneRefresh refreshToken hknown old hold refresh hrefresh hopensOld hopens]
  exact ⟨hafter.1, hafter.2⟩

theorem Exchanges.dead (hdistinct : DistinctTokens config known) {accessToken : Bytes}
    (hknown : accessToken ∈ known) {paired : PersistentAccessToken}
    (hpaired : paired ∈ runtime.store.accessTokens) (hopens : Opens config accessToken paired)
    (huser : paired.userId = refresh.userId) (hdevice : paired.deviceId = refresh.deviceId)
    (hrevokes : backend [.revokeDeviceAccessTokens refresh.userId refresh.deviceId] = true ∨
      countLive (fun row => row.userId = refresh.userId && row.deviceId = refresh.deviceId)
        runtime.store.accessTokens = 0) : Dead config after accessToken := by
  obtain ⟨added, hmints, -, -, -, hrows, hsessions⟩ := hexchanges.accessTokens
  have hissued : IssuedAnew config known runtime.store.accessTokens (some added) := by
    apply htokens.issuedAnew (subset_append_left _ _)
    rintro row ⟨⟩
    exact hmints
  have hafter := revoked_step hdistinct hknown hrows hissued ⟨paired, hpaired, hopens⟩ (by
    intro old hold hopensOld
    rw [hheld.oneAccess accessToken hknown old hold paired hpaired hopensOld hopens]
    rcases hrevokes with hcommitted | hnone
    · simp [hcommitted, huser, hdevice]
    · simp [countLive_eq_zero_iff.mp hnone paired hpaired (by simp [huser, hdevice])])
  refine ⟨hafter.1, hafter.2, ?_⟩
  intro session hsession hopensSession
  rw [hsessions, revokeSessions_eq_map, mem_append, mem_map, mem_singleton] at hsession
  rcases hsession with ⟨old, hold, rfl⟩ | rfl
  · -- The session's row is the token's row, so the session is the device's.
    obtain ⟨row, hrow, hrowUser, hrowDevice, hrowOpens⟩ := hheld.backed old hold
    have heq := hheld.oneAccess accessToken hknown row hrow paired hpaired
      (hrowOpens accessToken hknown hopensSession) hopens
    rw [heq] at hrowUser hrowDevice
    simp [← hrowUser, ← hrowDevice, huser, hdevice]
  · exact absurd hopensSession (not_opens_issued hdistinct hissued hknown rfl hpaired hopens)

theorem Exchanges.authenticates :
    authenticates config after result.accessToken = some result.userId := by
  obtain ⟨added, hmints, hhash, huser, hexpired, -, hsessions⟩ := hexchanges.accessTokens
  have hnone : ∀ session ∈ revokeSessions (fun session =>
      session.userId = refresh.userId && session.deviceId = refresh.deviceId) runtime.sessions,
      ¬ sessionIsLive (lookupTokenHashes config result.accessToken) after.now session = true := by
    intro session hsession hlive
    rw [revokeSessions_eq_map] at hsession
    obtain ⟨old, hold, rfl⟩ := mem_map.mp hsession
    simp only [sessionIsLive, Bool.and_eq_true, matchesAnyTokenHash_iff] at hlive
    obtain ⟨row, hrow, -, -, hrowOpens⟩ := hheld.backed old hold
    exact htokens.fresh result.accessToken hexchanges.issuedToken row
      (mem_append_left _ hrow)
      (hrowOpens _ (htokens.issued _ hexchanges.issuedToken) hlive.1.1)
  have hlive : sessionIsLive (lookupTokenHashes config result.accessToken) after.now
      (sessionOf added) = true := by
    simp only [sessionIsLive, sessionOf, Bool.and_eq_true, Bool.not_eq_true',
      matchesAnyTokenHash_iff]
    exact ⟨⟨issueTokenHash_mem hhash, hmints.live⟩, by rw [hexchanges.now]; exact hexpired⟩
  have hfound : findSession after (lookupTokenHashes config result.accessToken) =
      some (sessionOf added) := by
    rw [findSession, hsessions, find?_append, find?_eq_none.mpr hnone, Option.none_or,
      find?_cons_of_pos hlive]
  obtain ⟨user, hfoundUser, -⟩ := hmints.owner
  rw [authenticates_of_session hexchanges.ordinaryToken, hfound, Option.bind_some, sessionOf,
    findUser, hexchanges.users, ← findUser, hfoundUser, Option.map_some, huser, hexchanges.owner]

end Exchange

/-- In every run in which each exchange revokes the rows of the device's access
tokens: once a refresh token is exchanged it is never exchanged again, the
access tokens of its device never authenticate again, and the one that was
handed out authenticates. Which other writes fail does not matter. -/
theorem refresh_token_exchanged_once (config : AuthConfig) (known : List Bytes)
    (hdistinct : DistinctTokens config known) (initial : HomeserverRuntime)
    (hinitial : TokensHeld config known initial) (before later : List Operation)
    (refreshToken : Bytes) (accessRandomHex refreshRandomHex : Option Bytes)
    (backend : CredentialBackend)
    (hknown : Along (perform config) (KnownTokens config known) initial
      (before ++ ⟨.refresh refreshToken accessRandomHex refreshRandomHex, backend⟩ :: later))
    (hrevokes : Along (perform config) (fun runtime operation =>
      revokesDevice config runtime operation = true) initial
      (before ++ ⟨.refresh refreshToken accessRandomHex refreshRandomHex, backend⟩ :: later))
    (hok : (refreshLocalSession config backend (run (perform config) initial before)
      refreshToken accessRandomHex refreshRandomHex).1.ok = true) :
    (∀ laterBackend laterAccess laterRefresh, (refreshLocalSession config laterBackend
        (run (perform config) initial
          (before ++ ⟨.refresh refreshToken accessRandomHex refreshRandomHex, backend⟩ :: later))
        refreshToken laterAccess laterRefresh).1.ok = false) ∧
    (∀ accessToken ∈ known, decodeMasqueradeToken accessToken = none →
      PairedAccess config (run (perform config) initial before) refreshToken accessToken →
      authenticates config
        (run (perform config) initial
          (before ++ ⟨.refresh refreshToken accessRandomHex refreshRandomHex, backend⟩ :: later))
        accessToken = none) ∧
    authenticates config
      (run (perform config) initial
        (before ++ [⟨.refresh refreshToken accessRandomHex refreshRandomHex, backend⟩]))
      (refreshLocalSession config backend (run (perform config) initial before)
        refreshToken accessRandomHex refreshRandomHex).1.accessToken =
      some (refreshLocalSession config backend (run (perform config) initial before)
        refreshToken accessRandomHex refreshRandomHex).1.userId := by
  obtain ⟨hbefore, hexchange, hlater⟩ := along_append.mp hknown
  have hrevokesHere := (along_append.mp hrevokes).2.1
  have hheld := evolves_along hdistinct (fun _ _ => TokensHeld.step hdistinct) hbefore hinitial
  obtain ⟨refresh, hfound, hexchanges⟩ := exchanges_of_ok rfl hok
  have hpresented := hexchange.presented refreshToken mem_cons_self
  rw [run_append, run_append, run_cons, run_cons, run_nil]
  refine ⟨?_, ?_, hexchanges.authenticates hheld hexchange⟩
  · have hused := hexchanges.usedUp hheld hexchange hdistinct hpresented hfound
    exact (evolves_along hdistinct (fun _ _ => UsedUp.step hdistinct hpresented) hlater
      hused).refresh_refused
  · rintro accessToken haccessToken hraw ⟨paired, hpairedFound, row, hrow, hopens, huser, hdevice⟩
    rw [hfound, Option.some.injEq] at hpairedFound
    subst hpairedFound
    simp only [revokesDevice, hfound, Option.all_some, Bool.or_eq_true, beq_iff_eq]
      at hrevokesHere
    have hdead := hexchanges.dead hheld hexchange hdistinct haccessToken hrow hopens huser
      hdevice hrevokesHere
    exact (evolves_along hdistinct (fun _ _ => Dead.step hdistinct haccessToken) hlater
      hdead).authenticates_eq_none hraw

def sampleTokens : List Bytes := ["mvs_a", "mvs_b", "mvs_c", "mvs_d"]

def sampleRefresh (backend : CredentialBackend) : Operation :=
  ⟨.refresh "mvs_b" (some "c") (some "d"), backend⟩

theorem exchanged_token_is_spent : authenticates sampleConfig
      (run (perform sampleConfig) (sampleRuntime [])
        [committed (sampleLogin true), sampleRefresh (fun _ => true), committed .restart])
      "mvs_a" = none :=
  (refresh_token_exchanged_once sampleConfig sampleTokens
    (by unfold DistinctTokens; decide +kernel) (sampleRuntime [])
    ⟨by unfold OneRowEach; decide +kernel, by unfold OneRowEach; decide +kernel,
      fun _ hsession => absurd hsession not_mem_nil⟩
    [committed (sampleLogin true)] [committed .restart] "mvs_b" (some "c") (some "d")
    (fun _ => true) (by decide +kernel) (by decide +kernel) (by decide +kernel)).2.1 "mvs_a"
    (by decide +kernel) (by decide +kernel)
    ⟨⟨sampleUser, "PHONE", "token-hash:v4:mvs_b", false, none⟩, by decide +kernel,
      by decide +kernel⟩

/-- The exchange succeeds although the write that revokes the device's access
tokens fails, and after a restart the old access token is back. -/
theorem exchanged_access_token_returns : (refreshLocalSession sampleConfig
        (fun statements => statements ≠ [.revokeDeviceAccessTokens sampleUser "PHONE"])
        (sampleRun [] [sampleLogin true]) "mvs_b" (some "c") (some "d")).1.ok = true ∧
      PairedAccess sampleConfig (sampleRun [] [sampleLogin true]) "mvs_b" "mvs_a" ∧
      Along (perform sampleConfig) (KnownTokens sampleConfig sampleTokens) (sampleRuntime [])
        [committed (sampleLogin true), sampleRefresh
          (fun statements => statements ≠ [.revokeDeviceAccessTokens sampleUser "PHONE"]),
          committed .restart] ∧
      authenticates sampleConfig
        (run (perform sampleConfig) (sampleRuntime [])
          [committed (sampleLogin true), sampleRefresh
            (fun statements => statements ≠ [.revokeDeviceAccessTokens sampleUser "PHONE"]),
            committed .restart])
        "mvs_a" = some sampleUser :=
  ⟨by decide +kernel, ⟨⟨sampleUser, "PHONE", "token-hash:v4:mvs_b", false, none⟩, by decide +kernel,
      by decide +kernel⟩,
    by decide +kernel, by decide +kernel⟩

end Merovingian.RefreshRuns
