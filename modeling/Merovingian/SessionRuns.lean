import Mathlib.Data.List.Forall2
import Merovingian.SessionOperations

/-!
Runs of the authentication service in which the database commits every write.
The sessions in memory and the rows of the access tokens say the same, and a
token that is revoked or over stays useless, as long as no restart meets a live
row with an expiry and no session is moved from a version 3 to a version 4
hash. A restart forgets the expiry, and the move leaves the old row live.
-/

namespace Merovingian.SessionRuns

open ByteString Identifiers CredentialTables AuthService OperationRuns SessionOperations List

variable {config : AuthConfig} {known : List Bytes}

def Opens (config : AuthConfig) (token : Bytes) (row : PersistentToken) : Prop :=
  row.tokenHash ∈ lookupTokenHashes config token

instance decidableOpens (config : AuthConfig) (token : Bytes) (row : PersistentToken) :
    Decidable (Opens config token row) :=
  inferInstanceAs (Decidable (_ ∈ _))

def DistinctTokens (config : AuthConfig) (known : List Bytes) : Prop :=
  ∀ token ∈ known, ∀ other ∈ known, ∀ tokenHash ∈ lookupTokenHashes config token,
    tokenHash ∈ lookupTokenHashes config other → token = other

def OneRowEach (config : AuthConfig) (known : List Bytes) (rows : List PersistentToken) : Prop :=
  ∀ token ∈ known, ∀ row ∈ rows, ∀ other ∈ rows,
    Opens config token row → Opens config token other → row = other

section Rows

variable {rows : List PersistentToken} {selects : PersistentToken → Bool}
  {issued : Option PersistentToken}

theorem mem_revoked_append {row : PersistentToken} :
    row ∈ revokeWhere selects rows ++ issued.toList ↔
      (∃ old ∈ rows, { old with revoked := old.revoked || selects old } = row) ∨
        issued = some row := by
  rw [mem_append, revokeWhere_eq_map, mem_map, Option.mem_toList]

/-- The new row is opened by a known token that opens no old row. -/
def IssuedAnew (config : AuthConfig) (known : List Bytes) (rows : List PersistentToken)
    (issued : Option PersistentToken) : Prop :=
  ∀ row, issued = some row →
    ∃ token ∈ known, Opens config token row ∧ ∀ old ∈ rows, ¬ Opens config token old

theorem not_opens_issued (hdistinct : DistinctTokens config known)
    (hissued : IssuedAnew config known rows issued) {token : Bytes} (htoken : token ∈ known)
    {row old : PersistentToken} (hrow : issued = some row) (hold : old ∈ rows)
    (hopens : Opens config token old) : ¬ Opens config token row := by
  intro hopensRow
  obtain ⟨newToken, hnewToken, hnewOpens, hfresh⟩ := hissued row hrow
  have heq := hdistinct token htoken newToken hnewToken row.tokenHash hopensRow hnewOpens
  subst heq
  exact hfresh old hold hopens

theorem OneRowEach.step (hone : OneRowEach config known rows)
    (hdistinct : DistinctTokens config known) (hissued : IssuedAnew config known rows issued) :
    OneRowEach config known (revokeWhere selects rows ++ issued.toList) := by
  intro token htoken row hrow other hother hopens hopensOther
  rw [mem_revoked_append] at hrow hother
  rcases hrow with ⟨old, hold, rfl⟩ | hrow
  · rcases hother with ⟨oldOther, holdOther, rfl⟩ | hother
    · rw [hone token htoken old hold oldOther holdOther hopens hopensOther]
    · exact absurd hopensOther (not_opens_issued hdistinct hissued htoken hother hold hopens)
  · rcases hother with ⟨oldOther, holdOther, rfl⟩ | hother
    · exact absurd hopens
        (not_opens_issued hdistinct hissued htoken hrow holdOther hopensOther)
    · rw [hrow, Option.some.injEq] at hother
      exact hother

end Rows

structure KnownTokens (config : AuthConfig) (known : List Bytes) (runtime : HomeserverRuntime)
    (operation : Operation) : Prop where
  issued : ∀ token ∈ issuedTokens operation.request, token ∈ known
  fresh : Fresh config runtime (issuedTokens operation.request)
  presented : ∀ token ∈ presentedTokens operation.request, token ∈ known

instance decidableKnownTokens (config : AuthConfig) (known : List Bytes)
    (runtime : HomeserverRuntime) (operation : Operation) :
    Decidable (KnownTokens config known runtime operation) :=
  decidable_of_iff
    ((∀ token ∈ issuedTokens operation.request, token ∈ known) ∧
      (∀ token ∈ issuedTokens operation.request,
        ∀ row ∈ runtime.store.accessTokens ++ runtime.store.refreshTokens,
          row.tokenHash ∉ lookupTokenHashes config token) ∧
      ∀ token ∈ presentedTokens operation.request, token ∈ known)
    ⟨fun h => ⟨h.1, h.2.1, h.2.2⟩, fun h => ⟨h.1, h.2, h.3⟩⟩

variable {operation : Operation}

theorem KnownTokens.issuedAnew {runtime : HomeserverRuntime}
    (htokens : KnownTokens config known runtime operation) {rows : List PersistentToken}
    (hrows : rows ⊆ runtime.store.accessTokens ++ runtime.store.refreshTokens)
    {issued : Option PersistentToken}
    (hmints : ∀ row, issued = some row →
      Mints config (issuedTokens operation.request) runtime row) :
    IssuedAnew config known rows issued := by
  intro row hrow
  obtain ⟨token, htoken, hhash⟩ := (hmints row hrow).fromToken
  refine ⟨token, htokens.issued token htoken, issueTokenHash_mem hhash, ?_⟩
  intro old hold
  exact htokens.fresh token htoken old (hrows hold)

/-- A session and its row say the same, and a live one has the row's expiry. -/
structure Mirrors (session : LocalSession) (row : PersistentAccessToken) : Prop where
  userId : session.userId = row.userId
  deviceId : session.deviceId = row.deviceId
  tokenHash : session.accessTokenHash = row.tokenHash
  revoked : session.revoked = row.revoked
  expiresAt : row.revoked = false → session.expiresAt = row.expiresAt

structure Coherent (config : AuthConfig) (known : List Bytes) (runtime : HomeserverRuntime) :
    Prop where
  mirrors : List.Forall₂ Mirrors runtime.sessions runtime.store.accessTokens
  oneRow : OneRowEach config known runtime.store.accessTokens

/-- A lookup of the token finds a session with a version 3 hash and moves it to
version 4. -/
def upgradesSession (config : AuthConfig) (runtime : HomeserverRuntime) (token : Bytes) : Bool :=
  (decodeMasqueradeToken token).isNone &&
    (findSession runtime (lookupTokenHashes config token)).any (fun session =>
      tokenHashIsV3 session.accessTokenHash) &&
    (hashAccessTokenV4 config token).isSome

/-- What keeps memory and tables in step: a restart finds no live row with an
expiry, and no lookup moves a session to a version 4 hash. -/
def isFaithful (config : AuthConfig) (runtime : HomeserverRuntime) (operation : Operation) : Bool :=
  match operation.request with
  | .restart => runtime.store.accessTokens.all fun row => row.revoked || row.expiresAt.isNone
  | .authenticate token => !upgradesSession config runtime token
  | _ => true

section Coherence

variable {runtime after : HomeserverRuntime}

theorem authenticatedUser_of_faithful {backend : CredentialBackend} {token : Bytes}
    (hrequest : operation.request = .authenticate token)
    (hfaithful : isFaithful config runtime operation = true) :
    (authenticatedUser config backend runtime token).2 = runtime := by
  rw [isFaithful, hrequest, Bool.not_eq_true'] at hfaithful
  unfold authenticatedUser
  split
  · rfl
  next hraw =>
    unfold sessionOwner
    split
    · rfl
    next session hsession =>
      unfold upgradeV3AccessTokenToV4
      split_ifs with hv3
      · rfl
      · rw [Bool.not_eq_true', Bool.not_eq_false] at hv3
        rw [show hashAccessTokenV4 config token = none by
          simpa [upgradesSession, hraw, hsession, hv3] using hfaithful]

theorem mirrors_mem {sessions : List LocalSession} {rows : List PersistentToken}
    (h : List.Forall₂ Mirrors sessions rows) :
    List.Forall₂ (fun session row => session ∈ sessions ∧ row ∈ rows ∧ Mirrors session row)
      sessions rows := by
  induction h with
  | nil => exact .nil
  | cons hhead _ ih =>
    refine .cons ⟨mem_cons_self, mem_cons_self, hhead⟩ (ih.imp ?_)
    rintro session row ⟨hsession, hrow, hmirrors⟩
    exact ⟨mem_cons_of_mem _ hsession, mem_cons_of_mem _ hrow, hmirrors⟩

variable (hcoherent : Coherent config known runtime)
include hcoherent

theorem Coherent.exists_row {session : LocalSession} (hsession : session ∈ runtime.sessions) :
    ∃ row ∈ runtime.store.accessTokens, Mirrors session row := by
  obtain ⟨index, hindex, rfl⟩ := getElem_of_mem hsession
  have hlength := hcoherent.mirrors.length_eq
  refine ⟨runtime.store.accessTokens[index], getElem_mem _, ?_⟩
  exact hcoherent.mirrors.get hindex (hlength ▸ hindex)

theorem mirrors_step {effect : Effect} {issued : List Bytes}
    (hperforms : Performs config issued effect runtime after) (hpaired : Paired effect runtime) :
    List.Forall₂ Mirrors after.sessions after.store.accessTokens := by
  rw [hperforms.sessions, hperforms.accessTokens, hpaired.opened, revokeSessions_eq_map,
    revokeWhere_eq_map]
  apply rel_append
  · rw [forall₂_map_left_iff, forall₂_map_right_iff]
    refine (mirrors_mem hcoherent.mirrors).imp ?_
    rintro session row ⟨hsession, hrow, hmirrors⟩
    have hrevoked := hpaired.revoked row hrow session hsession hmirrors.userId
      hmirrors.deviceId hmirrors.tokenHash
    refine ⟨hmirrors.userId, hmirrors.deviceId, hmirrors.tokenHash, ?_, ?_⟩
    · rw [hrevoked, hmirrors.revoked]
    · intro hlive
      exact hmirrors.expiresAt (Bool.or_eq_false_iff.mp hlive).1
  · cases hissued : effect.issuedAccess with
    | none => exact .nil
    | some row => exact .cons ⟨rfl, rfl, rfl, rfl, fun _ => rfl⟩ .nil

variable (hcommits : Commits operation.backend)
  (htokens : KnownTokens config known runtime operation)
include hcommits htokens

theorem Coherent.regular : Regular config runtime operation := by
  refine ⟨hcommits, htokens.fresh, ?_⟩
  intro token htoken
  have hknown := htokens.presented token (by simp [presentedTokens, htoken])
  refine ⟨hcoherent.oneRow token hknown, ?_⟩
  intro session hsession
  obtain ⟨row, hrow, hmirrors⟩ := hcoherent.exists_row hsession
  exact ⟨row, hrow, hmirrors.tokenHash.symm⟩

theorem Coherent.step (hdistinct : DistinctTokens config known)
    (hfaithful : isFaithful config runtime operation = true) :
    Coherent config known (perform config runtime operation) := by
  rcases perform_cases config runtime operation with
    ⟨effect, hperforms, hpaired⟩ | ⟨token, hrequest, hafter⟩ | ⟨elapsedMs, -, hafter⟩ |
      ⟨hrequest, hafter⟩
  · refine ⟨mirrors_step hcoherent hperforms (hpaired (hcoherent.regular hcommits htokens)), ?_⟩
    rw [hperforms.accessTokens]
    exact hcoherent.oneRow.step hdistinct
      (htokens.issuedAnew (subset_append_left _ _) hperforms.mintsAccess)
  · rw [hafter, authenticatedUser_of_faithful hrequest hfaithful]
    exact hcoherent
  · rw [hafter]
    exact ⟨hcoherent.mirrors, hcoherent.oneRow⟩
  · rw [hafter]
    refine ⟨?_, hcoherent.oneRow⟩
    rw [isFaithful, hrequest, all_eq_true] at hfaithful
    rw [hydrateLocalDatabase, forall₂_map_left_iff, forall₂_same]
    intro row hrow
    refine ⟨rfl, rfl, rfl, rfl, fun hlive => ?_⟩
    have hexpiry := hfaithful row hrow
    rw [hlive, Bool.false_or, Option.isNone_iff_eq_none] at hexpiry
    exact hexpiry.symm

end Coherence

def Spent (config : AuthConfig) (runtime : HomeserverRuntime) (token : Bytes) : Prop :=
  (∃ row ∈ runtime.store.accessTokens, Opens config token row ∧
    (row.revoked = true ∨ isExpired row.expiresAt runtime.now = true)) ∨
  ∃ session ∈ runtime.sessions,
    session.accessTokenHash ∈ lookupTokenHashes config token ∧ session.revoked = true

/-- The token has a row, and none of its rows lets it in. -/
structure Lifeless (config : AuthConfig) (runtime : HomeserverRuntime) (token : Bytes) : Prop where
  stored : ∃ row ∈ runtime.store.accessTokens, Opens config token row
  refused : ∀ row ∈ runtime.store.accessTokens, Opens config token row →
    row.revoked = true ∨ isExpired row.expiresAt runtime.now = true

section Tokens

variable {runtime : HomeserverRuntime} {token : Bytes}

theorem Spent.lifeless (hcoherent : Coherent config known runtime) (htoken : token ∈ known)
    (hspent : Spent config runtime token) : Lifeless config runtime token := by
  have hrow : ∃ row ∈ runtime.store.accessTokens, Opens config token row ∧
      (row.revoked = true ∨ isExpired row.expiresAt runtime.now = true) := by
    rcases hspent with hrow | ⟨session, hsession, hopens, hrevoked⟩
    · exact hrow
    · obtain ⟨row, hrow, hmirrors⟩ := hcoherent.exists_row hsession
      refine ⟨row, hrow, ?_, Or.inl (hmirrors.revoked ▸ hrevoked)⟩
      rwa [Opens, ← hmirrors.tokenHash]
  obtain ⟨row, hrow, hopens, hrefused⟩ := hrow
  refine ⟨⟨row, hrow, hopens⟩, ?_⟩
  intro other hother hopensOther
  rwa [← hcoherent.oneRow token htoken row hrow other hother hopens hopensOther]

theorem Lifeless.authenticates_eq_none (hcoherent : Coherent config known runtime)
    (hraw : decodeMasqueradeToken token = none) (hlifeless : Lifeless config runtime token) :
    authenticates config runtime token = none := by
  rw [authenticates_of_session hraw]
  cases hfound : findSession runtime (lookupTokenHashes config token) with
  | none => rfl
  | some session =>
    exfalso
    obtain ⟨hsession, hopens, hrevoked, hexpired⟩ := findSession_some hfound
    obtain ⟨row, hrow, hmirrors⟩ := hcoherent.exists_row hsession
    rw [hmirrors.revoked] at hrevoked
    rw [hmirrors.expiresAt hrevoked] at hexpired
    rw [hmirrors.tokenHash] at hopens
    rcases hlifeless.refused row hrow hopens with h | h
    · simp [hrevoked] at h
    · simp [hexpired] at h

theorem Lifeless.of_rows {after : HomeserverRuntime} (hlifeless : Lifeless config runtime token)
    (hrows : after.store.accessTokens = runtime.store.accessTokens)
    (hnow : runtime.now ≤ after.now) : Lifeless config after token := by
  refine ⟨?_, ?_⟩
  · rw [hrows]
    exact hlifeless.stored
  · intro row hrow hopens
    rw [hrows] at hrow
    exact (hlifeless.refused row hrow hopens).imp_right fun h => isExpired_later h hnow

theorem Lifeless.step (hdistinct : DistinctTokens config known) (htoken : token ∈ known)
    {operation : Operation} (hlifeless : Lifeless config runtime token)
    (htokens : KnownTokens config known runtime operation)
    (hfaithful : isFaithful config runtime operation = true) :
    Lifeless config (perform config runtime operation) token := by
  rcases perform_cases config runtime operation with
    ⟨effect, hperforms, -⟩ | ⟨presented, hrequest, hafter⟩ | ⟨elapsedMs, -, hafter⟩ | ⟨-, hafter⟩
  · obtain ⟨stored, hstored, hopensStored⟩ := hlifeless.stored
    have hissued := htokens.issuedAnew (subset_append_left _ _) hperforms.mintsAccess
    refine ⟨⟨{ stored with revoked := stored.revoked || effect.revokesAccess stored }, ?_,
      hopensStored⟩, ?_⟩
    · rw [hperforms.accessTokens, mem_revoked_append]
      exact Or.inl ⟨stored, hstored, rfl⟩
    · intro row hrow hopens
      rw [hperforms.now]
      rw [hperforms.accessTokens, mem_revoked_append] at hrow
      rcases hrow with ⟨old, hold, rfl⟩ | hrow
      · refine (hlifeless.refused old hold hopens).imp_left fun h => ?_
        simp [h]
      · exact absurd hopens
          (not_opens_issued hdistinct hissued htoken hrow hstored hopensStored)
  · rw [hafter, authenticatedUser_of_faithful hrequest hfaithful]
    exact hlifeless
  · rw [hafter]
    refine hlifeless.of_rows rfl ?_
    show runtime.now ≤ runtime.now + elapsedMs
    omega
  · rw [hafter]
    exact hlifeless.of_rows rfl (Int.le_refl _)

end Tokens

structure Ordinary (config : AuthConfig) (known : List Bytes) (runtime : HomeserverRuntime)
    (operation : Operation) : Prop where
  commits : Commits operation.backend
  tokens : KnownTokens config known runtime operation

/-- In every run whose operations are faithful, each live session has a live
row with the same owner, device, hash and expiry, and a token that is revoked
or over never authenticates again. -/
theorem sessions_agree_with_rows (config : AuthConfig) (known : List Bytes)
    (hdistinct : DistinctTokens config known) (initial : HomeserverRuntime)
    (hinitial : Coherent config known initial) (before later after : List Operation)
    (hordinary : Along (perform config) (Ordinary config known) initial (before ++ later ++ after))
    (hfaithful : Along (perform config) (fun runtime operation =>
      isFaithful config runtime operation = true) initial (before ++ later ++ after)) :
    (∀ session ∈ (run (perform config) initial (before ++ later)).sessions,
      session.revoked = false →
        ∃ row ∈ (run (perform config) initial (before ++ later)).store.accessTokens,
          row.revoked = false ∧ row.userId = session.userId ∧
            row.deviceId = session.deviceId ∧ row.tokenHash = session.accessTokenHash ∧
            row.expiresAt = session.expiresAt) ∧
    ∀ token ∈ known, decodeMasqueradeToken token = none →
      Spent config (run (perform config) initial before) token →
        authenticates config (run (perform config) initial (before ++ later)) token = none := by
  have halong := (along_append.mp (hordinary.and hfaithful)).1
  obtain ⟨hbefore, hlater⟩ := along_append.mp halong
  have hstep : ∀ runtime operation, Coherent config known runtime →
      Ordinary config known runtime operation ∧ isFaithful config runtime operation = true →
      Coherent config known (perform config runtime operation) :=
    fun runtime operation hcoherent h => hcoherent.step h.1.commits h.1.tokens hdistinct h.2
  have hcoherent := halong.invariant hstep hinitial
  constructor
  · intro session hsession hlive
    obtain ⟨row, hrow, hmirrors⟩ := hcoherent.exists_row hsession
    rw [hmirrors.revoked] at hlive
    exact ⟨row, hrow, hlive, hmirrors.userId.symm, hmirrors.deviceId.symm,
      hmirrors.tokenHash.symm, (hmirrors.expiresAt hlive).symm⟩
  · intro token htoken hraw hspent
    have hlifeless := hspent.lifeless (hbefore.invariant hstep hinitial) htoken
    refine Lifeless.authenticates_eq_none hcoherent hraw ?_
    rw [run_append]
    exact hlater.invariant (fun _ _ (h : Lifeless config _ token) hcondition =>
      h.step hdistinct htoken hcondition.1.tokens hcondition.2) hlifeless

/-- A small server: digests and password hashes are the texts themselves, and
an access token with a refresh token lives for a minute. -/
def sampleConfig : AuthConfig where
  serverName := "a.example"
  accessTokenLifetimeMs := 60000
  refreshTokenLifetimeMs := 0
  appservices := []
  ssoEnabled := false
  ssoAuthorizationUrl := []
  ssoRedirectUrlAllowlist := []
  digestV2 := some
  digestV3 := some
  digestV4 := some
  hashPassword := some
  passwordMatches passwordHash password := passwordHash = password

def sampleUser : Bytes := "@alice:a.example"

def sampleRuntime (rows : List PersistentAccessToken) : HomeserverRuntime where
  users := [{ userId := sampleUser, passwordHash := "secret" }]
  store := {
    users := [{ userId := sampleUser, passwordHash := "secret" }]
    accessTokens := rows }
  sessions := rows.map sessionOf

def sampleLogin (supportsRefreshTokens : Bool) : Request :=
  .login ⟨.password sampleUser "secret", "PHONE", supportsRefreshTokens, some "a", some "b"⟩

def committed (request : Request) : Operation := ⟨request, fun _ => true⟩

def sampleRun (rows : List PersistentAccessToken) (requests : List Request) : HomeserverRuntime :=
  run (perform sampleConfig) (sampleRuntime rows) (requests.map committed)

theorem ordinary_of_committed (requests : List Request) {runtime : HomeserverRuntime}
    (h : Along (perform config) (KnownTokens config known) runtime (requests.map committed)) :
    Along (perform config) (Ordinary config known) runtime (requests.map committed) := by
  induction requests generalizing runtime with
  | nil => trivial
  | cons request rest ih => exact ⟨⟨fun _ => rfl, h.1⟩, ih h.2⟩

theorem logged_out_token_stays_out :
    authenticates sampleConfig (sampleRun [] [sampleLogin false, .logout "mvs_a", .restart])
      "mvs_a" = none :=
  (sessions_agree_with_rows sampleConfig ["mvs_a", "mvs_b", "old"]
    (by unfold DistinctTokens; decide +kernel)
    (sampleRuntime []) ⟨.nil, by unfold OneRowEach; decide +kernel⟩
    [committed (sampleLogin false), committed (.logout "mvs_a")] [committed .restart] []
    (ordinary_of_committed [sampleLogin false, .logout "mvs_a", .restart] (by decide +kernel))
    (by decide +kernel)).2 "mvs_a" (by decide +kernel) (by decide +kernel)
    (Or.inl (by decide +kernel))

/-- A row from before the server had version 4 hashes. -/
def oldRow : PersistentAccessToken := ⟨sampleUser, "PHONE", "token-hash:v3:old", false, none⟩

/-- A token that has expired authenticates again after a restart. And a token
that is looked up once under its old hash loses the row of its session: the
logout that follows fails on the row, and a restart brings the token back. -/
theorem spent_tokens_return :
    (Along (perform sampleConfig) (Ordinary sampleConfig ["mvs_a", "mvs_b", "old"])
        (sampleRuntime [])
        ([sampleLogin true, .advanceClock 60000, .restart].map committed) ∧
      Spent sampleConfig (sampleRun [] [sampleLogin true, .advanceClock 60000]) "mvs_a" ∧
      authenticates sampleConfig
        (sampleRun [] [sampleLogin true, .advanceClock 60000, .restart]) "mvs_a" =
          some sampleUser) ∧
    (Along (perform sampleConfig) (Ordinary sampleConfig ["mvs_a", "mvs_b", "old"])
        (sampleRuntime [oldRow])
        ([.authenticate "old", .logout "old", .restart].map committed) ∧
      (∃ session ∈ (sampleRun [oldRow] [.authenticate "old"]).sessions, session.revoked = false ∧
          ∀ row ∈ (sampleRun [oldRow] [.authenticate "old"]).store.accessTokens,
            row.tokenHash ≠ session.accessTokenHash) ∧
      Spent sampleConfig (sampleRun [oldRow] [.authenticate "old", .logout "old"]) "old" ∧
      authenticates sampleConfig
        (sampleRun [oldRow] [.authenticate "old", .logout "old", .restart]) "old" =
          some sampleUser) := by
  exact ⟨⟨ordinary_of_committed [sampleLogin true, .advanceClock 60000, .restart]
    (by decide +kernel), Or.inl (by decide +kernel), by decide +kernel⟩,
    ⟨ordinary_of_committed [.authenticate "old", .logout "old", .restart] (by decide +kernel),
      by decide +kernel, Or.inr (by decide +kernel), by decide +kernel⟩⟩

end Merovingian.SessionRuns
