import Merovingian.OperationRuns
import Merovingian.RemoteKeys
import Merovingian.TransactionIngestion

/-!
How fresh the keys are under which signatures are accepted, over runs of
requests, join-state checks, clock advances and restarts.

Every row of the key table, every server record and so every key in use goes
back to a verified response of that server. A request or a PDU is accepted only
while the response is valid; the validity that a response claims is nowhere cut
to seven days, and the events of a join response are checked without a look at
it.
-/

namespace Merovingian.KeyFreshness

open ByteString JsonValue CanonicalParser EventSigning RoomVersions EventEnvelopes FederationPolicy
  FederationPdus InboundRequests PipelineSafety RemoteKeys TransactionIngestion OperationRuns List
  Option

variable {Network World Rates : Type} {row : PersistentServerSigningKey} {key : FederationKeyRecord}

section Backing

variable (yyjson : Yyjson) (sodium : Libsodium)

/-- A verified response of the server, fetched by now, publishes the key of the
row with its validity. -/
def Published (fetched : List FetchedKeys) (now : Nat) (row : PersistentServerSigningKey) : Prop :=
  ∃ entry ∈ fetched, entry.serverName = row.serverName ∧ entry.fetchedAt ≤ now ∧
    ∃ response, parseAndVerifyRemoteKeyResponse yyjson sodium entry.body row.serverName =
      some response ∧ response.validUntilTs = row.validUntilTs ∧
        ⟨row.keyId, row.publicKey⟩ ∈ response.verifyKeys

def rowKey (row : PersistentServerSigningKey) : FederationKeyRecord :=
  ⟨row.serverName, row.keyId, row.validUntilTs, matrixBytesFromBase64 sodium row.publicKey⟩

abbrev BackedCache (Network : Type) : Type :=
  { cache : KeyCache Network //
    ∀ row ∈ cache.rows, Published yyjson sodium cache.fetched cache.clock row }

variable {yyjson sodium}

variable {asked : Bytes × Bytes} {fetched others : List FetchedKeys}

theorem Published.mono {later : List FetchedKeys} {now then' : Nat}
    (h : Published yyjson sodium fetched now row) (hfetched : fetched ⊆ later)
    (hnow : now ≤ then') : Published yyjson sodium later then' row := by
  obtain ⟨entry, hmem, hserver, htime, hresponse⟩ := h
  exact ⟨entry, hfetched hmem, hserver, htime.trans hnow, hresponse⟩

/-- A step of the cache during which some responses are fetched: time stands
still, and a row is an old one or comes from these responses. -/
structure Evolves (yyjson : Yyjson) (sodium : Libsodium) (responses : List FetchedKeys)
    (before after : KeyCache Network) : Prop where
  clock : after.clock = before.clock
  fetched : after.fetched = before.fetched ++ responses
  rows : ∀ row ∈ after.rows, row ∈ before.rows ∨ Published yyjson sodium responses before.clock row

variable {before after : KeyCache Network} {responses : List FetchedKeys}

theorem Evolves.of_quiet (hclock : after.clock = before.clock)
    (hfetched : after.fetched = before.fetched) (hrows : after.rows = before.rows) :
    Evolves yyjson sodium [] before after := by
  refine ⟨hclock, by rw [hfetched, append_nil], ?_⟩
  intro row hrow
  rw [hrows] at hrow
  exact .inl hrow

section

variable (h : Evolves yyjson sodium responses before after)

include h

theorem Evolves.known
    (hrow : row ∈ after.rows ∨ Published yyjson sodium others after.clock row) :
    row ∈ before.rows ∨ Published yyjson sodium (responses ++ others) before.clock row := by
  rcases hrow with hmiddle | hpublished
  · exact (h.rows row hmiddle).imp_right fun hpublished =>
      hpublished.mono (subset_append_left _ _) le_rfl
  · rw [h.clock] at hpublished
    exact .inr (hpublished.mono (subset_append_right _ _) le_rfl)

theorem Evolves.trans {third : KeyCache Network} (h' : Evolves yyjson sodium others after third) :
    Evolves yyjson sodium (responses ++ others) before third :=
  ⟨h'.clock.trans h.clock, by rw [h'.fetched, h.fetched, append_assoc],
    fun row hrow => h.known (h'.rows row hrow)⟩

theorem Evolves.published (hrow : Published yyjson sodium before.fetched before.clock row ∨
      Published yyjson sodium responses before.clock row) :
    Published yyjson sodium after.fetched after.clock row := by
  rw [h.clock, h.fetched]
  rcases hrow with hold | hnew
  · exact hold.mono (subset_append_left _ _) le_rfl
  · exact hnew.mono (subset_append_right _ _) le_rfl

theorem Evolves.backed
    (hrows : ∀ row ∈ before.rows, Published yyjson sodium before.fetched before.clock row) :
    ∀ row ∈ after.rows, Published yyjson sodium after.fetched after.clock row := by
  intro row hrow
  exact h.published ((h.rows row hrow).imp_left (hrows row))

end

theorem mem_storeRow {stored : PersistentServerSigningKey} {rows : List PersistentServerSigningKey}
    (h : stored ∈ storeRow row rows) : stored = row ∨ stored ∈ rows := by
  induction rows with
  | nil => simpa [storeRow] using h
  | cons head rest ih =>
    rw [storeRow] at h
    split at h
    · rcases mem_cons.mp h with rfl | hrest
      · exact .inl rfl
      · exact .inr (mem_cons_of_mem _ hrest)
    · rcases mem_cons.mp h with rfl | hrest
      · exact .inr mem_cons_self
      · exact (ih hrest).imp_right (mem_cons_of_mem _)

variable (network : KeyNetwork Network)

section

variable (cache : KeyCache Network)

theorem cacheRemoteServerKeys_rows (response : RemoteKeyResponse) :
    (cacheRemoteServerKeys network cache response).clock = cache.clock ∧
      (cacheRemoteServerKeys network cache response).fetched = cache.fetched ∧
      ∀ stored ∈ (cacheRemoteServerKeys network cache response).rows,
        (∃ key ∈ response.verifyKeys, stored = responseRow response key) ∨ stored ∈ cache.rows := by
  rw [cacheRemoteServerKeys]
  split
  · exact ⟨rfl, rfl, fun stored => .inr⟩
  · refine foldlRecOn (motive := fun final : KeyCache Network => final.clock = cache.clock ∧
      final.fetched = cache.fetched ∧ ∀ stored ∈ final.rows,
        (∃ key ∈ response.verifyKeys, stored = responseRow response key) ∨ stored ∈ cache.rows)
      _ _ ⟨rfl, rfl, fun stored => .inr⟩ ?_
    rintro current ⟨hclock, hfetched, hrows⟩ key hkey
    fun_cases storeServerSigningKey network current (responseRow response key)
    case case3 =>
      refine ⟨hclock, hfetched, fun stored hstored => ?_⟩
      rcases mem_storeRow hstored with rfl | hold
      · exact .inl ⟨key, hkey, rfl⟩
      · exact hrows stored hold
    all_goals exact ⟨hclock, hfetched, hrows⟩

theorem parseAndVerifyRemoteKeyResponse_some {body serverName : Bytes}
    {response : RemoteKeyResponse}
    (h : parseAndVerifyRemoteKeyResponse yyjson sodium body serverName = some response) :
    response.serverName = serverName ∧ response.validUntilTs ≠ 0 := by
  revert h
  fun_cases parseAndVerifyRemoteKeyResponse yyjson sodium body serverName <;> rintro ⟨⟩
  next parsed _ hchecks _ _ _ =>
    simp only [ne_eq, decide_not, Bool.or_eq_true, Bool.not_eq_eq_eq_not, Bool.not_true,
      decide_eq_false_iff_not, decide_eq_true_eq, not_or, Decidable.not_not] at hchecks
    exact ⟨hchecks.1.1, hchecks.2⟩

variable (yyjson sodium) in
theorem fetchRemoteServerKeys_cases (serverName : Bytes) :
    ∃ responses, Evolves yyjson sodium responses cache
        (fetchRemoteServerKeys network yyjson sodium cache serverName).2 ∧
      ∀ response, (fetchRemoteServerKeys network yyjson sodium cache serverName).1 =
          some response → ∀ key ∈ response.verifyKeys,
        Published yyjson sodium responses cache.clock (responseRow response key) := by
  fun_cases fetchRemoteServerKeys network yyjson sodium cache serverName
  case case4 body _ _ response hverified =>
    refine ⟨[⟨serverName, cache.clock, body⟩], ⟨rfl, rfl, fun row => .inl⟩, ?_⟩
    rintro response' ⟨⟩ key hkey
    obtain ⟨hserver, -⟩ := parseAndVerifyRemoteKeyResponse_some hverified
    refine ⟨_, mem_singleton_self _, hserver.symm, le_rfl, response, ?_, rfl, hkey⟩
    rw [responseRow, hserver]
    exact hverified
  all_goals exact ⟨[], .of_quiet rfl rfl rfl, by rintro response ⟨⟩⟩

/-- The key is that of a row for the server and key id, from before the step or
from the responses fetched in it. -/
def Answers (yyjson : Yyjson) (sodium : Libsodium) (responses : List FetchedKeys)
    (cache : KeyCache Network) (asked : Bytes × Bytes) (key : FederationKeyRecord) : Prop :=
  ∃ row, (row.serverName, row.keyId) = asked ∧ key = rowKey sodium row ∧
    (row ∈ cache.rows ∨ Published yyjson sodium responses cache.clock row)

theorem Answers.of_later (h : Evolves yyjson sodium responses before after)
    (hanswer : Answers yyjson sodium others after asked key) :
    Answers yyjson sodium (responses ++ others) before asked key := by
  obtain ⟨row, hasked, hkey, horigin⟩ := hanswer
  exact ⟨row, hasked, hkey, h.known horigin⟩

theorem Answers.more (h : Answers yyjson sodium responses before asked key) :
    Answers yyjson sodium (responses ++ others) before asked key := by
  obtain ⟨row, hasked, hkey, horigin⟩ := h
  exact ⟨row, hasked, hkey, horigin.imp_right fun hpublished =>
    hpublished.mono (subset_append_left _ _) le_rfl⟩

theorem answers_of_cached {serverName keyId : Bytes}
    (h : findCachedRemoteKey sodium before serverName keyId = some key) :
    Answers yyjson sodium responses before (serverName, keyId) key := by
  obtain ⟨row, hfound, hkey⟩ := bind_eq_some_iff.mp h
  have hnames := find?_some hfound
  simp only [Bool.and_eq_true, decide_eq_true_eq] at hnames
  dsimp only at hkey
  split at hkey
  · exact ⟨row, Prod.ext hnames.1 hnames.2, (some.inj hkey).symm,
      .inl (mem_of_find?_eq_some hfound)⟩
  · cases hkey

theorem fetchedRemoteKey_cases {serverName keyId : Bytes} {cachedKey : Option FederationKeyRecord}
    (hcached : findCachedRemoteKey sodium cache serverName keyId = cachedKey) :
    ∃ responses, Evolves yyjson sodium responses cache
        (fetchedRemoteKey network yyjson sodium cache cachedKey serverName keyId).2 ∧
      ∀ key, (fetchedRemoteKey network yyjson sodium cache cachedKey serverName keyId).1 =
          some key →
        Answers yyjson sodium responses cache (serverName, keyId) key := by
  subst hcached
  obtain ⟨responses, hfetch, hresponse⟩ :=
    fetchRemoteServerKeys_cases yyjson sodium network cache serverName
  refine ⟨responses, ?_⟩
  fun_cases fetchedRemoteKey network yyjson sodium cache _ serverName keyId
  next fetched heq =>
    rw [heq] at hfetch
    exact ⟨hfetch, fun _ => answers_of_cached⟩
  next response fetched heq stored =>
    rw [heq] at hfetch hresponse
    obtain ⟨hclock, hnoted, hrows⟩ := cacheRemoteServerKeys_rows network fetched response
    have hstored : Evolves yyjson sodium responses cache stored := by
      refine ⟨hclock.trans hfetch.clock, hnoted.trans hfetch.fetched, ?_⟩
      intro row hrow
      rcases hrows row hrow with ⟨key, hkey, rfl⟩ | hold
      · exact .inr (hresponse response rfl key hkey)
      · exact hfetch.rows row hold
    refine ⟨hstored, ?_⟩
    intro key hkey
    rcases or_eq_some_iff.mp hkey with hfound | ⟨-, hold⟩
    · have hlater : Answers yyjson sodium [] stored (serverName, keyId) key :=
        answers_of_cached hfound
      simpa using hlater.of_later hstored
    · exact answers_of_cached hold

variable (yyjson sodium) in
/-- Whatever the network answers, the resolver hands out keys of rows that were
there or that a response has just published. -/
theorem resolveRemoteKey_cases (serverName keyId : Bytes) :
    ∃ responses, Evolves yyjson sodium responses cache
        (resolveRemoteKey network yyjson sodium cache serverName keyId).2 ∧
      ∀ remote, (resolveRemoteKey network yyjson sodium cache serverName keyId).1 = some remote →
        Answers yyjson sodium responses cache (serverName, keyId) remote.signingKey := by
  fun_cases resolveRemoteKey network yyjson sodium cache serverName keyId
  next cachedKey discovery state _ _ _ =>
    refine ⟨[], .of_quiet rfl rfl rfl, ?_⟩
    intro remote hremote
    obtain ⟨key, hkey, rfl⟩ := map_eq_some_iff.mp hremote
    exact answers_of_cached hkey
  next cachedKey discovery state _ discovered _ key fetched heq =>
    -- The fetch starts from a cache that differs in the state of the network only.
    obtain ⟨responses, hevolves, hanswer⟩ := fetchedRemoteKey_cases network discovered
      (show findCachedRemoteKey sodium discovered serverName keyId = cachedKey from rfl)
    rw [heq] at hevolves hanswer
    refine ⟨responses, ⟨hevolves.clock, hevolves.fetched, hevolves.rows⟩, ?_⟩
    intro remote hremote
    split at hremote
    · obtain ⟨key, hkey, rfl⟩ := map_eq_some_iff.mp hremote
      exact hanswer key hkey
    · cases hremote

end

variable (yyjson sodium)

def backedResolver : RemoteKeyResolver (BackedCache yyjson sodium Network) :=
  fun cache serverName keyId =>
    ((resolveRemoteKey network yyjson sodium cache.1 serverName keyId).1,
      ⟨(resolveRemoteKey network yyjson sodium cache.1 serverName keyId).2, by
        obtain ⟨responses, hevolves, -⟩ :=
          resolveRemoteKey_cases yyjson sodium network cache.1 serverName keyId
        exact hevolves.backed cache.2⟩)

/-- Keys are those of published rows. Time stands still while requests are
served, and responses are only added. -/
def published (Network : Type) : KeyGuarantee (BackedCache yyjson sodium Network) where
  Good cache _ key := ∃ row, key = rowKey sodium row ∧
    Published yyjson sodium cache.1.fetched cache.1.clock row
  Later before after := ∃ responses, Evolves yyjson sodium responses before.1 after.1
  refl _ := ⟨[], .of_quiet rfl rfl rfl⟩
  trans := fun ⟨_, h⟩ ⟨_, h'⟩ => ⟨_, h.trans h'⟩
  mono := fun ⟨_, h⟩ ⟨row, hkey, hrow⟩ => ⟨row, hkey, h.published (.inl hrow)⟩

variable {yyjson sodium}

theorem Answers.published {cache : BackedCache yyjson sodium Network}
    (h : Evolves yyjson sodium responses cache.1 after)
    (hanswer : Answers yyjson sodium responses cache.1 asked key) :
    ∃ row, key = rowKey sodium row ∧ Published yyjson sodium after.fetched after.clock row := by
  obtain ⟨row, -, hkey, horigin⟩ := hanswer
  exact ⟨row, hkey, h.published (horigin.imp_left (cache.2 row))⟩

theorem backedResolver_sound :
    SoundResolver (published yyjson sodium Network) (backedResolver yyjson sodium network) := by
  constructor
  · intro cache serverName keyId
    obtain ⟨responses, hevolves, -⟩ :=
      resolveRemoteKey_cases yyjson sodium network cache.1 serverName keyId
    exact ⟨responses, hevolves⟩
  · intro cache serverName keyId remote hremote
    obtain ⟨responses, hevolves, hanswer⟩ :=
      resolveRemoteKey_cases yyjson sodium network cache.1 serverName keyId
    have hpublished := (hanswer remote hremote).published hevolves
    exact ⟨hpublished, hpublished⟩

theorem resolveSenderKeys_answers (cache : BackedCache yyjson sodium Network)
    (pairs : List (Bytes × Bytes)) :
    let resolved := resolveSenderKeys (backedResolver yyjson sodium network) cache pairs
    ∃ responses, Evolves yyjson sodium responses cache.1 resolved.2.1 ∧
      ∀ entry ∈ resolved.1, entry.1 ∈ pairs ∧ ∀ key, entry.2 = some key →
        Answers yyjson sodium responses cache.1 entry.1 key := by
  induction pairs generalizing cache with
  | nil => exact ⟨[], .of_quiet rfl rfl rfl, by simp [resolveSenderKeys]⟩
  | cons pair rest ih =>
    obtain ⟨serverName, keyId⟩ := pair
    obtain ⟨responses, hevolves, hanswer⟩ :=
      resolveRemoteKey_cases yyjson sodium network cache.1 serverName keyId
    obtain ⟨others, hrest, hanswers⟩ :=
      ih (backedResolver yyjson sodium network cache serverName keyId).2
    refine ⟨responses ++ others, hevolves.trans hrest, ?_⟩
    intro entry hentry
    rcases mem_cons.mp hentry with rfl | hmem
    · refine ⟨mem_cons_self, ?_⟩
      intro key hkey
      obtain ⟨remote, hremote, rfl⟩ := map_eq_some_iff.mp hkey
      exact (hanswer remote hremote).more
    · obtain ⟨hpair, hkeys⟩ := hanswers entry hmem
      exact ⟨mem_cons_of_mem _ hpair, fun key hkey => (hkeys key hkey).of_later hevolves⟩

end Backing

def senderDomainFromUserId (sender : Bytes) : Bytes :=
  if sender.contains (byte ':') then
    (sender.reverse.takeWhile fun character => character ≠ byte ':').reverse
  else []

def joinEventSender (ourServer : Bytes) (entry : Value) : Option (Bytes × Bytes) :=
  match parseEventEnvelope entry with
  | .error _ => none
  | .ok event =>
    let senderDomain := senderDomainFromUserId event.sender
    let keyId := signatureKeyId event.signatures senderDomain
    if senderDomain.isEmpty || senderDomain = ourServer || keyId.isEmpty then none
    else some (senderDomain, keyId)

section Runs

variable {yyjson : Yyjson} {sodium : Libsodium}
  (server : FederationServer (BackedCache yyjson sodium Network) World Rates)

def joinSenders (ourServer : Bytes) (events : List Value) : List (Bytes × Bytes) :=
  (events.filterMap (joinEventSender ourServer)).eraseDups

def joinSenderKeys (ourServer : Bytes) (events : List Value)
    (keys : BackedCache yyjson sodium Network) :
    SenderKeys × BackedCache yyjson sodium Network :=
  match server.remoteKeyResolver with
  | none => ([], keys)
  | some resolver => resolveSenderKeys resolver keys (joinSenders ourServer events)

def joinEventKey (policy : RoomVersionPolicy) (ourServer : Bytes) (senderKeys : SenderKeys)
    (entry : Value) : Option FederationKeyRecord :=
  (joinEventSender ourServer entry).bind fun sender =>
    ((senderKeys.find? fun resolved => resolved.1 = sender).bind Prod.snd).filter fun key =>
      (verifyEventSignature server.sodium entry policy ⟨key.serverName, key.keyId⟩
        key.publicKeyBytes).isOk

/-- The events of a join response that are kept: those of this server, and those
whose signature verifies under the key that was resolved. -/
def filterVerifiedSendJoinEvents (policy : RoomVersionPolicy) (ourServer : Bytes)
    (senderKeys : SenderKeys) (events : List Value) : List Value :=
  events.filter fun entry =>
    match parseEventEnvelope entry with
    | .error _ => false
    | .ok event =>
      let senderDomain := senderDomainFromUserId event.sender
      !senderDomain.isEmpty && (senderDomain = ourServer ||
        (joinEventKey server policy ourServer senderKeys entry).isSome)

structure Acceptance where
  key : FederationKeyRecord
  now : Nat
deriving DecidableEq

def acceptance : FederationEvent World → Option Acceptance
  | .requestVerified key now => some ⟨key, now⟩
  | .pduVerified key now => some ⟨key, now⟩
  | .handedToSink _ _ _ => none

/-- What the server goes through: a request, the events of a join response, time
that passes, a restart, and whatever else changes rooms and budgets. -/
inductive FederationOperation (World Rates : Type) where
  | inbound (steadyNow : Nat) (request : SignedFederationRequest)
  | joinState (policy : RoomVersionPolicy) (ourServer : Bytes) (events : List Value)
  | advanceClock (milliseconds : Nat)
  | restart
  | otherActivity (world : World) (rates : Rates)

def advance (cache : BackedCache yyjson sodium Network) (milliseconds : Nat) :
    BackedCache yyjson sodium Network :=
  ⟨{ cache.1 with clock := cache.1.clock + milliseconds }, fun row hrow =>
    (cache.2 row hrow).mono (List.Subset.refl _) (Nat.le_add_right _ _)⟩

structure Performed (Keys World Rates : Type) where
  state : FederationRuntimeState Keys World Rates
  accepted : List Acceptance

/-- A request is served at the time of the clock. A restart keeps the key table
and forgets what is held in memory. -/
def perform (state : FederationRuntimeState (BackedCache yyjson sodium Network) World Rates) :
    FederationOperation World Rates → Performed (BackedCache yyjson sodium Network) World Rates
  | .inbound steadyNow request =>
    let handled := handleInboundFederationRequest server steadyNow
      { request with nowTs := state.keys.1.clock } state
    ⟨handled.state, handled.events.filterMap acceptance⟩
  | .joinState policy ourServer events =>
    let (senderKeys, keys) := joinSenderKeys server ourServer events state.keys
    let kept := filterVerifiedSendJoinEvents server policy ourServer senderKeys events
    ⟨{ state with keys := keys },
      (kept.filterMap (joinEventKey server policy ourServer senderKeys)).map fun key =>
        ⟨key, state.keys.1.clock⟩⟩
  | .advanceClock milliseconds => ⟨{ state with keys := advance state.keys milliseconds }, []⟩
  | .restart =>
    ⟨{ state with remotes := [], acceptedTransactions := [], keyResolutionFailures := [] }, []⟩
  | .otherActivity world rates => ⟨{ state with world := world, rates := rates }, []⟩

def sevenDaysMs : Nat := 7 * 24 * 60 * 60 * 1000

/-- The key was published by a verified response of its server that was fetched
by now and is neither past its validity nor older than seven days. -/
def Fresh (yyjson : Yyjson) (sodium : Libsodium) (fetched : List FetchedKeys)
    (accepted : Acceptance) : Prop :=
  ∃ entry ∈ fetched, entry.serverName = accepted.key.serverName ∧ ∃ response,
    parseAndVerifyRemoteKeyResponse yyjson sodium entry.body accepted.key.serverName =
      some response ∧
    (∃ key ∈ response.verifyKeys, key.keyId = accepted.key.keyId ∧
      matrixBytesFromBase64 sodium key.publicKeyBase64 = accepted.key.publicKeyBytes) ∧
    entry.fetchedAt ≤ accepted.now ∧
    accepted.now ≤ min response.validUntilTs (entry.fetchedAt + sevenDaysMs)

/-- The response claims a validity of at most seven days. -/
def shortLived (yyjson : Yyjson) (sodium : Libsodium) (entry : FetchedKeys) : Bool :=
  (parseAndVerifyRemoteKeyResponse yyjson sodium entry.body entry.serverName).all fun response =>
    response.validUntilTs ≤ entry.fetchedAt + sevenDaysMs

def validAt (yyjson : Yyjson) (sodium : Libsodium) (now : Nat) (entry : FetchedKeys) : Bool :=
  (parseAndVerifyRemoteKeyResponse yyjson sodium entry.body entry.serverName).all fun response =>
    now ≤ response.validUntilTs

/-- Key servers answer with short-lived responses. Where the events of a join
response are checked, the rows for their senders are valid, and so are the
responses that are fetched for them. -/
def WellDated (state : FederationRuntimeState (BackedCache yyjson sodium Network) World Rates)
    (operation : FederationOperation World Rates) : Prop :=
  (∀ entry ∈ (perform server state operation).state.keys.1.fetched,
    shortLived yyjson sodium entry = true) ∧
  match operation with
  | .joinState _ ourServer events =>
    (∀ row ∈ state.keys.1.rows, (row.serverName, row.keyId) ∈ joinSenders ourServer events →
      state.keys.1.clock ≤ row.validUntilTs) ∧
    ∀ entry ∈ (joinSenderKeys server ourServer events state.keys).2.1.fetched.drop
        state.keys.1.fetched.length,
      validAt yyjson sodium state.keys.1.clock entry = true
  | _ => True

instance decidableWellDated
    (state : FederationRuntimeState (BackedCache yyjson sodium Network) World Rates) :
    DecidablePred (WellDated server state)
  | .inbound _ _ => inferInstanceAs (Decidable (_ ∧ True))
  | .joinState _ _ _ => inferInstanceAs (Decidable (_ ∧ _ ∧ _))
  | .advanceClock _ => inferInstanceAs (Decidable (_ ∧ True))
  | .restart => inferInstanceAs (Decidable (_ ∧ True))
  | .otherActivity _ _ => inferInstanceAs (Decidable (_ ∧ True))

section Fresh

variable {server} {network : KeyNetwork Network}
  {state : FederationRuntimeState (BackedCache yyjson sodium Network) World Rates}
  {fetched : List FetchedKeys}

theorem Published.fresh {now : Nat} (hrow : Published yyjson sodium fetched now row)
    (hshort : ∀ entry ∈ fetched, shortLived yyjson sodium entry = true)
    (hvalid : now ≤ row.validUntilTs) : Fresh yyjson sodium fetched ⟨rowKey sodium row, now⟩ := by
  obtain ⟨entry, hmem, hserver, htime, response, hresponse, hvalidity, hkey⟩ := hrow
  have hentry := hshort entry hmem
  rw [shortLived, hserver, hresponse, all_some, decide_eq_true_eq] at hentry
  refine ⟨entry, hmem, hserver, response, hresponse, ⟨_, hkey, rfl, rfl⟩, htime, ?_⟩
  exact le_min (hvalidity ▸ hvalid) ((hvalidity ▸ hvalid).trans hentry)

variable
  (hresolver : ∀ resolver, server.remoteKeyResolver = some resolver →
    resolver = backedResolver yyjson sodium network)

include hresolver

theorem resolvesSoundly_published : ResolvesSoundly (published yyjson sodium Network) server := by
  intro resolver hset
  rw [hresolver resolver hset]
  exact backedResolver_sound network

theorem joinSenderKeys_answers (ourServer : Bytes) (events : List Value)
    (cache : BackedCache yyjson sodium Network) :
    ∃ responses, Evolves yyjson sodium responses cache.1
        (joinSenderKeys server ourServer events cache).2.1 ∧
      ∀ entry ∈ (joinSenderKeys server ourServer events cache).1,
        entry.1 ∈ joinSenders ourServer events ∧ ∀ key, entry.2 = some key →
          Answers yyjson sodium responses cache.1 entry.1 key := by
  rw [joinSenderKeys]
  split
  next => exact ⟨[], .of_quiet rfl rfl rfl, by simp⟩
  next resolver hset =>
    rw [hresolver resolver hset]
    exact resolveSenderKeys_answers network cache _

theorem perform_remotesGood (operation : FederationOperation World Rates)
    (hremotes : RemotesGood (published yyjson sodium Network) state) :
    RemotesGood (published yyjson sodium Network) (perform server state operation).state := by
  cases operation with
  | inbound steadyNow request =>
    exact (handleInboundFederationRequest_serves (resolvesSoundly_published hresolver) steadyNow
      _ hremotes).keeps.remotes hremotes
  | joinState policy ourServer events =>
    obtain ⟨responses, hevolves, -⟩ :=
      joinSenderKeys_answers hresolver ourServer events state.keys
    intro remote hmem
    exact (published yyjson sodium Network).mono ⟨responses, hevolves⟩ (hremotes remote hmem)
  | advanceClock milliseconds =>
    intro remote hmem
    obtain ⟨row, hkey, hrow⟩ := hremotes remote hmem
    exact ⟨row, hkey, hrow.mono (List.Subset.refl _) (Nat.le_add_right _ _)⟩
  | restart =>
    rintro remote ⟨⟩
  | otherActivity world rates => exact hremotes

theorem inbound_accepted_fresh (steadyNow : Nat) (request : SignedFederationRequest)
    (hremotes : RemotesGood (published yyjson sodium Network) state)
    (hdated : WellDated server state (.inbound steadyNow request)) :
    ∀ accepted ∈ (perform server state (.inbound steadyNow request)).accepted, Fresh yyjson sodium
        (perform server state (.inbound steadyNow request)).state.keys.1.fetched accepted := by
  have hserves := handleInboundFederationRequest_serves (resolvesSoundly_published hresolver)
    steadyNow { request with nowTs := state.keys.1.clock } hremotes
  obtain ⟨responses, hevolves⟩ := hserves.keeps.later
  set after := (perform server state (.inbound steadyNow request)).state with hafter
  -- The clock is the same before and after, so the response was fetched by now.
  have hfresh : ∀ {key : FederationKeyRecord}, (∃ row, key = rowKey sodium row ∧
      Published yyjson sodium after.keys.1.fetched after.keys.1.clock row) →
      keyHasExpired key state.keys.1.clock = false →
      Fresh yyjson sodium after.keys.1.fetched ⟨key, state.keys.1.clock⟩ := by
    rintro key ⟨row, rfl, hrow⟩ hexpired
    rw [show after.keys.1.clock = state.keys.1.clock from hevolves.clock] at hrow
    refine hrow.fresh hdated.1 ?_
    obtain ⟨entry, -, -, -, response, hresponse, hvalidity, -⟩ := hrow
    rcases keyHasExpired_eq_false_iff.mp hexpired with hzero | hvalid
    · exact absurd (hvalidity.trans hzero) (parseAndVerifyRemoteKeyResponse_some hresponse).2
    · exact hvalid
  intro accepted haccepted
  obtain ⟨event, hevent, hkey⟩ := mem_filterMap.mp haccepted
  have hverified := hserves.events event hevent
  cases event with
  | requestVerified key now =>
    obtain ⟨rfl, hgood, hsignature⟩ := hverified
    obtain rfl := some.inj hkey
    exact hfresh hgood (verifySignedFederationRequest_ok hsignature).2.2.1
  | pduVerified key now =>
    obtain ⟨rfl, ⟨serverName, hgood⟩, hexpired⟩ := hverified
    obtain rfl := some.inj hkey
    exact hfresh hgood hexpired
  | handedToSink key world envelope => cases hkey

/-- The events of a join response are checked against whatever the resolver
answers, which is why the rows and responses have to be valid. -/
theorem joinState_accepted_fresh (policy : RoomVersionPolicy) (ourServer : Bytes)
    (events : List Value) (hdated : WellDated server state (.joinState policy ourServer events)) :
    ∀ accepted ∈ (perform server state (.joinState policy ourServer events)).accepted,
      Fresh yyjson sodium
        (perform server state (.joinState policy ourServer events)).state.keys.1.fetched
        accepted := by
  obtain ⟨hshort, hrows, hresponses⟩ := hdated
  obtain ⟨responses, hevolves, hanswers⟩ :=
    joinSenderKeys_answers hresolver ourServer events state.keys
  rw [hevolves.fetched, drop_left] at hresponses
  intro accepted haccepted
  obtain ⟨key, hkey, rfl⟩ := mem_map.mp haccepted
  obtain ⟨entry, -, hentry⟩ := mem_filterMap.mp hkey
  obtain ⟨sender, -, hfiltered⟩ := bind_eq_some_iff.mp hentry
  obtain ⟨hfound, -⟩ := filter_eq_some_iff.mp hfiltered
  obtain ⟨resolved, hfind, hresolved⟩ := bind_eq_some_iff.mp hfound
  obtain ⟨hsender, hanswer⟩ := hanswers resolved (mem_of_find?_eq_some hfind)
  obtain ⟨row, hasked, rfl, horigin⟩ := hanswer key hresolved
  have hvalid : state.keys.1.clock ≤ row.validUntilTs := by
    rcases horigin with hold | hnew
    · rw [← hasked] at hsender
      exact hrows row hold hsender
    · obtain ⟨response, hmem, hserver, -, keys, hkeys, hvalidity, -⟩ := hnew
      have hvalid := hresponses response hmem
      rw [validAt, hserver, hkeys, all_some, decide_eq_true_eq] at hvalid
      exact hvalidity ▸ hvalid
  have hpublished := hevolves.published (horigin.imp_left (state.keys.2 row))
  rw [hevolves.clock] at hpublished
  exact hpublished.fresh hshort hvalid

omit hresolver

def step (server : FederationServer (BackedCache yyjson sodium Network) World Rates)
    (state : FederationRuntimeState (BackedCache yyjson sodium Network) World Rates)
    (operation : FederationOperation World Rates) :
    FederationRuntimeState (BackedCache yyjson sodium Network) World Rates :=
  (perform server state operation).state

/-- From a start with nothing in memory, and any key table that goes back to
responses: if all steps are well dated, then whatever a step accepts is accepted
under a fresh key. -/
theorem accepted_keys_are_fresh
    (server : FederationServer (BackedCache yyjson sodium Network) World Rates)
    (network : KeyNetwork Network)
    (hresolver : ∀ resolver, server.remoteKeyResolver = some resolver →
      resolver = backedResolver yyjson sodium network)
    (state : FederationRuntimeState (BackedCache yyjson sodium Network) World Rates)
    (hstart : state.remotes = []) (operations : List (FederationOperation World Rates))
    (operation : FederationOperation World Rates)
    (hdated : Along (step server) (WellDated server) state (operations ++ [operation])) :
    ∀ accepted ∈ (perform server (run (step server) state operations) operation).accepted,
      Fresh yyjson sodium
        (perform server (run (step server) state operations) operation).state.keys.1.fetched
        accepted := by
  obtain ⟨hbefore, hlast, -⟩ := along_append.mp hdated
  have hremotes : RemotesGood (published yyjson sodium Network)
      (run (step server) state operations) := by
    refine hbefore.invariant (fun reached operation hgood _ =>
      perform_remotesGood hresolver operation hgood) ?_
    intro remote hmem
    rw [hstart] at hmem
    cases hmem
  cases operation with
  | inbound steadyNow request =>
    exact inbound_accepted_fresh hresolver steadyNow request hremotes hlast
  | joinState policy ourServer events =>
    exact joinState_accepted_fresh hresolver policy ourServer events hlast
  | advanceClock milliseconds => rintro accepted ⟨⟩
  | restart => rintro accepted ⟨⟩
  | otherActivity world rates => rintro accepted ⟨⟩

end Fresh

end Runs

/-- A response with the key of `b.example`, without and with its signature. -/
def keyMembers (validUntilTs : Int64) (signatures : Object) : Value :=
  let name : Object := [("server_name", .string "b.example")]
  let keys : Object := [("valid_until_ts", .integer validUntilTs),
    ("verify_keys", .object [("ed25519:1", .object [("key", .string bobKey)])])]
  .object (name ++ signatures ++ keys)

structure BobResponse where
  validUntilTs : Int64
  signature : Bytes

def BobResponse.json (response : BobResponse) : Value :=
  keyMembers response.validUntilTs
    [("signatures", .object [("b.example", .object [("ed25519:1", .string response.signature)])])]

def BobResponse.signed (response : BobResponse) : SignedText :=
  ⟨canonicalText (keyMembers response.validUntilTs []), response.signature, bobKey⟩

def hourResponse : BobResponse where
  validUntilTs := 3600000
  signature :=
    "Ve+skeEUMOhiSZvjmUUiZX41NxAGKNth21Gyp7E3R11YC8U1V42D2pdVGpV5nM+v/N0oshxBKwof9ZwE/jZLDA"

def centuryResponse : BobResponse where
  validUntilTs := 4102444800000
  signature :=
    "PCCVZ+kcISV66+svai3nQrHIvuMbyKTMkodk3/79yvFV7ewgYz9fRZKjLu4nVt+xKvFyeeKxFto0h/UtvCyFBg"

def keyYyjson : Yyjson := readerOf [hourResponse.json, centuryResponse.json]

def keySodium : Libsodium :=
  sodiumOf [] [goPdu.signed, hourResponse.signed, centuryResponse.signed,
    ⟨(federationRequestPayload keyYyjson topicRequest).getD [], topicRequest.signature, bobKey⟩]

def responseQueue : KeyNetwork (List Bytes) where
  discover queue serverName := (⟨true, serverName, serverName, ["203.0.113.7"], true⟩, queue)
  keyResponse queue _ := (queue.head?, queue.tail)
  commits queue _ := (true, queue)

def keyServer : FederationServer (BackedCache keyYyjson keySodium (List Bytes)) Unit Unit :=
  { sampleServer with
    yyjson := keyYyjson
    sodium := keySodium
    remoteKeyResolver := some (backedResolver keyYyjson keySodium responseQueue)
    remoteKeyCacheProbe := fun _ _ _ => false
    pduSink := none }

def emptyKeys (responses : List Value) :
    FederationRuntimeState (BackedCache keyYyjson keySodium (List Bytes)) Unit Unit :=
  ⟨[], [], [], ⟨⟨5000, [], [], responses.map canonicalText⟩, by rintro row ⟨⟩⟩, (), ()⟩

def bobKeyUntil (validUntilTs : Nat) : FederationKeyRecord :=
  ⟨"b.example", "ed25519:1", validUntilTs, base64Decode bobKey⟩

def secondLater : List (FederationOperation Unit Unit) :=
  [.inbound 0 topicRequest, .advanceClock 1000]

theorem hour_key_is_accepted_fresh :
    (perform keyServer (run (step keyServer) (emptyKeys [hourResponse.json]) secondLater)
        (.inbound 0 topicRequest)).accepted = [⟨bobKeyUntil 3600000, 6000⟩] ∧
      ∀ accepted ∈ (perform keyServer (run (step keyServer) (emptyKeys [hourResponse.json])
          secondLater) (.inbound 0 topicRequest)).accepted,
        Fresh keyYyjson keySodium
          (perform keyServer (run (step keyServer) (emptyKeys [hourResponse.json]) secondLater)
            (.inbound 0 topicRequest)).state.keys.1.fetched accepted := by
  refine ⟨by decide +kernel, ?_⟩
  refine accepted_keys_are_fresh keyServer responseQueue ?_ (emptyKeys [hourResponse.json]) rfl
    secondLater (.inbound 0 topicRequest) ?_
  · rintro resolver ⟨⟩
    rfl
  · decide +kernel

/-- The responses and acceptances of two further runs: eight days after the only
fetch, and at a join an hour after the key ran out. -/
theorem stale_keys_are_accepted :
    (let state := run (step keyServer) (emptyKeys [centuryResponse.json])
      [.inbound 0 topicRequest, .advanceClock (8 * 24 * 60 * 60 * 1000)]
    ∃ accepted ∈ (perform keyServer state (.inbound 0 topicRequest)).accepted,
      ¬ Fresh keyYyjson keySodium
        (perform keyServer state (.inbound 0 topicRequest)).state.keys.1.fetched accepted) ∧
    (let join := .joinState roomVersion11 "a.example" [goPdu.json]
    let state := run (step keyServer) (emptyKeys [hourResponse.json])
      [join, .advanceClock (2 * 60 * 60 * 1000)]
    ∃ accepted ∈ (perform keyServer state join).accepted,
      ¬ Fresh keyYyjson keySodium (perform keyServer state join).state.keys.1.fetched
        accepted) := by
  constructor
  · intro state
    obtain ⟨haccepted, hfetched⟩ : (perform keyServer state (.inbound 0 topicRequest)).accepted =
            [⟨bobKeyUntil 4102444800000, 691205000⟩] ∧
          (perform keyServer state (.inbound 0 topicRequest)).state.keys.1.fetched =
            [⟨"b.example", 5000, canonicalText centuryResponse.json⟩] := by
      decide +kernel
    rw [haccepted, hfetched]
    refine ⟨_, mem_singleton_self _, ?_⟩
    rintro ⟨entry, hmem, -, response, -, -, -, hnow⟩
    obtain rfl := mem_singleton.mp hmem
    exact absurd (le_min_iff.mp hnow).2 (by decide)
  · intro join state
    obtain ⟨haccepted, hfetched, hresponse⟩ :
        (perform keyServer state join).accepted = [⟨bobKeyUntil 3600000, 7205000⟩] ∧
          (perform keyServer state join).state.keys.1.fetched =
            [⟨"b.example", 5000, canonicalText hourResponse.json⟩] ∧
          (parseAndVerifyRemoteKeyResponse keyYyjson keySodium (canonicalText hourResponse.json)
            "b.example").map RemoteKeyResponse.validUntilTs = some 3600000 := by
      decide +kernel
    rw [haccepted, hfetched]
    refine ⟨_, mem_singleton_self _, ?_⟩
    rintro ⟨entry, hmem, -, response, hparsed, -, -, hnow⟩
    obtain rfl := mem_singleton.mp hmem
    rw [show parseAndVerifyRemoteKeyResponse keyYyjson keySodium
      (canonicalText hourResponse.json) "b.example" = some response from hparsed] at hresponse
    have hvalid : 7205000 ≤ response.validUntilTs := (le_min_iff.mp hnow).1
    rw [some.inj hresponse] at hvalid
    exact absurd hvalid (by decide)

end Merovingian.KeyFreshness
