import Merovingian.TransactionIngestion
import Merovingian.OperationRuns

/-!
The budget of key lookups. Requests are handled at the same time, and a lookup
that is made before the signature is checked takes one of a bounded number of
slots. A lookup that the key cache serves takes none, but its slot object is
built all the same and gives one back.
-/

namespace Merovingian.KeyResolutionSlots

open ByteString FederationPolicy FederationPdus InboundRequests OperationRuns TransactionIngestion

variable {Keys World Rates : Type}

structure LookupState (Keys World Rates : Type) where
  state : FederationRuntimeState Keys World Rates
  keyResolutionsInFlight : Nat

/-- Where a request stands before its signature is checked. `known` is the record that
a lookup refreshes, missing for a server that is looked up for the first time;
`admitted` says that the lookup was charged. -/
inductive LookupStage where
  | entered
  | found (remote : FederationRemoteRuntime)
  | probing (known : Option FederationRemoteRuntime)
  | admitting (known : Option FederationRemoteRuntime) (cacheServed : Bool)
  | resolving (known : Option FederationRemoteRuntime) (admitted : Bool)
  | releasing (admitted : Bool) (next : Option FederationRemoteRuntime)
  | left

def LookupStage.holdsSlot : LookupStage → Bool
  | .resolving _ admitted => admitted
  | .releasing admitted _ => admitted
  | _ => false

/-- A slot that was not taken is given back only when none is. -/
def LookupStage.ReleasesOwn (count : Nat) : LookupStage → Prop
  | .releasing false _ => count = 0
  | _ => True

section Stages

variable (server : FederationServer Keys World Rates)

section

variable (steadyNow : Nat) (request : SignedFederationRequest)
  (shared : LookupState Keys World Rates)

/-- `admit_key_resolution` with the lookups of other requests in flight: the check of the
pipeline against what is left of the cap. -/
def admitSlot : Option Bytes × LookupState Keys World Rates :=
  let remaining := server.config.keyResolutionMaxInFlight - shared.keyResolutionsInFlight
  let idle := { server with config.keyResolutionMaxInFlight := remaining }
  match admitKeyResolution idle steadyNow request shared.state with
  | (some reason, state) => (some reason, { shared with state })
  | (none, state) => (none, ⟨state, shared.keyResolutionsInFlight + 1⟩)

def releaseKeyResolution : LookupState Keys World Rates :=
  { shared with keyResolutionsInFlight := shared.keyResolutionsInFlight - 1 }

/-- What is done with the resolver's answer while the slot is held, and the record
that the request goes on with to the check of its key. -/
def applyResolution (state : FederationRuntimeState Keys World Rates) : Option
    FederationRemoteRuntime → Option FederationRemoteRuntime → Option FederationRemoteRuntime ×
    FederationRuntimeState Keys World Rates
  | none, none =>
    (none, { state with
      keyResolutionFailures :=
        rememberKeyResolutionFailure server steadyNow request state.keyResolutionFailures })
  | none, some resolved =>
    let remotes := upsertRemote state.remotes (completeRemote request.origin resolved)
    (findRemote remotes request.origin, { state with remotes })
  | some _, none => (none, state)
  | some remote, some refreshed =>
    (none, if refreshed.signingKey.publicKeyBytes.isEmpty then state
      else persistRemoteSigningKey state { remote with signingKey := refreshed.signingKey })

/-- The next stage of a request. A resolver that throws leaves the slot to its destructor
and the request to the caller. -/
def stepLookup (throws : Bool) (request : SignedFederationRequest)
    (shared : LookupState Keys World Rates) : LookupStage → LookupStage × LookupState Keys World
    Rates
  | .entered =>
    match matchFederationRoute request.method request.target,
        federationServerPolicy server.config request.origin,
        findRemote shared.state.remotes request.origin with
    | some _, .ok (), some remote => (.found remote, shared)
    | some _, .ok (), none =>
      (if server.remoteKeyResolver.isSome then .probing none else .left, shared)
    | _, _, _ => (.left, shared)
  | .found remote =>
    (if server.remoteKeyResolver.isSome && keyIsStale request remote then .probing (some remote)
      else .left, shared)
  | .probing known =>
    (.admitting known
      (server.remoteKeyCacheProbe shared.state.keys request.origin request.keyId), shared)
  | .admitting known true => (.resolving known false, shared)
  | .admitting known false =>
    match admitSlot server steadyNow request shared with
    | (some _, shared) => (.left, shared)
    | (none, shared) => (.resolving known true, shared)
  | .resolving known admitted =>
    match server.remoteKeyResolver, throws with
    | some resolver, false =>
      let (resolved, keys) := resolver shared.state.keys request.origin request.keyId
      let (next, state) :=
        applyResolution server steadyNow request { shared.state with keys } known resolved
      (.releasing admitted next, { shared with state })
    | _, _ => (.releasing admitted none, shared)
  | .releasing _ next => (next.elim .left .found, releaseKeyResolution shared)
  | .left => (.left, shared)

end

/-- What a stage does to the slots: it takes one below the cap, it gives one back,
whether or not it had taken it, or it leaves them alone. -/
inductive SlotEffect (cap : Nat) : LookupStage → LookupStage → Nat → Nat → Prop where
  | taken {known : Option FederationRemoteRuntime} {count : Nat} (hcap : count < cap) :
      SlotEffect cap (.admitting known false) (.resolving known true) count (count + 1)
  | released {admitted : Bool} {known : Option FederationRemoteRuntime} {next : LookupStage}
      {count : Nat} (hnext : next.holdsSlot = false) :
      SlotEffect cap (.releasing admitted known) next count (count - 1)
  | kept {stage next : LookupStage} {count : Nat}
      (hstage : ∀ admitted known, stage ≠ .releasing admitted known)
      (hnext : next.holdsSlot = stage.holdsSlot) : SlotEffect cap stage next count count

/-- The counter goes on being the number of slots that are held exactly when none is
given back that was not taken. -/
theorem SlotEffect.kept_iff {cap held heldAfter count after : Nat} {stage next : LookupStage}
    (heffect : SlotEffect cap stage next count after) (hcount : count = held) (hcap : held ≤ cap)
    (hheld : heldAfter + stage.holdsSlot.toNat = held + next.holdsSlot.toNat) :
    (after = heldAfter ∧ heldAfter ≤ cap) ↔ stage.ReleasesOwn count := by
  cases heffect with
  | taken hroom =>
    change heldAfter + 0 = held + 1 at hheld
    exact iff_of_true ⟨by omega, by omega⟩ trivial
  | released hnext =>
    rename_i admitted known
    rw [hnext, Bool.toNat_false] at hheld
    cases admitted with
    | false =>
      change heldAfter + 0 = held + 0 at hheld
      change _ ↔ count = 0
      omega
    | true =>
      change heldAfter + 1 = held + 0 at hheld
      exact iff_of_true ⟨by omega, by omega⟩ trivial
  | kept hstage hnext =>
    rw [hnext] at hheld
    refine iff_of_true ⟨by omega, by omega⟩ ?_
    cases stage with
    | releasing admitted known => exact absurd rfl (hstage admitted known)
    | _ => trivial

theorem admitSlot_counts (steadyNow : Nat) (request : SignedFederationRequest)
    (shared : LookupState Keys World Rates) :
    match admitSlot server steadyNow request shared with
    | (some _, after) => after.keyResolutionsInFlight = shared.keyResolutionsInFlight
    | (none, after) => shared.keyResolutionsInFlight < server.config.keyResolutionMaxInFlight ∧
        after.keyResolutionsInFlight = shared.keyResolutionsInFlight + 1 := by
  fun_cases admitSlot server steadyNow request shared
  next => rfl
  next remaining idle state hadmitted =>
    refine ⟨?_, rfl⟩
    by_contra hfull
    have hnone : idle.config.keyResolutionMaxInFlight = 0 := Nat.sub_eq_zero_of_le (not_lt.mp hfull)
    simp only [admitKeyResolution, hnone, ↓reduceIte] at hadmitted
    split_ifs at hadmitted <;> cases hadmitted

theorem stepLookup_effect (steadyNow : Nat) (throws : Bool) (request : SignedFederationRequest)
    (shared : LookupState Keys World Rates) (stage : LookupStage) :
    SlotEffect server.config.keyResolutionMaxInFlight stage
      (stepLookup server steadyNow throws request shared stage).1 shared.keyResolutionsInFlight
      (stepLookup server steadyNow throws request shared stage).2.keyResolutionsInFlight := by
  cases stage with
  | admitting known cacheServed =>
    cases cacheServed with
    | true => exact .kept (by rintro _ _ ⟨⟩) rfl
    | false =>
      have hcounts := admitSlot_counts server steadyNow request shared
      rw [stepLookup]
      split at hcounts
      · rw [hcounts]
        exact .kept (by rintro _ _ ⟨⟩) rfl
      · rw [hcounts.2]
        exact .taken hcounts.1
  | releasing admitted next =>
    refine .released ?_
    cases next <;> rfl
  | entered =>
    rw [stepLookup]
    split
    · exact .kept (by rintro _ _ ⟨⟩) rfl
    · refine .kept (by rintro _ _ ⟨⟩) ?_
      split <;> rfl
    · exact .kept (by rintro _ _ ⟨⟩) rfl
  | found remote =>
    refine .kept (by rintro _ _ ⟨⟩) ?_
    rw [stepLookup]
    split <;> rfl
  | resolving known admitted =>
    unfold stepLookup
    dsimp only
    split
    · exact .kept (by rintro _ _ ⟨⟩) rfl
    · exact .kept (by rintro _ _ ⟨⟩) rfl
  | probing known => exact .kept (by rintro _ _ ⟨⟩) rfl
  | left => exact .kept (by rintro _ _ ⟨⟩) rfl

end Stages

structure LookupRun (Keys World Rates : Type) where
  shared : LookupState Keys World Rates
  tasks : List (SignedFederationRequest × LookupStage) := []

inductive LookupAction (Keys World Rates : Type) where
  | arrive (request : SignedFederationRequest)
  | proceed (task : Nat) (steadyNow : Nat) (throws : Bool)
  | change (state : FederationRuntimeState Keys World Rates)

section

variable (server : FederationServer Keys World Rates) (run : LookupRun Keys World Rates)

def act : LookupAction Keys World Rates → LookupRun Keys World Rates
  | .arrive request => { run with tasks := run.tasks ++ [(request, .entered)] }
  | .proceed task steadyNow throws =>
    match run.tasks[task]? with
    | none => run
    | some (request, stage) =>
      let (next, shared) := stepLookup server steadyNow throws request run.shared stage
      ⟨shared, run.tasks.set task (request, next)⟩
  | .change state => { run with shared.state := state }

def LookupRun.start (state : FederationRuntimeState Keys World Rates) :
    LookupRun Keys World Rates :=
  ⟨⟨state, 0⟩, []⟩

def LookupRun.admitted : Nat :=
  run.tasks.countP fun task => task.2.holdsSlot

def BudgetKept : Prop :=
  run.shared.keyResolutionsInFlight = run.admitted ∧
    run.admitted ≤ server.config.keyResolutionMaxInFlight

end

def ReleasesOwnSlot (run : LookupRun Keys World Rates) : LookupAction Keys World Rates → Prop
  | .proceed task _ _ =>
    ∀ entry ∈ run.tasks[task]?, entry.2.ReleasesOwn run.shared.keyResolutionsInFlight
  | _ => True

theorem admitted_set {run : LookupRun Keys World Rates} {task : Nat}
    {request : SignedFederationRequest} {stage : LookupStage}
    (htask : run.tasks[task]? = some (request, stage)) (next : LookupStage) :
    (run.tasks.set task (request, next)).countP (fun task => task.2.holdsSlot) +
        stage.holdsSlot.toNat = run.admitted + next.holdsSlot.toNat := by
  obtain ⟨hbound, hget⟩ := List.getElem?_eq_some_iff.mp htask
  have hmem : (request, stage) ∈ run.tasks := List.mem_of_getElem? htask
  have hcount : stage.holdsSlot = true → 0 < run.admitted := fun hholds =>
    List.countP_pos_iff.mpr ⟨_, hmem, hholds⟩
  rw [List.countP_set hbound, hget, ← LookupRun.admitted]
  cases hstage : stage.holdsSlot with
  | false => cases next.holdsSlot <;> simp
  | true =>
    have hpos := hcount hstage
    cases next.holdsSlot <;> simp <;> omega

theorem act_budgetKept_iff {server : FederationServer Keys World Rates}
    {run : LookupRun Keys World Rates} (hkept : BudgetKept server run)
    (action : LookupAction Keys World Rates) :
    BudgetKept server (act server run action) ↔ ReleasesOwnSlot run action := by
  cases action with
  | arrive request =>
    have hadmitted : (act server run (.arrive request)).admitted = run.admitted := by
      simp [act, LookupRun.admitted, LookupStage.holdsSlot]
    simp only [BudgetKept, hadmitted, ReleasesOwnSlot, iff_true]
    exact hkept
  | change state => exact iff_of_true hkept trivial
  | proceed task steadyNow throws =>
    rw [act, ReleasesOwnSlot]
    cases htask : run.tasks[task]? with
    | none => exact iff_of_true hkept (by rintro _ ⟨⟩)
    | some entry =>
      have heffect := stepLookup_effect server steadyNow throws entry.1 run.shared entry.2
      have hset := admitted_set htask
        (stepLookup server steadyNow throws entry.1 run.shared entry.2).1
      exact (heffect.kept_iff hkept.1 hkept.2 hset).trans (by simp)

/-- A run starts with no lookup in flight; the budget is kept in every state that it
reaches exactly when no lookup that the cache serves ends while an admitted one is in
flight. -/
theorem budget_kept_iff (server : FederationServer Keys World Rates)
    (state : FederationRuntimeState Keys World Rates)
    (actions : List (LookupAction Keys World Rates)) :
    Along (act server) (fun run action => BudgetKept server (act server run action))
        (.start state) actions ↔
      Along (act server) ReleasesOwnSlot (.start state) actions :=
  along_congr (fun _ action hkept => act_budgetKept_iff hkept action) ⟨rfl, Nat.zero_le _⟩

/-- A server that looks up one key at a time and has those of `b.example` in its cache. -/
def cachingServer : FederationServer Unit Unit Unit :=
  { sampleServer with
    config := { enabled := true, keyResolutionMaxInFlight := 1 }
    remoteKeyResolver := some fun keys _ _ => (none, keys)
    remoteKeyCacheProbe := fun _ origin _ => origin = utf8 "b.example" }

def eventRequest (origin : Bytes) : SignedFederationRequest :=
  { method := "GET", target := "/_matrix/federation/v1/event/$e", origin
    destination := "example.org", keyId := "ed25519:1", signature := [] }

/-- The second request is served from the cache while the lookup of the first is in flight,
and the third is admitted. -/
def cachedInBetween : List (LookupAction Unit Unit Unit) :=
  [.arrive (eventRequest "a.example"), .arrive (eventRequest "b.example"),
    .arrive (eventRequest "c.example")] ++
    [0, 0, 0, 1, 1, 1, 1, 1, 2, 2, 2].map fun task => .proceed task 5000 false

theorem cached_lookup_frees_a_slot :
    let after := run (act cachingServer) (.start ⟨[], [], [], (), (), ()⟩) cachedInBetween
    after.shared.keyResolutionsInFlight = 1 ∧ after.admitted = 2 ∧
      cachingServer.config.keyResolutionMaxInFlight = 1 := by
  decide +kernel

end Merovingian.KeyResolutionSlots
