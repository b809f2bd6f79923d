import Merovingian.OperationRuns
import Merovingian.RoomWrites
import Merovingian.StateConvergence
import Merovingian.StreamTokens
import Merovingian.WordCounters

/-!
When an event becomes visible to `/sync`. The ingestion of a PDU takes its stream
ordering in a first section under the runtime lock, prepares its rows in a second
one, commits them without the lock and applies them in a third. A local send takes
its ordering and applies its event in one section. `/sync` answers with the last
ordering that was taken, whether or not its event has been applied.
-/

namespace Merovingian.StreamVisibility

open ByteString JsonValue CanonicalParser EventSigning RoomVersions StoreTables PduIngestion
  RoomHistory RoomWrites StreamTokens OperationRuns WordCounters StateConvergence List

/-- What the sections read besides the database; `stripe` is the number of the mutex
that a room shares. -/
structure IngestHost where
  yyjson : Yyjson
  sodium : Libsodium
  backend : Backend
  stripe : Bytes → Fin 256

/-- An ingestion between two of its sections: it has its stream ids and, once it is
prepared, the update that is being committed. -/
structure Ingestion where
  envelope : InboundPduEnvelope
  policy : RoomVersionPolicy
  pdu : Value
  streamOrdering : UInt64
  syncStreamId : UInt64
  prepared : Option PreparedStateUpdate := none

/-- The database, the ingestions under way and the answers to `/sync` so far, each
with the events that were applied when it was computed. -/
structure VisibilityRun where
  database : LocalDatabase
  ingestions : List Ingestion := []
  responses : List (StreamToken × List PersistentEvent) := []

inductive VisibilityAction (host : IngestHost) where
  | reserve (envelope : InboundPduEnvelope)
  | prepare (index : Nat)
  | apply (index : Nat)
  | sendEvent (event : ComposedEvent)
  | membership (event : MembershipEvent host.yyjson)
  | sync

section Sections

variable (host : IngestHost)

section

variable (database : LocalDatabase)

def reserveSection (envelope : InboundPduEnvelope) : Option Ingestion × LocalDatabase :=
  if envelope.roomId.isEmpty then (none, database)
  else
    match envelopePolicy envelope, parseLossless host.yyjson envelope.json with
    | none, _ => (none, database)
    | some _, .error _ => (none, database)
    | some policy, .ok pdu =>
      let ((streamOrdering, syncStreamId), database) := reserveStreamIds host.backend database
      (some { envelope, policy, pdu, streamOrdering, syncStreamId }, database)

/-- The update to be committed, or none where the event is refused. -/
def prepareSection (ingestion : Ingestion) : Option PreparedStateUpdate :=
  let decision := pduAuthDecision host.yyjson host.sodium database.persistentStore
    ingestion.envelope ingestion.policy ingestion.pdu
  if !decision.allowed then none
  else if !verifyPduContentHash host.sodium ingestion.pdu then none
  else prepareStoreEventWithState host.yyjson database.persistentStore
    (envelopeEvent ingestion.envelope ingestion.streamOrdering)
    (envelopeState ingestion.envelope)

def applySection (ingestion : Ingestion) (prepared : PreparedStateUpdate) : LocalDatabase :=
  match commitPersistentTransaction host.backend database.persistentStore
      prepared.statements with
  | (false, store) => { database with persistentStore := store }
  | (true, store) =>
    recordMembership host.backend
      { database with persistentStore := applyStoreEventWithState store prepared }
      ingestion.envelope ingestion.pdu ingestion.streamOrdering

def stripeIsHeld (ingestions : List Ingestion) (roomId : Bytes) : Bool :=
  ingestions.any fun other =>
    other.prepared.isSome && host.stripe other.envelope.roomId = host.stripe roomId

def nextBatch : StreamToken where
  eventOrdering := database.nextStreamOrdering - 1
  membershipOrdering := database.nextStreamOrdering - 1
  syncStreamId := database.persistentStore.nextSyncStreamId

end

end Sections

namespace VisibilityRun

variable {host : IngestHost}

def act (run : VisibilityRun) : VisibilityAction host → VisibilityRun
  | .reserve envelope =>
    let (ingestion, database) := reserveSection host run.database envelope
    { run with database, ingestions := run.ingestions ++ ingestion.toList }
  | .prepare index =>
    match run.ingestions[index]? with
    | none => run
    | some ingestion =>
      if ingestion.prepared.isSome ||
          stripeIsHeld host run.ingestions ingestion.envelope.roomId then run
      else
        match prepareSection host run.database ingestion with
        | none => { run with ingestions := run.ingestions.eraseIdx index }
        | some prepared =>
          { run with
            ingestions := run.ingestions.set index
              { ingestion with prepared := some prepared } }
  | .apply index =>
    match run.ingestions[index]? with
    | none => run
    | some ingestion =>
      match ingestion.prepared with
      | none => run
      | some prepared =>
        { run with
          database := applySection host run.database ingestion prepared
          ingestions := run.ingestions.eraseIdx index }
  | .sendEvent event =>
    { run with
      database := (RoomWrites.sendEvent host.yyjson host.sodium host.backend run.database
        event).2 }
  | .membership event =>
    { run with
      database := (persistMembershipTransition host.sodium host.backend run.database event).2 }
  | .sync =>
    { run with
      responses := run.responses ++
        [(nextBatch run.database, run.database.persistentStore.events)] }

end VisibilityRun

open VisibilityRun

theorem prepare_apply_eq (host : IngestHost) (database : LocalDatabase) (ingestion : Ingestion)
    (hnew : ingestion.prepared = none) :
    (run act { database := database, ingestions := [ingestion] }
        [(.prepare 0 : VisibilityAction host), .apply 0]).database =
      (ingestParsedPdu host.yyjson host.sodium host.backend database ingestion.envelope
        ingestion.policy ingestion.pdu ingestion.streamOrdering ingestion.syncStreamId).2 := by
  have hsections : (run act { database := database, ingestions := [ingestion] }
        [(.prepare 0 : VisibilityAction host), .apply 0]).database =
      (prepareSection host database ingestion).elim database
        (applySection host database ingestion) := by
    cases hprepared : prepareSection host database ingestion <;>
      simp [act, stripeIsHeld, hnew, hprepared, applySection]
  rw [hsections, prepareSection, ingestParsedPdu]
  split_ifs
  · rfl
  · rfl
  · cases prepareStoreEventWithState host.yyjson database.persistentStore
        (envelopeEvent ingestion.envelope ingestion.streamOrdering)
        (envelopeState ingestion.envelope) with
    | none => rfl
    | some prepared =>
      rw [Option.elim_some, applySection]
      rcases hcommit : commitPersistentTransaction host.backend database.persistentStore
        prepared.statements with ⟨_ | _, store⟩ <;> simp only [hcommit]

theorem sections_eq_ingestPduEvent (host : IngestHost) (database : LocalDatabase)
    (envelope : InboundPduEnvelope) :
    (run act { database := database }
        [(.reserve envelope : VisibilityAction host), .prepare 0, .apply 0]).database =
      (ingestPduEvent host.yyjson host.sodium host.backend database envelope).2 := by
  fun_cases ingestPduEvent host.yyjson host.sodium host.backend database envelope with
  | case1 hempty => simp [act, reserveSection, hempty]
  | case2 hroom hpolicy => simp [act, reserveSection, hroom, hpolicy]
  | case3 hroom policy error hparse hpolicy => simp [act, reserveSection, hroom, hpolicy, hparse]
  | case4 hroom policy pdu hpolicy hparse streamOrdering syncStreamId reserved hreserved =>
    rw [run_cons]
    simp only [act, reserveSection, hroom, hpolicy, hparse, hreserved]
    exact prepare_apply_eq host reserved ⟨envelope, policy, pdu, streamOrdering, syncStreamId,
      none⟩ rfl

section Effects

variable {host : IngestHost} {before after : LocalDatabase}

structure Appends (before after : LocalDatabase) : Prop where
  next : before.nextStreamOrdering ≤ after.nextStreamOrdering
  events : ∃ new, after.persistentStore.events = before.persistentStore.events ++ new ∧
    ∀ event ∈ new, before.nextStreamOrdering ≤ event.streamOrdering ∧
      event.streamOrdering < after.nextStreamOrdering

variable (yyjson : Yyjson) (sodium : Libsodium) (backend : Backend) (database : LocalDatabase)

theorem Appends.of_events (hnext : before.nextStreamOrdering ≤ after.nextStreamOrdering)
    (hevents : after.persistentStore.events = before.persistentStore.events) :
    Appends before after :=
  ⟨hnext, [], by rw [hevents, append_nil], by simp⟩

theorem Appends.refl : Appends database database :=
  .of_events (UInt64.le_refl _) rfl

theorem Appends.trans {last : LocalDatabase} (h : Appends before after) (h' : Appends after last) :
    Appends before last := by
  obtain ⟨first, hfirst, hfirstNew⟩ := h.events
  obtain ⟨second, hsecond, hsecondNew⟩ := h'.events
  refine ⟨UInt64.le_trans h.next h'.next, first ++ second, ?_, ?_⟩
  · rw [hsecond, hfirst, append_assoc]
  · intro event hmem
    rcases mem_append.mp hmem with hmem | hmem
    · obtain ⟨hle, hlt⟩ := hfirstNew event hmem
      exact ⟨hle, UInt64.lt_of_lt_of_le hlt h'.next⟩
    · obtain ⟨hle, hlt⟩ := hsecondNew event hmem
      exact ⟨UInt64.le_trans h.next hle, hlt⟩

section

variable (hnext : before.nextStreamOrdering ≠ 18446744073709551615)

include hnext

theorem allocateStreamOrdering_appends :
    Appends before (allocateStreamOrdering backend before).2 :=
  .of_events (UInt64.le_of_lt (lt_succ hnext))
    (persistEventStreamWatermark_sameRoomTables backend _ _).events

theorem reserveStreamIds_appends : Appends before (reserveStreamIds backend before).2 :=
  .of_events (UInt64.le_of_lt (lt_succ hnext))
    (reserveStreamIds_sameRoomTables backend before).events

omit hnext in
theorem events_applyStoreEventWithState (store : PersistentStore) (update : PreparedStateUpdate) :
    (applyStoreEventWithState store update).events = store.events ∨
      (applyStoreEventWithState store update).events = store.events ++ [update.event] := by
  cases hexists : eventExists store update.event.eventId with
  | true => exact .inl (by rw [applyStoreEventWithState, if_pos hexists])
  | false => exact .inr (applyStoreEventWithState_tables hexists).1

omit hnext in
theorem events_storeEventWithState (store : PersistentStore) (event : PersistentEvent)
    (state : Option PersistentStateEvent) :
    (storeEventWithState yyjson backend store event state).2.events = store.events ∨
      (storeEventWithState yyjson backend store event state).2.events =
        store.events ++ [event] := by
  fun_cases storeEventWithState yyjson backend store event state with
  | case1 => exact .inl rfl
  | case2 _ _ _ hcommit =>
    obtain ⟨log, rfl⟩ := store_of_commit hcommit
    exact .inl rfl
  | case3 prepared hprepared _ hcommit =>
    obtain ⟨log, rfl⟩ := store_of_commit hcommit
    rw [← (of_prepareStoreEventWithState hprepared).1]
    exact events_applyStoreEventWithState _ prepared

theorem persistComposedEvent_appends (event : ComposedEvent) :
    Appends before (persistComposedEvent yyjson backend before event).2 := by
  have hallocated := (persistEventStreamWatermark_sameRoomTables backend before.persistentStore
    before.nextStreamOrdering).events
  have hle := UInt64.le_of_lt (lt_succ hnext)
  rcases events_storeEventWithState yyjson backend
      (allocateStreamOrdering backend before).2.persistentStore
      (event.row before.nextStreamOrdering)
      (eventState yyjson (event.row before.nextStreamOrdering)) with hsame | hstored
  · exact .of_events hle (hsame.trans hallocated)
  · refine ⟨hle, [event.row before.nextStreamOrdering], ?_, ?_⟩
    · rw [← hallocated]
      exact hstored
    · exact forall_mem_singleton.mpr ⟨UInt64.le_refl _, lt_succ hnext⟩

omit hnext in
theorem nextStreamOrdering_emit (event : ComposedEvent) :
    (emitInitialStateEvent yyjson sodium backend database event).2.nextStreamOrdering =
        database.nextStreamOrdering ∨
      (emitInitialStateEvent yyjson sodium backend database event).2.nextStreamOrdering =
        database.nextStreamOrdering + 1 := by
  unfold emitInitialStateEvent
  split
  · exact .inl rfl
  · split_ifs
    · exact .inl rfl
    · exact .inr rfl

theorem emitInitialStateEvent_appends (event : ComposedEvent) :
    Appends before (emitInitialStateEvent yyjson sodium backend before event).2 := by
  unfold emitInitialStateEvent
  split
  · exact .refl _
  · split_ifs
    · exact .refl _
    · exact persistComposedEvent_appends yyjson backend hnext event

end

theorem ne_last_of_lt {next : UInt64} (hlt : next.toNat + 2 < 2 ^ 64) :
    next ≠ 18446744073709551615 := by
  rintro rfl
  exact absurd hlt (by decide)

theorem persistMembershipTransition_appends {yyjson : Yyjson}
    (hnext : before.nextStreamOrdering.toNat + 2 < 2 ^ 64) (event : MembershipEvent yyjson) :
    Appends before (persistMembershipTransition sodium backend before event).2 := by
  have hfirst := ne_last_of_lt hnext
  have hemitted := emitInitialStateEvent_appends yyjson sodium backend hfirst
    event.toComposedEvent
  have hcounter := nextStreamOrdering_emit yyjson sodium backend before event.toComposedEvent
  unfold persistMembershipTransition
  split
  · next hresult => rwa [hresult] at hemitted
  · next stored hresult =>
      rw [hresult] at hemitted hcounter
      have hsecond : stored.nextStreamOrdering ≠ 18446744073709551615 := by
        rcases hcounter with hsame | hsucc
        · exact hsame ▸ hfirst
        · rintro heq
          have htoNat := congrArg UInt64.toNat (hsucc.symm.trans heq)
          rw [toNat_succ hfirst] at htoNat
          change _ = 18446744073709551615 at htoNat
          omega
      have hallocated := hemitted.trans (allocateStreamOrdering_appends backend hsecond)
      rcases hupserted : upsertMembership backend
          (allocateStreamOrdering backend stored).2.persistentStore
          ⟨event.roomId, event.target, event.membership,
            (allocateStreamOrdering backend stored).1⟩ with ⟨done, store⟩
      have hsame := (upsertMembership_sameRoomTables backend
        (allocateStreamOrdering backend stored).2.persistentStore
        ⟨event.roomId, event.target, event.membership,
          (allocateStreamOrdering backend stored).1⟩).events
      rw [hupserted] at hsame
      simp only
      rw [hupserted]
      cases done <;> exact hallocated.trans (.of_events (UInt64.le_refl _) hsame)

variable (host) in
theorem applySection_events (database : LocalDatabase) (ingestion : Ingestion)
    (prepared : PreparedStateUpdate) :
    (applySection host database ingestion prepared).nextStreamOrdering =
        database.nextStreamOrdering ∧
      ((applySection host database ingestion prepared).persistentStore.events =
          database.persistentStore.events ∨
        (applySection host database ingestion prepared).persistentStore.events =
          database.persistentStore.events ++ [prepared.event]) := by
  unfold applySection
  split
  · next hcommit =>
      obtain ⟨log, rfl⟩ := store_of_commit hcommit
      exact ⟨rfl, .inl rfl⟩
  · next hcommit =>
      obtain ⟨log, rfl⟩ := store_of_commit hcommit
      constructor
      · unfold recordMembership
        split
        · split_ifs
          · rfl
          · split <;> rfl
        · rfl
      · rw [(recordMembership_sameRoomTables _ _ _ _ _).events]
        exact events_applyStoreEventWithState _ prepared

end Effects

section Steps

variable {host : IngestHost} {run : VisibilityRun}

structure Numbered (database : LocalDatabase) : Prop where
  positive : 0 < database.nextStreamOrdering
  events : ∀ event ∈ database.persistentStore.events,
    event.streamOrdering < database.nextStreamOrdering

structure Settled (run : VisibilityRun) : Prop extends Numbered run.database where
  taken : ∀ ingestion ∈ run.ingestions, ingestion.streamOrdering < run.database.nextStreamOrdering
  prepared : ∀ ingestion ∈ run.ingestions, ∀ update, ingestion.prepared = some update →
    update.event.streamOrdering = ingestion.streamOrdering
  answered : ∀ response ∈ run.responses, response.1.eventOrdering < run.database.nextStreamOrdering
  ahead : ∀ response ∈ run.responses, ∀ ingestion ∈ run.ingestions,
    response.1.eventOrdering < ingestion.streamOrdering
  seen : ∀ response ∈ run.responses, ∀ event ∈ run.database.persistentStore.events,
    event.streamOrdering ≤ response.1.eventOrdering → event ∈ response.2

/-- `/sync` is answered while no ingestion is under way, and the counter does not
wrap around. -/
def Quiet (run : VisibilityRun) : VisibilityAction host → Prop
  | .sync => run.ingestions = []
  | _ => run.database.nextStreamOrdering.toNat + 2 < 2 ^ 64

instance decidableQuiet (run : VisibilityRun) (action : VisibilityAction host) :
    Decidable (Quiet run action) :=
  match action with
  | .sync => inferInstanceAs (Decidable (run.ingestions = []))
  | .reserve _ | .prepare _ | .apply _ | .sendEvent _ | .membership _ =>
    inferInstanceAs (Decidable (_ < _))

variable (h : Settled run)

include h

theorem Settled.of_appends {after : LocalDatabase} (happends : Appends run.database after) :
    Settled { run with database := after } := by
  obtain ⟨new, hevents, hnew⟩ := happends.events
  have hlater : ∀ {ordering}, ordering < run.database.nextStreamOrdering →
      ordering < after.nextStreamOrdering :=
    fun hlt => UInt64.lt_of_lt_of_le hlt happends.next
  refine ⟨⟨hlater h.positive, ?_⟩, fun ingestion hmem => hlater (h.taken ingestion hmem),
    h.prepared, fun response hmem => hlater (h.answered response hmem), h.ahead, ?_⟩
  · intro event hmem
    rw [hevents, mem_append] at hmem
    rcases hmem with hold | hadded
    · exact hlater (h.events event hold)
    · exact (hnew event hadded).2
  · intro response hresponse event hmem hle
    rw [hevents, mem_append] at hmem
    rcases hmem with hold | hadded
    · exact h.seen response hresponse event hold hle
    -- a new event has an ordering that no answer could name
    · have hlt := UInt64.lt_of_lt_of_le (h.answered response hresponse) (hnew event hadded).1
      exact absurd hle (UInt64.not_le.mpr hlt)

theorem Settled.of_ingestions {ingestions : List Ingestion}
    (hfrom : ∀ ingestion ∈ ingestions, ∃ before ∈ run.ingestions,
      ingestion.streamOrdering = before.streamOrdering)
    (hprepared : ∀ ingestion ∈ ingestions, ∀ update, ingestion.prepared = some update →
      update.event.streamOrdering = ingestion.streamOrdering) :
    Settled { run with ingestions := ingestions } := by
  refine ⟨h.toNumbered, ?_, hprepared, h.answered, ?_, h.seen⟩
  · intro ingestion hmem
    obtain ⟨before, hbefore, hordering⟩ := hfrom ingestion hmem
    exact hordering ▸ h.taken before hbefore
  · intro response hresponse ingestion hmem
    obtain ⟨before, hbefore, hordering⟩ := hfrom ingestion hmem
    exact hordering ▸ h.ahead response hresponse before hbefore

theorem Settled.erase (index : Nat) :
    Settled { run with ingestions := run.ingestions.eraseIdx index } :=
  h.of_ingestions (fun ingestion hmem => ⟨ingestion, mem_of_mem_eraseIdx hmem, rfl⟩)
    fun ingestion hmem => h.prepared ingestion (mem_of_mem_eraseIdx hmem)

theorem reserve_settled (hnext : run.database.nextStreamOrdering ≠ 18446744073709551615)
    (envelope : InboundPduEnvelope) :
    Settled (run.act (.reserve envelope : VisibilityAction host)) := by
  rw [act]
  fun_cases reserveSection host run.database envelope
  case case4 hreserved =>
    cases hreserved
    have hdatabase := h.of_appends (reserveStreamIds_appends host.backend hnext)
    refine ⟨hdatabase.toNumbered, ?_, ?_, hdatabase.answered, ?_, hdatabase.seen⟩
    · exact forall_mem_append.mpr ⟨hdatabase.taken, forall_mem_singleton.mpr (lt_succ hnext)⟩
    · refine forall_mem_append.mpr ⟨h.prepared, forall_mem_singleton.mpr ?_⟩
      rintro update ⟨⟩
    · exact fun response hresponse => forall_mem_append.mpr ⟨h.ahead response hresponse,
        forall_mem_singleton.mpr (h.answered response hresponse)⟩
  all_goals simpa using h

theorem prepare_settled (index : Nat) :
    Settled (run.act (.prepare index : VisibilityAction host)) := by
  rw [act]
  split
  · exact h
  · next ingestion hget =>
      have hmem := mem_of_getElem? hget
      split_ifs
      · exact h
      · split
        · exact h.erase index
        · next update hupdate =>
            refine h.of_ingestions ?_ ?_
            · intro other hother
              rcases mem_or_eq_of_mem_set hother with hold | rfl
              · exact ⟨other, hold, rfl⟩
              · exact ⟨ingestion, hmem, rfl⟩
            · intro other hother
              rcases mem_or_eq_of_mem_set hother with hold | rfl
              · exact h.prepared other hold
              · rintro _ ⟨⟩
                simp only [prepareSection] at hupdate
                split_ifs at hupdate
                rw [(of_prepareStoreEventWithState hupdate).1]
                rfl

theorem apply_settled (index : Nat) : Settled (run.act (.apply index : VisibilityAction host)) := by
  rw [act]
  split
  · exact h
  · next ingestion hget =>
      have hmem := mem_of_getElem? hget
      split
      · exact h
      · next update hupdate =>
          obtain ⟨hnext, hevents⟩ := applySection_events host run.database ingestion update
          have hordering := h.prepared ingestion hmem update hupdate
          have herased := h.erase index
          have hfrom : ∀ event ∈ (applySection host run.database ingestion
              update).persistentStore.events,
              event ∈ run.database.persistentStore.events ∨ event = update.event := by
            intro event hevent
            rcases hevents with hsame | hadded
            · exact .inl (hsame ▸ hevent)
            · rw [hadded] at hevent
              simpa using hevent
          refine ⟨⟨hnext ▸ h.positive, ?_⟩, ?_, herased.prepared, ?_, herased.ahead, ?_⟩
          · intro event hevent
            rw [hnext]
            rcases hfrom event hevent with hold | rfl
            · exact h.events event hold
            · exact hordering ▸ h.taken ingestion hmem
          · exact fun other hother => hnext ▸ herased.taken other hother
          · exact fun response hresponse => hnext ▸ h.answered response hresponse
          · intro response hresponse event hevent hle
            rcases hfrom event hevent with hold | rfl
            · exact h.seen response hresponse event hold hle
            · rw [hordering] at hle
              exact absurd hle (UInt64.not_le.mpr (h.ahead response hresponse ingestion hmem))

theorem sync_settled (hidle : run.ingestions = []) :
    Settled (run.act (.sync : VisibilityAction host)) := by
  have hlast : run.database.nextStreamOrdering - 1 < run.database.nextStreamOrdering :=
    pred_lt h.positive
  refine ⟨h.toNumbered, h.taken, h.prepared, ?_, ?_, ?_⟩
  · exact forall_mem_append.mpr ⟨h.answered, forall_mem_singleton.mpr hlast⟩
  · intro response _ ingestion hmem
    change ingestion ∈ run.ingestions at hmem
    rw [hidle] at hmem
    exact absurd hmem not_mem_nil
  · intro response hmem event hevent hle
    rcases mem_append.mp hmem with hold | hadded
    · exact h.seen response hold event hevent hle
    · rw [mem_singleton.mp hadded]
      exact hevent

theorem act_settled {action : VisibilityAction host} (hquiet : Quiet run action) :
    Settled (run.act action) := by
  cases action with
  | reserve envelope => exact reserve_settled h (ne_last_of_lt hquiet) envelope
  | prepare index => exact prepare_settled h index
  | apply index => exact apply_settled h index
  | sendEvent event =>
    refine h.of_appends ?_
    unfold RoomWrites.sendEvent
    split_ifs
    · exact emitInitialStateEvent_appends host.yyjson host.sodium host.backend
        (ne_last_of_lt hquiet) event
    · exact .refl _
  | membership event =>
    exact h.of_appends (persistMembershipTransition_appends host.sodium host.backend hquiet
      event)
  | sync => exact sync_settled h hquiet

end Steps

/-- Every event that a run applies up to the ordering of an answered token had been
applied when the token was answered. -/
theorem applied_behind_token_was_seen (host : IngestHost) {database : LocalDatabase}
    (hdatabase : Numbered database) {actions : List (VisibilityAction host)}
    (hquiet : Along act Quiet { database := database } actions) :
    ∀ response ∈ (run act { database := database } actions).responses,
      ∀ event ∈ (run act { database := database } actions).database.persistentStore.events,
        event.streamOrdering ≤ response.1.eventOrdering → event ∈ response.2 := by
  have hstart : Settled { database := database } :=
    ⟨hdatabase, by simp, by simp, by simp, by simp, by simp⟩
  exact (hquiet.invariant (fun _ _ hbefore => act_settled hbefore) hstart).seen

def clubHost : IngestHost where
  yyjson := clubYyjson
  sodium := clubSodium
  backend := memoryBackend
  stripe _ := 0

/-- One ingestion, with `/sync` before it and behind it. -/
def quietActions : List (VisibilityAction clubHost) :=
  [.sync, .reserve chessEvent.envelope, .prepare 0, .apply 0, .sync]

theorem ingestion_between_answers_is_seen :
    Numbered clubDatabase ∧ Along act Quiet { database := clubDatabase } quietActions ∧
      ∀ response ∈ (run act { database := clubDatabase } quietActions).responses,
        ∀ event ∈ (run act { database := clubDatabase }
            quietActions).database.persistentStore.events,
          event.streamOrdering ≤ response.1.eventOrdering → event ∈ response.2 := by
  have hnumbered : Numbered clubDatabase := ⟨by decide +kernel, by decide +kernel⟩
  have hquiet : Along act Quiet { database := clubDatabase } quietActions := by
    decide +kernel
  exact ⟨hnumbered, hquiet, applied_behind_token_was_seen clubHost hnumbered hquiet⟩

/-- An answer between the first section of an ingestion and the last: its token
covers the event, which has not been applied. -/
theorem event_applied_behind_token : ∃ response ∈ (run act { database := clubDatabase }
        [(.reserve chessEvent.envelope : VisibilityAction clubHost), .sync, .prepare 0,
          .apply 0]).responses,
      ∃ event ∈ (run act { database := clubDatabase }
          [(.reserve chessEvent.envelope : VisibilityAction clubHost), .sync, .prepare 0,
            .apply 0]).database.persistentStore.events,
        event.streamOrdering ≤ response.1.eventOrdering ∧
          event.eventId ∉ response.2.map PersistentEvent.eventId := by
  decide +kernel

end Merovingian.StreamVisibility
