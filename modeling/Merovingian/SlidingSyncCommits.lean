import Merovingian.ConnectionRuns

/-!
What the committed state of a connection rests on. A response is committed by the
request that carries its position, and by a request that carries none. The first is
an acknowledgement. The second is not: a client that has received nothing sends it
too.
-/

namespace Merovingian.SlidingSyncCommits

open ByteString StreamTokens OperationRuns SyncSurfaces SlidingSync
  ConnectionRuns

section Steps

variable {host : SyncHost} {client : Client} {run : ConnectionRun}

/-- The response goes up to the ordering, and the room is one of its windows or
subscriptions. It is in the response, or there was nothing to tell about it. -/
def Covers (host : SyncHost) (client : Client) (sent : SentResponse) (room : Bytes)
    (ordering : UInt64) : Prop :=
  sent.ordering = ordering ∧ ∃ built, (room, built) ∈ sent.rooms host client ∧
    ((room, built) ∈ (sent.response host client).rooms ∨ hasRoomUpdates built = false)

/-- A response that covers the room reached the client, or answered a request without
a position. -/
def Backed (host : SyncHost) (client : Client) (run : ConnectionRun) (room : Bytes)
    (ordering : UInt64) : Prop :=
  ∃ sent ∈ run.responses, Covers host client sent room ordering ∧
    (sent.arrives = true ∨ sent.call.pos = none)

structure PendingSound (host : SyncHost) (client : Client) (run : ConnectionRun)
    (pending : SlidingSyncPendingResponse) (last : SentResponse) : Prop where
  seen : ∀ room ordering, (room, ordering) ∈ pending.roomsSeen →
    Backed host client run room ordering ∨ Covers host client last room ordering
  fate : last.arrives = true ∨
    pending.requestPos = run.pos.getD [] ∧ (run.pos = none → last.call.pos = none)

structure ConnectionSound (host : SyncHost) (client : Client) (run : ConnectionRun)
    (connection : SlidingSyncConnectionState) : Prop where
  committed : ∀ room ordering, (room, ordering) ∈ connection.roomsSeen →
    Backed host client run room ordering
  pending : ∀ pending, connection.pendingResponse = some pending →
    ∃ last ∈ run.responses, PendingSound host client run pending last

structure Honest (host : SyncHost) (client : Client) (run : ConnectionRun) : Prop where
  unique : KeysUnique run.runtime
  issued : ∀ text, run.pos = some text → ∃ token, text = encodeStreamToken token
  connection : ∀ connection, connectionAt run.runtime client.key = some connection →
    ConnectionSound host client run connection

theorem ConnectionSound.fresh : ConnectionSound host client run {} :=
  ⟨by simp, by simp⟩

theorem acknowledge_sound (hissued : ∀ text, run.pos = some text →
      ∃ token, text = encodeStreamToken token) {base : SlidingSyncConnectionState}
    (h : ConnectionSound host client run base) (call : SlidingSyncCall) :
    ConnectionSound host client run
      (acknowledge { base with lastUsed := call.now } (sentCall client run.pos call).pos) := by
  have hrequested := requestedPos_sentCall client hissued call
  unfold acknowledge
  split
  · exact ⟨h.committed, h.pending⟩
  · next pending hpending =>
      obtain ⟨last, hlast, hsound⟩ := h.pending pending hpending
      split_ifs with hcommits
      · refine ⟨fun room ordering hmem => ?_, by simp⟩
        rcases hsound.seen room ordering hmem with hbacked | hcovers
        · exact hbacked
        refine ⟨last, hlast, hcovers, ?_⟩
        rcases hsound.fate with harrives | ⟨hrequest, hfirst⟩
        · exact .inl harrives
        -- the response was lost, so the client repeats the position of its request
        refine .inr (hfirst ?_)
        rcases hpos : run.pos with _ | text
        · rfl
        · obtain ⟨token, rfl⟩ := hissued text hpos
          rw [Bool.or_eq_true, acknowledgesPending, hrequested, hrequest, pos_sentCall, hpos,
            Option.bind_some, decodeStreamToken_encodeStreamToken] at hcommits
          simp at hcommits
      · exact ⟨h.committed, h.pending⟩

theorem found_sound (h : Honest host client run) (call : SlidingSyncCall) (arrives : Bool) :
    ConnectionSound host client run (found client run call arrives).connection := by
  obtain ⟨base, hbase, hfound⟩ := foundConnection_cases client.user client.deviceId
    (sentCall client run.pos call) h.unique
  have hsound : ConnectionSound host client run base := by
    rcases hbase with rfl | hat
    · exact .fresh
    · exact h.connection base hat
  rw [found, hfound]
  exact acknowledge_sound h.issued hsound (sentCall client run.pos call)

theorem Backed.append {room : Bytes} {ordering : UInt64} {next : ConnectionRun}
    (h : Backed host client run room ordering)
    (hresponses : ∀ sent ∈ run.responses, sent ∈ next.responses) :
    Backed host client next room ordering := by
  obtain ⟨sent, hsent, hcovers⟩ := h
  exact ⟨sent, hresponses sent hsent, hcovers⟩

theorem ConnectionSound.of_same {next : ConnectionRun} {connection : SlidingSyncConnectionState}
    (h : ConnectionSound host client run connection) (hresponses : next.responses = run.responses)
    (hpos : next.pos = run.pos) : ConnectionSound host client next connection := by
  have hbacked : ∀ {room ordering}, Backed host client run room ordering →
      Backed host client next room ordering :=
    fun hold => hold.append fun _ hsent => hresponses ▸ hsent
  refine ⟨fun room ordering hmem => hbacked (h.committed room ordering hmem), ?_⟩
  intro pending hpending
  obtain ⟨last, hlast, hsound⟩ := h.pending pending hpending
  exact ⟨last, hresponses ▸ hlast,
    fun room ordering hmem => (hsound.seen room ordering hmem).imp_left hbacked,
    hpos ▸ hsound.fate⟩

theorem request_honest (h : Honest host client run) (call : SlidingSyncCall) (arrives : Bool) :
    Honest host client (run.act host (.request call arrives : ConnectionAction client)) := by
  have hfound := found_sound h call arrives
  have hunique := keysUnique_act host h.unique (.request call arrives : ConnectionAction client)
  rcases request_cases host client run call arrives with
    ⟨hresponses, hpos, -, hconnection⟩ | ⟨hresponses, hpos, hconnection⟩
  · refine ⟨hunique, hpos ▸ h.issued, fun connection hat => ?_⟩
    rcases hconnection with hnone | hsome
    · rw [hnone] at hat
      exact absurd hat (by simp)
    · obtain rfl : (found client run call arrives).connection = connection :=
        Option.some.inj (hsome ▸ hat)
      exact hfound.of_same hresponses hpos
  · have hbacked : ∀ {room ordering}, Backed host client run room ordering →
        Backed host client (run.act host (.request call arrives : ConnectionAction client)) room
          ordering :=
      fun hold => hold.append fun _ hsent => hresponses ▸ List.mem_append_left _ hsent
    refine ⟨hunique, ?_, ?_⟩
    · rw [hpos]
      intro text htext
      cases arrives with
      | true => exact ⟨_, (Option.some.inj htext).symm⟩
      | false => exact h.issued text htext
    · intro connection hat
      obtain rfl := Option.some.inj (hconnection ▸ hat)
      refine ⟨fun room ordering hmem => hbacked (hfound.committed room ordering hmem), ?_⟩
      rintro _ ⟨⟩
      refine ⟨found client run call arrives, ?_, ?_, ?_⟩
      · rw [hresponses]
        exact List.mem_append_right _ (List.mem_singleton_self _)
      · intro room ordering hmem
        rcases mem_roomsSeen_pending hmem with hold | ⟨rfl, hroom⟩
        · exact .inl (hbacked (hfound.committed room ordering hold))
        · obtain ⟨⟨_, built⟩, hbuilt, rfl⟩ := List.mem_map.mp hroom
          refine .inr ⟨rfl, built, hbuilt, ?_⟩
          cases hupdates : hasRoomUpdates built with
          | true => exact .inl (List.mem_filter.mpr ⟨hbuilt, hupdates⟩)
          | false => exact .inr rfl
      · cases arrives with
        | true => exact .inl rfl
        | false =>
          rw [hpos]
          refine .inr ⟨requestedPos_sentCall client h.issued call, fun hnone => ?_⟩
          change (sentCall client run.pos call).pos = none
          rw [pos_sentCall, show run.pos = none from hnone]
          rfl

theorem act_honest (h : Honest host client run) (action : ConnectionAction client) :
    Honest host client (run.act host action) := by
  cases action with
  | change tables =>
    exact ⟨h.unique, h.issued, fun connection hat => (h.connection connection hat).of_same rfl rfl⟩
  | request call arrives => exact request_honest h call arrives
  | other user deviceId call hother =>
    refine ⟨keysUnique_dispatch _ _ _ _ h.unique, h.issued, fun connection hat => ?_⟩
    have hbefore := connectionAt_of_dispatch_other h.unique hother hat
    exact (h.connection connection hbefore).of_same rfl rfl

end Steps

/-- From the start of the server on, whatever is lost. -/
theorem committed_rooms_are_backed (host : SyncHost) (client : Client) (tables : SyncTables)
    (actions : List (ConnectionAction client)) :
    let last := run (ConnectionRun.act host) { runtime := { toSyncTables := tables } } actions
    ∀ connection, connectionAt last.runtime client.key = some connection →
      ∀ room ordering, (room, ordering) ∈ connection.roomsSeen →
        ∃ sent ∈ last.responses, Covers host client sent room ordering ∧
          (sent.arrives = true ∨ sent.call.pos = none) := by
  have hstart : Honest host client { runtime := { toSyncTables := tables } } :=
    ⟨List.nodup_nil, by simp, by simp [connectionAt, KeyedFold.rowAt]⟩
  have hlast := run_invariant (motive := Honest host client)
    (fun _ action hbefore => act_honest hbefore action) hstart actions
  exact fun connection hat => (hlast.connection connection hat).committed

def blindHost : SyncHost where
  yyjson := CanonicalParser.readerOf []
  parseJson _ := none
  backend := StoreTables.memoryBackend

def clubTables : SyncTables where
  database :=
    { persistentStore :=
        { memberships := [⟨"!club:example.org", "@alice:example.org", "join", 3⟩] }
      nextStreamOrdering := 7 }
  rooms := ["!club:example.org"]

def clubClient : Client := ⟨"@alice:example.org", "PHONE", none⟩

def clubCall : SlidingSyncCall where
  request := { lists := [("all", { ranges := [⟨0, 9⟩] })] }

def clubRun (arrivals : List Bool) : ConnectionRun :=
  run (ConnectionRun.act blindHost) { runtime := { toSyncTables := clubTables } }
    (arrivals.map fun arrives => (.request clubCall arrives : ConnectionAction clubClient))

theorem acknowledged_room_is_backed :
    (connectionAt (clubRun [true, true]).runtime clubClient.key).map
        (fun connection => connection.roomsSeen) = some [(utf8 "!club:example.org", 6)] ∧
      ∀ connection, connectionAt (clubRun [true, true]).runtime clubClient.key = some connection →
        ∀ room ordering, (room, ordering) ∈ connection.roomsSeen →
          ∃ sent ∈ (clubRun [true, true]).responses,
            Covers blindHost clubClient sent room ordering ∧
              (sent.arrives = true ∨ sent.call.pos = none) :=
  ⟨by decide +kernel, committed_rooms_are_backed blindHost clubClient clubTables
    ([true, true].map fun arrives => .request clubCall arrives)⟩

theorem lost_response_is_committed :
    (connectionAt (clubRun [false, false]).runtime clubClient.key).map
        (fun connection => connection.roomsSeen) = some [(utf8 "!club:example.org", 6)] ∧
      ∀ sent ∈ (clubRun [false, false]).responses, sent.arrives = false := by
  decide +kernel

end Merovingian.SlidingSyncCommits
