import Merovingian.BackwardPages
import Merovingian.DecimalText
import Merovingian.SyncSurfaces

/-!
Going back through a room with `/messages`: each page is asked for from the end of the
one before, and the pages together have every event of the room that is older than the
token which the first one was asked for with.
-/

namespace Merovingian.MessagesPaging

open ByteString DecimalText BackwardPages KeyedFold CanonicalParser StoreTables PduIngestion
open RoomReads hiding resolveIgnoredUsers isDeliverySuppressed
open SyncSurfaces hiding isDeliverySuppressed

def parseU64 (value : Bytes) : Option UInt64 :=
  if value.isEmpty || !value.all isDigit || decide (digitsValue value ≥ 2 ^ 64) then none
  else some (UInt64.ofNat (digitsValue value))

theorem parseU64_decimalDigits (number : UInt64) :
    parseU64 (decimalDigits number.toNat) = some number := by
  have hsmall : ¬ digitsValue (decimalDigits number.toNat) ≥ 2 ^ 64 := by
    rw [digitsValue_decimalDigits]
    exact Nat.not_le.mpr number.toNat_lt
  have hne : (decimalDigits number.toNat).isEmpty = false := by
    simp [decimalDigits_ne_nil]
  rw [parseU64, hne, all_isDigit_decimalDigits, decide_eq_false hsmall, digitsValue_decimalDigits,
    UInt64.ofNat_toNat]
  rfl

section Pages

variable {yyjson : Yyjson} {store : PersistentStore} {roomId : Bytes} {ignoredSenders : List Bytes}
  {event : PersistentEvent}

theorem mem_messagesEntries : event ∈ messagesEntries yyjson store roomId ignoredSenders ↔
      event ∈ store.events ∧ event.roomId = roomId ∧
        RoomReads.isDeliverySuppressed yyjson ignoredSenders event = false := by
  simp [messagesEntries, sortByStreamOrdering, roomEntries, and_comm]

theorem pairwise_sortByStreamOrdering (entries : List PersistentEvent) :
    (sortByStreamOrdering entries).Pairwise fun older newer =>
      older.streamOrdering ≤ newer.streamOrdering := by
  exact List.pairwise_insertionSort _ entries

end Pages

variable (host : SyncHost) (tables : SyncTables) (user roomId : Bytes)

def InRoom : Prop :=
  ∃ room ∈ rowAt LocalRoom.roomId tables.database.rooms roomId, room.members.contains user = true

/-- The page before a token. A user who is not in the room is not given one. -/
def pageBefore (limit : Option UInt64) (token : Bytes) : List PersistentEvent :=
  match rowAt LocalRoom.roomId tables.database.rooms roomId with
  | none => []
  | some room =>
    if !room.members.contains user then []
    else messagesChunk host.yyjson tables.store roomId (resolveIgnoredUsers host tables user)
      { dir := "b", fromToken := parseU64 token, limit }

/-- Going back from the token comes to the event, with pages of any size but zero. -/
def Reaches (token : Bytes) (event : PersistentEvent) : Prop :=
  ∀ limit, 0 < clampLimit 10 limit →
    ∃ count, event ∈ pages (pageBefore host tables user roomId limit) orderingToken count token

variable {host tables user roomId}

theorem pageBefore_eq (hin : InRoom tables user roomId) (limit : Option UInt64)
    (start : PersistentEvent) :
    pageBefore host tables user roomId limit (orderingToken start) =
      ((messagesEntries host.yyjson tables.store roomId
        (resolveIgnoredUsers host tables user)).reverse.filter fun older =>
          older.streamOrdering.toNat < start.streamOrdering.toNat).take (clampLimit 10 limit) := by
  obtain ⟨room, hroom, hmember⟩ := hin
  rw [pageBefore, Option.mem_def.mp hroom]
  simp only [hmember, Bool.not_true, Bool.false_eq_true, if_false, orderingToken,
    utf8_toString_nat, parseU64_decimalDigits, messagesChunk]
  rfl

theorem reaches_of_newer (hin : InRoom tables user roomId) {start event : PersistentEvent}
    (hstart : start ∈ messagesEntries host.yyjson tables.store roomId
      (resolveIgnoredUsers host tables user))
    (hevent : event ∈ messagesEntries host.yyjson tables.store roomId
      (resolveIgnoredUsers host tables user))
    (hdistinct : ∀ other ∈ tables.store.events,
      other.streamOrdering = event.streamOrdering → other = event)
    (hnewer : event.streamOrdering < start.streamOrdering) :
    Reaches host tables user roomId (orderingToken start) event := by
  intro limit hlimit
  have hsorted : (messagesEntries host.yyjson tables.store roomId
      (resolveIgnoredUsers host tables user)).reverse.Pairwise fun newer older =>
        older.streamOrdering.toNat ≤ newer.streamOrdering.toNat :=
    List.pairwise_reverse.mpr (pairwise_sortByStreamOrdering _)
  refine exists_mem_pages hlimit hsorted (fun start _ => pageBefore_eq hin limit start)
    (List.mem_reverse.mpr hevent) ?_ (List.mem_reverse.mpr hstart) hnewer
  intro other hother hsame
  exact hdistinct other (mem_messagesEntries.mp (List.mem_reverse.mp hother)).1
    (UInt64.toNat_inj.mp hsame)

end Merovingian.MessagesPaging
