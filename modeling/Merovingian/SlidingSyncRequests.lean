import Merovingian.EventQueries
import Merovingian.StreamTokens

/-!
The requests of simplified sliding sync (MSC4186), as they are read from a body that is
accepted: named lists with windows into a sorted list of rooms, subscriptions to single
rooms, and the extensions. Maps are lists in the order of their keys.
-/

namespace Merovingian.SlidingSyncRequests

open ByteString JsonValue CanonicalParser EventQueries StreamTokens

/-- The indices from `start` to `end_`, both included. -/
structure SlidingSyncRange where
  start : Nat := 0
  end_ : Nat := 0
deriving DecidableEq

/-- No range is empty, and each ends before the next one starts. -/
def slidingSyncRangesValid : List SlidingSyncRange → Bool
  | [] => true
  | [range] => decide (range.start ≤ range.end_)
  | range :: next :: rest =>
    decide (range.start ≤ range.end_) && decide (range.end_ < next.start) &&
      slidingSyncRangesValid (next :: rest)

structure SlidingSyncFilters where
  isEncrypted : Option Bool := none
  isInvite : Option Bool := none
  isDm : Option Bool := none
  isFavourite : Option Bool := none
  roomTypes : List Bytes := []
  notRoomTypes : List Bytes := []

structure SlidingSyncList where
  ranges : List SlidingSyncRange := []
  rangesValid : slidingSyncRangesValid ranges = true := by rfl
  sort : List Bytes := []
  requiredState : List (Bytes × Bytes) := []
  timelineLimit : Nat := 20
  filters : Option SlidingSyncFilters := none
  includeHeroes : Bool := false
  bumpEventTypes : List Bytes := []

structure SlidingSyncRoomSubscription where
  requiredState : List (Bytes × Bytes) := []
  timelineLimit : Nat := 20
  includeHeroes : Bool := false

structure ExtToDeviceRequest where
  enabled : Bool := false
  limit : Nat := 20
  since : Option Bytes := none

/-- The receipts and the typing extension. -/
structure ExtRoomsRequest where
  enabled : Bool := false
  rooms : List Bytes := []

/-- The `e2ee` and the account-data extension are only switched on or off. -/
structure SlidingSyncExtensionRequests where
  toDevice : Option ExtToDeviceRequest := none
  e2ee : Option Bool := none
  accountData : Option Bool := none
  receipts : Option ExtRoomsRequest := none
  typing : Option ExtRoomsRequest := none

structure SlidingSyncRequest where
  connId : Option Bytes := none
  lists : List (Bytes × SlidingSyncList) := []
  roomSubscriptions : List (Bytes × SlidingSyncRoomSubscription) := []
  extensions : Option SlidingSyncExtensionRequests := none
  pos : Option Bytes := none
  timeout : Option Nat := none

/-- An entry whose key is already there is not written. -/
def emplace {α : Type} (map : List (Bytes × α)) (entry : Bytes × α) : List (Bytes × α) :=
  if map.any fun present => present.1 = entry.1 then map
  else map.orderedInsert (fun lhs rhs => lhs.1 ≤ rhs.1) entry

/-- The position in the target of a request goes before the one in its body. -/
def requestPos (targetPos : Option Bytes) (request : SlidingSyncRequest) : Option StreamToken :=
  (targetPos.bind decodeStreamToken).or (request.pos.bind decodeStreamToken)

theorem slidingSyncRangesValid_cons {range : SlidingSyncRange} {rest : List SlidingSyncRange}
    (hvalid : slidingSyncRangesValid (range :: rest) = true) :
    range.start ≤ range.end_ ∧ (∀ later ∈ rest, range.end_ < later.start) ∧
      slidingSyncRangesValid rest = true := by
  induction rest generalizing range with
  | nil => exact ⟨of_decide_eq_true hvalid, by simp, rfl⟩
  | cons next rest ih =>
    rw [slidingSyncRangesValid, Bool.and_eq_true, Bool.and_eq_true, decide_eq_true_eq,
      decide_eq_true_eq] at hvalid
    obtain ⟨⟨hrange, hnext⟩, hrest⟩ := hvalid
    obtain ⟨hordered, hlater, -⟩ := ih hrest
    refine ⟨hrange, ?_, hrest⟩
    intro later hmem
    rcases List.mem_cons.mp hmem with rfl | hmem
    · exact hnext
    · have := hlater later hmem
      omega

end Merovingian.SlidingSyncRequests
