import Merovingian.WordCounters
import Merovingian.SlidingSync

/-!
How the tables go on while clients read them: events are numbered from the counter on,
so what a position goes up to was there when the position was given out.
-/

namespace Merovingian.StreamGrowth

open WordCounters PduIngestion SyncSurfaces SlidingSync

/-- New events have orderings that the counter had not passed. -/
structure Grows (before after : SyncTables) : Prop where
  next : before.database.nextStreamOrdering ≤ after.database.nextStreamOrdering
  stored : ∀ event ∈ after.store.events,
    event.streamOrdering < before.database.nextStreamOrdering → event ∈ before.store.events

instance decidableGrows (before after : SyncTables) : Decidable (Grows before after) :=
  decidable_of_iff
    (before.database.nextStreamOrdering ≤ after.database.nextStreamOrdering ∧
      ∀ event ∈ after.store.events,
        event.streamOrdering < before.database.nextStreamOrdering → event ∈ before.store.events)
    ⟨fun h => ⟨h.1, h.2⟩, fun h => ⟨h.next, h.stored⟩⟩

/-- What the position of the first tables goes up to was there. -/
structure Precedes (before after : SyncTables) : Prop where
  ordering : eventWatermark before ≤ eventWatermark after
  stored : ∀ event ∈ after.store.events, event.streamOrdering ≤ eventWatermark before →
    event ∈ before.store.events

variable {first before after : SyncTables}

theorem Precedes.refl (tables : SyncTables) : Precedes tables tables :=
  ⟨UInt64.le_refl _, fun _ hevent _ => hevent⟩

theorem Precedes.of_grows (h : Precedes first before)
    (hpositive : 0 < before.database.nextStreamOrdering) (hgrows : Grows before after) :
    Precedes first after := by
  refine ⟨UInt64.le_trans h.ordering (pred_le_pred hpositive hgrows.next), ?_⟩
  intro event hevent hcovered
  refine h.stored event (hgrows.stored event hevent ?_) hcovered
  exact UInt64.lt_of_le_of_lt (UInt64.le_trans hcovered h.ordering) (pred_lt hpositive)

theorem Precedes.of_events (h : Precedes first before)
    (hnext : after.database.nextStreamOrdering = before.database.nextStreamOrdering)
    (hevents : after.store.events = before.store.events) : Precedes first after := by
  have hwatermark : eventWatermark after = eventWatermark before :=
    congrArg (fun next => next - 1) hnext
  refine ⟨hwatermark ▸ h.ordering, ?_⟩
  rw [hevents]
  exact h.stored

theorem Precedes.of_database (h : Precedes first before)
    (hdatabase : after.database = before.database) : Precedes first after :=
  h.of_events (congrArg LocalDatabase.nextStreamOrdering hdatabase)
    (congrArg (fun database => database.persistentStore.events) hdatabase)

end Merovingian.StreamGrowth
