import Mathlib.Data.List.Nodup
import Mathlib.Data.List.Perm.Basic
import Merovingian.KeyedFold

/-!
A table with a unique key that holds the image of a list of items, one row an
item. Writing the row of an item and deleting by its key keep the two in step as
long as no two items share a key. Nothing here mentions the homeserver.
-/

namespace Merovingian.TableMirror

open KeyedFold List

variable {Item Row Key : Type} {key : Row → Key} {rows : List Row}

theorem perm_eraseP_of_find? {queue : List Row} {ready : Row → Bool} {found : Row}
    (h : queue.find? ready = some found) : queue.Perm (found :: queue.eraseP ready) := by
  obtain ⟨hfound, before, after, rfl, hbefore⟩ := find?_eq_some_iff_append.mp h
  have hskip : ∀ other ∈ before, ¬ ready other = true := by
    intro other hmem
    simpa using hbefore other hmem
  rw [eraseP_append_right _ hskip, eraseP_cons_of_pos hfound]
  exact perm_middle

section Tables

variable [DecidableEq Key]

def deleteKey (key : Row → Key) (deleted : Key) (rows : List Row) : List Row :=
  rows.filter fun row => key row ≠ deleted

variable {row : Row}

theorem keys_putRow : (putRow key row rows).map key =
      if key row ∈ rows.map key then rows.map key else rows.map key ++ [key row] := by
  induction rows with
  | nil => simp [putRow]
  | cons current rest ih =>
    rw [putRow]
    by_cases heq : key current = key row
    · simp [heq]
    · rw [if_neg heq, map_cons, ih]
      simp [Ne.symm heq, apply_ite (cons (key current))]

theorem nodup_keys_putRow (hkeyed : (rows.map key).Nodup) :
    ((putRow key row rows).map key).Nodup := by
  rw [keys_putRow]
  split_ifs with hmem
  · exact hkeyed
  · exact concat_eq_append ▸ hkeyed.concat hmem

theorem rowAt_of_mem (hkeyed : (rows.map key).Nodup) (hmem : row ∈ rows) :
    rowAt key rows (key row) = some row := by
  have hwith : row ∈ withKey key (key row) rows := mem_withKey.mpr ⟨hmem, rfl⟩
  rw [withKey_eq_toList hkeyed] at hwith
  exact Option.mem_toList.mp hwith

theorem mem_iff_rowAt (hkeyed : (rows.map key).Nodup) :
    row ∈ rows ↔ rowAt key rows (key row) = some row :=
  ⟨rowAt_of_mem hkeyed, mem_of_find?_eq_some⟩

theorem putRow_of_absent (h : rowAt key rows (key row) = none) :
    putRow key row rows = rows ++ [row] := by
  induction rows with
  | nil => rfl
  | cons current rest ih =>
    rw [rowAt_cons] at h
    split_ifs at h with heq
    rw [putRow, if_neg heq, ih h, cons_append]

theorem putRow_perm (key : Row → Key) (row : Row) (rows : List Row) :
    ∃ rest, rest.Sublist rows ∧ (putRow key row rows).Perm (row :: rest) := by
  induction rows with
  | nil => exact ⟨[], .slnil, .refl _⟩
  | cons current rest ih =>
    rw [putRow]
    split_ifs
    · exact ⟨rest, sublist_cons_self _ _, .refl _⟩
    · obtain ⟨kept, hkept, hperm⟩ := ih
      exact ⟨current :: kept, hkept.cons_cons _, (hperm.cons _).trans (.swap _ _ _)⟩

theorem mem_of_mem_putRow {found : Row} (h : found ∈ putRow key row rows) :
    found ∈ rows ∨ found = row := by
  obtain ⟨rest, hrest, hperm⟩ := putRow_perm key row rows
  rcases mem_cons.mp (hperm.mem_iff.mp h) with hrow | hmem
  · exact .inr hrow
  · exact .inl (hrest.subset hmem)

theorem mem_putRow (hkeyed : (rows.map key).Nodup) {found : Row} :
    found ∈ putRow key row rows ↔ found = row ∨ found ∈ rows ∧ key found ≠ key row := by
  rw [mem_iff_rowAt (nodup_keys_putRow hkeyed)]
  rw [rowAt_putRow]
  split_ifs with heq
  · simp [heq, eq_comm]
  · have hne : found ≠ row := fun hrow => heq (hrow ▸ rfl)
    simp [← mem_iff_rowAt hkeyed, Ne.symm heq, hne]

theorem nodup_keys_deleteKey (hkeyed : (rows.map key).Nodup) (deleted : Key) :
    ((deleteKey key deleted rows).map key).Nodup :=
  hkeyed.sublist (filter_sublist.map key)

@[simp] theorem mem_deleteKey {deleted : Key} {found : Row} :
    found ∈ deleteKey key deleted rows ↔ found ∈ rows ∧ key found ≠ deleted := by
  simp [deleteKey]

end Tables

/-- The rows of the table are those of the items, and keys are unique in both. -/
structure Mirrors (key : Row → Key) (encode : Item → Row) (rows : List Row)
    (items : List Item) : Prop where
  keyed : (rows.map key).Nodup
  distinct : (items.map fun item => key (encode item)).Nodup
  mem : ∀ row, row ∈ rows ↔ row ∈ items.map encode

namespace Mirrors

variable {encode : Item → Row} {items : List Item} {old new : Item}

theorem nil : Mirrors key encode [] [] :=
  ⟨nodup_nil, nodup_nil, fun _ => Iff.rfl⟩

theorem perm (h : Mirrors key encode rows items) {others : List Item} (hperm : others.Perm items) :
    Mirrors key encode rows others :=
  ⟨h.keyed, (hperm.map _).nodup_iff.mpr h.distinct,
    fun row => (h.mem row).trans (hperm.map encode).mem_iff.symm⟩

theorem put_row [DecidableEq Key] (h : Mirrors key encode rows items) {others : List Item}
    (hfresh : ∀ item ∈ others, key (encode item) ≠ key (encode new))
    (hdistinct : (others.map fun item => key (encode item)).Nodup)
    (hothers : ∀ row, row ∈ others.map encode ↔
      row ∈ items.map encode ∧ key row ≠ key (encode new)) :
    Mirrors key encode (putRow key (encode new) rows) (new :: others) := by
  refine ⟨nodup_keys_putRow h.keyed, nodup_cons.mpr ⟨?_, hdistinct⟩, ?_⟩
  · intro hmem
    obtain ⟨item, hitem, heq⟩ := mem_map.mp hmem
    exact hfresh item hitem heq
  · intro row
    rw [mem_putRow h.keyed, map_cons, mem_cons, hothers, h.mem]

theorem insert [DecidableEq Key] (h : Mirrors key encode rows items)
    (hfresh : ∀ item ∈ items, key (encode item) ≠ key (encode new)) :
    Mirrors key encode (putRow key (encode new) rows) (new :: items) := by
  refine h.put_row hfresh h.distinct ?_
  intro row
  refine ⟨fun hmem => ⟨hmem, ?_⟩, fun hmem => hmem.1⟩
  obtain ⟨item, hitem, rfl⟩ := mem_map.mp hmem
  exact hfresh item hitem

section

variable (h : Mirrors key encode rows (old :: items))

include h

theorem others_differ {item : Item} (hitem : item ∈ items) :
    key (encode item) ≠ key (encode old) := by
  intro heq
  exact (nodup_cons.mp h.distinct).1 (mem_map.mpr ⟨item, hitem, heq⟩)

theorem mem_others {row : Row} :
    row ∈ items.map encode ↔ row ∈ (old :: items).map encode ∧ key row ≠ key (encode old) := by
  constructor
  · intro hmem
    obtain ⟨item, hitem, rfl⟩ := mem_map.mp hmem
    exact ⟨mem_cons_of_mem _ hmem, h.others_differ hitem⟩
  · rintro ⟨hmem, hne⟩
    rcases mem_cons.mp hmem with rfl | hmem
    · exact absurd rfl hne
    · exact hmem

theorem replace [DecidableEq Key] (hkey : key (encode new) = key (encode old)) :
    Mirrors key encode (putRow key (encode new) rows) (new :: items) := by
  refine h.put_row ?_ (nodup_cons.mp h.distinct).2 ?_
  · intro item hitem
    rw [hkey]
    exact h.others_differ hitem
  · intro row
    rw [hkey]
    exact h.mem_others

theorem remove [DecidableEq Key] :
    Mirrors key encode (deleteKey key (key (encode old)) rows) items := by
  refine ⟨nodup_keys_deleteKey h.keyed _, (nodup_cons.mp h.distinct).2, ?_⟩
  intro row
  rw [mem_deleteKey, h.mem, ← h.mem_others]

end

theorem reload (h : Mirrors key encode rows items) {decode : Row → Item}
    (hdecode : ∀ item, decode (encode item) = item) {loaded : List Row} (hperm : loaded.Perm rows) :
    Mirrors key encode loaded (loaded.map decode) := by
  -- a row of the table is the image of an item, so decoding it loses nothing
  have hencode : ∀ row ∈ loaded, encode (decode row) = row := by
    intro row hrow
    obtain ⟨item, -, rfl⟩ := mem_map.mp ((h.mem row).mp (hperm.mem_iff.mp hrow))
    rw [hdecode]
  have himage : (loaded.map decode).map encode = loaded := by
    have hid : loaded.map (encode ∘ decode) = loaded.map id := map_congr_left hencode
    rw [map_map, hid, map_id]
  have hkeyed : (loaded.map key).Nodup := (hperm.map key).nodup_iff.mpr h.keyed
  refine ⟨hkeyed, ?_, ?_⟩
  · have hkeys : ((loaded.map decode).map encode).map key =
        (loaded.map decode).map fun item => key (encode item) := map_map
    rw [← hkeys, himage]
    exact hkeyed
  · intro row
    rw [himage]

end Mirrors

end Merovingian.TableMirror
