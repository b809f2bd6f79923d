import Mathlib.Data.List.Sort

/-!
Two tables that agree on the rows that can be seen. Whoever asks for such rows only
gets the same answer from both. Nothing here mentions the homeserver.
-/

namespace Merovingian.VisibleRows

open List

variable {Row : Type}

/-- The tables have the same visible rows, in the same order. -/
def SameVisible (visible : Row → Bool) (rows others : List Row) : Prop :=
  rows.filter visible = others.filter visible

section Queries

variable {visible query : Row → Bool} {rows others : List Row}

theorem filter_filter_of_imp (h : ∀ row ∈ rows, query row = true → visible row = true) :
    (rows.filter visible).filter query = rows.filter query := by
  rw [filter_filter]
  refine filter_congr fun row hrow => ?_
  cases hquery : query row with
  | false => rfl
  | true => exact h row hrow hquery

variable (hsame : SameVisible visible rows others)

include hsame

theorem SameVisible.mem {row : Row} (hrow : row ∈ rows) (hvisible : visible row = true) :
    row ∈ others := by
  have hmem := mem_filter.mpr ⟨hrow, hvisible⟩
  rw [show rows.filter visible = others.filter visible from hsame] at hmem
  exact (mem_filter.mp hmem).1

section

variable (hrows : ∀ row ∈ rows, query row = true → visible row = true)
  (hothers : ∀ row ∈ others, query row = true → visible row = true)
include hrows hothers

/-- The rows that meet the query are visible in both tables. -/
theorem SameVisible.filter_of_mem : rows.filter query = others.filter query := by
  rw [← filter_filter_of_imp hrows, ← filter_filter_of_imp hothers]
  exact congrArg (filter query) hsame

theorem SameVisible.find?_of_mem : rows.find? query = others.find? query := by
  rw [← head?_filter, ← head?_filter, hsame.filter_of_mem hrows hothers]

end

variable (hquery : ∀ row, query row = true → visible row = true)

include hquery

theorem SameVisible.filter_eq : rows.filter query = others.filter query :=
  hsame.filter_of_mem (fun row _ => hquery row) fun row _ => hquery row

theorem SameVisible.find?_eq : rows.find? query = others.find? query :=
  hsame.find?_of_mem (fun row _ => hquery row) fun row _ => hquery row

theorem SameVisible.any_eq : rows.any query = others.any query := by
  rw [← isSome_find?, ← isSome_find?, hsame.find?_eq hquery]

end Queries

section Sorting

variable {before after : Row → Row → Prop} [DecidableRel before] [DecidableRel after]

theorem insertionSort_congr {rows : List Row}
    (h : ∀ row ∈ rows, ∀ other ∈ rows, before row other ↔ after row other) :
    rows.insertionSort before = rows.insertionSort after := by
  simpa using map_insertionSort before after id rows h

end Sorting

end Merovingian.VisibleRows
