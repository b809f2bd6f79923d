import Mathlib.Data.List.Basic

/-!
Reading rows back page by page, from the last row of one page to the next. Nothing
here mentions the homeserver.
-/

namespace Merovingian.BackwardPages

open List

variable {Row Cursor : Type}

/-- The rows of `count` pages, each one read from the last row of the page before; an
empty page is the end. -/
def pages (page : Cursor → List Row) (cursorAt : Row → Cursor) : Nat → Cursor → List Row
  | 0, _ => []
  | count + 1, cursor =>
    page cursor ++ ((page cursor).getLast?.map fun last =>
      pages page cursorAt count (cursorAt last)).getD []

variable {page : Cursor → List Row} {cursorAt : Row → Cursor} {cursor : Cursor} {row last : Row}
  {count : Nat}

/-- A row is reached from every newer row if no other row has its key. The induction is
on the key of the row that is read from: a page that does not have the row ends with one
that is still newer. -/
theorem exists_mem_pages {rows : List Row} {key : Row → Nat} {size : Nat} (hsize : 0 < size)
    (hsorted : rows.Pairwise fun newer older => key older ≤ key newer)
    (hpage : ∀ start ∈ rows,
      page (cursorAt start) = (rows.filter fun older => key older < key start).take size)
    (hrow : row ∈ rows) (hdistinct : ∀ other ∈ rows, key other = key row → other = row)
    {start : Row} (hstart : start ∈ rows) (hnewer : key row < key start) :
    ∃ count, row ∈ pages page cursorAt count (cursorAt start) := by
  induction hbound : key start using Nat.strongRecOn generalizing start with
  | _ bound ih =>
    subst hbound
    set older := rows.filter fun older => key older < key start
    have hmem : row ∈ older := mem_filter.mpr ⟨hrow, decide_eq_true hnewer⟩
    by_cases hfirst : row ∈ older.take size
    · exact ⟨1, mem_append_left _ (hpage start hstart ▸ hfirst)⟩
    · have hrest : row ∈ older.drop size := by
        rw [← take_append_drop size older] at hmem
        exact (mem_append.mp hmem).resolve_left hfirst
      have hnonempty : older.take size ≠ [] := by
        simp [ne_nil_of_mem hmem, Nat.pos_iff_ne_zero.mp hsize]
      obtain ⟨last, hlast⟩ : ∃ last, (older.take size).getLast? = some last :=
        ⟨_, getLast?_eq_some_getLast hnonempty⟩
      have hlastMem : last ∈ older.take size := mem_of_getLast? hlast
      obtain ⟨hlastRows, hlastOlder⟩ := mem_filter.mp (mem_of_mem_take hlastMem)
      have hle : key row ≤ key last :=
        (hsorted.filter _).rel_of_mem_take_of_mem_drop hlastMem hrest
      have hne : key row ≠ key last := by
        intro heq
        exact hfirst (hdistinct last hlastRows heq.symm ▸ hlastMem)
      obtain ⟨count, hcount⟩ := ih (key last) (of_decide_eq_true hlastOlder) hlastRows
        (Nat.lt_of_le_of_ne hle hne) rfl
      refine ⟨count + 1, ?_⟩
      rw [pages, hpage start hstart, hlast]
      exact mem_append_right _ hcount

end Merovingian.BackwardPages
