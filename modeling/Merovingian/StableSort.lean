import Mathlib.Data.List.Sort
import Mathlib.Data.Prod.Lex
import Mathlib.Logic.Relation

/-!
Stable sorting with a comparator. When the comparator is the strict order of
some key and equal keys mean equal elements, the sorted list does not depend
on the order of the input; and it is a topological order only if the comparator
itself follows the links.
-/

namespace Merovingian.StableSort

open List

universe u v

variable {α : Type u}

/-- Insertion sort is stable: an element goes in front of the first one that
the comparator does not place strictly before it. -/
def stableSort (before : α → α → Bool) (elements : List α) : List α :=
  elements.insertionSort fun a b => before b a = false

theorem perm_stableSort (before : α → α → Bool) (elements : List α) :
    (stableSort before elements).Perm elements :=
  perm_insertionSort _ elements

theorem mem_stableSort {before : α → α → Bool} {elements : List α} {element : α} :
    element ∈ stableSort before elements ↔ element ∈ elements :=
  (perm_stableSort before elements).mem_iff

section Key

variable {γ : Type v} [LinearOrder γ] {before : α → α → Bool} {key : α → γ}

variable (hkey : ∀ a b, before a b = true ↔ key a < key b)

include hkey

theorem pairwise_stableSort (elements : List α) :
    (stableSort before elements).Pairwise fun a b => key a ≤ key b := by
  have hnot : ∀ a b, before b a = false ↔ key a ≤ key b := fun a b => by
    rw [← Bool.not_eq_true, hkey, not_lt]
  have htotal : Std.Total fun a b : α => before b a = false :=
    ⟨fun a b => by
      rw [hnot, hnot]
      exact le_total (key a) (key b)⟩
  have htrans : IsTrans α fun a b : α => before b a = false :=
    ⟨fun a b c hab hbc => by
      rw [hnot] at hab hbc ⊢
      exact le_trans hab hbc⟩
  exact (pairwise_insertionSort _ elements).imp (hnot _ _).mp

theorem stableSort_eq_of_perm {first second : List α}
    (hinjective : ∀ a ∈ first, ∀ b ∈ first, key a = key b → a = b) (hperm : first.Perm second) :
    stableSort before first = stableSort before second := by
  refine List.Perm.eq_of_pairwise ?_ (pairwise_stableSort hkey first)
    (pairwise_stableSort hkey second)
    ((perm_stableSort before first).trans
      (hperm.trans (perm_stableSort before second).symm))
  intro a b ha hb hab hba
  refine hinjective a (mem_stableSort.mp ha) b ?_ (le_antisymm hab hba)
  exact hperm.mem_iff.mpr (mem_stableSort.mp hb)

/-- A topological order of elements of which some cite others, with Kahn's choice: each
place goes to the least of those whose citations all stand before it. -/
structure KahnOrder (Cites : α → α → Prop) (before : α → α → Bool) (elements order : List α) :
    Prop where
  perm : order.Perm elements
  cited : ∀ {cited element}, Relation.TransGen
    (fun first second => first ∈ elements ∧ second ∈ elements ∧ Cites second first)
      cited element → [cited, element].Sublist order
  least : ∀ placed next rest, order = placed ++ next :: rest → ∀ other ∈ rest,
    (∀ cited ∈ elements, Cites other cited → cited ∈ placed) → before next other = true

variable {elements : List α} (hinjective : ∀ a ∈ elements, ∀ b ∈ elements, key a = key b → a = b)
  (hnodup : elements.Nodup)
include hinjective hnodup

theorem strict_stableSort : (stableSort before elements).Pairwise fun a b => before a b = true := by
  have hdistinct := (perm_stableSort before elements).nodup_iff.mpr hnodup
  refine ((pairwise_stableSort hkey elements).and hdistinct).imp_of_mem ?_
  rintro a b ha hb ⟨hle, hne⟩
  refine (hkey a b).mpr (lt_of_le_of_ne hle fun heq => hne ?_)
  exact hinjective a (mem_stableSort.mp ha) b (mem_stableSort.mp hb) heq

/-- A plain sort is Kahn's order exactly when every citation goes to a smaller element. -/
theorem kahnOrder_stableSort_iff {Cites : α → α → Prop} :
    KahnOrder Cites before elements (stableSort before elements) ↔
      ∀ cited ∈ elements, ∀ element ∈ elements, Cites element cited →
        before cited element = true := by
  have hstrict := strict_stableSort hkey hinjective hnodup
  constructor
  · intro horder cited hcited element helement hcites
    have hpair := hstrict.sublist (horder.cited (.single ⟨hcited, helement, hcites⟩))
    exact (pairwise_cons.mp hpair).1 element mem_cons_self
  · intro hsmaller
    refine ⟨perm_stableSort before elements, ?_, ?_⟩
    · intro cited element hchain
      have hbefore : cited ∈ elements ∧ element ∈ elements ∧ key cited < key element := by
        induction hchain with
        | single hlink =>
          obtain ⟨hfirst, hsecond, hcites⟩ := hlink
          exact ⟨hfirst, hsecond, (hkey _ _).mp (hsmaller _ hfirst _ hsecond hcites)⟩
        | tail _ hlink ih =>
          obtain ⟨hfirst, hsecond, hcites⟩ := hlink
          have hlt := (hkey _ _).mp (hsmaller _ hfirst _ hsecond hcites)
          exact ⟨ih.1, hsecond, ih.2.2.trans hlt⟩
      obtain ⟨hcited, helement, hlt⟩ := hbefore
      have hmem : cited ∈ stableSort before elements := mem_stableSort.mpr hcited
      have hplace : element ∈ stableSort before elements := mem_stableSort.mpr helement
      obtain ⟨placed, rest, hsplit⟩ := append_of_mem hplace
      rw [hsplit] at hstrict hmem ⊢
      rcases mem_append.mp hmem with hplaced | hlater
      · exact (singleton_sublist.mpr hplaced).append
          (singleton_sublist.mpr mem_cons_self)
      · rcases mem_cons.mp hlater with rfl | hrest
        · exact absurd hlt (lt_irrefl _)
        · have hback := (pairwise_cons.mp (pairwise_append.mp hstrict).2.1).1 cited hrest
          exact absurd hlt (lt_asymm ((hkey _ _).mp hback))
    · intro placed next rest hsplit other hother _
      rw [hsplit] at hstrict
      exact (pairwise_cons.mp (pairwise_append.mp hstrict).2.1).1 other hother

end Key

section Ranked

variable {γ δ ε : Type*}

/-- Highest rank first, then earliest time, then smallest name. -/
def rankedKey (rank : α → γ) (time : α → δ) (name : α → ε) (element : α) : γᵒᵈ ×ₗ δ ×ₗ ε :=
  toLex (OrderDual.toDual (rank element), toLex (time element, name element))

theorem name_eq_of_rankedKey_eq {rank : α → γ} {time : α → δ} {name : α → ε} {a b : α}
    (h : rankedKey rank time name a = rankedKey rank time name b) : name a = name b := by
  have hpair := toLex_inj.mp h
  exact (Prod.ext_iff.mp (toLex_inj.mp (Prod.ext_iff.mp hpair).2)).2

theorem rankedKey_lt_iff [LinearOrder γ] [LinearOrder δ] [LinearOrder ε] (rank : α → γ)
    (time : α → δ) (name : α → ε) (a b : α) :
    rankedKey rank time name a < rankedKey rank time name b ↔ rank b < rank a ∨ rank a = rank b ∧
        (time a < time b ∨ time a = time b ∧ name a < name b) := by
  simp only [rankedKey, Prod.Lex.toLex_lt_toLex, OrderDual.toDual_lt_toDual, OrderDual.toDual_inj]

end Ranked

end Merovingian.StableSort
