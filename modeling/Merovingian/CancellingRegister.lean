import Mathlib.Data.List.Induction
import Mathlib.Data.List.Duplicate
import Mathlib.Data.List.Perm.Basic
import Mathlib.Algebra.Group.Nat.Even

/-!
A register that reads a list of values. An empty register takes the value it
reads, a register that holds the value keeps it, and a register that holds a
different value is cleared. The module says which lists leave the register
empty, and for which lists what is left does not depend on their order.
-/

namespace Merovingian.CancellingRegister

open List

universe u

variable {α : Type u} [DecidableEq α]

def offer : Option α → α → Option α
  | none, value => some value
  | some held, value => if held ≠ value then none else some held

def leftover (values : List α) : Option α :=
  values.foldl offer none

/-- Lists that split into blocks of one repeated value closed by a different
value. -/
inductive CancelsOut : List α → Prop where
  | nil : CancelsOut []
  | block (held : α) (repeats : Nat) (closing : α) (rest : List α) :
      held ≠ closing → CancelsOut rest →
      CancelsOut (List.replicate (repeats + 1) held ++ closing :: rest)

theorem foldl_offer_replicate (held : α) (repeats : Nat) :
    (replicate repeats held).foldl offer (some held) = some held := by
  induction repeats with
  | zero => rfl
  | succ repeats ih => simpa [replicate_succ, offer] using ih

theorem leftover_replicate_append (held : α) (repeats : Nat) (rest : List α) :
    leftover (replicate (repeats + 1) held ++ rest) = rest.foldl offer (some held) := by
  rw [leftover, foldl_append, replicate_succ, foldl_cons, offer, foldl_offer_replicate]

theorem leftover_block {held closing : α} (hdiffer : held ≠ closing) (repeats : Nat)
    (rest : List α) :
    leftover (replicate (repeats + 1) held ++ closing :: rest) = leftover rest := by
  rw [leftover_replicate_append, foldl_cons, offer, if_pos hdiffer, leftover]

variable {value : α} {values : List α}

theorem exists_block_of_foldl_eq_none {held : α} (h : values.foldl offer (some held) = none) :
    ∃ repeats closing rest, held ≠ closing ∧
      values = replicate repeats held ++ closing :: rest ∧ leftover rest = none := by
  induction values with
  | nil => simp at h
  | cons value values ih =>
    rw [foldl_cons, offer] at h
    by_cases hdiffer : held ≠ value
    · rw [if_pos hdiffer] at h
      exact ⟨0, value, values, hdiffer, rfl, h⟩
    · rw [if_neg hdiffer] at h
      obtain ⟨repeats, closing, rest, hclosing, rfl, hrest⟩ := ih h
      refine ⟨repeats + 1, closing, rest, hclosing, ?_, hrest⟩
      rw [← not_not.mp hdiffer, replicate_succ, cons_append]

theorem leftover_eq_none_iff (values : List α) : leftover values = none ↔ CancelsOut values := by
  constructor
  · -- Every block is shorter than the list it starts, so recurse on the rest.
    induction hlength : values.length using Nat.strong_induction_on generalizing values with
    | _ length ih =>
      intro hnone
      cases values with
      | nil => exact CancelsOut.nil
      | cons held values =>
        obtain ⟨repeats, closing, rest, hclosing, rfl, hrest⟩ :=
          exists_block_of_foldl_eq_none hnone
        have hcancels : CancelsOut rest := by
          refine ih rest.length ?_ rest rfl hrest
          simp only [← hlength, length_cons, length_append]
          omega
        simpa [replicate_succ] using
          CancelsOut.block held repeats closing rest hclosing hcancels
  · intro hcancels
    induction hcancels with
    | nil => rfl
    | block held repeats closing rest hclosing _ ih =>
      rw [leftover_block hclosing, ih]

theorem leftover_of_agreed (hne : values ≠ []) (hagreed : ∀ other ∈ values, other = value) :
    leftover values = some value := by
  rw [eq_replicate_of_mem hagreed]
  cases hlength : values.length with
  | zero => exact absurd (length_eq_zero_iff.mp hlength) hne
  | succ repeats => simpa using leftover_replicate_append value repeats []

theorem mem_of_foldl_offer_eq_some {held : Option α} (h : values.foldl offer held = some value) :
    held = some value ∨ value ∈ values := by
  induction values generalizing held with
  | nil => exact Or.inl h
  | cons head values ih =>
    rcases ih h with hread | hmem
    · cases held with
      | none =>
        obtain rfl : head = value := by simpa [offer] using hread
        exact Or.inr mem_cons_self
      | some other =>
        by_cases hdiffer : other = head
        · exact Or.inl (by simpa [offer, hdiffer] using hread)
        · simp [offer, hdiffer] at hread
    · exact Or.inr (mem_cons_of_mem head hmem)

theorem mem_of_leftover_eq_some (h : leftover values = some value) : value ∈ values := by
  rcases mem_of_foldl_offer_eq_some h with hnone | hmem
  · cases hnone
  · exact hmem

theorem leftover_of_nodup (hnodup : values.Nodup) :
    leftover values = if Even values.length then none else values.getLast? := by
  induction values using twoStepInduction with
  | nil => rfl
  | singleton value => rfl
  | cons_cons first second rest ih _ =>
    obtain ⟨hfirst, hnodup⟩ := nodup_cons.mp hnodup
    have hdiffer : first ≠ second := fun h => hfirst (h ▸ mem_cons_self)
    have hblock : leftover (first :: second :: rest) = leftover rest := by
      simpa using leftover_block hdiffer 0 rest
    rw [hblock, ih (nodup_cons.mp hnodup).2]
    have hparity : Even (first :: second :: rest).length ↔ Even rest.length := by
      simp [Nat.even_add_one]
    simp only [hparity]
    split
    · rfl
    · next hodd =>
        cases rest with
        | nil => exact absurd Even.zero hodd
        | cons third rest => simp [getLast?_cons_cons]

theorem leftover_append_pair (values : List α) (value : α) :
    leftover (values ++ [value, value]) = some value := by
  rw [leftover, foldl_append]
  cases values.foldl offer none with
  | none => simp [offer]
  | some held =>
    by_cases hdiffer : held = value
    · simp [offer, hdiffer]
    · simp [offer, hdiffer]

theorem leftover_replicate_append_ne {others : List α} (repeats : Nat) (hne : others ≠ [])
    (hothers : value ∉ others) :
    leftover (replicate (repeats + 1) value ++ others) ≠ some value := by
  cases others with
  | nil => exact absurd rfl hne
  | cons closing rest =>
    rw [mem_cons, not_or] at hothers
    rw [leftover_block hothers.1]
    exact fun hsome => hothers.2 (mem_of_leftover_eq_some hsome)

theorem leftover_not_invariant_of_repeated {other : α} (hrepeated : 2 ≤ values.count value)
    (hother : other ∈ values) (hdiffer : other ≠ value) :
    ∃ first second, first.Perm values ∧ second.Perm values ∧ leftover first ≠ leftover second := by
  refine ⟨(values.erase value).erase value ++ [value, value],
    replicate (values.count value) value ++ values.filter (· ≠ value), ?_, ?_, ?_⟩
  · have hmem : value ∈ values := count_pos_iff.mp (by omega)
    have hagain : value ∈ values.erase value := by
      rw [← count_pos_iff, count_erase_self]
      omega
    calc (values.erase value).erase value ++ [value, value]
        _ |>.Perm (value :: value :: (values.erase value).erase value) :=
          perm_append_comm
        _ |>.Perm (value :: values.erase value) :=
          (perm_cons_erase hagain).symm.cons value
        _ |>.Perm values := (perm_cons_erase hmem).symm
  · rw [← filter_eq value]
    simpa using filter_append_perm (· = value) values
  · rw [leftover_append_pair]
    obtain ⟨repeats, hcount⟩ : ∃ repeats, values.count value = repeats + 1 :=
      ⟨values.count value - 1, by omega⟩
    rw [hcount]
    refine (leftover_replicate_append_ne repeats ?_ (by simp)).symm
    exact ne_nil_of_mem (mem_filter.mpr ⟨hother, by simpa using hdiffer⟩)

theorem leftover_not_invariant_of_odd (hnodup : values.Nodup) (hodd : ¬Even values.length)
    (hlength : 2 ≤ values.length) : leftover values.reverse ≠ leftover values := by
  have hreverse : ¬Even values.reverse.length := by rwa [length_reverse]
  rw [leftover_of_nodup hnodup, leftover_of_nodup (nodup_reverse.mpr hnodup),
    if_neg hodd, if_neg hreverse, getLast?_reverse]
  cases values with
  | nil => simp at hlength
  | cons first rest =>
    have hrest : rest ≠ [] := by
      rintro rfl
      simp at hlength
    rw [head?_cons, getLast?_cons, getLast?_eq_some_getLast hrest, Option.getD_some]
    intro hsame
    exact (nodup_cons.mp hnodup).1 (Option.some.inj hsame ▸ getLast_mem hrest)

/-- What is left is the same in every order exactly when the values all agree,
or are distinct and even in number. -/
theorem leftover_invariant_iff (values : List α) :
    (∀ other, other.Perm values → leftover other = leftover values) ↔
      (∀ a ∈ values, ∀ b ∈ values, a = b) ∨ Even values.length ∧ values.Nodup := by
  constructor
  · intro hinvariant
    by_contra hcases
    rw [not_or] at hcases
    obtain ⟨hdisagree, hcases⟩ := hcases
    push Not at hdisagree
    obtain ⟨a, ha, b, hb, hdiffer⟩ := hdisagree
    by_cases hnodup : values.Nodup
    · have hlength : 2 ≤ values.length := by
        have hsub : [a, b].Subperm values :=
          subperm_of_subset (by simp [hdiffer]) (by simp [ha, hb])
        simpa using hsub.length_le
      exact leftover_not_invariant_of_odd hnodup (fun heven => hcases ⟨heven, hnodup⟩)
        hlength (hinvariant _ (reverse_perm values))
    · obtain ⟨value, hduplicate⟩ := exists_duplicate_iff_not_nodup.mpr hnodup
      have hrepeated : 2 ≤ values.count value := duplicate_iff_two_le_count.mp hduplicate
      obtain ⟨other, hother, hne⟩ : ∃ other ∈ values, other ≠ value := by
        by_cases hvalue : a = value
        · exact ⟨b, hb, fun h => hdiffer (hvalue.trans h.symm)⟩
        · exact ⟨a, ha, hvalue⟩
      obtain ⟨first, second, hfirst, hsecond, hleft⟩ :=
        leftover_not_invariant_of_repeated hrepeated hother hne
      exact hleft ((hinvariant first hfirst).trans (hinvariant second hsecond).symm)
  · rintro (hagree | ⟨heven, hnodup⟩) other hperm
    · cases values with
      | nil => rw [perm_nil.mp hperm]
      | cons value values =>
        have hvalue : ∀ x ∈ value :: values, x = value := fun x hx =>
          hagree x hx value mem_cons_self
        rw [leftover_of_agreed (cons_ne_nil value values) hvalue]
        refine leftover_of_agreed ?_ fun x hx => hvalue x (hperm.mem_iff.mp hx)
        rintro rfl
        exact cons_ne_nil value values (perm_nil.mp hperm.symm)
    · rw [leftover_of_nodup hnodup, leftover_of_nodup (hperm.nodup_iff.mpr hnodup),
        hperm.length_eq, if_pos heven, if_pos heven]

end Merovingian.CancellingRegister
