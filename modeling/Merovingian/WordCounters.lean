import Mathlib.Data.UInt

/-!
Counters in 64-bit words: the successor is greater except at the end of the
range, the predecessor is less except at zero. Nothing here mentions the homeserver.
-/

namespace Merovingian.WordCounters

variable {numbers : List UInt64} {next counter : UInt64}

theorem toNat_succ (h : counter ≠ 18446744073709551615) :
    (counter + 1).toNat = counter.toNat + 1 := by
  have hne : counter.toNat ≠ 18446744073709551615 := fun heq => h (UInt64.toNat_inj.mp heq)
  have hlt := counter.toNat_lt
  exact Nat.mod_eq_of_lt (by simpa using by omega)

theorem lt_succ (h : counter ≠ 18446744073709551615) : counter < counter + 1 := by
  rw [UInt64.lt_iff_toNat_lt, toNat_succ h]
  omega

theorem one_le (h : 0 < counter) : 1 ≤ counter :=
  UInt64.le_iff_toNat_le.mpr (UInt64.lt_iff_toNat_lt.mp h)

theorem pred_lt (h : 0 < counter) : counter - 1 < counter :=
  UInt64.sub_lt (by decide) (one_le h)

theorem pred_le_pred {later : UInt64} (h : 0 < counter) (hle : counter ≤ later) :
    counter - 1 ≤ later - 1 := by
  have hone := one_le h
  rw [UInt64.le_iff_toNat_le, UInt64.toNat_sub_of_le _ _ hone,
    UInt64.toNat_sub_of_le _ _ (UInt64.le_trans hone hle)]
  exact Nat.sub_le_sub_right (UInt64.le_iff_toNat_le.mp hle) _

/-- What a counter has given out: each number once, and none from `next` on. -/
structure GivenOut (numbers : List UInt64) (next : UInt64) : Prop where
  nodup : numbers.Nodup
  below : ∀ number ∈ numbers, number < next

theorem GivenOut.perm {others : List UInt64} (h : GivenOut numbers next)
    (hperm : numbers.Perm others) : GivenOut others next :=
  ⟨hperm.nodup_iff.mp h.nodup, fun number hmem => h.below number (hperm.mem_iff.mpr hmem)⟩

theorem GivenOut.tail {number : UInt64} (h : GivenOut (number :: numbers) next) :
    GivenOut numbers next :=
  ⟨(List.nodup_cons.mp h.nodup).2, fun other hmem => h.below other (List.mem_cons_of_mem _ hmem)⟩

theorem GivenOut.take (h : GivenOut numbers next) (hnext : next ≠ 18446744073709551615) :
    GivenOut (next :: numbers) (next + 1) := by
  refine ⟨List.nodup_cons.mpr ⟨fun hmem => UInt64.lt_irrefl _ (h.below _ hmem), h.nodup⟩, ?_⟩
  intro number hmem
  rcases List.mem_cons.mp hmem with rfl | hold
  · exact lt_succ hnext
  · exact UInt64.lt_trans (h.below _ hold) (lt_succ hnext)

end Merovingian.WordCounters
