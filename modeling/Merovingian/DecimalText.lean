import Mathlib.Data.List.Induction
import Mathlib.Data.List.TakeWhile
import Merovingian.ByteString

/-!
The decimal text of an integer and what reading it back gives. Nothing here
mentions the homeserver.
-/

namespace Merovingian.DecimalText

open ByteString List

theorem utf8_append (first second : String) :
    utf8 (first ++ second) = utf8 first ++ utf8 second := by
  simp [utf8]

def decimalDigits (n : Nat) : Bytes :=
  (Nat.toDigits 10 n).map byte

theorem isDigit_byte_digitChar {digit : Nat} (hdigit : digit < 10) :
    isDigit (byte (Nat.digitChar digit)) = true ∧
      (byte (Nat.digitChar digit)).toNat - (byte '0').toNat = digit := by
  revert digit
  decide

theorem decimalDigits_of_lt {n : Nat} (h : n < 10) :
    decimalDigits n = [byte (Nat.digitChar n)] := by
  rw [decimalDigits, Nat.toDigits_of_lt_base h]
  rfl

theorem decimalDigits_of_ge {n : Nat} (h : 10 ≤ n) :
    decimalDigits n = decimalDigits (n / 10) ++ [byte (Nat.digitChar (n % 10))] := by
  rw [decimalDigits, Nat.toDigits_of_base_le (by omega) h, map_append]
  rfl

theorem digitInduction {base : Nat} (hbase : 1 < base) {motive : Nat → Prop}
    (single : ∀ n < base, motive n) (more : ∀ n, base ≤ n → motive (n / base) → motive n)
    (n : Nat) : motive n := by
  induction n using Nat.strong_induction_on with
  | _ n ih =>
    rcases Nat.lt_or_ge n base with hlt | hge
    · exact single n hlt
    · exact more n hge (ih (n / base) (Nat.div_lt_self (by omega) hbase))

variable (n : Nat)

theorem utf8_toString_nat : utf8 (toString n) = decimalDigits n := by
  have hall : ∀ character ∈ Nat.toDigits 10 n,
      String.utf8EncodeChar character = [byte character] := by
    intro character hmem
    have hdigit := Nat.isDigit_of_mem_toDigits (by decide) le_rfl hmem
    rw [Char.isDigit, Bool.and_eq_true, decide_eq_true_eq, decide_eq_true_eq] at hdigit
    apply String.utf8EncodeChar_eq_singleton
    exact Char.utf8Size_eq_one_iff.mpr (UInt32.le_trans hdigit.2 (by decide))
  rw [Nat.toString_eq_repr, Nat.repr_eq_ofList_toDigits, utf8, String.toByteArray_ofList,
    utf8Encode, data_toByteArray, decimalDigits, flatMap_congr hall,
    map_eq_flatMap]

theorem all_isDigit_decimalDigits : (decimalDigits n).all isDigit = true := by
  induction n using digitInduction (show 1 < 10 by decide) with
  | single n hlt => simp [decimalDigits_of_lt hlt, (isDigit_byte_digitChar hlt).1]
  | more n hge ih =>
    rw [decimalDigits_of_ge hge, all_append, ih]
    simp [(isDigit_byte_digitChar (Nat.mod_lt n (by omega : 0 < 10))).1]

theorem digitsValue_append (digits : Bytes) (digit : UInt8) : digitsValue (digits ++ [digit]) =
      10 * digitsValue digits + (digit.toNat - (byte '0').toNat) := by
  simp [digitsValue]

theorem digitsValue_decimalDigits : digitsValue (decimalDigits n) = n := by
  induction n using digitInduction (show 1 < 10 by decide) with
  | single n hlt =>
    rw [decimalDigits_of_lt hlt, ← nil_append [byte _], digitsValue_append,
      (isDigit_byte_digitChar hlt).2]
    simp [digitsValue]
  | more n hge ih =>
    rw [decimalDigits_of_ge hge, digitsValue_append, ih,
      (isDigit_byte_digitChar (Nat.mod_lt n (by omega))).2]
    omega

theorem head_decimalDigits {n : Nat} (hpos : 0 < n) :
    ∃ first rest, decimalDigits n = first :: rest ∧ first ≠ byte '0' := by
  induction n using digitInduction (show 1 < 10 by decide) with
  | single n hlt =>
    refine ⟨_, [], decimalDigits_of_lt hlt, ?_⟩
    revert n
    decide
  | more n hge ih =>
    obtain ⟨first, rest, hdigits, hfirst⟩ := ih (by omega)
    exact ⟨first, _, by rw [decimalDigits_of_ge hge, hdigits]; rfl, hfirst⟩

theorem decimalDigits_ne_nil : decimalDigits n ≠ [] := by
  rcases Nat.eq_zero_or_pos n with rfl | hpos
  · decide
  · obtain ⟨first, rest, hdigits, -⟩ := head_decimalDigits hpos
    simp [hdigits]

theorem decimalDigits_digitsValue {digits : Bytes} (hdigits : digits.all isDigit = true)
    (hne : digits ≠ []) (hzero : digits.head? ≠ some (byte '0')) :
    0 < digitsValue digits ∧ decimalDigits (digitsValue digits) = digits := by
  induction digits using reverseRecOn with
  | nil => exact absurd rfl hne
  | append_singleton digits digit ih =>
    rw [all_append, Bool.and_eq_true] at hdigits
    obtain ⟨hlow, hdigit⟩ : digit.toNat - (byte '0').toNat < 10 ∧
        byte (Nat.digitChar (digit.toNat - (byte '0').toNat)) = digit := by
      have hlast := hdigits.2
      clear ih hdigits hzero hne
      revert digit
      apply forall_byte
      decide +kernel
    rw [digitsValue_append]
    rcases eq_or_ne digits [] with rfl | hinit
    · have hpos : digit ≠ byte '0' := by simpa using hzero
      simp only [digitsValue, foldl_nil, Nat.mul_zero, Nat.zero_add, nil_append]
      rw [decimalDigits_of_lt hlow, hdigit]
      refine ⟨Nat.pos_of_ne_zero fun hnone => hpos ?_, rfl⟩
      rw [← hdigit, hnone]
      rfl
    · obtain ⟨hpos, hread⟩ := ih hdigits.1 hinit (by rwa [head?_append_of_ne_nil _ hinit] at hzero)
      refine ⟨by omega, ?_⟩
      rw [decimalDigits_of_ge (by omega), Nat.mul_add_div (by decide), Nat.div_eq_of_lt hlow,
        Nat.add_zero, hread, Nat.mul_add_mod, Nat.mod_eq_of_lt hlow, hdigit]

theorem utf8_toString_int (n : Int) : utf8 (toString n) =
      if n < 0 then byte '-' :: decimalDigits n.natAbs else decimalDigits n.natAbs := by
  rw [Int.toString_eq_repr, Int.repr_eq_if]
  split_ifs with hnonneg hneg hneg
  · omega
  · rw [← Nat.toString_eq_repr, utf8_toString_nat, show n.toNat = n.natAbs by omega]
  · rw [utf8_append, ← Nat.toString_eq_repr, utf8_toString_nat, show (-n).toNat = n.natAbs by omega]
    rfl
  · omega

theorem takeWhile_decimalDigits : (decimalDigits n).takeWhile isDigit = decimalDigits n ∧
      (decimalDigits n).dropWhile isDigit = [] := by
  have hall := all_eq_true.mp (all_isDigit_decimalDigits n)
  constructor
  · exact takeWhile_eq_self_iff.mpr hall
  · exact dropWhile_eq_nil_iff.mpr hall

theorem decimalDigits_not_sign : (decimalDigits n).head? ≠ some (byte '-') := by
  intro hhead
  have hdigit := all_eq_true.mp (all_isDigit_decimalDigits n) _
    (mem_of_mem_head? hhead)
  revert hdigit
  decide

theorem fromChars_toString_int (n : Int) : fromChars (utf8 (toString n)) =
      if n < Int64.minValue.toInt ∨ Int64.maxValue.toInt < n then .resultOutOfRange
      else .ok (Int64.ofInt n) [] := by
  obtain ⟨htake, hdrop⟩ := takeWhile_decimalDigits n.natAbs
  have hne : (decimalDigits n.natAbs).isEmpty = false := by
    simp [decimalDigits_ne_nil]
  rw [utf8_toString_int]
  rcases lt_or_ge n 0 with hneg | hneg
  · have habs : -(n.natAbs : Int) = n := by omega
    simp only [fromChars, if_pos hneg, if_true, htake, hdrop, hne, digitsValue_decimalDigits, habs,
      Bool.false_eq_true, if_false]
  · have habs : (n.natAbs : Int) = n := by omega
    have hsign := decimalDigits_not_sign n.natAbs
    have hvalue := digitsValue_decimalDigits n.natAbs
    rw [if_neg (by omega)]
    rcases hdigits : decimalDigits n.natAbs with - | ⟨first, rest⟩
    · exact absurd hdigits (decimalDigits_ne_nil _)
    · rw [hdigits] at htake hdrop hne hsign hvalue
      have hfirst : first ≠ byte '-' := by simpa using hsign
      simp only [fromChars, if_neg hfirst, htake, hdrop, hne, hvalue, habs, Bool.false_eq_true,
        if_false]

theorem fromChars_toString (n : Int64) : fromChars (utf8 (toString n.toInt)) = .ok n [] := by
  have hmin := n.minValue_le_toInt
  have hmax := n.toInt_le
  rw [fromChars_toString_int, if_neg (by omega), Int64.ofInt_toInt]

end Merovingian.DecimalText
