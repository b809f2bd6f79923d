import Mathlib.Algebra.Ring.Int.Defs
import Merovingian.CanonicalRoundTrip

/-!
Integers in the two JSON parsers. The lossless parser reads a number from its token;
the other one takes the integer that the library reports, of either sign, as a signed one.
-/

namespace Merovingian.JsonIntegers

open ByteString DecimalText JsonValue CanonicalSerializer CanonicalParser CanonicalForm
  CanonicalRoundTrip

inductive YyjsonNumber where
  | uint (value : UInt64)
  | sint (value : Int64)
  | real (bits : UInt64)
deriving DecidableEq

/-- `yyjson_is_int` holds of both kinds of integers and `yyjson_get_sint` reads the 64 bits
of either as signed. -/
def numberNode : YyjsonNumber → YyjsonValue
  | .uint value => .integer value.toInt64
  | .sint value => .integer value
  | .real bits => .real bits

def tokenValue (token : Bytes) : Int :=
  if token.head? = some (byte '-') then -digitsValue token.tail else digitsValue token

/-- What the library reports for an integer token: a floating-point number if it has no
64 bits for it. -/
def readInteger (toDouble : Bytes → UInt64) (token : Bytes) : YyjsonNumber :=
  if 0 ≤ tokenValue token ∧ tokenValue token < 2 ^ 64 then
    .uint (.ofNat (tokenValue token).toNat)
  else if -2 ^ 63 ≤ tokenValue token ∧ tokenValue token < 0 then
    .sint (.ofInt (tokenValue token))
  else .real (toDouble token)

/-- The body of `parse_lossless` with another read flag. -/
def parseJson (readNumbers : Bytes → Except YyjsonReadCode YyjsonDocument) (input : Bytes) :
    Except ParseError Value :=
  parseLossless ⟨readNumbers⟩ input

theorem parseLossless_of_read {yyjson : Yyjson} {input : Bytes} {root : YyjsonValue} {value : Value}
    (hread : yyjson.readRawNumbers input = .ok ⟨root, input.length⟩) :
    parseLossless yyjson input = .ok value ↔ inputIsBlank input = false ∧
      utf8IsValid input = true ∧ convertYyjsonValue 0 root = .ok value := by
  rw [parseLossless, hread]
  split_ifs <;> simp_all

theorem toInt_toInt64_iff (n : UInt64) : n.toInt64.toInt = n.toNat ↔ n.toNat < 2 ^ 63 := by
  have hlt := n.toNat_lt
  have hsame : n.toInt64.toBitVec.toNat = n.toNat := rfl
  rw [← Int64.toInt_toBitVec, BitVec.toInt_eq_toNat_cond, hsame]
  split_ifs <;> omega

/-- The lossless parser takes exactly the decimal forms of safe integers; an integer of the other
parser is the one that its token denotes if and only if that is below 2^63. -/
theorem integers_exact_iff (token : Bytes) :
    (∀ yyjson : Yyjson, yyjson.readRawNumbers token = .ok ⟨.raw token, token.length⟩ →
      ∀ n, parseLossless yyjson token = .ok (.integer n) ↔
        token = utf8 (toString n.toInt) ∧ -2 ^ 53 + 1 ≤ n.toInt ∧ n.toInt ≤ 2 ^ 53 - 1) ∧
    ∀ readNumbers toDouble,
      readNumbers token = .ok ⟨numberNode (readInteger toDouble token), token.length⟩ →
      ∀ n, parseJson readNumbers token = .ok (.integer n) →
        (n.toInt = tokenValue token ↔ tokenValue token < 2 ^ 63) := by
  constructor
  · intro yyjson hread n
    rw [parseLossless_of_read hread, convertYyjsonValue.eq_def, if_neg (by decide)]
    simp only [rawNumberAsInt64_eq_ok_iff, Value.integer.injEq, exists_eq_left',
      Int64.le_iff_toInt_le]
    refine ⟨fun h => h.2.2, fun h => ⟨?_, ?_, h⟩⟩
    · rw [h.1]
      exact inputIsBlank_orderedText (.integer n)
    · rw [h.1]
      exact utf8IsValid_orderedText (.integer n)
  · intro readNumbers toDouble hread n hparse
    obtain ⟨-, -, hconvert⟩ := (parseLossless_of_read hread).mp hparse
    rw [convertYyjsonValue.eq_def, if_neg (by decide), readInteger] at hconvert
    split_ifs at hconvert with hunsigned hsigned <;> cases hconvert
    · have hvalue : (UInt64.ofNat (tokenValue token).toNat).toNat = (tokenValue token).toNat :=
        UInt64.toNat_ofNat_of_lt' (show _ < 2 ^ 64 by omega)
      have hexact := toInt_toInt64_iff (.ofNat (tokenValue token).toNat)
      rw [hvalue] at hexact
      omega
    · have hvalue := Int64.toInt_ofInt_of_le hsigned.1 (by omega)
      omega

theorem unsigned_token_is_negative :
    let token := utf8 "9223372036854775808"
    parseJson (fun input => .ok ⟨numberNode (readInteger (fun _ => 0) input), input.length⟩)
        token = .ok (.integer Int64.minValue) ∧ tokenValue token = 2 ^ 63 := by
  intro token
  have hread : readInteger (fun _ => 0) token = .uint 9223372036854775808 := by decide +kernel
  refine ⟨(parseLossless_of_read rfl).mpr ⟨by decide, by decide, ?_⟩, by decide +kernel⟩
  rw [hread, convertYyjsonValue.eq_def]
  rfl

end Merovingian.JsonIntegers
