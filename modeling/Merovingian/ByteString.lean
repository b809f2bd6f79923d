import Mathlib.Data.List.Lex
import Mathlib.Data.String.Basic

/-!
Byte strings, as `std::string` holds them, and the part of the numeric text
conversion library that works on them. Nothing here mentions the homeserver.

A text constant of the program is written as a string literal and coerced
through its UTF-8 bytes, which is injective, so distinct constants stay
distinct without evaluating any byte.
-/

namespace Merovingian.ByteString

abbrev Bytes := List UInt8

instance lawfulBEqBytes : LawfulBEq Bytes := inferInstance

/-- The UTF-8 bytes of a text constant. -/
def utf8 (text : String) : Bytes := text.toByteArray.data.toList

instance : Coe String Bytes := ⟨utf8⟩

def byte (character : Char) : UInt8 := character.toNat.toUInt8

@[simp] theorem utf8_inj {s t : String} : utf8 s = utf8 t ↔ s = t := by
  constructor
  · intro h
    have hdata := Array.toList_inj.mp h
    exact String.toByteArray_inj.mp (ByteArray.ext hdata)
  · rintro rfl
    rfl

@[simp] theorem utf8_empty : utf8 "" = [] := by
  rfl

@[simp] theorem utf8_eq_nil_iff {s : String} : utf8 s = [] ↔ s = "" := by
  rw [← utf8_empty, utf8_inj]

instance linearOrderUInt8 : LinearOrder UInt8 where
  le_refl _ := UInt8.le_refl _
  le_trans _ _ _ := UInt8.le_trans
  lt_iff_le_not_ge _ _ := by grind
  le_antisymm _ _ := UInt8.le_antisymm
  le_total := UInt8.le_total
  toDecidableLE := inferInstance
  toDecidableEq := inferInstance
  toDecidableLT := inferInstance

instance linearOrderInt64 : LinearOrder Int64 where
  le_refl _ := Int64.le_refl _
  le_trans _ _ _ := Int64.le_trans
  lt_iff_le_not_ge _ _ := by grind
  le_antisymm _ _ := Int64.le_antisymm
  le_total := Int64.le_total
  toDecidableLE := inferInstance
  toDecidableEq := inferInstance
  toDecidableLT := inferInstance

theorem forall_byte {motive : UInt8 → Prop} (h : ∀ n : Fin 256, motive (UInt8.ofFin n))
    (character : UInt8) : motive character := by
  simpa using h character.toFin

theorem le_maxValue (n : Int64) : n ≤ Int64.maxValue := by
  grind

def isDigit (character : UInt8) : Bool :=
  byte '0' ≤ character && character ≤ byte '9'

def digitsValue (digits : Bytes) : Nat :=
  digits.foldl (fun value digit => 10 * value + (digit.toNat - (byte '0').toNat)) 0

/-- What `std::from_chars` reports for a 64-bit signed target: the value with
the text it did not consume, or one of its two errors. -/
inductive FromCharsResult where
  | ok (value : Int64) (rest : Bytes)
  | invalidArgument
  | resultOutOfRange
deriving DecidableEq

/-- `std::from_chars` in base ten: an optional minus sign and the longest
non-empty run of digits. A plus sign and leading blanks are not consumed. -/
def fromChars (text : Bytes) : FromCharsResult :=
  let (negative, unsigned) :=
    match text with
    | [] => (false, [])
    | first :: rest => if first = byte '-' then (true, rest) else (false, text)
  let digits := unsigned.takeWhile isDigit
  if digits.isEmpty then .invalidArgument
  else
    let value : Int :=
      if negative then -(digitsValue digits : Int) else digitsValue digits
    if value < Int64.minValue.toInt ∨ Int64.maxValue.toInt < value then
      .resultOutOfRange
    else .ok (Int64.ofInt value) (unsigned.dropWhile isDigit)

def splitAtFirst (separator : UInt8) : Bytes → Option (Bytes × Bytes)
  | [] => none
  | character :: rest =>
    if character = separator then some ([], rest)
    else (splitAtFirst separator rest).map fun parts =>
      (character :: parts.1, parts.2)

end Merovingian.ByteString
