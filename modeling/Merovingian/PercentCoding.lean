import Merovingian.FederationPolicy

/-!
Path components as the routes carry them. What the encoder writes is read back by the
decoder of `FederationPolicy`, whose escapes are looked for at every position.
-/

namespace Merovingian.PercentCoding

open ByteString FederationPolicy List

def isUnreservedPathByte (character : UInt8) : Bool :=
  (byte 'A' ≤ character && character ≤ byte 'Z') ||
    (byte 'a' ≤ character && character ≤ byte 'z') ||
    (byte '0' ≤ character && character ≤ byte '9') || character = byte '-' ||
    character = byte '.' || character = byte '_' || character = byte '~'

def hexDigit (nibble : UInt8) : UInt8 :=
  if nibble < 10 then byte '0' + nibble else byte 'A' + (nibble - 10)

def percentEncodePathComponent : Bytes → Bytes
  | [] => []
  | character :: rest =>
    if isUnreservedPathByte character then character :: percentEncodePathComponent rest
    else byte '%' :: hexDigit (character >>> 4) :: hexDigit (character &&& 0x0F) ::
      percentEncodePathComponent rest

inductive EscapedText : Bytes → Prop
  | nil : EscapedText []
  | unreserved {character : UInt8} {rest : Bytes} (hplain : isUnreservedPathByte character = true)
      (hrest : EscapedText rest) : EscapedText (character :: rest)
  | escape {high low : UInt8} {rest : Bytes} (hhigh : (fromHex high).isSome)
      (hlow : (fromHex low).isSome) (hrest : EscapedText rest) :
      EscapedText (byte '%' :: high :: low :: rest)

/-- A percent sign with two hexadecimal digits after it. -/
def startsEscape : Bytes → Bool
  | character :: high :: low :: _ =>
    character = byte '%' && (fromHex high).isSome && (fromHex low).isSome
  | _ => false

theorem decode_of_literal {character : UInt8} {rest : Bytes}
    (hliteral : startsEscape (character :: rest) = false) :
    percentDecodePathComponent (character :: rest) =
      character :: percentDecodePathComponent rest := by
  match rest with
  | [] => rfl
  | [second] => rfl
  | high :: low :: rest =>
    rw [percentDecodePathComponent]
    split_ifs with hpercent
    · cases hhigh : fromHex high <;> cases hlow : fromHex low <;>
        simp [startsEscape, hpercent, hhigh, hlow] at hliteral ⊢
    · rfl

theorem decode_of_ne {character : UInt8} (hne : character ≠ byte '%') (rest : Bytes) :
    percentDecodePathComponent (character :: rest) =
      character :: percentDecodePathComponent rest := by
  refine decode_of_literal ?_
  unfold startsEscape
  split
  · next heq =>
      obtain ⟨rfl, -⟩ := cons.inj heq
      simp [hne]
  · rfl

theorem decode_of_escape {high low first second : UInt8} (hhigh : fromHex high = some first)
    (hlow : fromHex low = some second) (rest : Bytes) :
    percentDecodePathComponent (byte '%' :: high :: low :: rest) =
      (first <<< 4 ||| second) :: percentDecodePathComponent rest := by
  rw [percentDecodePathComponent, if_pos rfl, hhigh, hlow]

theorem ne_percent_of_unreserved (character : UInt8) :
    isUnreservedPathByte character = true → character ≠ byte '%' := by
  revert character
  apply forall_byte
  decide +kernel

theorem fromHex_hexDigit (character : UInt8) :
    fromHex (hexDigit (character >>> 4)) = some (character >>> 4) ∧
      fromHex (hexDigit (character &&& 0x0F)) = some (character &&& 0x0F) ∧
      (character >>> 4) <<< 4 ||| (character &&& 0x0F) = character := by
  revert character
  apply forall_byte
  decide +kernel

theorem decode_encode (decoded : Bytes) :
    percentDecodePathComponent (percentEncodePathComponent decoded) = decoded := by
  induction decoded with
  | nil => rfl
  | cons character rest ih =>
    rw [percentEncodePathComponent]
    split_ifs with hplain
    · rw [decode_of_ne (ne_percent_of_unreserved character hplain), ih]
    · obtain ⟨hhigh, hlow, hjoined⟩ := fromHex_hexDigit character
      rw [decode_of_escape hhigh hlow, hjoined, ih]

theorem escapedText_encode (decoded : Bytes) :
    EscapedText (percentEncodePathComponent decoded) := by
  induction decoded with
  | nil => exact .nil
  | cons character rest ih =>
    rw [percentEncodePathComponent]
    split_ifs with hplain
    · exact .unreserved hplain ih
    · obtain ⟨hhigh, hlow, -⟩ := fromHex_hexDigit character
      exact .escape (by simp [hhigh]) (by simp [hlow]) ih

theorem decode_of_not_mem {text : Bytes} (hnone : byte '%' ∉ text) :
    percentDecodePathComponent text = text := by
  induction text with
  | nil => rfl
  | cons character rest ih =>
    rw [mem_cons, not_or] at hnone
    rw [decode_of_ne (Ne.symm hnone.1), ih hnone.2]

/-- Path components survive the coding. The decoder reads a whole escape as the byte that it
stands for and passes every other character through, wherever it is. -/
theorem percentCoding_faithful :
    (∀ decoded, percentDecodePathComponent (percentEncodePathComponent decoded) = decoded ∧
      EscapedText (percentEncodePathComponent decoded)) ∧
    Function.Injective percentEncodePathComponent ∧
    (∀ text, byte '%' ∉ text → percentDecodePathComponent text = text) ∧
    percentDecodePathComponent [] = [] ∧
    (∀ character rest, startsEscape (character :: rest) = false →
      percentDecodePathComponent (character :: rest) =
        character :: percentDecodePathComponent rest) ∧
    ∀ high low first second rest, fromHex high = some first → fromHex low = some second →
      percentDecodePathComponent (byte '%' :: high :: low :: rest) =
        (first <<< 4 ||| second) :: percentDecodePathComponent rest :=
  ⟨fun decoded => ⟨decode_encode decoded, escapedText_encode decoded⟩,
    Function.LeftInverse.injective decode_encode, fun _ => decode_of_not_mem, rfl,
    fun _ _ => decode_of_literal, fun _ _ _ _ rest hhigh hlow => decode_of_escape hhigh hlow rest⟩

end Merovingian.PercentCoding
