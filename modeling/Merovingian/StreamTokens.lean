import Mathlib.Data.List.TakeWhile
import Merovingian.DecimalText

/-!
The tokens that mark a position in the event stream, the membership stream and
the stream of the other sync surfaces: three hexadecimal numbers joined by
underscores. A token that the server has written reads back as it was.
-/

namespace Merovingian.StreamTokens

open ByteString DecimalText List

structure StreamToken where
  eventOrdering : UInt64 := 0
  membershipOrdering : UInt64 := 0
  syncStreamId : UInt64 := 0
deriving DecidableEq

def encodeComponent (value : UInt64) : Bytes :=
  (Nat.toDigits 16 value.toNat).map byte

def hexDigit (character : UInt8) : Option UInt64 :=
  if byte '0' ≤ character && character ≤ byte '9' then
    some (character - byte '0').toUInt64
  else if byte 'a' ≤ character && character ≤ byte 'f' then
    some ((character - byte 'a').toUInt64 + 10)
  else if byte 'A' ≤ character && character ≤ byte 'F' then
    some ((character - byte 'A').toUInt64 + 10)
  else none

def appendHexDigit (result : UInt64) (character : UInt8) : Option UInt64 :=
  (hexDigit character).map fun digit => (result <<< 4) + digit

def decodeComponent (encoded : Bytes) : Option UInt64 :=
  if encoded.isEmpty || encoded.length > 16 then none
  else encoded.foldlM appendHexDigit 0

def encodeStreamToken (token : StreamToken) : Bytes :=
  encodeComponent token.eventOrdering ++ utf8 "_" ++ encodeComponent token.membershipOrdering ++
    utf8 "_" ++ encodeComponent token.syncStreamId

/-- What stands before the first underscore, and behind it if there is one. -/
def cutAtUnderscore (text : Bytes) : Bytes × Option Bytes :=
  (text.takeWhile fun character => character ≠ byte '_',
    (text.dropWhile fun character => character ≠ byte '_').tail?)

def decodeStreamToken (encoded : Bytes) : Option StreamToken :=
  match cutAtUnderscore encoded with
  | (_, none) => none
  | (eventPart, some remainder) =>
    let membershipPart := (cutAtUnderscore remainder).1
    let syncPart := (cutAtUnderscore remainder).2.getD []
    if eventPart.isEmpty || membershipPart.isEmpty then none
    else do
      let eventOrdering ← decodeComponent eventPart
      let membershipOrdering ← decodeComponent membershipPart
      let syncStreamId ← if syncPart.isEmpty then some 0 else decodeComponent syncPart
      return ⟨eventOrdering, membershipOrdering, syncStreamId⟩

example : [utf8 "1f_a_3", utf8 "1_2", utf8 "1_2_3_4", utf8 "12345678123456781_1_1"].map
    decodeStreamToken = [some ⟨31, 10, 3⟩, some ⟨1, 2, 0⟩, none, none] := by
  decide +kernel

section RoundTrip

theorem hexDigit_digitChar {digit : Nat} (hdigit : digit < 16) :
    hexDigit (byte (Nat.digitChar digit)) = some (UInt64.ofNat digit) ∧
      byte (Nat.digitChar digit) ≠ byte '_' := by
  revert digit
  decide

theorem ofNat_shift (n : Nat) :
    (UInt64.ofNat (n / 16) <<< 4) + UInt64.ofNat (n % 16) = UInt64.ofNat n := by
  rw [← UInt64.toNat_inj, UInt64.toNat_add, UInt64.toNat_shiftLeft]
  simp only [UInt64.toNat_ofNat', Nat.shiftLeft_eq]
  change (n / 16 % 2 ^ 64 * 2 ^ 4 % 2 ^ 64 + n % 16 % 2 ^ 64) % 2 ^ 64 = n % 2 ^ 64
  omega

theorem foldlM_toDigits (n : Nat) :
    ((Nat.toDigits 16 n).map byte).foldlM appendHexDigit 0 = some (UInt64.ofNat n) := by
  induction n using digitInduction (show 1 < 16 by decide) with
  | single n hlt =>
    rw [Nat.toDigits_of_lt_base hlt]
    simp [appendHexDigit, (hexDigit_digitChar hlt).1]
  | more n hge ih =>
    rw [Nat.toDigits_of_base_le (by omega) hge, map_append, foldlM_append, ih]
    simp [appendHexDigit, (hexDigit_digitChar (Nat.mod_lt n (by omega : 0 < 16))).1, ofNat_shift]

theorem decodeComponent_encodeComponent (value : UInt64) :
    decodeComponent (encodeComponent value) = some value := by
  have hlength : (Nat.toDigits 16 value.toNat).length ≤ 16 :=
    (Nat.length_toDigits_le_iff (by omega) (by omega)).mpr value.toNat_lt
  rw [decodeComponent, encodeComponent, foldlM_toDigits, UInt64.ofNat_toNat]
  simp [hlength]

theorem not_mem_encodeComponent (value : UInt64) : byte '_' ∉ encodeComponent value := by
  rw [encodeComponent]
  induction value.toNat using digitInduction (show 1 < 16 by decide) with
  | single n hlt =>
    rw [Nat.toDigits_of_lt_base hlt]
    simpa using (hexDigit_digitChar hlt).2.symm
  | more n hge ih =>
    rw [Nat.toDigits_of_base_le (by omega) hge, map_append, mem_append, not_or]
    exact ⟨ih, by simpa using (hexDigit_digitChar (Nat.mod_lt n (by omega : 0 < 16))).2.symm⟩

theorem cutAtUnderscore_append {first : Bytes} (rest : Bytes) (h : byte '_' ∉ first) :
    cutAtUnderscore (first ++ utf8 "_" ++ rest) = (first, some rest) := by
  have hfirst : ∀ character ∈ first, decide (character ≠ byte '_') = true := by
    intro character hmem
    exact decide_eq_true fun heq => h (heq ▸ hmem)
  have hsplit : first ++ utf8 "_" ++ rest = first ++ byte '_' :: rest := by
    rw [append_assoc]
    rfl
  rw [cutAtUnderscore, hsplit, takeWhile_append_of_pos hfirst, dropWhile_append_of_pos hfirst]
  simp

theorem decodeStreamToken_encodeStreamToken (token : StreamToken) :
    decodeStreamToken (encodeStreamToken token) = some token := by
  have hnonempty : ∀ value, (encodeComponent value).isEmpty = false := fun value =>
    isEmpty_eq_false_iff.mpr (by simp [encodeComponent])
  have hevent : cutAtUnderscore (encodeStreamToken token) =
      (encodeComponent token.eventOrdering, some (encodeComponent token.membershipOrdering ++
        utf8 "_" ++ encodeComponent token.syncStreamId)) := by
    have hcut := cutAtUnderscore_append
      (encodeComponent token.membershipOrdering ++ utf8 "_" ++ encodeComponent token.syncStreamId)
      (not_mem_encodeComponent token.eventOrdering)
    rw [← hcut, encodeStreamToken]
    simp only [append_assoc]
  rw [decodeStreamToken, hevent]
  simp only [cutAtUnderscore_append _ (not_mem_encodeComponent _), Option.getD_some, hnonempty,
    decodeComponent_encodeComponent]
  rfl

end RoundTrip

end Merovingian.StreamTokens
