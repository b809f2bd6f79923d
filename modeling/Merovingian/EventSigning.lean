import Merovingian.CanonicalSerializer

/-!
Signing payloads, content hashes and detached signatures. The primitives of
libsodium are a parameter; base64 framing, length checks and the bytes that
are signed or hashed are the homeserver's own.
-/

namespace Merovingian.EventSigning

open ByteString JsonValue CanonicalSerializer

/-- The cryptographic library. The base64 functions are those of the standard
alphabet without padding. -/
structure Libsodium where
  ready : Bool
  base642bin : Bytes → Option Bytes
  bin2base64 : Bytes → Bytes
  hashSha256 : Bytes → Option Bytes
  signVerifyDetached : (signature message publicKey : Bytes) → Bool

section

variable (sodium : Libsodium) (event : Value)

/-- The library before a successful `sodium_init`: every operation refuses. -/
def notReady : Libsodium where
  ready := false
  base642bin _ := none
  bin2base64 _ := []
  hashSha256 _ := none
  signVerifyDetached _ _ _ := false

structure EventSignature where
  serverName : Bytes
  keyId : Bytes
  signature : Bytes
deriving DecidableEq

def matrixBytesFromBase64 (encoded : Bytes) : Bytes :=
  if encoded.isEmpty || !sodium.ready then []
  else (sodium.base642bin encoded).getD []

section

variable (publicKey message signature : Bytes)

def ed25519PublicKeyShapeIsValid : Bool :=
  publicKey.length = 32

def ed25519SignatureShapeIsValid : Bool :=
  signature.length = 64

def ed25519Verify : Bool :=
  ed25519PublicKeyShapeIsValid publicKey && ed25519SignatureShapeIsValid signature &&
    sodium.signVerifyDetached signature message publicKey

def ed25519VerifyResult : Except Bytes Unit :=
  if ed25519Verify sodium publicKey message signature then .ok ()
  else if !ed25519PublicKeyShapeIsValid publicKey || !ed25519SignatureShapeIsValid signature then
    .error "invalid Ed25519 material"
  else .error "signature verification failed"

end

def cloneWithoutFields (object : Object) (fields : List Bytes) : Object :=
  object.filter fun member => !fields.contains member.1

def makeEventSigningPayload : SerializeResult :=
  match valueIsObject event with
  | none => .error .invalidString
  | some object =>
    serializeCanonicalStrict (.object (cloneWithoutFields object ["unsigned", "signatures"]))

def sha256Base64 (input : Bytes) : Except Bytes Bytes :=
  if !sodium.ready then .error "libsodium initialization failed"
  else
    match sodium.hashSha256 input with
    | none => .error "sha256 failed"
    | some digest => .ok (sodium.bin2base64 digest)

def serializeObjectWithout (fields : List Bytes) : SerializeResult :=
  match valueIsObject event with
  | none => .error .invalidString
  | some object => serializeCanonicalStrict (.object (cloneWithoutFields object fields))

def makeContentHash : Except Bytes Bytes :=
  match serializeObjectWithout event ["unsigned", "signatures", "hashes"] with
  | .error error => .error (canonicalJsonErrorName error)
  | .ok output => sha256Base64 sodium output

def verifyPduContentHash : Bool :=
  let claimed := (valueIsObject event).bind fun root =>
    (objectMemberAsObject root "hashes").bind fun hashes =>
      nonEmptyStringMember hashes "sha256"
  match claimed, makeContentHash sodium event with
  | some claimed, .ok computed => !computed.isEmpty && claimed = computed
  | _, _ => false

end

def base64Character (digit : Nat) : UInt8 :=
  (if digit < 26 then digit + 65
  else if digit < 52 then digit + 71
  else if digit < 62 then digit - 4
  else if digit = 62 then 43
  else 47).toUInt8

def base64Digit (number place : Nat) : UInt8 := base64Character (number / 64 ^ place % 64)

def base64Encode : Bytes → Bytes
  | first :: second :: third :: rest =>
    let number := first.toNat * 65536 + second.toNat * 256 + third.toNat
    base64Digit number 3 :: base64Digit number 2 :: base64Digit number 1 ::
      base64Digit number 0 :: base64Encode rest
  | [first, second] =>
    let number := first.toNat * 65536 + second.toNat * 256
    [base64Digit number 3, base64Digit number 2, base64Digit number 1]
  | [first] => [base64Digit (first.toNat * 65536) 3, base64Digit (first.toNat * 65536) 2]
  | [] => []

def base64Value (character : UInt8) : Nat :=
  let code := character.toNat
  if 97 ≤ code then code - 71
  else if 65 ≤ code then code - 65
  else if 48 ≤ code then code + 4
  else if code = 43 then 62
  else 63

def base64Decode : Bytes → Bytes
  | first :: second :: third :: fourth :: rest =>
    let number := base64Value first * 262144 + base64Value second * 4096 +
      base64Value third * 64 + base64Value fourth
    (number / 65536).toUInt8 :: (number / 256).toUInt8 :: number.toUInt8 :: base64Decode rest
  | [first, second, third] =>
    let number := base64Value first * 1024 + base64Value second * 16 + base64Value third / 4
    [(number / 256).toUInt8, number.toUInt8]
  | [first, second] => [(base64Value first * 4 + base64Value second / 16).toUInt8]
  | _ => []

theorem base64Value_base64Digit (number place : Nat) :
    base64Value (base64Digit number place) = number / 64 ^ place % 64 := by
  have hdigits : ∀ digit < 64, base64Value (base64Character digit) = digit := by decide
  exact hdigits _ (Nat.mod_lt _ (by decide))

theorem toUInt8_eq {number : Nat} {character : UInt8} (h : number % 256 = character.toNat) :
    number.toUInt8 = character :=
  UInt8.toNat_inj.mp (UInt8.toNat_ofNat'.trans h)

theorem base64Decode_base64Encode (bytes : Bytes) : base64Decode (base64Encode bytes) = bytes := by
  fun_induction base64Encode bytes with
  | case1 first second third rest number ih =>
    have hnumber : number = first.toNat * 65536 + second.toNat * 256 + third.toNat := rfl
    have hfirst := first.toNat_lt
    have hsecond := second.toNat_lt
    have hthird := third.toNat_lt
    simp only [base64Decode, base64Value_base64Digit, ih]
    congr <;> refine toUInt8_eq ?_ <;> omega
  | case2 first second number =>
    have hnumber : number = first.toNat * 65536 + second.toNat * 256 := rfl
    have hfirst := first.toNat_lt
    have hsecond := second.toNat_lt
    simp only [base64Decode, base64Value_base64Digit]
    congr <;> refine toUInt8_eq ?_ <;> omega
  | case3 first =>
    have hfirst := first.toNat_lt
    simp only [base64Decode, base64Value_base64Digit]
    congr
    refine toUInt8_eq ?_
    omega
  | case4 => rfl

structure DigestedText where
  text : Bytes
  digest : Bytes

structure SignedText where
  text : Bytes
  signature : Bytes
  publicKey : Bytes

/-- The library on the texts that were digested and signed with it. -/
def sodiumOf (digested : List DigestedText) (signed : List SignedText) : Libsodium where
  ready := true
  base642bin text := some (base64Decode text)
  bin2base64 := base64Encode
  hashSha256 input :=
    (digested.find? fun entry => entry.text = input).map fun entry => base64Decode entry.digest
  signVerifyDetached signature message publicKey :=
    signed.any fun entry => entry.text = message && base64Decode entry.signature = signature &&
      base64Decode entry.publicKey = publicKey

def bobKey : Bytes := "A6EHv/POEL4dcN0Y50vAmWfk1jCbpQ1fHdyGZBJVMbg"

end Merovingian.EventSigning
