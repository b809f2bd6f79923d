import Merovingian.ByteString

/-!
The grammar of user, device and server names, the password policy for new
accounts, and the internal token by which an application service acts as one
of its users.
-/

namespace Merovingian.Identifiers

open ByteString

section

variable (character : UInt8)

def isAsciiLower : Bool :=
  byte 'a' ≤ character && character ≤ byte 'z'

def isAsciiUpper : Bool :=
  byte 'A' ≤ character && character ≤ byte 'Z'

def isAsciiAlnum : Bool :=
  isAsciiLower character || isAsciiUpper character || isDigit character

def isPrintableAsciiWithoutSpace : Bool :=
  0x20 < character && character < 0x7F

def isNewLocalpartCharacter : Bool :=
  isAsciiLower character || isDigit character ||
    character ∈ [byte '.', byte '_', byte '-', byte '=', byte '/', byte '+']

def portIsValid (port : Bytes) : Bool :=
  !port.isEmpty && port.length ≤ 5 && port.all isDigit && digitsValue port ≤ 65535

def hostnameLabelIsValid (label : Bytes) : Bool :=
  !label.isEmpty && label.length ≤ 63 && label.head? ≠ some (byte '-') &&
    label.getLast? ≠ some (byte '-') &&
    label.all fun character => isAsciiAlnum character || character = byte '-'

def hostnameIsValid (hostname : Bytes) : Bool :=
  !hostname.isEmpty && hostname.head? ≠ some (byte '.') && hostname.getLast? ≠ some (byte '.') &&
    (hostname.splitOn (byte '.')).all hostnameLabelIsValid

def isIpv6Character : Bool :=
  isDigit character || (byte 'a' ≤ character && character ≤ byte 'f') ||
    (byte 'A' ≤ character && character ≤ byte 'F') ||
    character = byte ':' || character = byte '.'

def bracketedIpv6LiteralIsValid (literal : Bytes) : Bool :=
  4 ≤ literal.length && literal.head? = some (byte '[') &&
    match splitAtFirst (byte ']') literal.tail with
    | none => false
    | some (address, suffix) =>
      !address.isEmpty && address.contains (byte ':') && address.all isIpv6Character &&
        match suffix with
        | [] => true
        | first :: port => first = byte ':' && portIsValid port

def serverNameIsValid (serverName : Bytes) : Bool :=
  if serverName.isEmpty || 255 < serverName.length then false
  else if serverName.head? = some (byte '[') then bracketedIpv6LiteralIsValid serverName
  else
    match splitAtFirst (byte ':') serverName with
    | none => hostnameIsValid serverName
    | some (hostname, port) =>
      !port.contains (byte ':') && hostnameIsValid hostname && portIsValid port

def localpartIsValidNew (localpart : Bytes) : Bool :=
  !localpart.isEmpty && localpart.length ≤ 255 && localpart.all isNewLocalpartCharacter

/-- The strict grammar, for accounts of this server. -/
def userIdIsValid (userId : Bytes) : Bool :=
  4 ≤ userId.length && userId.length ≤ 255 && userId.head? = some (byte '@') &&
    match splitAtFirst (byte ':') userId with
    | none => false
    | some (sigilAndLocalpart, serverName) =>
      1 < sigilAndLocalpart.length && !serverName.isEmpty &&
        localpartIsValidNew sigilAndLocalpart.tail && serverNameIsValid serverName

/-- What follows the first colon of a user id, empty when it has no server
part. -/
def userIdServerName (userId : Bytes) : Bytes :=
  if userId.length < 2 || userId.head? ≠ some (byte '@') then []
  else ((splitAtFirst (byte ':') userId).map Prod.snd).getD []

def isReservedInDeviceId : Bool :=
  character ∈ [byte ':', byte '/', byte '?', byte '#']

def deviceIdIsValid (deviceId : Bytes) : Bool :=
  !deviceId.isEmpty && deviceId.length ≤ 255 && deviceId.all fun character =>
      isPrintableAsciiWithoutSpace character && !isReservedInDeviceId character

def isAsciiSymbol : Bool :=
  0x21 ≤ character && character ≤ 0x7E && !isAsciiAlnum character

end

def passwordIsAcceptable (password : Bytes) : Bool :=
  12 ≤ password.length && password.any isAsciiLower && password.any isAsciiUpper &&
    password.any isDigit && password.any isAsciiSymbol

structure MasqueradeIdentity where
  appserviceId : Bytes
  userId : Bytes
  deviceId : Bytes
deriving DecidableEq

def masqueradeTokenPrefix : Bytes := "appservice-masquerade:v1:"

/-- Reads a decimal length, a colon and that many bytes from the cursor on, and
returns the field with the cursor behind it. The cursor is a 64-bit number. -/
def readLengthPrefixedField (token : Bytes) (cursor : Nat) : Option (Bytes × Nat) :=
  match splitAtFirst (byte ':') (token.drop cursor) with
  | none => none
  | some (lengthText, _) =>
    let length := digitsValue lengthText
    let fieldStart := cursor + lengthText.length + 1
    let fieldEnd := (fieldStart + length) % 2 ^ 64
    if lengthText.isEmpty || !lengthText.all isDigit || 2 ^ 64 ≤ length ||
        token.length < fieldEnd then none
    else some ((token.drop fieldStart).take length, fieldEnd)

def decodeMasqueradeToken (token : Bytes) : Option MasqueradeIdentity :=
  if !masqueradeTokenPrefix.isPrefixOf token then none
  else do
    let (appserviceId, cursor) ← readLengthPrefixedField token masqueradeTokenPrefix.length
    let (userId, cursor) ← readLengthPrefixedField token cursor
    let (deviceId, cursor) ← readLengthPrefixedField token cursor
    if cursor = token.length then some ⟨appserviceId, userId, deviceId⟩ else none

end Merovingian.Identifiers
