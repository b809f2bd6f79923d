import Merovingian.FederationPolicy

/-!
Server access control lists: the current `m.room.server_acl` of a room is read
from the store, and a server's name is compared with its patterns, without the
port and without regard to case.
-/

namespace Merovingian.ServerAcl

open ByteString JsonValue CanonicalParser FederationPolicy StoreTables List
open Identifiers (isAsciiUpper)

def toLowerAscii (character : UInt8) : UInt8 :=
  if isAsciiUpper character then character + 32 else character

def caseInsensitiveEqual (left right : UInt8) : Bool :=
  toLowerAscii left = toLowerAscii right

/-- Whether one of the entries so far is set, at each position. -/
def runningOr : Bool → List Bool → List Bool
  | _, [] => []
  | carried, entry :: rest => (entry || carried) :: runningOr (entry || carried) rest

/-- The next row of the table: which prefixes of the text match the pattern with
one more character. -/
def globStep (text : Bytes) (previous : List Bool) (patternChar : UInt8) : List Bool :=
  if patternChar = byte '*' then runningOr false previous
  else if patternChar = byte '?' then false :: previous.dropLast
  else false :: zipWith
    (fun matched character => caseInsensitiveEqual patternChar character && matched) previous text

/-- A star stands for any text, a question mark for one character. -/
def globMatch (pattern text : Bytes) : Bool :=
  if pattern.isEmpty then text.isEmpty
  else
    (pattern.foldl (globStep text) (true :: replicate text.length false)).getLastD false

example : globMatch "*.EVIL.example" "a.evil.example" = true ∧
    globMatch "evil?.example" "evil.example" = false := by
  decide +kernel

structure ServerAclEvent where
  allow : List Bytes := []
  deny : List Bytes := []
  allowIpLiterals : Bool := true

structure ServerAclEvaluation where
  allowed : Bool
  rule : Bytes
  reason : Bytes

def hostWithoutBrackets (host : Bytes) : Bytes :=
  if 2 ≤ host.length && host.head? = some (byte '[') && host.getLast? = some (byte ']') then
    host.tail.dropLast
  else host

def stripServerPort (serverName : Bytes) : Bytes :=
  if serverName.head? = some (byte '[') then
    match splitAtFirst (byte ']') serverName with
    | none => serverName
    | some (literal, _) => literal ++ [byte ']']
  else
    -- The text up to the last colon, which is read from the end.
    let port := (serverName.reverse.takeWhile fun character => character ≠ byte ':').reverse
    let colon := serverName.length - port.length
    if !serverName.contains (byte ':') || colon = 1 || !port.all isDigit then serverName
    else serverName.take (colon - 1)

def ipAddressIsValid (libc : Libc) (address : Bytes) : Bool :=
  (libc.inetPton4 address).isSome || (libc.inetPton6 address).isSome

def serverNameIsIpLiteral (libc : Libc) (serverName : Bytes) : Bool :=
  let host := stripServerPort serverName
  !host.isEmpty && ipAddressIsValid libc (hostWithoutBrackets host)

def stringArrayMember (object : Object) (key : Bytes) : List Bytes :=
  ((arrayMember object key).getD []).filterMap valueIsString

/-- Fields that are missing or malformed have their defaults. -/
def parseServerAcl (content : Value) : ServerAclEvent :=
  match valueIsObject content with
  | none => {}
  | some object =>
    { allow := stringArrayMember object "allow"
      deny := stringArrayMember object "deny"
      allowIpLiterals :=
        match objectMember object "allow_ip_literals" with
        | some (.boolean allowed) => allowed
        | _ => true }

section

variable (libc : Libc) (yyjson : Yyjson) (store : PersistentStore) (roomId serverName : Bytes)

def evaluateServerAcl (acl : ServerAclEvent) : ServerAclEvaluation :=
  let host := stripServerPort serverName
  if host.isEmpty then
    ⟨false, "empty_server_name", "server name is empty after port stripping"⟩
  else if !acl.allowIpLiterals && serverNameIsIpLiteral libc host then
    ⟨false, "allow_ip_literals", "server name is an IP literal and allow_ip_literals is false"⟩
  else
    match acl.deny.find? fun pattern => globMatch pattern host,
        acl.allow.find? fun pattern => globMatch pattern host with
    | some pattern, _ =>
      ⟨false, "deny", utf8 "server name matches deny list entry: " ++ pattern⟩
    | none, some pattern =>
      ⟨true, "allow", utf8 "server name matches allow list entry: " ++ pattern⟩
    | none, none =>
      if acl.allow.isEmpty then
        ⟨true, "empty_allow",
          "allow list is empty and server name did not match any deny list entry; allowing"⟩
      else ⟨false, "allow", "server name did not match any allow list entry"⟩

def currentRoomEvent (eventType : Bytes) : Option PersistentEvent :=
  ((store.state.find? fun state => state.roomId = roomId && state.eventType = eventType &&
      state.stateKey.isEmpty).filter fun state => !state.eventId.isEmpty).bind fun state =>
    store.events.find? fun event => event.eventId = state.eventId

def loadRoomServerAcl : Option ServerAclEvent :=
  (currentRoomEvent store roomId "m.room.server_acl").bind fun event =>
    ((parseLossless yyjson event.json).toOption.bind valueIsObject).bind fun object =>
      (objectMember object "content").map parseServerAcl

def roomServerAclAllows : Bool :=
  (loadRoomServerAcl yyjson store roomId).all fun acl =>
    (evaluateServerAcl libc serverName acl).allowed

end

section Specified

variable {libc : Libc} {yyjson : Yyjson} {store : PersistentStore} {roomId host serverName : Bytes}

end Specified

end Merovingian.ServerAcl
