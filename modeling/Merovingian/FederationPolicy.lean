import Merovingian.EventEnvelopes
import Merovingian.Identifiers

/-!
What the homeserver decides about a federation request before any signature is
looked at: which route it is, whether the claimed server may federate at all,
whether its addresses may be contacted, and whether it is in backoff. The text
conversions of the C library are a parameter.
-/

namespace Merovingian.FederationPolicy

open ByteString EventEnvelopes

/-- The part of the C library that reads addresses and numbers. An IPv6 address
is read into its sixteen bytes. -/
structure Libc where
  inetPton4 : Bytes → Option UInt32
  inetPton6 : Bytes → Option (List UInt8)
  strtoull : Bytes → Option Nat

structure RemoteServerRecord where
  serverName : Bytes
  wellKnownHost : Bytes
  resolvedHost : Bytes
  resolvedAddresses : List Bytes
  tlsRequired : Bool := true
deriving DecidableEq

structure RemoteTrustState where
  consecutiveFailures : Nat := 0
  reputationScore : Nat := 100
  quarantined : Bool := false
  circuitOpen : Bool := false
deriving DecidableEq

/-- A published signing key of a server. A validity of 0 stands for none. -/
structure FederationKeyRecord where
  serverName : Bytes
  keyId : Bytes
  validUntilTs : Nat
  publicKeyBytes : Bytes
deriving DecidableEq

structure FederationRemoteRuntime where
  serverName : Bytes
  trust : RemoteTrustState
  signingKey : FederationKeyRecord
  discovery : RemoteServerRecord
deriving DecidableEq

structure RateLimitPolicy where
  maxRequests : Nat
  windowSeconds : Nat

def rateLimitPolicyIsValid (policy : RateLimitPolicy) : Bool :=
  0 < policy.maxRequests && 0 < policy.windowSeconds && policy.windowSeconds ≤ 3600

structure RuntimeFederationConfig where
  enabled : Bool := false
  defaultPolicy : Bytes := []
  allowedServers : List Bytes := []
  deniedServers : List Bytes := []
  maxTransactionBytes : Nat := 0
  maxTransactionPdus : Nat := 50
  maxTransactionEdus : Nat := 100
  keyResolutionPerIpRate : RateLimitPolicy := ⟨10, 60⟩
  keyResolutionMaxInFlight : Nat := 8
  keyResolutionFailureTtlSeconds : Nat := 300

def serverNameIsValid (serverName : Bytes) : Bool :=
  !serverName.isEmpty && serverName.length ≤ 255 && serverName.contains (byte '.') &&
    containsNoControlOrSpace serverName

def ipv4IsPrivateOrLoopback (address : UInt32) : Bool :=
  let first := address >>> 24 &&& 0xFF
  let second := address >>> 16 &&& 0xFF
  first = 0 || first = 10 || first = 127 || (first = 169 && second = 254) ||
    (first = 172 && 16 ≤ second && second ≤ 31) || (first = 192 && second = 168)

def ipv6IsPrivateOrLoopback (address : List UInt8) : Bool :=
  let part := fun (index : Nat) => address.getD index 0
  let isUnspecified := address.all fun octet => octet = 0
  let isLoopback := (address.take 15).all (fun octet => octet = 0) && part 15 = 1
  let isUniqueLocal := part 0 &&& 0xFE = 0xFC
  let isLinkLocal := part 0 = 0xFE && part 1 &&& 0xC0 = 0x80
  let isV4Mapped :=
    (address.take 10).all (fun octet => octet = 0) && part 10 = 0xFF && part 11 = 0xFF
  let mappedV4 := (part 12).toUInt32 <<< 24 ||| (part 13).toUInt32 <<< 16 |||
    (part 14).toUInt32 <<< 8 ||| (part 15).toUInt32
  isUnspecified || isLoopback || isUniqueLocal || isLinkLocal ||
    (isV4Mapped && ipv4IsPrivateOrLoopback mappedV4)

/-- A text that is no address is compared with the usual spellings of the
private ranges. -/
def ipAddressIsPrivateOrLoopback (libc : Libc) (address : Bytes) : Bool :=
  match libc.inetPton4 address with
  | some parsed => ipv4IsPrivateOrLoopback parsed
  | none =>
    match libc.inetPton6 address with
    | some parsed => ipv6IsPrivateOrLoopback parsed
    | none =>
      address = "localhost" || (utf8 "127.").isPrefixOf address ||
        (utf8 "10.").isPrefixOf address || (utf8 "192.168.").isPrefixOf address ||
        (utf8 "169.254.").isPrefixOf address || (utf8 "fc").isPrefixOf address ||
        (utf8 "fd").isPrefixOf address

def federationDiscoveryPolicy (libc : Libc) (remote : RemoteServerRecord) : Except Bytes Unit :=
  if !serverNameIsValid remote.serverName then .error "invalid remote server name"
  else if remote.resolvedHost.isEmpty then .error "remote host is unresolved"
  else if !remote.wellKnownHost.isEmpty && remote.wellKnownHost ≠ remote.resolvedHost then
    .error "well-known host and resolved host mismatch"
  else if remote.resolvedAddresses.isEmpty then .error "remote addresses are unresolved"
  else if remote.resolvedAddresses.any (ipAddressIsPrivateOrLoopback libc) then
    .error "remote address is private or loopback"
  else if !remote.tlsRequired then .error "federation requires TLS"
  else .ok ()

structure RemoteTrustRefusal where
  applyBackoff : Bool
  reason : Bytes

def maxConsecutiveFailures : Nat := 3

def remoteTrustPolicy (state : RemoteTrustState) : Except RemoteTrustRefusal Unit :=
  if state.quarantined then .error ⟨false, "remote server is quarantined"⟩
  else if state.circuitOpen then .error ⟨true, "remote circuit breaker is open"⟩
  else if state.reputationScore < 25 then .error ⟨true, "remote reputation is too low"⟩
  else if maxConsecutiveFailures ≤ state.consecutiveFailures then
    .error ⟨true, "remote backoff required"⟩
  else .ok ()

def federationServerPolicy (config : RuntimeFederationConfig) (serverName : Bytes) :
    Except Bytes Unit :=
  if !config.enabled then .error "federation disabled"
  else if serverName.isEmpty then .error "remote server name is empty"
  else if config.deniedServers.contains serverName then .error "remote server is denied"
  else if config.defaultPolicy = "deny" && !config.allowedServers.contains serverName then
    .error "remote server is not in federation allow list"
  else .ok ()

inductive FederationEndpoint where
  | transaction
  | makeJoin
  | sendJoin
  | makeLeave
  | sendLeave
  | makeKnock
  | sendKnock
  | invite
  | backfill
  | edu
  | queryDirectory
  | queryProfile
  | queryKeys
  | claimKeys
  | queryUserDevices
  | queryEvent
  | queryState
  | queryStateIds
  | getMissingEvents
  | spaceHierarchy
  | mediaDownload
deriving DecidableEq

/-- A route, with the path up to its parameters and their number where it has
any. -/
structure FederationRoute where
  method : Bytes
  pathTemplate : Bytes
  endpoint : FederationEndpoint
  dynamic : Option (Bytes × Nat)

def staticRoute (method path : String) (endpoint : FederationEndpoint) : FederationRoute :=
  ⟨method, path, endpoint, none⟩

def dynamicRoute (method path : String) (parameters : List String)
    (endpoint : FederationEndpoint) : FederationRoute :=
  ⟨method, path ++ "/".intercalate parameters, endpoint, some (utf8 path, parameters.length)⟩

def federationRoutes : List FederationRoute :=
  [dynamicRoute "PUT" "/_matrix/federation/v1/send/" ["\x7btxnId\x7d"] .transaction,
    dynamicRoute "GET" "/_matrix/federation/v1/make_join/" ["\x7broomId\x7d", "\x7buserId\x7d"]
      .makeJoin,
    dynamicRoute "PUT" "/_matrix/federation/v2/send_join/" ["\x7broomId\x7d", "\x7beventId\x7d"]
      .sendJoin,
    dynamicRoute "PUT" "/_matrix/federation/v1/send_join/" ["\x7broomId\x7d", "\x7beventId\x7d"]
      .sendJoin,
    dynamicRoute "GET" "/_matrix/federation/v1/make_leave/" ["\x7broomId\x7d", "\x7buserId\x7d"]
      .makeLeave,
    dynamicRoute "PUT" "/_matrix/federation/v2/send_leave/"
      ["\x7broomId\x7d", "\x7beventId\x7d"] .sendLeave,
    dynamicRoute "PUT" "/_matrix/federation/v1/send_leave/"
      ["\x7broomId\x7d", "\x7beventId\x7d"] .sendLeave,
    dynamicRoute "GET" "/_matrix/federation/v1/make_knock/" ["\x7broomId\x7d", "\x7buserId\x7d"]
      .makeKnock,
    dynamicRoute "PUT" "/_matrix/federation/v1/send_knock/"
      ["\x7broomId\x7d", "\x7beventId\x7d"] .sendKnock,
    dynamicRoute "PUT" "/_matrix/federation/v2/invite/" ["\x7broomId\x7d", "\x7beventId\x7d"]
      .invite,
    dynamicRoute "PUT" "/_matrix/federation/v1/invite/" ["\x7broomId\x7d", "\x7beventId\x7d"]
      .invite,
    dynamicRoute "GET" "/_matrix/federation/v1/backfill/" ["\x7broomId\x7d"] .backfill,
    dynamicRoute "PUT" "/_matrix/federation/v1/send_edu/" ["\x7beduType\x7d", "\x7btxnId\x7d"]
      .edu,
    staticRoute "GET" "/_matrix/federation/v1/query/directory" .queryDirectory,
    staticRoute "GET" "/_matrix/federation/v1/query/profile" .queryProfile,
    staticRoute "POST" "/_matrix/federation/v1/user/keys/query" .queryKeys,
    staticRoute "POST" "/_matrix/federation/v1/user/keys/claim" .claimKeys,
    dynamicRoute "GET" "/_matrix/federation/v1/user/devices/" ["\x7buserId\x7d"]
      .queryUserDevices,
    dynamicRoute "GET" "/_matrix/federation/v1/event/" ["\x7beventId\x7d"] .queryEvent,
    dynamicRoute "GET" "/_matrix/federation/v1/state/" ["\x7broomId\x7d"] .queryState,
    dynamicRoute "GET" "/_matrix/federation/v1/state_ids/" ["\x7broomId\x7d"] .queryStateIds,
    dynamicRoute "POST" "/_matrix/federation/v1/get_missing_events/" ["\x7broomId\x7d"]
      .getMissingEvents,
    dynamicRoute "GET" "/_matrix/federation/v1/hierarchy/" ["\x7broomId\x7d"] .spaceHierarchy,
    dynamicRoute "GET" "/_matrix/federation/v1/media/download/" ["\x7bmediaId\x7d"]
      .mediaDownload]

def targetPath (target : Bytes) : Bytes :=
  target.takeWhile fun character => character ≠ byte '?'

def stripPrefix (target pathStart : Bytes) : Option Bytes :=
  if pathStart.length < target.length && pathStart.isPrefixOf target then
    some (target.drop pathStart.length)
  else none

def dynamicSuffixHasSegments (target pathStart : Bytes) (expectedSegments : Nat) : Bool :=
  match stripPrefix target pathStart with
  | none => false
  | some suffix =>
    let segments := suffix.splitOn (byte '/')
    segments.length = expectedSegments && segments.all fun segment => !segment.isEmpty

def routeMatches (method path : Bytes) (candidate : FederationRoute) : Bool :=
  candidate.method = method && (candidate.pathTemplate = path ||
      candidate.dynamic.any fun (pathStart, segments) =>
        dynamicSuffixHasSegments path pathStart segments)

def matchFederationRoute (method target : Bytes) : Option FederationRoute :=
  federationRoutes.find? (routeMatches method (targetPath target))

def fromHex (character : UInt8) : Option UInt8 :=
  if byte '0' ≤ character && character ≤ byte '9' then some (character - byte '0')
  else if byte 'a' ≤ character && character ≤ byte 'f' then
    some (character - byte 'a' + 10)
  else if byte 'A' ≤ character && character ≤ byte 'F' then
    some (character - byte 'A' + 10)
  else none

/-- An escape that is not followed by two hexadecimal digits stays as it is. -/
def percentDecodePathComponent : Bytes → Bytes
  | [] => []
  | [character] => [character]
  | [first, second] => [first, second]
  | character :: high :: low :: rest =>
    if character = byte '%' then
      match fromHex high, fromHex low with
      | some high, some low => (high <<< 4 ||| low) :: percentDecodePathComponent rest
      | _, _ => character :: percentDecodePathComponent (high :: low :: rest)
    else character :: percentDecodePathComponent (high :: low :: rest)

/-- In a query a plus sign stands for a blank, unless it is part of the text
that an escape stands for. -/
def percentDecode : Bytes → Bytes
  | [] => []
  | [character] => [if character = byte '+' then byte ' ' else character]
  | [first, second] =>
    [if first = byte '+' then byte ' ' else first, if second = byte '+' then byte ' ' else second]
  | character :: high :: low :: rest =>
    if character = byte '%' then
      match fromHex high, fromHex low with
      | some high, some low => (high <<< 4 ||| low) :: percentDecode rest
      | _, _ => character :: percentDecode (high :: low :: rest)
    else (if character = byte '+' then byte ' ' else character) ::
      percentDecode (high :: low :: rest)

structure MembershipPathParams where
  roomId : Bytes
  subject : Bytes

def splitTwo (suffix : Bytes) : Option MembershipPathParams :=
  match splitAtFirst (byte '/') suffix with
  | none => none
  | some (first, second) =>
    let subject := percentDecodePathComponent second
    if first.isEmpty || second.isEmpty || subject.contains (byte '/') then none
    else some ⟨percentDecodePathComponent first, subject⟩

def membershipPrefixes : FederationEndpoint → List Bytes
  | .makeJoin => [utf8 "/_matrix/federation/v1/make_join/"]
  | .makeLeave => [utf8 "/_matrix/federation/v1/make_leave/"]
  | .makeKnock => [utf8 "/_matrix/federation/v1/make_knock/"]
  | .sendKnock => [utf8 "/_matrix/federation/v1/send_knock/"]
  | .sendJoin =>
    [utf8 "/_matrix/federation/v2/send_join/", utf8 "/_matrix/federation/v1/send_join/"]
  | .sendLeave =>
    [utf8 "/_matrix/federation/v2/send_leave/", utf8 "/_matrix/federation/v1/send_leave/"]
  | .invite => [utf8 "/_matrix/federation/v2/invite/", utf8 "/_matrix/federation/v1/invite/"]
  | _ => []

def parseMembershipPath (endpoint : FederationEndpoint) (target : Bytes) :
    Option MembershipPathParams :=
  ((membershipPrefixes endpoint).findSome? (stripPrefix (targetPath target))).bind splitTwo

def queryPairs (target : Bytes) : List (Bytes × Option Bytes) :=
  match splitAtFirst (byte '?') target with
  | none => []
  | some (_, query) =>
    (query.splitOn (byte '&')).map fun pair =>
      match splitAtFirst (byte '=') pair with
      | none => (pair, none)
      | some (name, value) => (name, some value)

/-- The decoded value of the first such parameter, empty when there is none. -/
def queryParamValue (target name : Bytes) : Bytes :=
  ((queryPairs target).findSome? fun (key, value) =>
    if key = name then value.map percentDecode else none).getD []

structure BackfillRequest where
  roomId : Bytes
  eventIds : List Bytes
  limit : Nat

def maxBackfillLimit : Nat := 100

def backfillLimits (libc : Libc) (pairs : List (Bytes × Option Bytes)) : Option (List Nat) :=
  (pairs.filterMap fun (key, value) =>
    if key = "limit" then value.filter fun text => !text.isEmpty else none).mapM libc.strtoull

def parseBackfillQuery (libc : Libc) (target : Bytes) : Option BackfillRequest :=
  if !target.contains (byte '?') then none
  else
    match stripPrefix (targetPath target) "/_matrix/federation/v1/backfill/",
        backfillLimits libc (queryPairs target) with
    | some suffix, some limits =>
      let roomId := percentDecodePathComponent suffix
      let eventIds := (queryPairs target).filterMap fun (key, value) =>
        if key = "v" then
          (value.filter fun text => !text.isEmpty).map percentDecodePathComponent
        else none
      if roomId.isEmpty || roomId.contains (byte '/') || eventIds.isEmpty then none
      else some ⟨roomId, eventIds, (limits.getLast?.map (min maxBackfillLimit)).getD 0⟩
    | _, _ => none

def extractPathSegment (target pathStart : Bytes) : Bytes :=
  ((stripPrefix (targetPath target) pathStart).map percentDecode).getD []

def protectedEndpointRoomId (libc : Libc) (endpoint : FederationEndpoint) (target : Bytes) :
    Option Bytes :=
  match endpoint with
  | .makeJoin | .makeLeave | .makeKnock | .sendJoin | .sendLeave | .sendKnock | .invite =>
    (parseMembershipPath endpoint target).map MembershipPathParams.roomId
  | .backfill => (parseBackfillQuery libc target).map BackfillRequest.roomId
  | .queryState => some (extractPathSegment target "/_matrix/federation/v1/state/")
  | .queryStateIds => some (extractPathSegment target "/_matrix/federation/v1/state_ids/")
  | .getMissingEvents =>
    some (extractPathSegment target "/_matrix/federation/v1/get_missing_events/")
  | .spaceHierarchy => some (extractPathSegment target "/_matrix/federation/v1/hierarchy/")
  | _ => none

def transactionIdFromSendTarget (target : Bytes) : Bytes :=
  ((stripPrefix target "/_matrix/federation/v1/send/").filter fun transactionId =>
    !transactionId.contains (byte '/')).getD []

end Merovingian.FederationPolicy
