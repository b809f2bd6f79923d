import Merovingian.FederationPolicy

/-!
Server discovery. A server name leads to a host, directly, by the delegation of
its well-known file or by an SRV record, and the host to addresses; the name that
a certificate is wanted for is kept apart from the host. The network answers as
it likes, so it is a parameter with a state of its own.
-/

namespace Merovingian.ServerDiscovery

open ByteString JsonValue CanonicalParser FederationPolicy

structure WellKnownServerResult where
  found : Bool := false
  ok : Bool := false
  body : Bytes := []
  reason : Bytes := []

structure SrvRecord where
  target : Bytes := []
  port : UInt16 := 8448
  priority : UInt16 := 0
  weight : UInt16 := 0

structure ResolvedAddressSet where
  ok : Bool := false
  addresses : List Bytes := []
  reason : Bytes := []

structure ServerDiscoveryResult where
  serverName : Bytes := []
  wellKnownHost : Bytes := []
  resolvedHost : Bytes := []
  tlsServerName : Bytes := []
  resolvedPort : UInt16 := 8448
  pinnedAddresses : List Bytes := []
  tlsRequired : Bool := true
  discoveryAllowed : Bool := false
  reason : Bytes := []
deriving DecidableEq

structure ServerDiscoveryNetwork (Net : Type) where
  fetchWellKnown : Net → (serverName : Bytes) → (timeoutSeconds : Nat) → WellKnownServerResult × Net
  lookupSrv : Net → (serviceName : Bytes) → List SrvRecord × Net
  lookupAddresses : Net → (host : Bytes) → (port : UInt16) → ResolvedAddressSet × Net

structure HostPort where
  host : Bytes
  port : UInt16
  portExplicit : Bool
deriving DecidableEq

def defaultFederationPort : UInt16 := 8448

def hostIsNumericIp (libc : Libc) (host : Bytes) : Bool :=
  (libc.inetPton4 host).isSome || (libc.inetPton6 host).isSome

def parsePort (text : Bytes) : Option UInt16 :=
  if text.isEmpty || !text.all isDigit || 65535 < digitsValue text || digitsValue text = 0 then none
  else some (UInt16.ofNat (digitsValue text))

def parseBracketedHost (rest : Bytes) (defaultPort : UInt16) : Option HostPort :=
  let host := rest.takeWhile fun character => character ≠ byte ']'
  match rest.drop host.length with
  | [] => none
  | _ :: after =>
    if host.isEmpty then none
    else
      match after with
      | [] => some ⟨host, defaultPort, false⟩
      | separator :: portText =>
        if separator ≠ byte ':' then none
        else (parsePort portText).map fun port => ⟨host, port, true⟩

/-- A host with a port after its only colon. With more colons it is an address
without brackets. -/
def parseHostPort (value : Bytes) (defaultPort : UInt16) : Option HostPort :=
  match value with
  | [] => none
  | first :: rest =>
    if first = byte '[' then parseBracketedHost rest defaultPort
    else if (first :: rest).count (byte ':') = 1 then
      let host := (first :: rest).takeWhile fun character => character ≠ byte ':'
      (parsePort ((first :: rest).drop (host.length + 1))).bind fun port =>
        if host.isEmpty then none else some ⟨host, port, true⟩
    else some ⟨first :: rest, defaultPort, false⟩

example : parseHostPort "[2001:db8::1]:8449" 8448 = some ⟨"2001:db8::1", 8449, true⟩ ∧
    parseHostPort "b.example:0" 8448 = none ∧
    parseHostPort "b.example" 8448 = some ⟨"b.example", 8448, false⟩ := by
  decide +kernel

def extractMServer (yyjson : Yyjson) (body : Bytes) : Option Bytes :=
  ((parseLossless yyjson body).toOption.bind valueIsObject).bind fun object =>
    nonEmptyStringMember object "m.server"

def addressSetAllowed (libc : Libc) (addresses : List Bytes) : Bool :=
  !addresses.isEmpty && !addresses.any (ipAddressIsPrivateOrLoopback libc)

def sortSrvRecords (records : List SrvRecord) : List SrvRecord :=
  records.mergeSort fun lhs rhs =>
    if lhs.priority ≠ rhs.priority then lhs.priority < rhs.priority else rhs.weight ≤ lhs.weight

section Discovery

variable {Net : Type} (libc : Libc) (yyjson : Yyjson) (network : ServerDiscoveryNetwork Net)

section

variable (serverName : Bytes) (hostPort : HostPort)

/-- The addresses of a host, all of which must be allowed. -/
def resolveFederationDestination (host : Bytes) (port : UInt16) (net : Net) :
    ServerDiscoveryResult × Net :=
  let result : ServerDiscoveryResult := { resolvedHost := host, resolvedPort := port }
  if host.isEmpty then ({ result with reason := "resolved host is empty" }, net)
  else if hostIsNumericIp libc host && ipAddressIsPrivateOrLoopback libc host then
    ({ result with reason := "resolved address is a private or loopback IP address" }, net)
  else
    let (addresses, net) := network.lookupAddresses net host port
    if !addresses.ok then
      ({ result with
        reason :=
          if addresses.reason.isEmpty then utf8 "resolved host has no addresses"
          else addresses.reason }, net)
    else if !addressSetAllowed libc addresses.addresses then
      ({ result with reason := "resolved address is a private or loopback IP address" }, net)
    else ({ result with pinnedAddresses := addresses.addresses, discoveryAllowed := true }, net)

def resolveDestination (tlsHost : Bytes) (net : Net) : ServerDiscoveryResult × Net :=
  let (result, net) := resolveFederationDestination libc network hostPort.host hostPort.port net
  ({ result with
    serverName := serverName
    tlsServerName := tlsHost
    tlsRequired := hostPort.port ≠ 8008 }, net)

/-- By the first SRV record of a host, or else by the host itself. The certificate
is wanted for the host in both cases. -/
def resolveBySrv (net : Net) : ServerDiscoveryResult × Net :=
  let (records, net) := network.lookupSrv net (utf8 "_matrix-fed._tcp." ++ hostPort.host)
  match sortSrvRecords records with
  | first :: _ =>
    resolveDestination libc network serverName ⟨first.target, first.port, true⟩ hostPort.host net
  | [] => resolveDestination libc network serverName hostPort hostPort.host net

/-- An address or a host with a port is resolved as it stands. -/
def isDirect : Bool :=
  hostIsNumericIp libc hostPort.host || hostPort.portExplicit

def resolveHostPort (net : Net) : ServerDiscoveryResult × Net :=
  if isDirect libc hostPort then
    resolveDestination libc network serverName hostPort hostPort.host net
  else resolveBySrv libc network serverName hostPort net

def hostIsUsable : Bool :=
  serverNameIsValid hostPort.host || hostIsNumericIp libc hostPort.host

def delegatedHostPort (wellKnown : WellKnownServerResult) : Option HostPort :=
  if wellKnown.found && wellKnown.ok then
    ((extractMServer yyjson wellKnown.body).bind fun delegated =>
      parseHostPort delegated defaultFederationPort).filter (hostIsUsable libc)
  else none

def discoverByName (timeoutSeconds : Nat) (directHostPort : HostPort) (net : Net) :
    ServerDiscoveryResult × Net :=
  let (wellKnown, net) := network.fetchWellKnown net serverName timeoutSeconds
  match delegatedHostPort libc yyjson wellKnown with
  | some delegated =>
    let (result, net) := resolveHostPort libc network serverName delegated net
    ({ result with
      wellKnownHost := if result.discoveryAllowed then result.resolvedHost else [] }, net)
  | none => resolveBySrv libc network serverName directHostPort net

def discoverServer (timeoutSeconds : Nat) (net : Net) : ServerDiscoveryResult × Net :=
  let result : ServerDiscoveryResult := { serverName := serverName }
  if serverName.isEmpty then ({ result with reason := "server name is empty" }, net)
  else
    match (parseHostPort serverName defaultFederationPort).filter (hostIsUsable libc) with
    | none => ({ result with reason := "server name is invalid" }, net)
    | some directHostPort =>
      if isDirect libc directHostPort then
        resolveDestination libc network serverName directHostPort directHostPort.host net
      else discoverByName libc yyjson network serverName timeoutSeconds directHostPort net

end

end Discovery

section Addresses

/-- The kinds of addresses that belong to no server on the public network. -/
inductive AddressClass where
  | unspecified
  | loopback
  | privateUse
  | linkLocal
  | uniqueLocal
  | multicast
deriving DecidableEq

def v4Class (address : UInt32) : Option AddressClass :=
  if address = 0 then some .unspecified
  else if 0x7F000000 ≤ address && address ≤ 0x7FFFFFFF then some .loopback
  else if 0x0A000000 ≤ address && address ≤ 0x0AFFFFFF then some .privateUse
  else if 0xAC100000 ≤ address && address ≤ 0xAC1FFFFF then some .privateUse
  else if 0xC0A80000 ≤ address && address ≤ 0xC0A8FFFF then some .privateUse
  else if 0xA9FE0000 ≤ address && address ≤ 0xA9FEFFFF then some .linkLocal
  else if 0xE0000000 ≤ address && address ≤ 0xEFFFFFFF then some .multicast
  else none

def v4OfOctets (first second third fourth : UInt8) : UInt32 :=
  first.toUInt32 <<< 24 ||| second.toUInt32 <<< 16 ||| third.toUInt32 <<< 8 ||| fourth.toUInt32

/-- An address of the fourth version in the form of the sixth. -/
def mappedV4 (octets : List UInt8) : Option UInt32 :=
  if octets.take 12 = List.replicate 10 0 ++ [0xFF, 0xFF] then
    match octets.drop 12 with
    | [first, second, third, fourth] => some (v4OfOctets first second third fourth)
    | _ => none
  else none

def v6Class (octets : List UInt8) : Option AddressClass :=
  if octets = List.replicate 16 0 then some .unspecified
  else if octets = List.replicate 15 0 ++ [1] then some .loopback
  else
    match octets with
    | first :: second :: _ =>
      if first = 0xFC || first = 0xFD then some .uniqueLocal
      else if first = 0xFE && 0x80 ≤ second && second ≤ 0xBF then some .linkLocal
      else if first = 0xFF then some .multicast
      else (mappedV4 octets).bind v4Class
    | _ => none

def addressClass (libc : Libc) (text : Bytes) : Option AddressClass :=
  match libc.inetPton4 text with
  | some address => v4Class address
  | none => (libc.inetPton6 text).bind v6Class

theorem octet_toNat (address : UInt32) : (address >>> 24 &&& 0xFF).toNat = address.toNat / 2 ^ 24 ∧
      (address >>> 16 &&& 0xFF).toNat = address.toNat / 2 ^ 16 % 2 ^ 8 := by
  have hlt := address.toNat_lt
  constructor
  · rw [UInt32.toNat_and, UInt32.toNat_shiftRight, Nat.shiftRight_eq_div_pow]
    show address.toNat / 2 ^ 24 &&& (2 ^ 8 - 1) = _
    rw [Nat.and_two_pow_sub_one_eq_mod]
    omega
  · rw [UInt32.toNat_and, UInt32.toNat_shiftRight, Nat.shiftRight_eq_div_pow]
    show address.toNat / 2 ^ 16 &&& (2 ^ 8 - 1) = _
    rw [Nat.and_two_pow_sub_one_eq_mod]

variable {address : UInt32}

/-- The ranges that the filter knows, by the bits that they fix. -/
theorem ipv4IsPrivateOrLoopback_iff : ipv4IsPrivateOrLoopback address = true ↔
      address.toNat / 2 ^ 24 = 0 ∨ address.toNat / 2 ^ 24 = 10 ∨ address.toNat / 2 ^ 24 = 127 ∨
        address.toNat / 2 ^ 16 = 169 * 2 ^ 8 + 254 ∨ address.toNat / 2 ^ 20 = 172 * 2 ^ 4 + 1 ∨
        address.toNat / 2 ^ 16 = 192 * 2 ^ 8 + 168 := by
  obtain ⟨hfirst, hsecond⟩ := octet_toNat address
  simp only [ipv4IsPrivateOrLoopback, Bool.or_eq_true, Bool.and_eq_true, decide_eq_true_eq,
    ← UInt32.toNat_inj, UInt32.le_iff_toNat_le, hfirst, hsecond, UInt32.reduceToNat]
  omega

theorem v4Class_of_allowed (h : ipv4IsPrivateOrLoopback address = false) :
    v4Class address = none ∨ v4Class address = some .multicast := by
  rw [← Bool.not_eq_true, ipv4IsPrivateOrLoopback_iff] at h
  simp only [v4Class, Bool.and_eq_true, decide_eq_true_eq, ← UInt32.toNat_inj,
    UInt32.le_iff_toNat_le, UInt32.reduceToNat]
  split_ifs
  all_goals first | (exfalso; omega) | exact .inl rfl | exact .inr rfl

theorem mappedV4_eq_some {octets : List UInt8} (h : mappedV4 octets = some address) :
    ∃ first second third fourth, address = v4OfOctets first second third fourth ∧
      octets = List.replicate 10 0 ++ [0xFF, 0xFF] ++ [first, second, third, fourth] := by
  revert h
  fun_cases mappedV4 octets <;> intro h <;> cases h
  case case1 htake first second third fourth hdrop =>
    refine ⟨first, second, third, fourth, rfl, ?_⟩
    rw [← htake, ← hdrop, List.take_append_drop]

theorem linkLocal_prefix (second : UInt8) :
    (0x80 ≤ second && second ≤ 0xBF) = decide (second &&& 0xC0 = 0x80) := by
  revert second
  apply forall_byte
  decide +kernel

theorem v6Class_of_allowed {octets : List UInt8} (h : ipv6IsPrivateOrLoopback octets = false) :
    v6Class octets = none ∨ v6Class octets = some .multicast := by
  fun_cases v6Class octets
  case case1 => cases h
  case case2 => cases h
  case case3 first second rest hlocal _ _ =>
    have hprefix : first &&& 0xFE = 0xFC := by
      rcases Bool.or_eq_true_iff.mp hlocal with hfirst | hfirst
      · rw [of_decide_eq_true hfirst]
        decide
      · rw [of_decide_eq_true hfirst]
        decide
    simp [ipv6IsPrivateOrLoopback, hprefix] at h
  case case4 first second rest _ hlocal _ _ =>
    rw [Bool.and_assoc, linkLocal_prefix, Bool.and_eq_true, decide_eq_true_eq,
      decide_eq_true_eq] at hlocal
    simp [ipv6IsPrivateOrLoopback, hlocal.1, hlocal.2] at h
  case case5 => exact .inr rfl
  case case6 first second rest _ _ _ _ _ =>
    rcases hmapped : mappedV4 (first :: second :: rest) with - | address
    · exact .inl rfl
    · obtain ⟨a, b, c, d, rfl, heq⟩ := mappedV4_eq_some hmapped
      rw [heq] at h
      exact v4Class_of_allowed
        (by simpa [ipv6IsPrivateOrLoopback, v4OfOctets, List.replicate] using h)
  case case7 => exact .inl rfl

/-- An address that is let through is a public one or multicast. -/
theorem addressClass_of_allowed {libc : Libc} {text : Bytes}
    (h : ipAddressIsPrivateOrLoopback libc text = false) :
    addressClass libc text = none ∨ addressClass libc text = some .multicast := by
  revert h
  rw [ipAddressIsPrivateOrLoopback, addressClass]
  rcases libc.inetPton4 text with - | address
  · rcases libc.inetPton6 text with - | octets
    · exact fun _ => .inl rfl
    · exact v6Class_of_allowed
  · exact v4Class_of_allowed

end Addresses

section Safety

variable {Net : Type} {libc : Libc} {yyjson : Yyjson} {network : ServerDiscoveryNetwork Net}

/-- Every pinned address has passed the filter, and the certificate is wanted for
the host. -/
structure SafeDestination (libc : Libc) (tlsHost : Bytes) (result : ServerDiscoveryResult) :
    Prop where
  pinned : ∀ address ∈ result.pinnedAddresses, ipAddressIsPrivateOrLoopback libc address = false
  identity : result.tlsServerName = tlsHost

variable (serverName : Bytes)

theorem resolveDestination_safe (hostPort : HostPort) (tlsHost : Bytes) (net : Net) :
    SafeDestination libc tlsHost
      (resolveDestination libc network serverName hostPort tlsHost net).1 := by
  refine ⟨?_, rfl⟩
  have hpinned : ∀ address ∈ (resolveFederationDestination libc network hostPort.host hostPort.port
      net).1.pinnedAddresses, ipAddressIsPrivateOrLoopback libc address = false := by
    fun_cases resolveFederationDestination libc network hostPort.host hostPort.port net
    case case5 addresses _ _ _ _ hallowed =>
      intro address hmem
      rw [Bool.not_eq_true, Bool.not_eq_false', addressSetAllowed, Bool.and_eq_true,
        Bool.not_eq_true', Bool.not_eq_true', List.any_eq_false] at hallowed
      exact Bool.eq_false_of_not_eq_true (hallowed.2 address hmem)
    all_goals
      intro address hmem
      cases hmem
  exact hpinned

theorem resolveBySrv_safe (hostPort : HostPort) (net : Net) :
    SafeDestination libc hostPort.host (resolveBySrv libc network serverName hostPort net).1 := by
  fun_cases resolveBySrv libc network serverName hostPort net <;>
    exact resolveDestination_safe _ _ _ _

theorem discoverByName_safe (timeoutSeconds : Nat) (direct : HostPort) (net : Net) :
    SafeDestination libc
      ((delegatedHostPort libc yyjson
        (network.fetchWellKnown net serverName timeoutSeconds).1).getD direct).host
      (discoverByName libc yyjson network serverName timeoutSeconds direct net).1 := by
  rw [discoverByName]
  dsimp only
  rcases delegatedHostPort libc yyjson (network.fetchWellKnown net serverName timeoutSeconds).1
    with - | delegated
  · exact resolveBySrv_safe _ _ _
  · have hsafe : SafeDestination libc delegated.host (resolveHostPort libc network serverName
        delegated (network.fetchWellKnown net serverName timeoutSeconds).2).1 := by
      rw [resolveHostPort]
      split_ifs
      · exact resolveDestination_safe _ _ _ _
      · exact resolveBySrv_safe _ _ _
    exact ⟨hsafe.pinned, hsafe.identity⟩

def certificateHost (libc : Libc) (yyjson : Yyjson) (serverName : Bytes)
    (wellKnown : WellKnownServerResult) : Option Bytes :=
  (parseHostPort serverName defaultFederationPort).map fun direct =>
    if isDirect libc direct then direct.host
    else ((delegatedHostPort libc yyjson wellKnown).getD direct).host

theorem certificateHost_cases {serverName tlsHost : Bytes} {wellKnown : WellKnownServerResult}
    (h : certificateHost libc yyjson serverName wellKnown = some tlsHost) :
    (∃ hostPort, parseHostPort serverName defaultFederationPort = some hostPort ∧
        tlsHost = hostPort.host) ∨
      ∃ delegated hostPort, extractMServer yyjson wellKnown.body = some delegated ∧
        parseHostPort delegated defaultFederationPort = some hostPort ∧
          tlsHost = hostPort.host := by
  obtain ⟨direct, hparse, rfl⟩ := Option.map_eq_some_iff.mp h
  rcases hdelegated : delegatedHostPort libc yyjson wellKnown with - | hostPort
  · refine .inl ⟨direct, hparse, ?_⟩
    split_ifs <;> rfl
  · split_ifs
    · exact .inl ⟨direct, hparse, rfl⟩
    · rw [delegatedHostPort] at hdelegated
      split_ifs at hdelegated
      obtain ⟨delegated, hserver, hhost⟩ :=
        Option.bind_eq_some_iff.mp (Option.filter_eq_some_iff.mp hdelegated).1
      exact .inr ⟨delegated, hostPort, hserver, hhost, rfl⟩

theorem discoverServer_safe (timeoutSeconds : Nat) (net : Net)
    (hallowed : (discoverServer libc yyjson network serverName timeoutSeconds
      net).1.discoveryAllowed = true) :
    ∃ tlsHost, certificateHost libc yyjson serverName
          (network.fetchWellKnown net serverName timeoutSeconds).1 = some tlsHost ∧
        SafeDestination libc tlsHost
          (discoverServer libc yyjson network serverName timeoutSeconds net).1 := by
  rw [discoverServer] at hallowed ⊢
  rw [certificateHost]
  split_ifs at hallowed ⊢ with hempty
  rcases hparse : parseHostPort serverName defaultFederationPort with - | direct <;>
    rw [hparse] at hallowed
  · cases hallowed
  · rcases husable : hostIsUsable libc direct with - | -
    · rw [Option.filter_some, husable] at hallowed
      cases hallowed
    · rw [Option.filter_some, husable, if_pos rfl]
      refine ⟨_, rfl, ?_⟩
      dsimp only
      split_ifs
      · exact resolveDestination_safe _ _ _ _
      · exact discoverByName_safe _ _ _ _

end Safety

/-- Where discovery is allowed, it pins no address of a reserved class but
multicast, and wants a certificate for the host of the server name or of its
delegation, whatever the SRV and address records are. -/
theorem discovered_destination_is_safe {Net : Type} (libc : Libc) (yyjson : Yyjson)
    (network : ServerDiscoveryNetwork Net) (serverName : Bytes) (timeoutSeconds : Nat) (net : Net)
    (hallowed : (discoverServer libc yyjson network serverName timeoutSeconds
      net).1.discoveryAllowed = true) :
    let result := (discoverServer libc yyjson network serverName timeoutSeconds net).1
    let wellKnown := (network.fetchWellKnown net serverName timeoutSeconds).1
    (∀ address ∈ result.pinnedAddresses,
        addressClass libc address = none ∨ addressClass libc address = some .multicast) ∧
      ((∃ hostPort, parseHostPort serverName defaultFederationPort = some hostPort ∧
          result.tlsServerName = hostPort.host) ∨
        ∃ delegated hostPort, extractMServer yyjson wellKnown.body = some delegated ∧
          parseHostPort delegated defaultFederationPort = some hostPort ∧
          result.tlsServerName = hostPort.host) ∧
      ∀ {Other : Type} (network' : ServerDiscoveryNetwork Other) (net' : Other),
        (network'.fetchWellKnown net' serverName timeoutSeconds).1 = wellKnown →
        (discoverServer libc yyjson network' serverName timeoutSeconds
          net').1.discoveryAllowed = true →
        (discoverServer libc yyjson network' serverName timeoutSeconds net').1.tlsServerName =
          result.tlsServerName := by
  obtain ⟨tlsHost, hhost, hsafe⟩ := discoverServer_safe serverName timeoutSeconds net hallowed
  refine ⟨fun address hmem => addressClass_of_allowed (hsafe.pinned address hmem), ?_, ?_⟩
  · rw [hsafe.identity]
    exact certificateHost_cases hhost
  · intro Other network' net' hsame hallowed'
    obtain ⟨tlsHost', hhost', hsafe'⟩ :=
      discoverServer_safe serverName timeoutSeconds net' hallowed'
    rw [hsame, hhost] at hhost'
    rw [hsafe'.identity, hsafe.identity, Option.some.inj hhost']

def sampleLibc : Libc where
  inetPton4 text :=
    if text = "203.0.113.7" then some 0xCB007107
    else if text = "224.0.0.1" then some 0xE0000001
    else none
  inetPton6 _ := none
  strtoull _ := none

/-- A network in which no server delegates, an SRV record points elsewhere and
every host has one address. -/
def sampleNetwork (address : Bytes) : ServerDiscoveryNetwork Unit where
  fetchWellKnown net _ _ := ({}, net)
  lookupSrv net _ := ([{ target := "matrix.evil.example", port := 443 }], net)
  lookupAddresses net _ _ := ({ ok := true, addresses := [address] }, net)

theorem srv_destination_keeps_identity :
    let result := (discoverServer sampleLibc (readerOf []) (sampleNetwork "203.0.113.7")
      "b.example" 30 ()).1
    result.resolvedHost = "matrix.evil.example" ∧ result.tlsServerName = "b.example" ∧
      ∀ address ∈ result.pinnedAddresses, addressClass sampleLibc address = none ∨
        addressClass sampleLibc address = some .multicast :=
  ⟨by decide +kernel, by decide +kernel,
    (discovered_destination_is_safe sampleLibc (readerOf []) (sampleNetwork "203.0.113.7")
      "b.example" 30 () (by decide +kernel)).1⟩

theorem multicast_is_pinned :
    let result := (discoverServer sampleLibc (readerOf []) (sampleNetwork "224.0.0.1")
      "b.example" 30 ()).1
    result.discoveryAllowed = true ∧
      ∃ address ∈ result.pinnedAddresses, addressClass sampleLibc address = some .multicast := by
  decide +kernel

end Merovingian.ServerDiscovery
