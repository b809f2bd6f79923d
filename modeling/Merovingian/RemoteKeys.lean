import Merovingian.FederationPdus

/-!
The cache of other servers' signing keys. A response of a key server is checked
against the keys it publishes and stored row by row; the resolver answers from
the table while a row is fresh, asks the key server otherwise, and falls back to
the old row when that fails.

Discovery, the key servers and the database are a parameter with a state of
their own, so that they may answer anything at any time. The cache also keeps
the responses it accepted, each with the time of the fetch; nothing in the code
reads them.
-/

namespace Merovingian.RemoteKeys

open ByteString JsonValue CanonicalSerializer CanonicalParser EventSigning FederationPolicy

structure RemoteVerifyKey where
  keyId : Bytes
  publicKeyBase64 : Bytes
deriving DecidableEq

structure RemoteKeyResponse where
  serverName : Bytes
  validUntilTs : Nat
  verifyKeys : List RemoteVerifyKey
deriving DecidableEq

structure RemoteKeyParsed where
  serverName : Bytes
  validUntilTs : Nat
  verifyKeys : List RemoteVerifyKey
  serverSignatures : List (Bytes × Bytes)
  canonicalPayload : Value

def naturalMember (object : Object) (key : Bytes) : Option Nat :=
  ((integerMember object key).filter fun number => 0 ≤ number).map fun number =>
    number.toInt.toNat

def parseVerifyKey (member : Bytes × Value) : Option RemoteVerifyKey :=
  (valueIsObject member.2).bind fun key =>
    (nonEmptyStringMember key "key").map fun encoded => ⟨member.1, encoded⟩

/-- Every key of a response must be well formed, while a signature that is not a
text is passed over. -/
def parseResponse (yyjson : Yyjson) (body : Bytes) : Option RemoteKeyParsed :=
  match (parseLossless yyjson body).toOption.bind valueIsObject with
  | none => none
  | some root =>
    match stringMember root "server_name", naturalMember root "valid_until_ts",
        (objectMemberAsObject root "verify_keys").bind fun keys => keys.mapM parseVerifyKey,
        objectMemberAsObject root "signatures" with
    | some serverName, some validUntilTs, some verifyKeys, some signatures =>
      match objectMemberAsObject signatures serverName with
      | none => none
      | some members =>
        let serverSignatures := members.filterMap fun member =>
          (valueIsString member.2).map fun signature => (member.1, signature)
        if verifyKeys.isEmpty || serverSignatures.isEmpty then none
        else some ⟨serverName, validUntilTs, verifyKeys, serverSignatures,
          .object (cloneWithoutFields root ["signatures"])⟩
    | _, _, _, _ => none

def verifyOneSignature (sodium : Libsodium) (payload signature publicKey : Bytes) : Bool :=
  ed25519Verify sodium (matrixBytesFromBase64 sodium publicKey) payload
    (matrixBytesFromBase64 sodium signature)

def keySignsResponse (sodium : Libsodium) (parsed : RemoteKeyParsed) (payload : Bytes)
    (key : RemoteVerifyKey) : Bool :=
  (parsed.serverSignatures.find? fun signature => signature.1 = key.keyId).any fun signature =>
    verifyOneSignature sodium payload signature.2 key.publicKeyBase64

def parseAndVerifyRemoteKeyResponse (yyjson : Yyjson) (sodium : Libsodium)
    (body expectedServerName : Bytes) : Option RemoteKeyResponse :=
  match parseResponse yyjson body with
  | none => none
  | some parsed =>
    if parsed.serverName ≠ expectedServerName || !serverNameIsValid parsed.serverName ||
        parsed.validUntilTs = 0 then none
    else
      match serializeCanonicalStrict parsed.canonicalPayload with
      | .error _ => none
      | .ok payload =>
        if parsed.verifyKeys.all (keySignsResponse sodium parsed payload) then
          some ⟨parsed.serverName, parsed.validUntilTs, parsed.verifyKeys⟩
        else none

structure ServerDiscoveryResult where
  discoveryAllowed : Bool
  wellKnownHost : Bytes
  resolvedHost : Bytes
  pinnedAddresses : List Bytes
  tlsRequired : Bool

structure PersistentServerSigningKey where
  serverName : Bytes
  keyId : Bytes
  publicKey : Bytes
  validUntilTs : Nat
deriving DecidableEq

/-- What the resolver reaches over the network and in the database: a discovery,
the body of a key server's answer with status 200, and whether a row is
committed. -/
structure KeyNetwork (Network : Type) where
  discover : Network → Bytes → ServerDiscoveryResult × Network
  keyResponse : Network → Bytes → Option Bytes × Network
  commits : Network → PersistentServerSigningKey → Bool × Network

structure FetchedKeys where
  serverName : Bytes
  fetchedAt : Nat
  body : Bytes
deriving DecidableEq

structure KeyCache (Network : Type) where
  clock : Nat
  rows : List PersistentServerSigningKey
  fetched : List FetchedKeys
  network : Network

def storeRow (row : PersistentServerSigningKey) :
    List PersistentServerSigningKey → List PersistentServerSigningKey
  | [] => [row]
  | head :: rest =>
    if head.serverName = row.serverName && head.keyId = row.keyId then row :: rest
    else head :: storeRow row rest

variable {Network : Type} (network : KeyNetwork Network)

def storeServerSigningKey (cache : KeyCache Network) (row : PersistentServerSigningKey) :
    KeyCache Network :=
  if row.serverName.isEmpty || row.keyId.isEmpty || row.publicKey.isEmpty ||
      row.validUntilTs = 0 then cache
  else
    match network.commits cache.network row with
    | (false, state) => { cache with network := state }
    | (true, state) => { cache with network := state, rows := storeRow row cache.rows }

def findServerSigningKey (cache : KeyCache Network) (serverName keyId : Bytes) :
    Option PersistentServerSigningKey :=
  cache.rows.find? fun row => row.serverName = serverName && row.keyId = keyId

section

variable (yyjson : Yyjson) (sodium : Libsodium) (cache : KeyCache Network) (serverName : Bytes)

def refreshSlackMs : Nat := 5 * 60 * 1000

def remoteKeyNeedsRefresh (validUntilTs nowTs : Nat) : Bool :=
  validUntilTs = 0 || validUntilTs ≤ nowTs || validUntilTs - nowTs ≤ refreshSlackMs

def responseRow (response : RemoteKeyResponse) (key : RemoteVerifyKey) :
    PersistentServerSigningKey :=
  ⟨response.serverName, key.keyId, key.publicKeyBase64, response.validUntilTs⟩

def cacheRemoteServerKeys (response : RemoteKeyResponse) : KeyCache Network :=
  if response.serverName.isEmpty || response.validUntilTs = 0 then cache
  else response.verifyKeys.foldl
    (fun cache key => storeServerSigningKey network cache (responseRow response key)) cache

/-- A row whose key does not decode to 32 bytes is no key. -/
def findCachedRemoteKey (keyId : Bytes) : Option FederationKeyRecord :=
  (findServerSigningKey cache serverName keyId).bind fun row =>
    let publicKeyBytes := matrixBytesFromBase64 sodium row.publicKey
    if publicKeyBytes.length = 32 then
      some ⟨row.serverName, row.keyId, row.validUntilTs, publicKeyBytes⟩
    else none

/-- Discovers the server once more, then asks it for its keys. A response that is
accepted is noted with the time. -/
def fetchRemoteServerKeys : Option RemoteKeyResponse × KeyCache Network :=
  match network.discover cache.network serverName with
  | (discovery, state) =>
    if !discovery.discoveryAllowed then (none, { cache with network := state })
    else
      match network.keyResponse state serverName with
      | (none, state) => (none, { cache with network := state })
      | (some body, state) =>
        match parseAndVerifyRemoteKeyResponse yyjson sodium body serverName with
        | none => (none, { cache with network := state })
        | some response =>
          (some response, { cache with
            network := state
            fetched := cache.fetched ++ [⟨serverName, cache.clock, body⟩] })

def buildRemoteRuntime (signingKey : FederationKeyRecord) (discovery : ServerDiscoveryResult) :
    FederationRemoteRuntime where
  serverName := serverName
  trust := { reputationScore := 100 }
  signingKey := signingKey
  discovery := {
    serverName := serverName
    wellKnownHost :=
      if discovery.wellKnownHost.isEmpty then discovery.resolvedHost else discovery.wellKnownHost
    resolvedHost := discovery.resolvedHost
    resolvedAddresses := discovery.pinnedAddresses
    tlsRequired := discovery.tlsRequired }

/-- The key after a fetch: the row it left, if the response had the key, or else
the row from before. -/
def fetchedRemoteKey (cachedKey : Option FederationKeyRecord) (serverName keyId : Bytes) : Option
    FederationKeyRecord × KeyCache Network :=
  match fetchRemoteServerKeys network yyjson sodium cache serverName with
  | (none, cache) => (cachedKey, cache)
  | (some response, cache) =>
    let cache := cacheRemoteServerKeys network cache response
    ((findCachedRemoteKey sodium cache serverName keyId).or cachedKey, cache)

/-- The resolver over the persistent table. No key is handed out for a server
whose discovery is refused. -/
def resolveRemoteKey (keyId : Bytes) : Option FederationRemoteRuntime × KeyCache Network :=
  let cachedKey := findCachedRemoteKey sodium cache serverName keyId
  match network.discover cache.network serverName with
  | (discovery, state) =>
    let cache := { cache with network := state }
    if discovery.discoveryAllowed && cachedKey.any fun key =>
        !remoteKeyNeedsRefresh key.validUntilTs cache.clock then
      (cachedKey.map fun key => buildRemoteRuntime serverName key discovery, cache)
    else
      let (key, cache) := fetchedRemoteKey network yyjson sodium cache cachedKey serverName keyId
      (if discovery.discoveryAllowed then
        key.map fun key => buildRemoteRuntime serverName key discovery
      else none, cache)

end

end Merovingian.RemoteKeys
