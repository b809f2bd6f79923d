import Mathlib.Data.List.MinMax
import Mathlib.Data.List.ReduceOption
import Merovingian.SlidingSyncRequests

/-!
The backup of room keys. Clients upload the keys of sessions one by one, by room or for
the whole backup, and a key that is stored replaces the one that was there.
-/

namespace Merovingian.KeyBackups

open ByteString JsonValue CanonicalSerializer CanonicalParser EventQueries SlidingSyncRequests
  KeyedFold List

structure PersistentKeyBackupSession where
  userId : Bytes
  version : Bytes
  roomId : Bytes
  sessionId : Bytes
  json : Bytes
deriving DecidableEq

abbrev StoreCall := PersistentKeyBackupSession × Bool

def storable : StoreCall → Bool
  | (session, persisted) => !(session.json.isEmpty || session.version.isEmpty ||
      session.roomId.isEmpty || session.sessionId.isEmpty) && persisted

section Handlers

variable (yyjson : Yyjson) (serializeCanonical : Value → SerializeResult)
  (request : UploadRequest)

end Handlers

section Requests

variable (yyjson : Yyjson) (serializeCanonical : Value → SerializeResult)

end Requests

section Order

variable (yyjson : Yyjson)

end Order

end Merovingian.KeyBackups
