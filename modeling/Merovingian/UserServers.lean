import Mathlib.Data.List.TakeWhile
import Merovingian.DispatchWorker
import Merovingian.KeyFreshness

/-!
The server of a user. Signatures are asked of what follows the first colon of
an id; EDUs, key queries, to-device messages and membership events go to what
follows the last one.
-/

namespace Merovingian.UserServers

open ByteString CanonicalSerializer Identifiers DispatchWorker KeyFreshness List

def localpartIsValidFederated (localpart : Bytes) : Bool :=
  !localpart.contains 0 && !localpart.contains (byte ':') && utf8IsValid localpart

/-- The permissive grammar, for ids received over federation. -/
def userIdIsValidFederated (userId : Bytes) : Bool :=
  userId.length ≤ 255 && userId.head? = some (byte '@') &&
    match splitAtFirst (byte ':') userId with
    | none => false
    | some (sigilAndLocalpart, serverName) =>
      !serverName.isEmpty && localpartIsValidFederated sigilAndLocalpart.tail &&
        serverNameIsValid serverName

def serverNameFromUserId (userId : Bytes) : Bytes := (memberServer userId).getD []

/-- The server to which key queries, key claims and to-device messages go. -/
def userServer (userId : Bytes) : Bytes := (memberServer userId).getD []

structure OneServer (userId : Bytes) : Prop where
  destination : memberServer userId = some (userIdServerName userId)
  routed : serverNameFromUserId userId = userIdServerName userId
  asked : userServer userId = userIdServerName userId
  signed : senderDomainFromUserId userId = userIdServerName userId

variable {separator : UInt8} {userId text first rest : Bytes}

theorem splitAtFirst_eq_some (h : splitAtFirst separator text = some (first, rest)) :
    text = first ++ separator :: rest := by
  induction text generalizing first with
  | nil => cases h
  | cons character text ih =>
    rw [splitAtFirst] at h
    split_ifs at h with heq
    · cases h
      rw [heq, nil_append]
    · obtain ⟨parts, hparts, hpair⟩ := Option.map_eq_some_iff.mp h
      cases hpair
      rw [ih hparts, cons_append]

variable (separator first rest) in
theorem takeWhile_eq_iff :
    ((first ++ separator :: rest).reverse.takeWhile (· ≠ separator)).reverse = rest ↔
      separator ∉ rest := by
  constructor
  · intro h hmem
    rw [← h, mem_reverse] at hmem
    have hne := mem_takeWhile_imp hmem
    simp at hne
  · intro hfree
    rw [reverse_append, reverse_cons, append_assoc, takeWhile_append_of_pos]
    · simp
    · intro character hmem
      exact decide_eq_true fun heq => hfree (heq ▸ mem_reverse.mp hmem)

theorem split_of_valid
    (hvalid : userIdIsValid userId = true ∨ userIdIsValidFederated userId = true) :
    ∃ first, splitAtFirst (byte ':') userId = some (first, userIdServerName userId) := by
  have hshape : userId.head? = some (byte '@') ∧
      ∃ parts, splitAtFirst (byte ':') userId = some parts := by
    rw [userIdIsValid, userIdIsValidFederated] at hvalid
    rcases hsplit : splitAtFirst (byte ':') userId with - | parts
    · simp [hsplit] at hvalid
    · simp only [Bool.and_eq_true, decide_eq_true_eq] at hvalid
      exact ⟨hvalid.elim (·.1.2) (·.1.2), parts, rfl⟩
  obtain ⟨hsigil, ⟨first, serverName⟩, hsplit⟩ := hshape
  refine ⟨first, ?_⟩
  have htext := splitAtFirst_eq_some hsplit
  have hlong : ¬ userId.length < 2 := by
    rcases first with - | ⟨sigil, first⟩
    · rw [htext] at hsigil
      cases hsigil
    · rw [htext, length_append, length_cons, length_cons]
      omega
  simp [userIdServerName, hlong, hsigil, hsplit]

/-- The places agree on a valid user id unless its server is named with a port
or by an IPv6 address. -/
theorem oneServer_iff {userId : Bytes}
    (hvalid : userIdIsValid userId = true ∨ userIdIsValidFederated userId = true) :
    OneServer userId ↔ byte ':' ∉ userIdServerName userId := by
  obtain ⟨first, hsplit⟩ := split_of_valid hvalid
  have htext := splitAtFirst_eq_some hsplit
  have hcolon : userId.contains (byte ':') = true := by
    rw [htext]
    simp
  have hlast := takeWhile_eq_iff (byte ':') first (userIdServerName userId)
  rw [← htext] at hlast
  rw [← hlast]
  constructor
  · intro h
    exact Option.some.inj ((if_pos hcolon).symm.trans h.destination)
  · intro heq
    have hmember : memberServer userId = some (userIdServerName userId) :=
      (if_pos hcolon).trans (congrArg some heq)
    exact ⟨hmember, by rw [serverNameFromUserId, hmember]; rfl, by rw [userServer, hmember]; rfl,
      (if_pos hcolon).trans heq⟩

theorem plain_host_has_one_server : OneServer "@bob:example.org" :=
  (oneServer_iff (.inl (by decide +kernel))).mpr (by decide +kernel)

/-- A signature of `example.org:8448` is required, and messages go to `8448`. -/
theorem port_is_taken_for_server : userIdIsValid "@bob:example.org:8448" = true ∧
    userIdServerName "@bob:example.org:8448" = utf8 "example.org:8448" ∧
    userServer "@bob:example.org:8448" = utf8 "8448" ∧ ¬ OneServer "@bob:example.org:8448" :=
  ⟨by decide +kernel, by decide +kernel, by decide +kernel,
    fun h => absurd h.asked (by decide +kernel)⟩

end Merovingian.UserServers
