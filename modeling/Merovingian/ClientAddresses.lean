import Mathlib.Data.List.TakeWhile
import Merovingian.ServerAcl
import Merovingian.ServerDiscovery

/-!
The address by which a client is limited. Behind a trusted proxy it is the
first element of the first `X-Forwarded-For` header, so a proxy that appends to
what its client sent lets the client choose it.
-/

namespace Merovingian.ClientAddresses

open ByteString FederationPolicy ServerAcl List
open Identifiers (isIpv6Character)
open ServerDiscovery (sampleLibc)

structure Header where
  name : Bytes
  value : Bytes

structure LocalHttpRequest where
  headers : List Header
  remoteAddr : Bytes

def isForwardedFor (header : Header) : Bool :=
  header.name.map toLowerAscii = "x-forwarded-for"

def firstElement (value : Bytes) : Bytes :=
  (((value.takeWhile (· ≠ byte ',')).dropWhile (· = byte ' ')).reverse.dropWhile
    (· = byte ' ')).reverse

def effectiveClientIp (libc : Libc) (request : LocalHttpRequest) (trustedProxies : List Bytes) :
    Bytes :=
  let raw := request.remoteAddr
  if raw.isEmpty then "unknown"
  else if !trustedProxies.contains raw then raw
  else
    match request.headers.find? isForwardedFor with
    | none => raw
    | some header =>
      let first := firstElement header.value
      if !first.isEmpty && ipAddressIsValid libc first then first else raw

/-- What a proxy leaves in a header that held these elements, or none. -/
def appendElement (blanks address : Bytes) : Option Bytes → Bytes
  | none => address
  | some elements => elements ++ byte ',' :: (blanks ++ address)

structure IsLiteral (libc : Libc) (address : Bytes) : Prop where
  nonempty : address ≠ []
  valid : ipAddressIsValid libc address = true
  characters : ∀ character ∈ address, isIpv6Character character = true

theorem firstElement_append (elements rest : Bytes) :
    firstElement (elements ++ byte ',' :: rest) = firstElement elements := by
  have htake : (elements ++ byte ',' :: rest).takeWhile (· ≠ byte ',') =
      elements.takeWhile (· ≠ byte ',') := by
    induction elements with
    | nil => simp
    | cons first elements ih => simp only [cons_append, takeWhile_cons, ih]
  rw [firstElement, htake, firstElement]

theorem firstElement_of_isLiteral {libc : Libc} {address : Bytes} (h : IsLiteral libc address) :
    firstElement address = address := by
  have hplain : ∀ character ∈ address, character ≠ byte ',' ∧ character ≠ byte ' ' := by
    intro character hmem
    have hcharacter := h.characters character hmem
    clear hmem
    revert character
    apply forall_byte
    decide +kernel
  have hspaces : ∀ {text : Bytes}, text ⊆ address → text.dropWhile (· = byte ' ') = text := by
    intro text hsubset
    rcases text with - | ⟨first, rest⟩
    · rfl
    · exact dropWhile_cons_of_neg (by simpa using (hplain first (hsubset mem_cons_self)).2)
  rw [firstElement, takeWhile_eq_self_iff.mpr fun character hmem =>
    decide_eq_true (hplain character hmem).1, hspaces (Subset.refl _),
    hspaces (reverse_subset.mpr (Subset.refl _)), reverse_reverse]

/-- A client that comes through an appending proxy is known by the address that
the proxy reports exactly if it supplied nothing, or that address first, or
first what is no address while the peer has that address. -/
theorem effectiveClientIp_eq_iff (libc : Libc) (request : LocalHttpRequest)
    (trustedProxies : List Bytes) (before after : List Header) (name blanks address : Bytes)
    (elements : Option Bytes) (hpeer : request.remoteAddr ≠ [])
    (htrusted : request.remoteAddr ∈ trustedProxies) (haddress : IsLiteral libc address)
    (hname : name.map toLowerAscii = utf8 "x-forwarded-for") (hheaders : request.headers =
      before ++ ⟨name, appendElement blanks address elements⟩ :: after) :
    effectiveClientIp libc request trustedProxies = address ↔
      ∀ supplied, ((before.find? isForwardedFor).map Header.value).or elements = some supplied →
        firstElement supplied = address ∨ request.remoteAddr = address ∧
          (firstElement supplied = [] ∨ ipAddressIsValid libc (firstElement supplied) = false) := by
  have hchosen : ∀ first, (if !first.isEmpty && ipAddressIsValid libc first then first
        else request.remoteAddr) = address ↔ first = address ∨ request.remoteAddr = address ∧
          (first = [] ∨ ipAddressIsValid libc first = false) := by
    intro first
    by_cases hfirst : first = address
    · simp [hfirst, haddress.nonempty, haddress.valid]
    · split_ifs with hvalid
      · simp_all
      · simp_all [or_iff_not_imp_left]
  have hfind : request.headers.find? isForwardedFor = (before.find? isForwardedFor).or
      (some ⟨name, appendElement blanks address elements⟩) := by
    rw [hheaders, find?_append, find?_cons_of_pos (by simpa [isForwardedFor] using hname)]
  simp only [effectiveClientIp, isEmpty_eq_false_iff.mpr hpeer, contains_iff_mem.mpr htrusted,
    hfind]
  rcases before.find? isForwardedFor with - | header
  · rcases elements with - | elements
    · simp [appendElement, firstElement_of_isLiteral haddress, haddress.nonempty, haddress.valid]
    · simp [appendElement, firstElement_append, ← hchosen]
  · simp [← hchosen]

def behindProxy (value : Bytes) : LocalHttpRequest := ⟨[⟨"X-Forwarded-For", value⟩], "127.0.0.1"⟩

theorem honest_client_is_known :
    effectiveClientIp sampleLibc (behindProxy "203.0.113.7, 203.0.113.7") ["127.0.0.1"] =
      utf8 "203.0.113.7" := by
  refine (effectiveClientIp_eq_iff sampleLibc _ _ [] [] "X-Forwarded-For" " " "203.0.113.7"
    (some "203.0.113.7") (by decide +kernel) (by decide +kernel)
    ⟨by decide +kernel, by decide +kernel, by decide +kernel⟩ (by decide +kernel) rfl).mpr ?_
  rintro supplied ⟨⟩
  exact .inl (by decide +kernel)

/-- The client at `203.0.113.7` is limited as the address that it names. -/
theorem client_names_its_address :
    effectiveClientIp sampleLibc (behindProxy "224.0.0.1, 203.0.113.7") ["127.0.0.1"] =
        utf8 "224.0.0.1" ∧
      effectiveClientIp sampleLibc (behindProxy "203.0.113.7") ["127.0.0.1"] =
        utf8 "203.0.113.7" := by
  decide +kernel

end Merovingian.ClientAddresses
