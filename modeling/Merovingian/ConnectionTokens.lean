import Mathlib.Data.List.DropRight
import Merovingian.ByteString

/-!
The search for a token in a `Connection` header. The scan goes on behind the element
that it has trimmed and not behind its comma, so it also visits blanks before a comma.
-/

namespace Merovingian.ConnectionTokens

open ByteString List

def isOptionalWhitespace (value : UInt8) : Bool :=
  value = byte ' ' || value = byte '\t'

def asciiLowercase (value : UInt8) : UInt8 :=
  if value ≥ byte 'A' && value ≤ byte 'Z' then value - byte 'A' + byte 'a' else value

def trim (element : Bytes) : Bytes :=
  (element.dropWhile isOptionalWhitespace).rdropWhile isOptionalWhitespace

def firstElement (connectionHeader : Bytes) : Bytes :=
  connectionHeader.takeWhile (· != byte ',')

/-- The index behind the first element once it is trimmed. -/
def elementEnd (connectionHeader : Bytes) : Nat :=
  ((firstElement connectionHeader).takeWhile isOptionalWhitespace).length +
    (trim (firstElement connectionHeader)).length

def sameToken (element token : Bytes) : Bool :=
  element.map asciiLowercase = token.map asciiLowercase

/-- The loop from the place where `connectionHeader` begins. -/
def connectionHeaderHasToken (connectionHeader token : Bytes) : Bool :=
  if sameToken (trim (firstElement connectionHeader)) token then true
  else if elementEnd connectionHeader = connectionHeader.length then false
  else connectionHeaderHasToken (connectionHeader.drop (elementEnd connectionHeader + 1)) token
termination_by connectionHeader.length
decreasing_by
  rcases connectionHeader with - | ⟨first, rest⟩
  · contradiction
  · rw [length_drop, length_cons]
    omega

variable {connectionHeader token : Bytes}

/-- The token is an element of the comma-separated list. -/
def Lists (connectionHeader token : Bytes) : Prop :=
  ∃ element ∈ connectionHeader.splitOn (byte ','),
    (trim element).map asciiLowercase = token.map asciiLowercase

theorem lists_append (first rest : Bytes) :
    Lists (first ++ byte ',' :: rest) token ↔ Lists first token ∨ Lists rest token := by
  simp [Lists, splitOn_append_cons_self, or_and_right, exists_or]

theorem lists_plain {element : Bytes} (hplain : byte ',' ∉ element) :
    Lists element token ↔ sameToken (trim element) token = true := by
  simp [Lists, sameToken, splitOn_eq_singleton hplain]

theorem exists_blank (element : Bytes) : ∃ blank,
    (element.takeWhile isOptionalWhitespace ++ trim element) ++ blank = element ∧
      ∀ value ∈ blank, isOptionalWhitespace value = true := by
  refine ⟨(element.dropWhile isOptionalWhitespace).rtakeWhile isOptionalWhitespace, ?_,
    fun value hvalue => mem_rtakeWhile_imp hvalue⟩
  rw [trim, append_assoc, rdropWhile_append_rtakeWhile, takeWhile_append_dropWhile]

variable (htoken : token ≠ [])
include htoken

theorem not_lists_blank {blank : Bytes}
    (hblank : ∀ value ∈ blank, isOptionalWhitespace value = true) : ¬ Lists blank token := by
  rw [lists_plain fun hcomma => absurd (hblank _ hcomma) (by decide), trim,
    dropWhile_eq_nil_iff.mpr hblank, rdropWhile_nil]
  simpa [sameToken, eq_comm] using htoken

/-- One round of the scan: what it leaves over in front of a comma is blank. -/
theorem lists_iff (connectionHeader : Bytes) : Lists connectionHeader token ↔
      sameToken (trim (firstElement connectionHeader)) token = true ∨
        Lists (connectionHeader.drop (elementEnd connectionHeader + 1)) token := by
  obtain ⟨more, hheader, hmore⟩ : ∃ more, connectionHeader = firstElement connectionHeader ++ more ∧
      (more = [] ∨ ∃ rest, more = byte ',' :: rest) := by
    refine ⟨_, takeWhile_append_dropWhile.symm, ?_⟩
    have hhead := head?_dropWhile_not (· != byte ',') connectionHeader
    rcases hdrop : connectionHeader.dropWhile (· != byte ',') with - | ⟨comma, rest⟩
    · exact .inl rfl
    · rw [hdrop] at hhead
      exact .inr ⟨rest, by simpa using hhead⟩
  have hplain : byte ',' ∉ firstElement connectionHeader := fun hcomma => by
    simpa using mem_takeWhile_imp hcomma
  obtain ⟨blank, hfirst, hblank⟩ := exists_blank (firstElement connectionHeader)
  have hdrop : connectionHeader.drop (elementEnd connectionHeader + 1) = (blank ++ more).tail := by
    rw [elementEnd, ← length_append, ← drop_one, ← drop_drop]
    nth_rewrite 3 [hheader]
    nth_rewrite 3 [← hfirst]
    rw [append_assoc, drop_left]
  rw [hdrop, ← lists_plain hplain]
  nth_rewrite 1 [hheader]
  rcases hmore with rfl | ⟨rest, rfl⟩
  · rw [append_nil, append_nil, or_iff_left]
    exact not_lists_blank htoken fun value hvalue => hblank value (mem_of_mem_tail hvalue)
  · rw [lists_append]
    rcases blank with - | ⟨first, blank⟩
    · rfl
    · have hnone := not_lists_blank htoken (forall_mem_cons.mp hblank).2
      rw [cons_append, tail_cons, lists_append, or_iff_right hnone]

/-- The scan ends on every header and finds the tokens that the header lists. -/
theorem connectionHeaderHasToken_iff :
    connectionHeaderHasToken connectionHeader token = true ↔ Lists connectionHeader token := by
  fun_induction connectionHeaderHasToken connectionHeader token <;> rw [lists_iff htoken]
  case case1 hsame => simp [hsame]
  case case2 hother hend =>
    rw [hend, drop_eq_nil_of_le (Nat.le_succ _)]
    have hnone : ¬ Lists [] token := not_lists_blank htoken (by simp)
    simp [hother, hnone]
  case case3 hother _ ih => simp [ih, hother]

omit htoken in
theorem close_is_found : connectionHeaderHasToken "Keep-Alive , CLOSE\t,," "close" = true :=
  (connectionHeaderHasToken_iff (by decide)).mpr ⟨utf8 " CLOSE\t", by decide, by decide⟩

end Merovingian.ConnectionTokens
