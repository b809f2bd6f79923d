import Merovingian.ByteString

/-!
JSON texts as RFC 8259 has them: a reader that keeps each number as its token,
a printer without spaces, and the round trip between the two. Which texts are
well-formed UTF-8 and how a byte of a string is escaped are parameters. Nothing
here mentions the homeserver.
-/

namespace Merovingian.JsonText

open ByteString List Option

variable {textIsValid : Bytes → Bool} {escape : UInt8 → Bytes} {fuel : Nat}

inductive Json where
  | null
  | boolean (value : Bool)
  | number (token : Bytes)
  | string (text : Bytes)
  | array (items : List Json)
  | object (members : List (Bytes × Json))
deriving Inhabited

section Tokens

def isSpace (character : UInt8) : Bool :=
  character = 0x20 || character = 0x09 || character = 0x0A || character = 0x0D

def skipSpace (input : Bytes) : Bytes := input.dropWhile isSpace

def isNumberCharacter (character : UInt8) : Bool :=
  isDigit character || character = byte '-' || character = byte '+' || character = byte '.' ||
    character = byte 'e' || character = byte 'E'

def exponentIsValid : Bytes → Bool
  | [] => true
  | mark :: rest =>
    let digits :=
      match rest with
      | [] => []
      | sign :: digits => if sign = byte '+' || sign = byte '-' then digits else rest
    (mark = byte 'e' || mark = byte 'E') && !digits.isEmpty && digits.all isDigit

def fractionIsValid : Bytes → Bool
  | [] => true
  | point :: rest =>
    if point = byte '.' then
      !(rest.takeWhile isDigit).isEmpty && exponentIsValid (rest.dropWhile isDigit)
    else exponentIsValid (point :: rest)

/-- The grammar of numbers: a leading zero stands alone. -/
def numberIsValid (token : Bytes) : Bool :=
  let unsigned :=
    match token with
    | [] => []
    | sign :: rest => if sign = byte '-' then rest else token
  let digits := unsigned.takeWhile isDigit
  !digits.isEmpty && (digits.length = 1 || digits.head? ≠ some (byte '0')) &&
    fractionIsValid (unsigned.dropWhile isDigit)

def readNumber (input : Bytes) : Option (Bytes × Bytes) :=
  if numberIsValid (input.takeWhile isNumberCharacter) then
    some (input.takeWhile isNumberCharacter, input.dropWhile isNumberCharacter)
  else none

def hexValue (digit : UInt8) : Option Nat :=
  if isDigit digit then some (digit.toNat - (byte '0').toNat)
  else if byte 'a' ≤ digit && digit ≤ byte 'f' then some (digit.toNat - (byte 'a').toNat + 10)
  else if byte 'A' ≤ digit && digit ≤ byte 'F' then some (digit.toNat - (byte 'A').toNat + 10)
  else none

def readCodeUnit : Bytes → Option (Nat × Bytes)
  | first :: second :: third :: fourth :: rest =>
    match hexValue first, hexValue second, hexValue third, hexValue fourth with
    | some a, some b, some c, some d => some (((a * 16 + b) * 16 + c) * 16 + d, rest)
    | _, _, _, _ => none
  | _ => none

def encodeUtf8 (codepoint : Nat) : Bytes :=
  let continuation := fun bits => UInt8.ofNat (0x80 + codepoint / 2 ^ bits % 64)
  if codepoint < 0x80 then [UInt8.ofNat codepoint]
  else if codepoint < 0x800 then [UInt8.ofNat (0xC0 + codepoint / 64), continuation 0]
  else if codepoint < 0x10000 then
    [UInt8.ofNat (0xE0 + codepoint / 4096), continuation 6, continuation 0]
  else
    [UInt8.ofNat (0xF0 + codepoint / 262144), continuation 12, continuation 6, continuation 0]

/-- The low half of a surrogate pair, which must follow as an escape of its own. -/
def readLowSurrogate : Bytes → Option (Nat × Bytes)
  | backslash :: letter :: rest =>
    if backslash = byte '\\' && letter = byte 'u' then
      (readCodeUnit rest).filter fun unit => 0xDC00 ≤ unit.1 && unit.1 ≤ 0xDFFF
    else none
  | _ => none

/-- The character of a `\u` escape. Half of a surrogate pair has no UTF-8 form. -/
def readUnicodeEscape (input : Bytes) : Option (Bytes × Bytes) :=
  (readCodeUnit input).bind fun (unit, rest) =>
    if 0xD800 ≤ unit && unit ≤ 0xDBFF then
      (readLowSurrogate rest).map fun (low, rest) =>
        (encodeUtf8 (0x10000 + (unit - 0xD800) * 1024 + (low - 0xDC00)), rest)
    else if 0xDC00 ≤ unit && unit ≤ 0xDFFF then none
    else some (encodeUtf8 unit, rest)

def readEscape : Bytes → Option (Bytes × Bytes)
  | [] => none
  | letter :: rest =>
    if letter = byte '"' || letter = byte '\\' || letter = byte '/' then some ([letter], rest)
    else if letter = byte 'b' then some ([0x08], rest)
    else if letter = byte 'f' then some ([0x0C], rest)
    else if letter = byte 'n' then some ([0x0A], rest)
    else if letter = byte 'r' then some ([0x0D], rest)
    else if letter = byte 't' then some ([0x09], rest)
    else if letter = byte 'u' then readUnicodeEscape rest
    else none

/-- The characters of a string up to its closing quote, with as much fuel as
there are characters. -/
def readCharacters : Nat → Bytes → Option (Bytes × Bytes)
  | 0, _ => none
  | _ + 1, [] => none
  | fuel + 1, character :: rest =>
    if character = byte '"' then some ([], rest)
    else if character = byte '\\' then
      (readEscape rest).bind fun (decoded, rest) =>
        (readCharacters fuel rest).map fun (text, rest) => (decoded ++ text, rest)
    else if character < 0x20 then none
    else (readCharacters fuel rest).map fun (text, rest) => (character :: text, rest)

end Tokens

section Reader

variable (textIsValid : Bytes → Bool)

def readString (input : Bytes) : Option (Bytes × Bytes) :=
  (readCharacters input.length input).filter fun parsed => textIsValid parsed.1

def readLiteral (literal : Bytes) (value : Json) (input : Bytes) : Option (Json × Bytes) :=
  if literal.isPrefixOf input then some (value, input.drop literal.length) else none

mutual

def readValue : Nat → Bytes → Option (Json × Bytes)
  | 0, _ => none
  | _ + 1, [] => none
  | fuel + 1, first :: rest =>
    if first = byte '"' then
      (readString textIsValid rest).map fun (text, rest) => (.string text, rest)
    else if first = byte '[' then
      match skipSpace rest with
      | [] => none
      | next :: after =>
        if next = byte ']' then some (.array [], after)
        else (readItems fuel (next :: after)).map fun (items, rest) => (.array items, rest)
    else if first = byte '\x7b' then
      match skipSpace rest with
      | [] => none
      | next :: after =>
        if next = byte '\x7d' then some (.object [], after)
        else (readMembers fuel (next :: after)).map fun (members, rest) =>
          (.object members, rest)
    else if first = byte 't' then readLiteral "true" (.boolean true) (first :: rest)
    else if first = byte 'f' then readLiteral "false" (.boolean false) (first :: rest)
    else if first = byte 'n' then readLiteral "null" .null (first :: rest)
    else (readNumber (first :: rest)).map fun (token, rest) => (.number token, rest)

def readItems : Nat → Bytes → Option (List Json × Bytes)
  | 0, _ => none
  | fuel + 1, input =>
    (readValue fuel input).bind fun (item, rest) =>
      match skipSpace rest with
      | [] => none
      | next :: after =>
        if next = byte ']' then some ([item], after)
        else if next = byte ',' then
          (readItems fuel (skipSpace after)).map fun (items, rest) => (item :: items, rest)
        else none

def readMembers : Nat → Bytes → Option (List (Bytes × Json) × Bytes)
  | 0, _ => none
  | _ + 1, [] => none
  | fuel + 1, quote :: input =>
    if quote = byte '"' then
      (readString textIsValid input).bind fun (key, rest) =>
        match skipSpace rest with
        | [] => none
        | colon :: rest =>
          if colon = byte ':' then
            (readValue fuel (skipSpace rest)).bind fun (value, rest) =>
              match skipSpace rest with
              | [] => none
              | next :: after =>
                if next = byte '\x7d' then some ([(key, value)], after)
                else if next = byte ',' then
                  (readMembers fuel (skipSpace after)).map fun (members, rest) =>
                    ((key, value) :: members, rest)
                else none
          else none
    else none

end

def readJson (input : Bytes) : Option Json :=
  (readValue textIsValid input.length (skipSpace input)).bind fun (value, rest) =>
    if (skipSpace rest).isEmpty then some value else none

end Reader

section Printer

variable (escape : UInt8 → Bytes)

def printString (text : Bytes) : Bytes :=
  byte '"' :: text.flatMap escape ++ [byte '"']

mutual

def print : Json → Bytes
  | .null => "null"
  | .boolean value => if value then "true" else "false"
  | .number token => token
  | .string text => printString escape text
  | .array items => byte '[' :: printItems items ++ [byte ']']
  | .object members => byte '\x7b' :: printMembers members ++ [byte '\x7d']

def printItems : List Json → Bytes
  | [] => []
  | [item] => print item
  | item :: rest => print item ++ byte ',' :: printItems rest

def printMembers : List (Bytes × Json) → Bytes
  | [] => []
  | [(key, value)] => printString escape key ++ byte ':' :: print value
  | (key, value) :: rest =>
    printString escape key ++ byte ':' :: (print value ++ byte ',' :: printMembers rest)

end

end Printer

/-- A value that can be written down: its numbers are tokens of the grammar and
its texts are well formed. -/
inductive WellFormed (textIsValid : Bytes → Bool) : Json → Prop where
  | null : WellFormed textIsValid .null
  | boolean (value : Bool) : WellFormed textIsValid (.boolean value)
  | number {token : Bytes} (htoken : numberIsValid token = true)
      (hcharacters : token.all isNumberCharacter = true) : WellFormed textIsValid (.number token)
  | string {text : Bytes} (htext : textIsValid text = true) : WellFormed textIsValid (.string text)
  | array {items : List Json} (hitems : ∀ item ∈ items, WellFormed textIsValid item) :
      WellFormed textIsValid (.array items)
  | object {members : List (Bytes × Json)}
      (hkeys : ∀ member ∈ members, textIsValid member.1 = true)
      (hvalues : ∀ member ∈ members, WellFormed textIsValid member.2) :
      WellFormed textIsValid (.object members)

def EndsNumber (rest : Bytes) : Prop :=
  ∀ next ∈ rest.head?, isNumberCharacter next = false

/-- A way to escape the bytes of strings that the reader undoes. -/
structure Escapes (escape : UInt8 → Bytes) : Prop where
  nonempty : ∀ character, 0 < (escape character).length
  reads : ∀ character fuel rest, readCharacters (fuel + 1) (escape character ++ rest) =
    (readCharacters fuel rest).map fun parsed => (character :: parsed.1, parsed.2)

variable {first : UInt8}

section RoundTrip

theorem skipSpace_cons (hfirst : isSpace first = false) (rest : Bytes) :
    skipSpace (first :: rest) = first :: rest := by
  simp [skipSpace, hfirst]

variable {token text input rest : Bytes} {items : List Json} {item json : Json}
  {members : List (Bytes × Json)}

theorem readNumber_append (htoken : numberIsValid token = true)
    (hcharacters : token.all isNumberCharacter = true) (hrest : EndsNumber rest) :
    readNumber (token ++ rest) = some (token, rest) := by
  have hall : ∀ character ∈ token, isNumberCharacter character = true :=
    all_eq_true.mp hcharacters
  have hnone : rest.takeWhile isNumberCharacter = [] ∧ rest.dropWhile isNumberCharacter = rest := by
    rcases rest with - | ⟨next, after⟩
    · exact ⟨rfl, rfl⟩
    · simp [hrest next rfl]
  rw [readNumber, takeWhile_append_of_pos hall, dropWhile_append_of_pos hall, hnone.1,
    hnone.2, append_nil, if_pos htoken]

theorem numberIsValid_starts (htoken : numberIsValid token = true) :
    ∃ first rest, token = first :: rest ∧ (isDigit first = true ∨ first = byte '-') := by
  rcases token with - | ⟨first, rest⟩
  · cases htoken
  · refine ⟨first, rest, rfl, ?_⟩
    rcases eq_or_ne first (byte '-') with hsign | hsign
    · exact .inr hsign
    · refine .inl ?_
      simp only [numberIsValid, if_neg hsign, Bool.and_eq_true] at htoken
      rcases hdigit : isDigit first
      · simp [hdigit] at htoken
      · rfl

def startsValue (first : UInt8) : Bool :=
  isDigit first || first = byte '-' || first = byte '"' || first = byte '[' ||
    first = byte '\x7b' || first = byte 't' || first = byte 'f' || first = byte 'n'

theorem startsValue_spec (hfirst : startsValue first = true) :
    isSpace first = false ∧ first ≠ byte ']' ∧ first ≠ byte '\x7d' := by
  revert first
  apply forall_byte
  decide +kernel

theorem print_starts (escape : UInt8 → Bytes) (hjson : WellFormed textIsValid json) :
    ∃ first rest, print escape json = first :: rest ∧ startsValue first = true := by
  rcases hjson with - | ⟨value⟩ | ⟨htoken, -⟩ | - | - | -
  · exact ⟨_, _, by rw [print]; rfl, by decide⟩
  · cases value
    · exact ⟨_, _, by rw [print]; rfl, by decide⟩
    · exact ⟨_, _, by rw [print]; rfl, by decide⟩
  · obtain ⟨first, rest, rfl, hfirst⟩ := numberIsValid_starts htoken
    refine ⟨first, rest, by rw [print], ?_⟩
    rcases hfirst with hdigit | hsign
    · simp [startsValue, hdigit]
    · simp [startsValue, hsign]
  · exact ⟨_, _, by rw [print, printString]; rfl, by decide⟩
  · exact ⟨_, _, by rw [print]; rfl, by decide⟩
  · exact ⟨_, _, by rw [print]; rfl, by decide⟩

def ReadsBack (textIsValid : Bytes → Bool) (escape : UInt8 → Bytes) (json : Json) : Prop :=
  ∀ fuel rest, (print escape json).length ≤ fuel → EndsNumber rest →
    readValue textIsValid fuel (print escape json ++ rest) = some (json, rest)

theorem endsNumber_cons {next : UInt8} (hnext : isNumberCharacter next = false) (rest : Bytes) :
    EndsNumber (next :: rest) := by
  rintro _ ⟨⟩
  exact hnext

theorem printItems_cons_cons (first second : Json) (items : List Json) :
    printItems escape (first :: second :: items) =
      print escape first ++ byte ',' :: printItems escape (second :: items) := by
  rw [printItems]
  simp

theorem printMembers_cons_cons (key : Bytes) (value : Json) (second : Bytes × Json)
    (members : List (Bytes × Json)) :
    printMembers escape ((key, value) :: second :: members) = printString escape key ++ byte ':' ::
        (print escape value ++ byte ',' :: printMembers escape (second :: members)) := by
  rw [printMembers]
  simp

theorem printItems_starts (escape : UInt8 → Bytes) (items : List Json)
    (hitem : WellFormed textIsValid item) :
    ∃ first rest, printItems escape (item :: items) = first :: rest ∧ startsValue first = true := by
  obtain ⟨first, rest, hprint, hfirst⟩ := print_starts escape hitem
  rcases items with - | ⟨second, items⟩
  · exact ⟨first, rest, by rw [printItems, hprint], hfirst⟩
  · exact ⟨first, _, by rw [printItems_cons_cons, hprint]; rfl, hfirst⟩

theorem readItems_item {next : UInt8} (hread : ReadsBack textIsValid escape item)
    (hfuel : (print escape item).length ≤ fuel) (hnext : isNumberCharacter next = false)
    (hspace : isSpace next = false) :
    readItems textIsValid (fuel + 1) (print escape item ++ next :: rest) =
      if next = byte ']' then some ([item], rest)
      else if next = byte ',' then (readItems textIsValid fuel (skipSpace rest)).map
        fun (items, rest) => (item :: items, rest)
      else none := by
  rw [readItems, hread fuel _ hfuel (endsNumber_cons hnext rest), bind_some]
  simp only [skipSpace_cons hspace]

variable (fuel rest item) in
theorem readItems_print (hwellFormed : ∀ other ∈ item :: items, WellFormed textIsValid other)
    (hreads : ∀ other ∈ item :: items, ReadsBack textIsValid escape other)
    (hfuel : (printItems escape (item :: items)).length < fuel) :
    readItems textIsValid fuel (printItems escape (item :: items) ++ byte ']' :: rest) =
      some (item :: items, rest) := by
  induction items generalizing fuel item <;>
    obtain ⟨fuel, rfl⟩ : ∃ more, fuel = more + 1 := ⟨fuel - 1, by omega⟩
  case nil =>
    rw [printItems] at hfuel ⊢
    rw [readItems_item (hreads item mem_cons_self) (by omega) (by decide) (by decide), if_pos rfl]
  case cons second items ih =>
    rw [printItems_cons_cons, length_append, length_cons] at hfuel
    rw [printItems_cons_cons, append_assoc]
    have hsecond := ih fuel second
      (fun other hother => hwellFormed other (mem_cons_of_mem _ hother))
      (fun other hother => hreads other (mem_cons_of_mem _ hother)) (by omega)
    obtain ⟨first, more, hstart, hfirst⟩ := printItems_starts escape items
      (hwellFormed second (mem_cons_of_mem _ mem_cons_self))
    rw [hstart, cons_append] at hsecond
    rw [cons_append, readItems_item (hreads item mem_cons_self) (by omega) (by decide) (by decide),
      hstart, cons_append, skipSpace_cons (startsValue_spec hfirst).1, hsecond]
    rfl

theorem printMembers_starts (escape : UInt8 → Bytes) (member : Bytes × Json)
    (members : List (Bytes × Json)) :
    ∃ rest, printMembers escape (member :: members) = byte '"' :: rest := by
  rcases members with - | ⟨second, members⟩
  · exact ⟨_, by rw [printMembers, printString]; rfl⟩
  · exact ⟨_, by rw [printMembers_cons_cons, printString]; rfl⟩

theorem printString_append (text rest : Bytes) : printString escape text ++ rest =
      byte '"' :: (text.flatMap escape ++ byte '"' :: rest) := by
  simp [printString]

theorem readLiteral_append (literal : Bytes) (value : Json) (rest : Bytes) :
    readLiteral literal value (literal ++ rest) = some (value, rest) := by
  simp [readLiteral]

theorem number_starts_no_other_value
    (hfirst : isDigit first = true ∨ first = byte '-') :
    first ≠ byte '"' ∧ first ≠ byte '[' ∧ first ≠ byte '\x7b' ∧ first ≠ byte 't' ∧
      first ≠ byte 'f' ∧ first ≠ byte 'n' := by
  revert first
  apply forall_byte
  decide +kernel

theorem readValue_number (htoken : numberIsValid token = true)
    (hcharacters : token.all isNumberCharacter = true) (hrest : EndsNumber rest) :
    readValue textIsValid (fuel + 1) (token ++ rest) = some (.number token, rest) := by
  obtain ⟨first, more, rfl, hfirst⟩ := numberIsValid_starts htoken
  obtain ⟨hquote, hbracket, hbrace, ht, hf, hn⟩ := number_starts_no_other_value hfirst
  rw [cons_append, readValue, if_neg hquote, if_neg hbracket, if_neg hbrace, if_neg ht,
    if_neg hf, if_neg hn, ← cons_append, readNumber_append htoken hcharacters hrest]
  rfl

theorem readValue_array_cons {more : Bytes}
    (hfirst : startsValue first = true)
    (hitems : readItems textIsValid fuel (first :: more) = some (items, rest)) :
    readValue textIsValid (fuel + 1) (byte '[' :: first :: more) = some (.array items, rest) := by
  obtain ⟨hspace, hbracket, -⟩ := startsValue_spec hfirst
  rw [readValue, if_neg (by decide), if_pos rfl]
  simp only [skipSpace_cons hspace, if_neg hbracket, hitems, map_some]

theorem readValue_object_cons {more : Bytes}
    (hmembers : readMembers textIsValid fuel (byte '"' :: more) = some (members, rest)) :
    readValue textIsValid (fuel + 1) (byte '\x7b' :: byte '"' :: more) =
      some (.object members, rest) := by
  rw [readValue, if_neg (by decide), if_neg (by decide), if_pos rfl]
  simp (disch := decide) only [skipSpace_cons, if_neg, hmembers, map_some]

section Printed

variable (hescape : Escapes escape)
include hescape

theorem readCharacters_print (hfuel : text.length < fuel) :
    readCharacters fuel (text.flatMap escape ++ byte '"' :: rest) = some (text, rest) := by
  induction text generalizing fuel <;>
    obtain ⟨fuel, rfl⟩ : ∃ more, fuel = more + 1 := ⟨fuel - 1, by omega⟩
  case nil => simp [readCharacters]
  case cons character text ih =>
    rw [flatMap_cons, append_assoc, hescape.reads, ih (by simpa using hfuel)]
    rfl

theorem length_flatMap_escape (text : Bytes) :
    text.length ≤ (text.flatMap escape).length := by
  induction text with
  | nil => exact le_rfl
  | cons character text ih =>
    have hlength := hescape.nonempty character
    simp only [flatMap_cons, length_append, length_cons]
    omega

theorem readString_print (htext : textIsValid text = true) (rest : Bytes) :
    readString textIsValid (text.flatMap escape ++ byte '"' :: rest) = some (text, rest) := by
  have hfuel : text.length < (text.flatMap escape ++ byte '"' :: rest).length := by
    have hlength := length_flatMap_escape hescape text
    simp only [length_append, length_cons]
    omega
  rw [readString, readCharacters_print hescape hfuel]
  simp [htext]

theorem readMembers_member {key : Bytes} {value : Json} {next : UInt8}
    (hkey : textIsValid key = true) (hvalue : WellFormed textIsValid value)
    (hread : ReadsBack textIsValid escape value) (hfuel : (print escape value).length ≤ fuel)
    (hnext : isNumberCharacter next = false) (hspace : isSpace next = false) :
    readMembers textIsValid (fuel + 1)
        (printString escape key ++ byte ':' :: (print escape value ++ next :: rest)) =
      if next = byte '\x7d' then some ([(key, value)], rest)
      else if next = byte ',' then (readMembers textIsValid fuel (skipSpace rest)).map
        fun (members, rest) => ((key, value) :: members, rest)
      else none := by
  obtain ⟨first, more, hstart, hfirst⟩ := print_starts escape hvalue
  have hvalue := hread fuel _ hfuel (endsNumber_cons hnext rest)
  rw [printString_append, readMembers, if_pos rfl, readString_print hescape hkey, bind_some]
  rw [hstart, cons_append] at hvalue ⊢
  simp (disch := decide) only [skipSpace_cons, skipSpace_cons (startsValue_spec hfirst).1,
    if_true, hvalue, bind_some, skipSpace_cons hspace]

variable (fuel rest) in
theorem readMembers_print (member : Bytes × Json)
    (hkeys : ∀ other ∈ member :: members, textIsValid other.1 = true)
    (hwellFormed : ∀ other ∈ member :: members, WellFormed textIsValid other.2)
    (hreads : ∀ other ∈ member :: members, ReadsBack textIsValid escape other.2)
    (hfuel : (printMembers escape (member :: members)).length < fuel) :
    readMembers textIsValid fuel (printMembers escape (member :: members) ++ byte '\x7d' :: rest) =
      some (member :: members, rest) := by
  induction members generalizing fuel member <;> obtain ⟨key, value⟩ := member <;>
    obtain ⟨fuel, rfl⟩ : ∃ more, fuel = more + 1 := ⟨fuel - 1, by omega⟩
  case nil =>
    rw [printMembers, length_append, length_cons] at hfuel
    rw [printMembers, append_assoc, cons_append, readMembers_member hescape (hkeys _ mem_cons_self)
      (hwellFormed _ mem_cons_self) (hreads _ mem_cons_self) (by dsimp only; omega) (by decide)
      (by decide), if_pos rfl]
  case cons second members ih =>
    rw [printMembers_cons_cons, length_append, length_cons, length_append, length_cons] at hfuel
    have hmore := ih fuel second
      (fun other hother => hkeys other (mem_cons_of_mem _ hother))
      (fun other hother => hwellFormed other (mem_cons_of_mem _ hother))
      (fun other hother => hreads other (mem_cons_of_mem _ hother)) (by omega)
    obtain ⟨after, hafter⟩ := printMembers_starts escape second members
    rw [hafter, cons_append] at hmore
    rw [printMembers_cons_cons, append_assoc, cons_append, append_assoc, cons_append,
      readMembers_member hescape (hkeys _ mem_cons_self) (hwellFormed _ mem_cons_self)
        (hreads _ mem_cons_self) (by dsimp only; omega) (by decide) (by decide), hafter,
      cons_append, skipSpace_cons (by decide), hmore]
    rfl

theorem readValue_print (hjson : WellFormed textIsValid json) :
    ReadsBack textIsValid escape json := by
  induction hjson with
  | null =>
    rintro (- | fuel) rest hfuel -
    · cases hfuel
    · exact readLiteral_append "null" .null rest
  | boolean value =>
    rintro (- | fuel) rest hfuel -
    · cases value <;> cases hfuel
    · rcases value
      · exact readLiteral_append "false" (.boolean false) rest
      · exact readLiteral_append "true" (.boolean true) rest
  | number htoken hcharacters =>
    rintro (- | fuel) rest hfuel hrest
    · obtain ⟨first, more, rfl, -⟩ := numberIsValid_starts htoken
      cases hfuel
    · exact readValue_number htoken hcharacters hrest
  | string htext =>
    rintro (- | fuel) rest hfuel -
    · cases hfuel
    · rw [print, printString_append, readValue, if_pos rfl, readString_print hescape htext]
      rfl
  | @array items hitems ih =>
    rintro (- | fuel) rest hfuel -
    · cases hfuel
    · rw [print] at hfuel ⊢
      rcases items with - | ⟨item, items⟩
      · rfl
      · rw [length_append, length_cons, length_singleton] at hfuel
        have hread := readItems_print fuel rest item hitems ih (by omega)
        obtain ⟨first, more, hstart, hfirst⟩ :=
          printItems_starts escape items (hitems item mem_cons_self)
        rw [append_assoc, cons_append]
        rw [hstart] at hread ⊢
        exact readValue_array_cons hfirst hread
  | @object members hkeys hvalues ih =>
    rintro (- | fuel) rest hfuel -
    · cases hfuel
    · rw [print] at hfuel ⊢
      rcases members with - | ⟨member, members⟩
      · rfl
      · rw [length_append, length_cons, length_singleton] at hfuel
        have hread := readMembers_print fuel rest hescape member hkeys
          hvalues ih (by omega)
        obtain ⟨more, hstart⟩ := printMembers_starts escape member members
        rw [append_assoc, cons_append]
        rw [hstart] at hread ⊢
        exact readValue_object_cons hread

theorem readJson_print (hjson : WellFormed textIsValid json) :
    readJson textIsValid (print escape json) = some json := by
  obtain ⟨first, more, hstart, hfirst⟩ := print_starts escape hjson
  have hread := readValue_print hescape hjson (print escape json).length [] le_rfl (by rintro _ ⟨⟩)
  rw [append_nil] at hread
  rw [readJson, show skipSpace (print escape json) = print escape json by
    rw [hstart, skipSpace_cons (startsValue_spec hfirst).1], hread]
  rfl

end Printed

theorem readString_valid (h : readString textIsValid input = some (text, rest)) :
    textIsValid text = true :=
  (filter_eq_some_iff.mp h).2

theorem readLiteral_spec {literal rest : Bytes} {value : Json}
    (h : readLiteral literal value input = some (json, rest)) : json = value := by
  rw [readLiteral] at h
  split_ifs at h
  cases h
  rfl

def ItemsWellFormed (textIsValid : Bytes → Bool) (items : List Json) : Prop :=
  ∀ item ∈ items, WellFormed textIsValid item

def MembersWellFormed (textIsValid : Bytes → Bool) (members : List (Bytes × Json)) : Prop :=
  ∀ member ∈ members, textIsValid member.1 = true ∧ WellFormed textIsValid member.2

structure AcceptsWellFormed (textIsValid : Bytes → Bool) (fuel : Nat) : Prop where
  value : ∀ {input json rest}, readValue textIsValid fuel input = some (json, rest) →
    WellFormed textIsValid json
  items : ∀ {input items rest}, readItems textIsValid fuel input = some (items, rest) →
    ItemsWellFormed textIsValid items
  members : ∀ {input members rest}, readMembers textIsValid fuel input = some (members, rest) →
    MembersWellFormed textIsValid members

section Steps

variable (haccepts : AcceptsWellFormed textIsValid fuel)
include haccepts

theorem readValue_wellFormed (h : readValue textIsValid (fuel + 1) input = some (json, rest)) :
    WellFormed textIsValid json := by
  rcases input with - | ⟨first, more⟩
  · cases h
  · rw [readValue] at h
    split_ifs at h
    · obtain ⟨⟨text, after⟩, htext, heq⟩ := map_eq_some_iff.mp h
      cases heq
      exact .string (readString_valid htext)
    · split at h
      · cases h
      · split_ifs at h
        · cases h
          exact .array (by simp)
        · obtain ⟨⟨items, after⟩, hread, heq⟩ := map_eq_some_iff.mp h
          cases heq
          exact .array (haccepts.items hread)
    · split at h
      · cases h
      · split_ifs at h
        · cases h
          exact .object (by simp) (by simp)
        · obtain ⟨⟨members, after⟩, hread, heq⟩ := map_eq_some_iff.mp h
          cases heq
          have hwellFormed := haccepts.members hread
          exact .object (fun member hmem => (hwellFormed member hmem).1)
            (fun member hmem => (hwellFormed member hmem).2)
    · rw [readLiteral_spec h]
      exact .boolean true
    · rw [readLiteral_spec h]
      exact .boolean false
    · rw [readLiteral_spec h]
      exact .null
    · obtain ⟨⟨token, after⟩, hread, heq⟩ := map_eq_some_iff.mp h
      cases heq
      rw [readNumber] at hread
      split_ifs at hread with hvalid
      cases hread
      exact .number hvalid all_takeWhile

theorem readItems_wellFormed (h : readItems textIsValid (fuel + 1) input = some (items, rest)) :
    ItemsWellFormed textIsValid items := by
  obtain ⟨⟨item, after⟩, hitem, h⟩ := bind_eq_some_iff.mp h
  dsimp only at h
  split at h
  · cases h
  · split_ifs at h
    · cases h
      exact forall_mem_singleton.mpr (haccepts.value hitem)
    · obtain ⟨⟨others, after⟩, hread, heq⟩ := map_eq_some_iff.mp h
      cases heq
      exact forall_mem_cons.mpr ⟨haccepts.value hitem, haccepts.items hread⟩

theorem readMembers_wellFormed
    (h : readMembers textIsValid (fuel + 1) input = some (members, rest)) :
    MembersWellFormed textIsValid members := by
  rcases input with - | ⟨quote, input⟩
  · cases h
  · rw [readMembers] at h
    split_ifs at h
    obtain ⟨⟨key, afterKey⟩, hkey, h⟩ := bind_eq_some_iff.mp h
    dsimp only at h
    split at h
    · cases h
    · split_ifs at h
      obtain ⟨⟨value, afterValue⟩, hread, h⟩ := bind_eq_some_iff.mp h
      have hmember : textIsValid key = true ∧ WellFormed textIsValid value :=
        ⟨readString_valid hkey, haccepts.value hread⟩
      split at h
      · cases h
      · split_ifs at h
        · cases h
          exact forall_mem_singleton.mpr hmember
        · obtain ⟨⟨others, after⟩, hothers, heq⟩ := map_eq_some_iff.mp h
          cases heq
          exact forall_mem_cons.mpr ⟨hmember, haccepts.members hothers⟩

end Steps

theorem acceptsWellFormed (fuel : Nat) : AcceptsWellFormed textIsValid fuel := by
  induction fuel with
  | zero => constructor <;> simp [readValue, readItems, readMembers]
  | succ fuel ih =>
    exact ⟨readValue_wellFormed ih, readItems_wellFormed ih, readMembers_wellFormed ih⟩

theorem readJson_wellFormed (h : readJson textIsValid input = some json) :
    WellFormed textIsValid json := by
  obtain ⟨⟨value, rest⟩, hread, h⟩ := bind_eq_some_iff.mp h
  dsimp only at h
  split_ifs at h
  cases h
  exact (acceptsWellFormed input.length).value hread

end RoundTrip

section Validity

variable {text : Bytes} {items : List Json} {members : List (Bytes × Json)} {json : Json}

/-- Texts to which ASCII bytes may be added and whose bytes may be escaped. -/
structure TextClosed (textIsValid : Bytes → Bool) (escape : UInt8 → Bytes) : Prop where
  ascii : ∀ {text}, (∀ character ∈ text, character ≤ 0x7F) → textIsValid text = true
  append : ∀ {first second}, textIsValid first = true → textIsValid second = true →
    textIsValid (first ++ second) = true
  escaped : ∀ {text}, textIsValid text = true → textIsValid (text.flatMap escape) = true

variable (hclosed : TextClosed textIsValid escape)

include hclosed

theorem TextClosed.cons {rest : Bytes} (hfirst : first ≤ 0x7F)
    (hrest : textIsValid rest = true) : textIsValid (first :: rest) = true :=
  hclosed.append (hclosed.ascii fun _ hmem => mem_singleton.mp hmem ▸ hfirst) hrest

theorem printString_valid (htext : textIsValid text = true) :
    textIsValid (printString escape text) = true :=
  hclosed.cons (by decide)
    (hclosed.append (hclosed.escaped htext) (hclosed.ascii (by simp [byte])))

theorem printItems_valid (h : ∀ item ∈ items, textIsValid (print escape item) = true) :
    textIsValid (printItems escape items) = true := by
  induction items with
  | nil => exact hclosed.ascii (by simp [printItems])
  | cons item items ih =>
    obtain ⟨hitem, hitems⟩ := forall_mem_cons.mp h
    rcases items with - | ⟨second, items⟩
    · exact hitem
    · exact hclosed.append hitem (hclosed.cons (by decide) (ih hitems))

theorem printMembers_valid (hkeys : ∀ member ∈ members, textIsValid member.1 = true)
    (h : ∀ member ∈ members, textIsValid (print escape member.2) = true) :
    textIsValid (printMembers escape members) = true := by
  induction members with
  | nil => exact hclosed.ascii (by simp [printMembers])
  | cons member members ih =>
    obtain ⟨hkey, hkeys⟩ := forall_mem_cons.mp hkeys
    obtain ⟨hvalue, hvalues⟩ := forall_mem_cons.mp h
    rcases members with - | ⟨second, members⟩
    · exact hclosed.append (printString_valid hclosed hkey) (hclosed.cons (by decide) hvalue)
    · exact hclosed.append (printString_valid hclosed hkey) (hclosed.cons (by decide)
        (hclosed.append hvalue (hclosed.cons (by decide) (ih hkeys hvalues))))

omit hclosed in
theorem isNumberCharacter_ascii {character : UInt8} (h : isNumberCharacter character = true) :
    character ≤ 0x7F := by
  revert character
  apply forall_byte
  decide +kernel

theorem print_valid (hjson : WellFormed textIsValid json) :
    textIsValid (print escape json) = true := by
  induction hjson with
  | null => exact hclosed.ascii (by rw [print]; decide +kernel)
  | boolean value => cases value <;> exact hclosed.ascii (by rw [print]; decide +kernel)
  | number _ hcharacters =>
    exact hclosed.ascii fun character hmem =>
      isNumberCharacter_ascii (all_eq_true.mp hcharacters character hmem)
  | string htext => exact printString_valid hclosed htext
  | array _ ih =>
    exact hclosed.cons (by decide) (hclosed.append (printItems_valid hclosed ih)
      (hclosed.ascii (by simp [byte])))
  | object hkeys _ ih =>
    exact hclosed.cons (by decide) (hclosed.append (printMembers_valid hclosed hkeys ih)
      (hclosed.ascii (by simp [byte])))

end Validity

end Merovingian.JsonText
