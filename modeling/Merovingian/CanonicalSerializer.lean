import Mathlib.Data.List.Sort
import Merovingian.JsonValue

/-!
The strict canonical serializer that produces signed and hashed bytes, with
the UTF-8 validator it shares with the parser. A value that holds a float, an
ill-formed string or a repeated key has no canonical form.
-/

namespace Merovingian.CanonicalSerializer

open ByteString JsonValue

/-- A multi-byte sequence in progress: how many continuation bytes are still
owed, the least code point its length may encode, and the bits read so far. -/
structure Utf8Sequence where
  remaining : Nat
  minCodepoint : UInt32
  codepoint : UInt32

def codepointIsValid (minCodepoint codepoint : UInt32) : Bool :=
  !(codepoint < minCodepoint || codepoint > 0x10FFFF || (codepoint ≥ 0xD800 && codepoint ≤ 0xDFFF))

def utf8Scan : Option Utf8Sequence → Bytes → Bool
  | none, [] => true
  | some _, [] => false
  | none, first :: rest =>
    if first ≤ 0x7F then utf8Scan none rest
    else if first &&& 0xE0 = 0xC0 then
      utf8Scan (some ⟨1, 0x80, (first &&& 0x1F).toUInt32⟩) rest
    else if first &&& 0xF0 = 0xE0 then
      utf8Scan (some ⟨2, 0x800, (first &&& 0x0F).toUInt32⟩) rest
    else if first &&& 0xF8 = 0xF0 then
      utf8Scan (some ⟨3, 0x10000, (first &&& 0x07).toUInt32⟩) rest
    else false
  | some sequence, next :: rest =>
    let codepoint := (sequence.codepoint <<< 6) ||| (next &&& 0x3F).toUInt32
    if next &&& 0xC0 ≠ 0x80 then false
    else if sequence.remaining ≤ 1 then
      codepointIsValid sequence.minCodepoint codepoint && utf8Scan none rest
    else
      utf8Scan (some ⟨sequence.remaining - 1, sequence.minCodepoint, codepoint⟩) rest

def utf8IsValid (text : Bytes) : Bool := utf8Scan none text

inductive CanonicalJsonError where
  | duplicateObjectKey
  | invalidString
  | floatNotAllowed
deriving DecidableEq

def canonicalJsonErrorName : CanonicalJsonError → Bytes
  | .duplicateObjectKey => "duplicate_object_key"
  | .invalidString => "invalid_string"
  | .floatNotAllowed => "float_not_allowed"

abbrev SerializeResult := Except CanonicalJsonError Bytes

def stringIsValidForJson (text : Bytes) : Bool := utf8IsValid text

def objectHasDuplicateKeys (object : Object) : Bool :=
  !decide (object.map Prod.fst).Nodup

def hexDigit (value : UInt8) : UInt8 :=
  let nibble := value &&& 0x0F
  if nibble < 10 then byte '0' + nibble else byte 'a' + (nibble - 10)

def escapedByte (character : UInt8) : Bytes :=
  if character = byte '"' then "\\\""
  else if character = byte '\\' then "\\\\"
  else if character = 0x08 then "\\b"
  else if character = 0x0C then "\\f"
  else if character = 0x0A then "\\n"
  else if character = 0x0D then "\\r"
  else if character = 0x09 then "\\t"
  else if character < 0x20 then
    utf8 "\\u00" ++ [hexDigit (character >>> 4), hexDigit character]
  else [character]

def escapedString (text : Bytes) : Bytes :=
  utf8 "\"" ++ text.flatMap escapedByte ++ utf8 "\""

/-- `std::sort` of serialized members by key. The keys are distinct by then,
so which sorting algorithm runs does not matter. -/
def sortMembers (members : List (Bytes × Bytes)) : List (Bytes × Bytes) :=
  members.insertionSort fun lhs rhs => lhs.1 ≤ rhs.1

def joinWithComma : List Bytes → Bytes
  | [] => []
  | [item] => item
  | item :: rest => item ++ utf8 "," ++ joinWithComma rest

mutual

def serializeValue : Value → SerializeResult
  | .null => .ok "null"
  | .boolean value => .ok (if value then "true" else "false")
  | .integer value => .ok (utf8 (toString value.toInt))
  | .double _ => .error .floatNotAllowed
  | .string text =>
    if stringIsValidForJson text then .ok (escapedString text)
    else .error .invalidString
  | .array items => do
      let outputs ← serializeItems items
      return utf8 "[" ++ joinWithComma outputs ++ utf8 "]"
  | .object members => do
      if objectHasDuplicateKeys members then throw .duplicateObjectKey
      let outputs ← serializeMembers members
      return utf8 "\x7b" ++ joinWithComma ((sortMembers outputs).map fun member =>
        escapedString member.1 ++ utf8 ":" ++ member.2) ++ utf8 "\x7d"

def serializeItems : List Value → Except CanonicalJsonError (List Bytes)
  | [] => .ok []
  | item :: rest => do
      let output ← serializeValue item
      let outputs ← serializeItems rest
      return output :: outputs

def serializeMembers : Object → Except CanonicalJsonError (List (Bytes × Bytes))
  | [] => .ok []
  | (key, value) :: rest => do
      if !stringIsValidForJson key then throw .invalidString
      let output ← serializeValue value
      let outputs ← serializeMembers rest
      return (key, output) :: outputs

end

def serializeCanonicalStrict (value : Value) : SerializeResult :=
  serializeValue value

example : serializeCanonicalStrict (.object
    [("b", .array [.integer (-7), .null]), ("a", .string "\"x\n")]) =
      .ok "\x7b\"a\":\"\\\"x\\n\",\"b\":[-7,null]\x7d" := by
  decide +kernel

end Merovingian.CanonicalSerializer
