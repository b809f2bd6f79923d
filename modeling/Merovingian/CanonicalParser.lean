import Merovingian.CanonicalSerializer

/-!
The lossless parser. The JSON grammar itself is read by yyjson, which is a
parameter; what the parser adds is the UTF-8 check, the trailing-data check,
the restriction of numbers to safe integers, and the caps on depth, width and
repeated keys.
-/

namespace Merovingian.CanonicalParser

open ByteString JsonValue CanonicalSerializer

inductive ParseError where
  | trailingData
  | unexpectedEnd
  | unexpectedToken
  | invalidLiteral
  | invalidString
  | invalidEscape
  | invalidUnicodeEscape
  | invalidNumber
  | integerOutOfRange
  | duplicateObjectKey
  | nestingTooDeep
  | tooManyObjectMembers
deriving DecidableEq

inductive YyjsonReadCode where
  | invalidParameter
  | memoryAllocation
  | emptyContent
  | unexpectedContent
  | unexpectedEnd
  | unexpectedCharacter
  | jsonStructure
  | invalidComment
  | invalidNumber
  | invalidString
  | literal
  | fileOpen
  | fileRead
  | more
deriving DecidableEq

/-- A node of a yyjson document. Under the raw-number read flag every number
arrives as its `raw` token. -/
inductive YyjsonValue where
  | null
  | boolean (value : Bool)
  | raw (token : Bytes)
  | integer (value : Int64)
  | real (bits : UInt64)
  | string (text : Bytes)
  | array (items : List YyjsonValue)
  | object (members : List (Bytes × YyjsonValue))

structure YyjsonDocument where
  root : YyjsonValue
  bytesRead : Nat

structure Yyjson where
  readRawNumbers : Bytes → Except YyjsonReadCode YyjsonDocument

def maxDepth : Nat := 64

def maxObjectMembers : Nat := 65536

def maxSafeInteger : Int64 := 9007199254740991

def minSafeInteger : Int64 := -9007199254740991

def mapYyjsonError : YyjsonReadCode → ParseError
  | .emptyContent | .unexpectedEnd | .more => .unexpectedEnd
  | .unexpectedContent => .trailingData
  | .invalidNumber => .invalidNumber
  | .invalidString => .invalidString
  | .literal => .invalidLiteral
  | .unexpectedCharacter | .jsonStructure | .invalidComment | .invalidParameter
  | .memoryAllocation | .fileOpen | .fileRead => .unexpectedToken

def inputIsBlank (input : Bytes) : Bool :=
  input.all fun character =>
    character = byte ' ' || character = 0x0A || character = 0x0D || character = 0x09

/-- The shape `^-?(0|[1-9][0-9]*)$` without a negative zero. -/
def isCanonicalInt64Token (token : Bytes) : Bool :=
  let hasMinus := token.head? = some (byte '-')
  let digits := if hasMinus then token.tail else token
  match digits with
  | [] => false
  | first :: rest =>
    if first = byte '0' then !hasMinus && rest.isEmpty
    else if first < byte '1' || first > byte '9' then false
    else rest.all isDigit

def rawNumberAsInt64 (token : Bytes) : Except ParseError Value :=
  if token.any fun character =>
      character = byte '.' || character = byte 'e' || character = byte 'E' then
    .error .invalidNumber
  else if !isCanonicalInt64Token token then .error .invalidNumber
  else
    match fromChars token with
    | .resultOutOfRange => .error .integerOutOfRange
    | .invalidArgument => .error .invalidNumber
    | .ok parsed rest =>
      if !rest.isEmpty then .error .invalidNumber
      else if parsed < minSafeInteger || parsed > maxSafeInteger then
        .error .integerOutOfRange
      else .ok (.integer parsed)

mutual

def convertYyjsonValue (depth : Nat) (value : YyjsonValue) : Except ParseError Value :=
  if depth > maxDepth then .error .nestingTooDeep
  else
    match value with
    | .null => .ok .null
    | .boolean value => .ok (.boolean value)
    | .raw token => rawNumberAsInt64 token
    | .integer value => .ok (.integer value)
    | .real bits => .ok (.double bits)
    | .string text => .ok (.string text)
    | .array items => do
        return .array (← convertItems (depth + 1) items)
    | .object members => do
        if members.length > maxObjectMembers then throw .tooManyObjectMembers
        return .object (← convertMembers (depth + 1) [] members)

def convertItems (depth : Nat) : List YyjsonValue → Except ParseError (List Value)
  | [] => .ok []
  | item :: rest => do
      let converted ← convertYyjsonValue depth item
      return converted :: (← convertItems depth rest)

/-- Converts members in order, refusing a key already seen before looking at
its value. -/
def convertMembers (depth : Nat) (seenKeys : List Bytes) :
    List (Bytes × YyjsonValue) → Except ParseError Object
  | [] => .ok []
  | (key, value) :: rest => do
      if seenKeys.contains key then throw .duplicateObjectKey
      let converted ← convertYyjsonValue depth value
      return (key, converted) :: (← convertMembers depth (key :: seenKeys) rest)

end

def parseLossless (yyjson : Yyjson) (input : Bytes) : Except ParseError Value :=
  if inputIsBlank input then .error .unexpectedEnd
  else if !utf8IsValid input then .error .invalidString
  else
    match yyjson.readRawNumbers input with
    | .error code => .error (mapYyjsonError code)
    | .ok document =>
      if document.bytesRead ≠ input.length then .error .trailingData
      else convertYyjsonValue 0 document.root

def canonicalText (value : Value) : Bytes :=
  (serializeCanonicalStrict value).toOption.getD []

mutual

/-- The tree that the reader builds from the canonical text of a value whose
members are sorted by key. -/
def yyjsonTree : Value → YyjsonValue
  | .null => .null
  | .boolean value => .boolean value
  | .integer value => .raw (utf8 (toString value.toInt))
  | .double bits => .real bits
  | .string text => .string text
  | .array items => .array (yyjsonItems items)
  | .object members => .object (yyjsonMembers members)

def yyjsonItems : List Value → List YyjsonValue
  | [] => []
  | item :: rest => yyjsonTree item :: yyjsonItems rest

def yyjsonMembers : Object → List (Bytes × YyjsonValue)
  | [] => []
  | (key, value) :: rest => (key, yyjsonTree value) :: yyjsonMembers rest

end

def readerOf (documents : List Value) : Yyjson where
  readRawNumbers input :=
    match documents.find? fun document => canonicalText document = input with
    | none => .error .unexpectedCharacter
    | some document => .ok ⟨yyjsonTree document, input.length⟩

end Merovingian.CanonicalParser
