import Merovingian.ByteString

/-!
Canonical JSON values and the member accessors that the event code repeats in
each of its translation units. A `double` is kept as its bit pattern: nothing
in the event code inspects one.
-/

namespace Merovingian.JsonValue

open ByteString

inductive Value where
  | null
  | boolean (value : Bool)
  | integer (value : Int64)
  | double (bits : UInt64)
  | string (value : Bytes)
  | array (items : List Value)
  | object (members : List (Bytes × Value))
deriving Inhabited

/-- Members keep their order, and a key may occur twice: only the parser and
the serializer exclude that. -/
abbrev Object := List (Bytes × Value)

section

variable (object : Object) (key : Bytes)

def valueIsObject : Value → Option Object
  | .object members => some members
  | _ => none

def valueIsArray : Value → Option (List Value)
  | .array items => some items
  | _ => none

def valueIsString : Value → Option Bytes
  | .string text => some text
  | _ => none

def valueIsInteger : Value → Option Int64
  | .integer number => some number
  | _ => none

def valueHasContent : Value → Bool
  | .null => false
  | _ => true

def objectMember : Option Value :=
  (object.find? fun member => member.1 = key).map Prod.snd

def stringMember : Option Bytes :=
  (objectMember object key).bind valueIsString

def integerMember : Option Int64 :=
  (objectMember object key).bind valueIsInteger

def objectMemberAsObject : Option Object :=
  (objectMember object key).bind valueIsObject

def arrayMember : Option (List Value) :=
  (objectMember object key).bind valueIsArray

def nonEmptyStringMember : Option Bytes :=
  (stringMember object key).filter fun text => !text.isEmpty

end

def eventContent (event : Value) : Option Object :=
  (valueIsObject event).bind fun object => objectMemberAsObject object "content"

def eventContentString (event : Value) (key : Bytes) : Option Bytes :=
  (eventContent event).bind fun content => stringMember content key

def arrayContainsString (value : Value) (needle : Bytes) : Bool :=
  match value with
  | .array items => items.any fun element => valueIsString element = some needle
  | _ => false

/-- `content.third_party_invite.signed.token`, the key of the invite that an
`m.room.member` event redeems. -/
def thirdPartyInviteToken (event : Value) : Option Bytes :=
  (eventContent event).bind fun content =>
    (objectMemberAsObject content "third_party_invite").bind fun invite =>
      (objectMemberAsObject invite "signed").bind fun signed =>
        stringMember signed "token"

theorem Value.memberInduction {motive : Value → Prop} (null : motive .null)
    (boolean : ∀ value, motive (.boolean value)) (integer : ∀ value, motive (.integer value))
    (double : ∀ bits, motive (.double bits)) (string : ∀ text, motive (.string text))
    (array : ∀ items, (∀ item ∈ items, motive item) → motive (.array items))
    (object : ∀ members, (∀ member ∈ members, motive member.2) → motive (.object members)) :
    ∀ value, motive value
  | .null => null
  | .boolean value => boolean value
  | .integer value => integer value
  | .double bits => double bits
  | .string text => string text
  | .array items => array items fun item _ =>
    memberInduction null boolean integer double string array object item
  | .object members => object members fun member _ =>
    memberInduction null boolean integer double string array object member.2
termination_by value => sizeOf value
decreasing_by
  · have hitem := List.sizeOf_lt_of_mem ‹item ∈ items›
    simp only [Value.array.sizeOf_spec]
    omega
  · have hmember := List.sizeOf_lt_of_mem ‹member ∈ members›
    have hvalue : sizeOf member.2 < sizeOf member := by
      rcases member with ⟨key, value⟩
      simp only [Prod.mk.sizeOf_spec]
      omega
    simp only [Value.object.sizeOf_spec]
    omega

@[simp] theorem valueIsObject_object (members : Object) :
    valueIsObject (.object members) = some members := rfl

theorem valueIsObject_eq_some_iff {value : Value} {members : Object} :
    valueIsObject value = some members ↔ value = .object members := by
  cases value <;> simp [valueIsObject]

theorem valueHasContent_of_isObject {value : Value} {members : Object}
    (h : valueIsObject value = some members) : valueHasContent value = true := by
  rw [valueIsObject_eq_some_iff] at h
  subst h
  rfl

theorem valueHasContent_eq_false_iff {value : Value} :
    valueHasContent value = false ↔ value = .null := by
  cases value <;> simp [valueHasContent]

@[simp] theorem objectMember_nil (key : Bytes) : objectMember [] key = none := rfl

theorem objectMember_cons (head : Bytes × Value) (tail : Object) (key : Bytes) :
    objectMember (head :: tail) key =
      if head.1 = key then some head.2 else objectMember tail key := by
  by_cases h : head.1 = key <;> simp [objectMember, h]

theorem mem_of_objectMember {object : Object} {key : Bytes} {value : Value}
    (h : objectMember object key = some value) : (key, value) ∈ object := by
  simp only [objectMember, Option.map_eq_some_iff] at h
  obtain ⟨member, hfind, rfl⟩ := h
  have hkey : member.1 = key := by
    simpa using List.find?_some hfind
  subst hkey
  exact List.mem_of_find?_eq_some hfind

theorem nonEmptyStringMember_eq_some_iff {object : Object} {key text : Bytes} :
    nonEmptyStringMember object key = some text ↔
      stringMember object key = some text ∧ text ≠ [] := by
  simp [nonEmptyStringMember, Option.filter_eq_some_iff]

end Merovingian.JsonValue
