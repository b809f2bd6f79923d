import Mathlib.Data.List.Perm.Basic
import Merovingian.CanonicalParser
import Merovingian.DecimalText
import Merovingian.JsonText

/-!
What the canonical serializer writes: the text of the value with the members of
every object sorted by key. Such a text reads back as that value, so it
determines the value up to the order of members.
-/

namespace Merovingian.CanonicalForm

open ByteString DecimalText JsonText JsonValue CanonicalSerializer CanonicalParser List

variable {members members' : Object} {value other : Value} {text : Bytes}

section Sorting

def sortByKey (members : Object) : Object :=
  members.insertionSort fun lhs rhs => lhs.1 ≤ rhs.1

mutual

def sortedValue : Value → Value
  | .array items => .array (sortedItems items)
  | .object members => .object (sortByKey (sortedMembers members))
  | value => value

def sortedItems : List Value → List Value
  | [] => []
  | item :: rest => sortedValue item :: sortedItems rest

def sortedMembers : Object → Object
  | [] => []
  | (key, value) :: rest => (key, sortedValue value) :: sortedMembers rest

end

mutual

/-- The JSON value to be written. A `double` has none. -/
def jsonOf : Value → Json
  | .null | .double _ => .null
  | .boolean value => .boolean value
  | .integer value => .number (utf8 (toString value.toInt))
  | .string text => .string text
  | .array items => .array (jsonItems items)
  | .object members => .object (jsonMembers members)

def jsonItems : List Value → List Json
  | [] => []
  | item :: rest => jsonOf item :: jsonItems rest

def jsonMembers : Object → List (Bytes × Json)
  | [] => []
  | (key, value) :: rest => (key, jsonOf value) :: jsonMembers rest

end

variable (items : List Value)

theorem sortedItems_eq : sortedItems items = items.map sortedValue := by
  induction items with
  | nil => rfl
  | cons item items ih => rw [sortedItems, ih, map_cons]

theorem sortedMembers_eq (members : Object) :
    sortedMembers members = members.map fun member => (member.1, sortedValue member.2) := by
  induction members with
  | nil => rfl
  | cons member members ih => rw [sortedMembers, ih, map_cons]

theorem jsonItems_eq : jsonItems items = items.map jsonOf := by
  induction items with
  | nil => rfl
  | cons item items ih => rw [jsonItems, ih, map_cons]

theorem jsonMembers_eq (members : Object) :
    jsonMembers members = members.map fun member => (member.1, jsonOf member.2) := by
  induction members with
  | nil => rfl
  | cons member members ih => rw [jsonMembers, ih, map_cons]

theorem sortByKey_perm (members : Object) : (sortByKey members).Perm members :=
  perm_insertionSort _ members

theorem mem_sortByKey {member : Bytes × Value} : member ∈ sortByKey members ↔ member ∈ members :=
  (sortByKey_perm members).mem_iff

theorem keys_sortedMembers (members : Object) :
    (sortedMembers members).map Prod.fst = members.map Prod.fst := by
  rw [sortedMembers_eq, map_map]
  rfl

theorem sortedMembers_perm (hperm : members.Perm members') :
    (sortedMembers members).Perm (sortedMembers members') := by
  rw [sortedMembers_eq, sortedMembers_eq]
  exact hperm.map _

end Sorting

inductive HasCanonicalForm : Value → Prop where
  | null : HasCanonicalForm .null
  | boolean (value : Bool) : HasCanonicalForm (.boolean value)
  | integer (value : Int64) : HasCanonicalForm (.integer value)
  | string {text : Bytes} (htext : stringIsValidForJson text = true) :
      HasCanonicalForm (.string text)
  | array {items : List Value} (hitems : ∀ item ∈ items, HasCanonicalForm item) :
      HasCanonicalForm (.array items)
  | object {members : Object} (hnodup : (members.map Prod.fst).Nodup)
      (hkeys : ∀ member ∈ members, stringIsValidForJson member.1 = true)
      (hvalues : ∀ member ∈ members, HasCanonicalForm member.2) :
      HasCanonicalForm (.object members)

theorem hasCanonicalForm_object_iff :
    HasCanonicalForm (.object members) ↔ (members.map Prod.fst).Nodup ∧
      ∀ member ∈ members, stringIsValidForJson member.1 = true ∧ HasCanonicalForm member.2 := by
  constructor
  · rintro (_ | _ | _ | _ | _ | ⟨hnodup, hkeys, hvalues⟩)
    exact ⟨hnodup, fun member hmember => ⟨hkeys member hmember, hvalues member hmember⟩⟩
  · rintro ⟨hnodup, hmembers⟩
    exact .object hnodup (fun member hmember => (hmembers member hmember).1)
      fun member hmember => (hmembers member hmember).2

def orderedText (value : Value) : Bytes := print escapedByte (jsonOf value)

section Serializer

variable {items : List Value}

theorem serializeItems_eq (text : Value → Bytes)
    (h : ∀ item ∈ items, serializeValue item = .ok (text item)) :
    serializeItems items = .ok (items.map text) := by
  induction items with
  | nil => rfl
  | cons item items ih =>
    obtain ⟨hitem, hitems⟩ := forall_mem_cons.mp h
    rw [serializeItems, hitem, ih hitems]
    rfl

theorem serializeMembers_eq (text : Value → Bytes)
    (hkeys : ∀ member ∈ members, stringIsValidForJson member.1 = true)
    (h : ∀ member ∈ members, serializeValue member.2 = .ok (text member.2)) :
    serializeMembers members = .ok (members.map fun member => (member.1, text member.2)) := by
  induction members with
  | nil => rfl
  | cons member members ih =>
    obtain ⟨hkey, hkeys'⟩ := forall_mem_cons.mp hkeys
    obtain ⟨hvalue, hvalues⟩ := forall_mem_cons.mp h
    rw [serializeMembers, hkey, hvalue, ih hkeys' hvalues]
    rfl

theorem joinWithComma_cons_cons (first second : Bytes) (rest : List Bytes) :
    joinWithComma (first :: second :: rest) =
      first ++ byte ',' :: joinWithComma (second :: rest) := by
  rw [joinWithComma, append_assoc]
  · rfl
  · simp

theorem joinWithComma_items :
    joinWithComma (items.map orderedText) = printItems escapedByte (jsonItems items) := by
  induction items with
  | nil => rfl
  | cons item items ih =>
    rcases items with - | ⟨second, items⟩
    · simp [joinWithComma, jsonItems, printItems, orderedText]
    · simp only [jsonItems, map_cons, printItems_cons_cons, joinWithComma_cons_cons] at ih ⊢
      rw [ih]
      rfl

theorem joinWithComma_members (members : Object) : joinWithComma (members.map fun member =>
        escapedString member.1 ++ utf8 ":" ++ orderedText member.2) =
      printMembers escapedByte (jsonMembers members) := by
  induction members with
  | nil => rfl
  | cons member members ih =>
    rcases members with - | ⟨second, members⟩
    · simp only [map_cons, map_nil, joinWithComma, jsonMembers, printMembers, append_assoc]
      rfl
    · simp only [jsonMembers, map_cons, printMembers_cons_cons, joinWithComma_cons_cons] at ih ⊢
      rw [ih, append_assoc, append_assoc]
      rfl

theorem sortMembers_map (members : Object) (text : Value → Bytes) :
    sortMembers (members.map fun member => (member.1, text member.2)) =
      (sortByKey members).map fun member => (member.1, text member.2) :=
  (map_insertionSort (fun lhs rhs : Bytes × Value => lhs.1 ≤ rhs.1)
    (fun lhs rhs : Bytes × Bytes => lhs.1 ≤ rhs.1) (fun member => (member.1, text member.2))
    members fun _ _ _ _ => Iff.rfl).symm

theorem sortMembers_sorted (members : Object) :
    sortMembers (members.map fun member => (member.1, orderedText (sortedValue member.2))) =
      (sortByKey (sortedMembers members)).map fun member => (member.1, orderedText member.2) := by
  rw [← sortMembers_map, sortedMembers_eq, map_map]
  rfl

theorem orderedText_array :
    orderedText (.array items) = utf8 "[" ++ joinWithComma (items.map orderedText) ++ utf8 "]" := by
  rw [joinWithComma_items]
  rfl

theorem orderedText_object (members : Object) : orderedText (.object members) =
      utf8 "\x7b" ++ joinWithComma (members.map fun member =>
        escapedString member.1 ++ utf8 ":" ++ orderedText member.2) ++ utf8 "\x7d" := by
  rw [joinWithComma_members]
  rfl

theorem serializeValue_of_hasCanonicalForm (h : HasCanonicalForm value) :
    serializeValue value = .ok (orderedText (sortedValue value)) := by
  induction h with
  | null => rfl
  | boolean value => cases value <;> rfl
  | integer value => rfl
  | string htext =>
    rw [serializeValue, if_pos htext]
    rfl
  | array hitems ih =>
    rw [serializeValue, serializeItems_eq _ ih, sortedValue, sortedItems_eq, orderedText_array,
      map_map]
    rfl
  | object hnodup hkeys hvalues ih =>
    rw [serializeValue, serializeMembers_eq (fun value => orderedText (sortedValue value)) hkeys
      ih, sortedValue, orderedText_object]
    simp only [objectHasDuplicateKeys, hnodup, decide_true, Bool.not_true, Bool.false_eq_true,
      if_false, bind, Except.bind, sortMembers_sorted, map_map]
    rfl

theorem bind_eq_ok {ε α β : Type} {result : Except ε α} {next : α → Except ε β} {output : β}
    (h : result >>= next = .ok output) :
    ∃ intermediate, result = .ok intermediate ∧ next intermediate = .ok output := by
  rcases result with error | intermediate
  · cases h
  · exact ⟨intermediate, rfl, h⟩

theorem hasCanonicalForm_of_items {outputs : List Bytes}
    (ih : ∀ item ∈ items, ∀ {text}, serializeValue item = .ok text → HasCanonicalForm item)
    (h : serializeItems items = .ok outputs) : ∀ item ∈ items, HasCanonicalForm item := by
  induction items generalizing outputs with
  | nil => simp
  | cons item items ihItems =>
    obtain ⟨output, hitem, h⟩ := bind_eq_ok h
    obtain ⟨rest, hrest, -⟩ := bind_eq_ok h
    refine forall_mem_cons.mpr ⟨ih item mem_cons_self hitem, ?_⟩
    exact ihItems (fun other hother => ih other (mem_cons_of_mem _ hother)) hrest

theorem hasCanonicalForm_of_members {outputs : List (Bytes × Bytes)}
    (ih : ∀ member ∈ members, ∀ {text}, serializeValue member.2 = .ok text →
      HasCanonicalForm member.2) (h : serializeMembers members = .ok outputs) :
    ∀ member ∈ members, stringIsValidForJson member.1 = true ∧ HasCanonicalForm member.2 := by
  induction members generalizing outputs with
  | nil => simp
  | cons member members ihMembers =>
    obtain ⟨key, value⟩ := member
    rw [serializeMembers] at h
    rcases hkey : stringIsValidForJson key
    · rw [hkey] at h
      cases h
    · rw [hkey] at h
      obtain ⟨output, hvalue, h⟩ := bind_eq_ok h
      obtain ⟨rest, hrest, -⟩ := bind_eq_ok h
      refine forall_mem_cons.mpr ⟨⟨hkey, ih (key, value) mem_cons_self hvalue⟩, ?_⟩
      exact ihMembers (fun other hother => ih other (mem_cons_of_mem _ hother)) hrest

theorem hasCanonicalForm_of_serializeValue (h : serializeValue value = .ok text) :
    HasCanonicalForm value := by
  induction value using Value.memberInduction generalizing text with
  | null => exact .null
  | boolean value => exact .boolean value
  | integer value => exact .integer value
  | double bits =>
    cases h
  | string content =>
    rw [serializeValue] at h
    split_ifs at h with hvalid
    exact .string hvalid
  | array items ih =>
    obtain ⟨outputs, houtputs, -⟩ := bind_eq_ok h
    exact .array (hasCanonicalForm_of_items ih houtputs)
  | object members ih =>
    rw [serializeValue] at h
    rcases hduplicate : objectHasDuplicateKeys members <;> rw [hduplicate] at h
    · obtain ⟨outputs, houtputs, -⟩ := bind_eq_ok h
      refine hasCanonicalForm_object_iff.mpr ⟨?_, hasCanonicalForm_of_members ih houtputs⟩
      simpa [objectHasDuplicateKeys] using hduplicate
    · cases h

theorem serializeCanonicalStrict_eq_ok_iff : serializeCanonicalStrict value = .ok text ↔
      HasCanonicalForm value ∧ orderedText (sortedValue value) = text := by
  constructor
  · intro h
    have hform := hasCanonicalForm_of_serializeValue h
    refine ⟨hform, ?_⟩
    rw [serializeCanonicalStrict, serializeValue_of_hasCanonicalForm hform] at h
    exact Except.ok.inj h
  · rintro ⟨hform, rfl⟩
    exact serializeValue_of_hasCanonicalForm hform

end Serializer

section Escapes

theorem hexValue_hexDigit (character : UInt8) :
    hexValue (hexDigit (character >>> 4)) = some (character.toNat / 16) ∧
      hexValue (hexDigit character) = some (character.toNat % 16) := by
  revert character
  apply forall_byte
  decide +kernel

theorem readEscape_control {character : UInt8} (hcontrol : character < 0x20) (rest : Bytes) :
    readEscape (byte 'u' :: byte '0' :: byte '0' :: hexDigit (character >>> 4) ::
      hexDigit character :: rest) = some ([character], rest) := by
  obtain ⟨hhigh, hlow⟩ := hexValue_hexDigit character
  have hzero : hexValue (byte '0') = some 0 := by decide
  have hnat : character.toNat < 32 := hcontrol
  have hunit : ((0 * 16 + 0) * 16 + character.toNat / 16) * 16 + character.toNat % 16 =
      character.toNat := by omega
  have hescape : readEscape (byte 'u' :: byte '0' :: byte '0' :: hexDigit (character >>> 4) ::
      hexDigit character :: rest) = readUnicodeEscape (byte '0' :: byte '0' ::
        hexDigit (character >>> 4) :: hexDigit character :: rest) := rfl
  rw [hescape, readUnicodeEscape, readCodeUnit, hzero, hhigh, hlow]
  simp only [hunit, Option.bind_some, Bool.and_eq_true, decide_eq_true_eq]
  rw [if_neg (by omega), if_neg (by omega), encodeUtf8, if_pos (by omega), UInt8.ofNat_toNat]

theorem escapedByte_cases (character : UInt8) :
    (escapedByte character = [character] ∧ character ≠ byte '"' ∧ character ≠ byte '\\' ∧
      ¬ character < 0x20) ∨
    ∃ code, escapedByte character = byte '\\' :: code ∧
      ∀ rest, readEscape (code ++ rest) = some ([character], rest) := by
  fun_cases escapedByte character with
  | case1 h => exact .inr ⟨[byte '"'], rfl, fun rest => by rw [h]; rfl⟩
  | case2 _ h => exact .inr ⟨[byte '\\'], rfl, fun rest => by rw [h]; rfl⟩
  | case3 => exact .inr ⟨[byte 'b'], rfl, fun _ => by subst_vars; rfl⟩
  | case4 => exact .inr ⟨[byte 'f'], rfl, fun _ => by subst_vars; rfl⟩
  | case5 => exact .inr ⟨[byte 'n'], rfl, fun _ => by subst_vars; rfl⟩
  | case6 => exact .inr ⟨[byte 'r'], rfl, fun _ => by subst_vars; rfl⟩
  | case7 => exact .inr ⟨[byte 't'], rfl, fun _ => by subst_vars; rfl⟩
  | case8 _ _ _ _ _ _ _ hcontrol =>
    exact .inr ⟨[byte 'u', byte '0', byte '0', hexDigit (character >>> 4), hexDigit character],
      rfl, readEscape_control hcontrol⟩
  | case9 hquote hbackslash _ _ _ _ _ hcontrol => exact .inl ⟨rfl, hquote, hbackslash, hcontrol⟩

theorem escapes_escapedByte : Escapes escapedByte where
  nonempty character := by
    rcases escapedByte_cases character with ⟨heq, -⟩ | ⟨code, heq, -⟩
    · simp [heq]
    · simp [heq]
  reads character fuel rest := by
    rcases escapedByte_cases character with ⟨heq, hquote, hbackslash, hcontrol⟩ |
      ⟨code, heq, hcode⟩
    · rw [heq, singleton_append, readCharacters, if_neg hquote, if_neg hbackslash, if_neg hcontrol]
    · rw [heq, cons_append, readCharacters, if_neg (by decide), if_pos rfl, hcode, Option.bind_some]
      rfl

end Escapes

section RoundTrip

theorem numberIsValid_decimalDigits (n : Nat) :
    (!(decimalDigits n).isEmpty && ((decimalDigits n).length = 1 ||
      (decimalDigits n).head? ≠ some (byte '0'))) = true := by
  rcases Nat.eq_zero_or_pos n with rfl | hpos
  · decide
  · obtain ⟨first, rest, hdigits, hfirst⟩ := head_decimalDigits hpos
    simp [hdigits, hfirst]

theorem all_isNumberCharacter_decimalDigits (n : Nat) :
    (decimalDigits n).all isNumberCharacter = true := by
  refine all_eq_true.mpr fun digit hdigit => ?_
  simp [isNumberCharacter, all_eq_true.mp (all_isDigit_decimalDigits n) digit hdigit]

theorem numberIsValid_toString (n : Int) : numberIsValid (utf8 (toString n)) = true ∧
      (utf8 (toString n)).all isNumberCharacter = true := by
  obtain ⟨htake, hdrop⟩ := takeWhile_decimalDigits n.natAbs
  have hdigits := numberIsValid_decimalDigits n.natAbs
  have hcharacters := all_isNumberCharacter_decimalDigits n.natAbs
  rw [utf8_toString_int]
  split_ifs with hneg
  · constructor
    · simp only [numberIsValid, if_true, htake, hdrop, hdigits]
      rfl
    · rw [all_cons, hcharacters]
      rfl
  · refine ⟨?_, hcharacters⟩
    have hsign := decimalDigits_not_sign n.natAbs
    rcases heq : decimalDigits n.natAbs with - | ⟨first, rest⟩
    · exact absurd heq (decimalDigits_ne_nil _)
    · rw [heq] at htake hdrop hdigits hsign
      have hfirst : first ≠ byte '-' := by simpa using hsign
      simp only [numberIsValid, if_neg hfirst, htake, hdrop, hdigits]
      rfl

theorem wellFormed_jsonOf (h : HasCanonicalForm value) :
    WellFormed stringIsValidForJson (jsonOf value) := by
  induction h with
  | null => exact .null
  | boolean value => exact .boolean value
  | integer value =>
    obtain ⟨htoken, hcharacters⟩ := numberIsValid_toString value.toInt
    exact .number htoken hcharacters
  | string htext => exact .string htext
  | array hitems ih =>
    rw [jsonOf, jsonItems_eq]
    exact .array (forall_mem_map.mpr ih)
  | object hnodup hkeys hvalues ih =>
    rw [jsonOf, jsonMembers_eq]
    exact .object (forall_mem_map.mpr hkeys) (forall_mem_map.mpr ih)

theorem forall_mem_sorted {motive : Bytes × Value → Prop}
    (h : ∀ member ∈ members, motive (member.1, sortedValue member.2)) :
    ∀ member ∈ sortByKey (sortedMembers members), motive member := by
  intro member hmember
  rw [mem_sortByKey, sortedMembers_eq] at hmember
  exact forall_mem_map.mpr h member hmember

theorem keys_sortByKey_perm (members : Object) :
    ((sortByKey (sortedMembers members)).map Prod.fst).Perm (members.map Prod.fst) := by
  rw [← keys_sortedMembers members]
  exact (sortByKey_perm _).map Prod.fst

theorem hasCanonicalForm_sortedValue (h : HasCanonicalForm value) :
    HasCanonicalForm (sortedValue value) := by
  induction h with
  | null => exact .null
  | boolean value => exact .boolean value
  | integer value => exact .integer value
  | string htext => exact .string htext
  | array hitems ih =>
    rw [sortedValue, sortedItems_eq]
    exact .array (forall_mem_map.mpr ih)
  | object hnodup hkeys hvalues ih =>
    exact .object ((keys_sortByKey_perm _).nodup_iff.mpr hnodup)
      (forall_mem_sorted fun member hmember => hkeys member hmember)
      (forall_mem_sorted fun member hmember => ih member hmember)

theorem readJson_orderedText (h : HasCanonicalForm value) :
    readJson stringIsValidForJson (orderedText value) = some (jsonOf value) :=
  readJson_print escapes_escapedByte (wellFormed_jsonOf h)

end RoundTrip

section Order

mutual

/-- Equality up to the order of the members of objects, at every depth. -/
def SameUpToOrder : Value → Value → Prop
  | .array items, other => ∃ items', other = .array items' ∧ SameItems items items'
  | .object members, other => ∃ members' aligned, other = .object members' ∧
      aligned.Perm members' ∧ SameMembers members aligned
  | value, other => value = other

def SameItems : List Value → List Value → Prop
  | [], others => others = []
  | item :: items, others => ∃ item' items', others = item' :: items' ∧
      SameUpToOrder item item' ∧ SameItems items items'

def SameMembers : Object → Object → Prop
  | [], others => others = []
  | (key, value) :: members, others => ∃ value' members', others = (key, value') :: members' ∧
      SameUpToOrder value value' ∧ SameMembers members members'

end

theorem sameItems_iff {items items' : List Value} :
    SameItems items items' ↔ List.Forall₂ SameUpToOrder items items' := by
  induction items generalizing items' with
  | nil => simp [SameItems]
  | cons item items ih =>
    rw [SameItems, forall₂_cons_left_iff]
    simp only [ih]
    exact exists₂_congr fun _ _ => and_rotate

theorem sameMembers_iff : SameMembers members members' ↔
      List.Forall₂ (fun member member' => member.1 = member'.1 ∧
        SameUpToOrder member.2 member'.2) members members' := by
  induction members generalizing members' with
  | nil => simp [SameMembers]
  | cons member members ih =>
    obtain ⟨key, value⟩ := member
    rw [SameMembers, forall₂_cons_left_iff]
    simp only [ih]
    constructor
    · rintro ⟨value', members', rfl, hvalue, hmembers⟩
      exact ⟨(key, value'), members', ⟨rfl, hvalue⟩, hmembers, rfl⟩
    · rintro ⟨⟨key', value'⟩, members', ⟨rfl, hvalue⟩, hmembers, rfl⟩
      exact ⟨value', members', rfl, hvalue, hmembers⟩

theorem pairwise_sortByKey (members : Object) :
    (sortByKey members).Pairwise fun lhs rhs => lhs.1 ≤ rhs.1 := by
  exact pairwise_insertionSort _ members

theorem sortedValue_idempotent (value : Value) :
    sortedValue (sortedValue value) = sortedValue value := by
  induction value using Value.memberInduction with
  | null | boolean | integer | double | string => rfl
  | array items ih =>
    rw [sortedValue, sortedItems_eq, sortedValue, sortedItems_eq, map_map]
    exact congrArg Value.array (map_congr_left ih)
  | object members ih =>
    have hfixed : ∀ member ∈ sortByKey (sortedMembers members),
        (member.1, sortedValue member.2) = member :=
      forall_mem_sorted fun member hmember => congrArg (Prod.mk member.1) (ih member hmember)
    rw [sortedValue, sortedValue, sortedMembers_eq (sortByKey _), map_congr_left hfixed, map_id']
    exact congrArg Value.object (pairwise_sortByKey _).insertionSort_eq

theorem sortByKey_eq_of_perm (hperm : members.Perm members')
    (hnodup : (members.map Prod.fst).Nodup) : sortByKey members = sortByKey members' := by
  refine List.Perm.eq_of_pairwise ?_ (pairwise_sortByKey members) (pairwise_sortByKey members')
    ((sortByKey_perm members).trans (hperm.trans (sortByKey_perm members').symm))
  intro first second hfirst hsecond hle hge
  exact inj_on_of_nodup_map hnodup (mem_sortByKey.mp hfirst)
    (hperm.mem_iff.mpr (mem_sortByKey.mp hsecond)) (le_antisymm hle hge)

theorem sortedMembers_perm_of_eq
    (h : sortedValue (.object members) = sortedValue (.object members')) :
    (sortedMembers members).Perm (sortedMembers members') := by
  refine (sortByKey_perm _).symm.trans ?_
  rw [Value.object.inj h]
  exact sortByKey_perm _

theorem sortedValue_object_eq_iff (hnodup : (members.map Prod.fst).Nodup) :
    sortedValue (.object members) = sortedValue (.object members') ↔
      (sortedMembers members).Perm (sortedMembers members') := by
  refine ⟨sortedMembers_perm_of_eq, fun hperm => ?_⟩
  refine congrArg Value.object (sortByKey_eq_of_perm hperm ?_)
  rw [keys_sortedMembers]
  exact hnodup

theorem map_eq_map_iff {α β γ : Type} {f : α → γ} {g : β → γ} {first : List α} {second : List β} :
    first.map f = second.map g ↔ List.Forall₂ (fun a b => f a = g b) first second := by
  rw [← forall₂_eq_eq_eq, forall₂_map_left_iff, forall₂_map_right_iff]

theorem sortedMembers_eq_of_sameMembers
    (ih : ∀ member ∈ members, ∀ {other}, SameUpToOrder member.2 other →
      sortedValue member.2 = sortedValue other) (h : SameMembers members members') :
    sortedMembers members = sortedMembers members' := by
  rw [sortedMembers_eq, sortedMembers_eq, map_eq_map_iff]
  exact ((forall₂_and_left _ _).mpr ⟨ih, sameMembers_iff.mp h⟩).imp fun _ _ hmember =>
    Prod.ext hmember.2.1 (hmember.1 hmember.2.2)

theorem sortedValue_eq_of_sameUpToOrder (hvalue : HasCanonicalForm value)
    (h : SameUpToOrder value other) : sortedValue value = sortedValue other := by
  induction hvalue generalizing other with
  | null | boolean | integer | string => rw [h]
  | array hitems ih =>
    obtain ⟨items', rfl, hsame⟩ := h
    rw [sortedValue, sortedValue, sortedItems_eq, sortedItems_eq, map_eq_map_iff.mpr
      (((forall₂_and_left _ _).mpr ⟨ih, sameItems_iff.mp hsame⟩).imp fun _ _ hitem =>
        hitem.1 hitem.2)]
  | object hnodup hkeys hvalues ih =>
    obtain ⟨members', aligned, rfl, hperm, hsame⟩ := h
    rw [sortedValue_object_eq_iff hnodup, sortedMembers_eq_of_sameMembers ih hsame]
    exact sortedMembers_perm hperm

theorem sortedValue_eq_array {items : List Value} (h : sortedValue value = .array items) :
    ∃ items', value = .array items' ∧ items = items'.map sortedValue := by
  cases value <;> rw [sortedValue] at h <;> cases h
  exact ⟨_, rfl, sortedItems_eq _⟩

theorem sortedValue_eq_object (h : sortedValue value = .object members) :
    ∃ members', value = .object members' := by
  cases value <;> rw [sortedValue] at h <;> cases h
  exact ⟨_, rfl⟩

theorem sameUpToOrder_of_sortedValue_eq (h : sortedValue value = sortedValue other) :
    SameUpToOrder value other := by
  induction value using Value.memberInduction generalizing other with
  | null | boolean | integer | double | string =>
    cases other <;> simp_all [SameUpToOrder, sortedValue]
  | array items ih =>
    rw [sortedValue, sortedItems_eq] at h
    obtain ⟨items', rfl, hmap⟩ := sortedValue_eq_array h.symm
    refine ⟨items', rfl, sameItems_iff.mpr ?_⟩
    exact ((forall₂_and_left _ _).mpr ⟨ih, map_eq_map_iff.mp hmap⟩).imp fun _ _ hitem =>
      hitem.1 hitem.2
  | object members ih =>
    obtain ⟨members', rfl⟩ := sortedValue_eq_object h.symm
    have hperm := sortedMembers_perm_of_eq h
    have hrows : List.Forall₂ (fun sorted member => sorted = (member.1, sortedValue member.2))
        (sortedMembers members') members' := by
      rw [sortedMembers_eq]
      exact forall₂_map_left_iff.mpr (forall₂_same.mpr fun _ _ => rfl)
    obtain ⟨aligned, haligned, hpermAligned⟩ := perm_comp_forall₂ hperm hrows
    refine ⟨members', aligned, rfl, hpermAligned, sameMembers_iff.mpr ?_⟩
    rw [sortedMembers_eq, forall₂_map_left_iff] at haligned
    refine ((forall₂_and_left _ _).mpr ⟨ih, haligned⟩).imp ?_
    rintro member member' ⟨hsame, heq⟩
    obtain ⟨hkey, hvalue⟩ := Prod.ext_iff.mp heq
    exact ⟨hkey, hsame hvalue⟩

end Order

section Texts

inductive KeysIncrease : Json → Prop where
  | null : KeysIncrease .null
  | boolean (value : Bool) : KeysIncrease (.boolean value)
  | number (token : Bytes) : KeysIncrease (.number token)
  | string (text : Bytes) : KeysIncrease (.string text)
  | array {items : List Json} (hitems : ∀ item ∈ items, KeysIncrease item) :
      KeysIncrease (.array items)
  | object {members : List (Bytes × Json)}
      (hkeys : (members.map Prod.fst).Pairwise fun lhs rhs => lhs < rhs)
      (hvalues : ∀ member ∈ members, KeysIncrease member.2) : KeysIncrease (.object members)

theorem keysIncrease_sortedValue (h : HasCanonicalForm value) :
    KeysIncrease (jsonOf (sortedValue value)) := by
  induction h with
  | null => exact .null
  | boolean value => exact .boolean value
  | integer value => exact .number _
  | string htext => exact .string _
  | array hitems ih =>
    rw [sortedValue, sortedItems_eq, jsonOf, jsonItems_eq, map_map]
    exact .array (forall_mem_map.mpr ih)
  | object hnodup hkeys hvalues ih =>
    rw [sortedValue, jsonOf, jsonMembers_eq]
    refine .object ?_ (forall_mem_map.mpr (forall_mem_sorted fun member hmember =>
      ih member hmember))
    rw [map_map]
    have hne := (keys_sortByKey_perm _).nodup_iff.mpr hnodup
    exact ((pairwise_map.mpr (pairwise_sortByKey _)).and hne).imp fun hboth =>
      lt_of_le_of_ne hboth.1 hboth.2

theorem eq_of_map_eq {α β : Type} {image : α → β} {valid : α → Prop} {first second : List α}
    (hinjective : ∀ a ∈ first, ∀ b, valid b → image a = image b → a = b)
    (hvalid : ∀ b ∈ second, valid b) (h : first.map image = second.map image) : first = second := by
  induction first generalizing second with
  | nil => exact (map_eq_nil_iff.mp h.symm).symm
  | cons a first ih =>
    obtain ⟨b, second, rfl, hhead, htail⟩ := map_eq_cons_iff.mp h.symm
    obtain ⟨hb, hsecond⟩ := forall_mem_cons.mp hvalid
    rw [hinjective a mem_cons_self b hb hhead.symm,
      ih (fun c hc => hinjective c (mem_cons_of_mem _ hc)) hsecond htail.symm]

theorem jsonOf_injective (hvalue : HasCanonicalForm value) (hother : HasCanonicalForm other)
    (h : jsonOf value = jsonOf other) : value = other := by
  induction hvalue generalizing other with
  | null => cases hother <;> simp_all [jsonOf]
  | boolean value => cases hother <;> simp_all [jsonOf]
  | integer value =>
    cases hother <;> simp only [jsonOf, reduceCtorEq, Json.number.injEq] at h
    have hread := congrArg fromChars h
    rw [fromChars_toString, fromChars_toString] at hread
    cases hread
    rfl
  | string htext => cases hother <;> simp_all [jsonOf]
  | array hitems ih =>
    cases hother <;> simp only [jsonOf, reduceCtorEq, Json.array.injEq] at h
    next items' hitems' =>
      rw [jsonItems_eq, jsonItems_eq] at h
      rw [eq_of_map_eq (fun item hmem other hother => ih item hmem hother) hitems' h]
  | object hnodup hkeys hvalues ih =>
    cases hother <;> simp only [jsonOf, reduceCtorEq, Json.object.injEq] at h
    next members' _ _ hvalues' =>
      rw [jsonMembers_eq, jsonMembers_eq] at h
      refine congrArg Value.object (eq_of_map_eq ?_ hvalues' h)
      rintro ⟨key, value⟩ hmember ⟨key', value'⟩ hvalue' heq
      obtain ⟨hkey, hjson⟩ := Prod.ext_iff.mp heq
      exact Prod.ext hkey (ih (key, value) hmember hvalue' hjson)

theorem orderedText_injective (hvalue : HasCanonicalForm value) (hother : HasCanonicalForm other)
    (h : orderedText value = orderedText other) : value = other := by
  have hread := readJson_orderedText hvalue
  rw [h, readJson_orderedText hother] at hread
  exact jsonOf_injective hvalue hother (Option.some.inj hread).symm

def canonicalForm (value : Value) : Option Bytes := (serializeCanonicalStrict value).toOption

theorem canonicalForm_eq_some_iff : canonicalForm value = some text ↔
      HasCanonicalForm value ∧ orderedText (sortedValue value) = text := by
  rw [← serializeCanonicalStrict_eq_ok_iff, canonicalForm]
  rcases serializeCanonicalStrict value with error | output <;> simp [Except.toOption]

theorem canonicalForm_eq_none_iff : canonicalForm value = none ↔ ¬ HasCanonicalForm value := by
  rw [Option.eq_none_iff_forall_ne_some]
  constructor
  · intro h hform
    exact h _ (canonicalForm_eq_some_iff.mpr ⟨hform, rfl⟩)
  · intro hform text h
    exact hform (canonicalForm_eq_some_iff.mp h).1

theorem canonicalForm_eq_iff : canonicalForm value = canonicalForm other ↔
      (HasCanonicalForm value ↔ HasCanonicalForm other) ∧
        (HasCanonicalForm value → HasCanonicalForm other →
          sortedValue value = sortedValue other) := by
  rcases hother : canonicalForm other with - | text
  · have hnone := canonicalForm_eq_none_iff.mp hother
    simp [canonicalForm_eq_none_iff, hnone]
  · obtain ⟨hform, rfl⟩ := canonicalForm_eq_some_iff.mp hother
    simp only [canonicalForm_eq_some_iff, hform, iff_true, true_imp_iff]
    refine and_congr_right fun hvalue => ?_
    constructor
    · intro htext _
      exact orderedText_injective (hasCanonicalForm_sortedValue hvalue)
        (hasCanonicalForm_sortedValue hform) htext
    · intro hsorted
      rw [hsorted hvalue]

end Texts

section Members

theorem hasCanonicalForm_singleton_iff {key : Bytes} : HasCanonicalForm (.object [(key, value)]) ↔
      stringIsValidForJson key = true ∧ HasCanonicalForm value := by
  simp [hasCanonicalForm_object_iff]

theorem hasCanonicalForm_object_perm (hperm : members.Perm members') :
    HasCanonicalForm (.object members) ↔ HasCanonicalForm (.object members') := by
  rw [hasCanonicalForm_object_iff, hasCanonicalForm_object_iff, (hperm.map Prod.fst).nodup_iff]
  exact and_congr_right fun _ => ⟨fun h member hmem => h member (hperm.mem_iff.mpr hmem),
    fun h member hmem => h member (hperm.mem_iff.mp hmem)⟩

theorem canonicalForm_object_perm (hperm : members.Perm members') :
    canonicalForm (.object members) = canonicalForm (.object members') := by
  refine canonicalForm_eq_iff.mpr ⟨hasCanonicalForm_object_perm hperm, fun hform _ => ?_⟩
  exact (sortedValue_object_eq_iff (hasCanonicalForm_object_iff.mp hform).1).mpr
    (sortedMembers_perm hperm)

theorem hasCanonicalForm_append_iff {others : Object}
    (hdisjoint : ∀ member ∈ members, ∀ other ∈ others, member.1 ≠ other.1) :
    HasCanonicalForm (.object (members ++ others)) ↔
      HasCanonicalForm (.object members) ∧ HasCanonicalForm (.object others) := by
  simp only [hasCanonicalForm_object_iff, map_append, nodup_append, mem_append,
    mem_map, or_imp, forall_and]
  grind

/-- What is added to an object under other keys shows in its canonical form as
it would alone. -/
theorem canonicalForm_append_eq_iff {first second : Object}
    (hfirst : ∀ member ∈ members, ∀ other ∈ first, member.1 ≠ other.1)
    (hsecond : ∀ member ∈ members, ∀ other ∈ second, member.1 ≠ other.1) :
    canonicalForm (.object (members ++ first)) = canonicalForm (.object (members ++ second)) ↔
      canonicalForm (.object members) = none ∨
        canonicalForm (.object first) = canonicalForm (.object second) := by
  rw [canonicalForm_eq_iff, canonicalForm_eq_iff, canonicalForm_eq_none_iff,
    hasCanonicalForm_append_iff hfirst, hasCanonicalForm_append_iff hsecond]
  rcases Classical.em (HasCanonicalForm (.object members)) with hmembers | hmembers
  · simp only [hmembers, true_and, not_true, false_or]
    refine and_congr_right fun _ => forall_congr' fun hform => forall_congr' fun hform' => ?_
    rw [sortedValue_object_eq_iff (hasCanonicalForm_object_iff.mp hform).1,
      sortedValue_object_eq_iff (hasCanonicalForm_object_iff.mp
        ((hasCanonicalForm_append_iff hfirst).mpr ⟨hmembers, hform⟩)).1]
    simp only [sortedMembers_eq, map_append]
    exact perm_append_left_iff _
  · simp [hmembers]

end Members

/-- The canonical text determines a value up to the order of its members, and
lists the keys of every object in increasing order. -/
theorem canonical_text_eq_iff {value other : Value} {text text' : Bytes}
    (hvalue : serializeCanonicalStrict value = .ok text)
    (hother : serializeCanonicalStrict other = .ok text') :
    (text = text' ↔ SameUpToOrder value other) ∧
      ∃ json, readJson utf8IsValid text = some json ∧ KeysIncrease json := by
  obtain ⟨hform, rfl⟩ := serializeCanonicalStrict_eq_ok_iff.mp hvalue
  obtain ⟨hform', rfl⟩ := serializeCanonicalStrict_eq_ok_iff.mp hother
  have hsorted := hasCanonicalForm_sortedValue hform
  refine ⟨?_, jsonOf (sortedValue value), readJson_orderedText hsorted,
    keysIncrease_sortedValue hform⟩
  constructor
  · intro htext
    exact sameUpToOrder_of_sortedValue_eq
      (orderedText_injective hsorted (hasCanonicalForm_sortedValue hform') htext)
  · intro hsame
    exact congrArg orderedText (sortedValue_eq_of_sameUpToOrder hform hsame)

theorem canonical_text_of_two_orders :
    (canonicalText (.object [("b", .integer 1), ("a", .array [.boolean true])]) =
        canonicalText (.object [("a", .array [.boolean true]), ("b", .integer 1)]) ↔
      SameUpToOrder (.object [("b", .integer 1), ("a", .array [.boolean true])])
        (.object [("a", .array [.boolean true]), ("b", .integer 1)])) ∧
      ∃ json, readJson utf8IsValid (canonicalText (.object
        [("b", .integer 1), ("a", .array [.boolean true])])) = some json ∧ KeysIncrease json :=
  canonical_text_eq_iff (by decide +kernel) (by decide +kernel)

end Merovingian.CanonicalForm
